import Mathlib.Data.List.Basic
import Mathlib.Data.List.Nodup

/-!
# Hexadecimal text, duplicates and signatures

`utils/utils.ts`, the `RemoveHexPrefix` decorator and the regular expressions of
the backend. The cryptographic packages are a parameter; what throws there
returns nothing here.
-/

namespace StablecoinStudio.Backend.Utils

set_option autoImplicit false

abbrev Bytes := List UInt8

inductive Network where
  | mainnet
  | testnet
  | previewnet
deriving DecidableEq

inductive Failure where
  | httpException (message : String) (status : Nat)
  | transactionNotFoundException (message : String)
  | messageAlreadySignedException (message : String)
  | unauthorizedKeyException (message : String)
  | invalidSignatureException (message : String)
  | error (message : String)
  /-- A property of `null`. -/
  | typeError
  /-- Whatever the SDK says about the bytes of a transaction. -/
  | sdkError
deriving DecidableEq

/-! ## Hexadecimal text -/

/-- A leading `0x` or `0X` is dropped, once. -/
def withoutHexPrefix : List Char → List Char
  | '0' :: 'x' :: rest => rest
  | '0' :: 'X' :: rest => rest
  | text => text

/-- `RemoveHexPrefix` on one item. -/
def removeHexPrefix (value : String) : String := String.ofList (withoutHexPrefix value.toList)

def hexDigit (digit : Char) : Option Nat :=
  if '0' ≤ digit ∧ digit ≤ '9' then some (digit.toNat - '0'.toNat)
  else if 'a' ≤ digit ∧ digit ≤ 'f' then some (digit.toNat - 'a'.toNat + 10)
  else if 'A' ≤ digit ∧ digit ≤ 'F' then some (digit.toNat - 'A'.toNat + 10)
  else none

def isHexDigit (digit : Char) : Bool := (hexDigit digit).isSome

/-- `hexRegex` asks for hexadecimal digits at the end of the text only. -/
def hexRegex (text : String) : Bool := text.toList.getLast?.any isHexDigit

/-- The matches of `[\da-fA-F]{2}` in a text of hexadecimal digits; a last single
digit is in none. -/
def hexPairs : List Char → List (Char × Char)
  | first :: second :: rest => (first, second) :: hexPairs rest
  | _ => []

/-- `parseInt` of a pair of hexadecimal digits. -/
def parseHexPair (pair : Char × Char) : UInt8 :=
  UInt8.ofNat ((hexDigit pair.1).getD 0 * 16 + (hexDigit pair.2).getD 0)

def hexToUint8Array (hexString : String) : Except Failure Bytes :=
  let cleanHexString := withoutHexPrefix hexString.toList
  if cleanHexString ≠ [] ∧ cleanHexString.all isHexDigit = true then
    match hexPairs cleanHexString with
    | [] => .error .typeError
    | pairs => .ok (pairs.map parseHexPair)
  else .error (.error "Invalid hex string")

def bytesOf (hexString : String) : Option Bytes := (hexToUint8Array hexString).toOption

/-! ## Duplicates -/

/-- `Array.from(new Set(array))`: the first of equal items stays. -/
def removeDuplicates (array : List String) : List String := array.eraseDups

theorem mem_remove_duplicates {array : List String} {item : String} :
    item ∈ removeDuplicates array ↔ item ∈ array := List.mem_eraseDups

theorem nodup_erase_dups (bound : Nat) :
    ∀ array : List String, array.length ≤ bound → array.eraseDups.Nodup := by
  induction bound with
  | zero =>
      intro array short
      rw [List.eq_nil_of_length_eq_zero (Nat.le_zero.mp short)]
      exact List.nodup_nil
  | succ bound ih =>
      intro array short
      cases array with
      | nil => exact List.nodup_nil
      | cons first rest =>
          rw [List.eraseDups_cons, List.nodup_cons]
          constructor
          · intro listed
            have kept := List.mem_eraseDups.mp listed
            simp at kept
          · apply ih
            have shorter := List.length_filter_le (fun item => !item == first) rest
            have whole : rest.length + 1 ≤ bound + 1 := short
            omega

theorem nodup_remove_duplicates (array : List String) : (removeDuplicates array).Nodup :=
  nodup_erase_dups array.length array (Nat.le_refl _)

/-! ## Signatures -/

structure Packages where
  /-- The body bytes of the first signed transaction in a deserialized and frozen
  transaction of a network. -/
  bodyBytes : (message : Bytes) → Network → Option Bytes
  /-- `nacl.sign.detached.verify`. -/
  naclVerify : (message signature publicKey : Bytes) → Option Bool
  keccak256 : Bytes → Bytes
  /-- `keyFromPublic` on secp256k1 and `verify` with the two halves of a signature. -/
  ecdsaVerify : (publicKeyHex : String) → (hash : Bytes) → (r s : String) → Option Bool

variable (packages : Packages)

def slice (text : String) (start stop : Nat) : String :=
  String.ofList ((text.toList.take stop).drop start)

def verifyEd25519 (publicKeyHex : String) (bytesToSign : Bytes) (signatureHex : String) :
    Option Bool := do
  let publicKeyBytes ← bytesOf publicKeyHex
  let signatureBytes ← bytesOf signatureHex
  packages.naclVerify bytesToSign signatureBytes publicKeyBytes

def verifyEcdsa (publicKeyHex : String) (bytesToSign : Bytes) (signatureHex : String) :
    Option Bool :=
  packages.ecdsaVerify publicKeyHex (packages.keccak256 bytesToSign) (slice signatureHex 0 64)
    (slice signatureHex 64 128)

/-- A signature of either kind; what throws does not verify. -/
def verifySignature (publicKeyHex : String) (bytesToSign : Bytes) (signatureHex : String) : Bool :=
  if verifyEd25519 packages publicKeyHex bytesToSign signatureHex = some true then true
  else (verifyEcdsa packages publicKeyHex bytesToSign signatureHex).getD false

end StablecoinStudio.Backend.Utils
