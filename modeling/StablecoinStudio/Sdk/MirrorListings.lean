import StablecoinStudio.Foundation.Pages
import StablecoinStudio.Sdk.StableCoins
import StablecoinStudio.Sdk.TokenKeys

/-!
# Listings of the mirror node

The mirror node serves the tokens of an account in pages and names the next
page by its path on the server. The adapter appends that path to its base URL,
which ends with the path of the API already, and reads the list of stablecoins
from the first page alone.
-/

namespace StablecoinStudio.Sdk.MirrorListings

open StablecoinStudio.Foundation.DecimalTexts
open StablecoinStudio.Foundation.Pages
open StablecoinStudio.Sdk.StableCoins (AccountAutoAssociation)
open StablecoinStudio.Sdk.TokenKeys

set_option autoImplicit false

/-! ## What is answered -/

structure Token where
  tokenId : Text
  symbol : Option Text
  automaticAssociation : Option Bool
deriving DecidableEq

structure Links where
  next : Option Text
deriving DecidableEq

structure Data where
  maxAutomaticTokenAssociations : Option Int
  tokens : Option (List Token)
  tokenRelationships : Option (List Token)
  links : Option Links
deriving DecidableEq

/-- What a request that fails is rejected with, or a property read of nothing. -/
inductive Failure where
  | request (message : Text)
  | typeError
deriving DecidableEq

structure InvalidResponse where
  error : Failure
deriving DecidableEq

/-- `instance.get`: an answer with the status 404 counts as one. -/
abbrev Get := Text → Except Failure (Option Data)

def readData (get : Get) (url : Text) : Except Failure Data :=
  match get url with
  | .error failure => .error failure
  | .ok none => .error .typeError
  | .ok (some data) => .ok data

/-! ## The adapter -/

structure MirrorNodeConfig where
  baseUrl : Text

def MirrorNodeConfig.set (mnConfig : MirrorNodeConfig) : MirrorNodeConfig where
  baseUrl :=
    if mnConfig.baseUrl.getLast? = some '/' then mnConfig.baseUrl else mnConfig.baseUrl ++ ['/']

structure StableCoinListed where
  id : Text
  symbol : Option Text
deriving DecidableEq

section Adapter

variable (get : Get) (mirrorNodeConfig : MirrorNodeConfig)

def listed (item : Token) : StableCoinListed where
  id := item.tokenId
  symbol := item.symbol

def getStableCoinsList (accountId : HederaId) : Except InvalidResponse (List StableCoinListed) :=
  let url := mirrorNodeConfig.baseUrl ++ "tokens?limit=100&order=desc&account.id=".toList ++
    accountId.value
  match readData get url with
  | .error failure => .error ⟨failure⟩
  | .ok data =>
      match data.tokens with
      | none => .error ⟨.typeError⟩
      | some tokens => .ok (tokens.map listed)

/-- `data.tokens ?? data.token_relationships ?? []`. -/
def items (data : Data) : List Token :=
  (data.tokens.or data.tokenRelationships).getD []

/-- The empty address that ends the loop is none here. -/
def nextUrl (data : Data) : Option Text :=
  match data.links.bind Links.next with
  | none => none
  | some next => if next = [] then none else some (mirrorNodeConfig.baseUrl ++ next)

def fetchPage (url : Text) : Except Failure (List Token × Option Text) :=
  match readData get url with
  | .error failure => .error failure
  | .ok data => .ok (items data, nextUrl mirrorNodeConfig data)

def countRelationship (count : Nat) (rel : Token) : Nat :=
  if rel.automaticAssociation = some true then count + 1 else count

def countItems (count : Nat) (items : List Token) : Nat := items.foldl countRelationship count

def tokensUrl (accountId : Text) : Text :=
  mirrorNodeConfig.baseUrl ++ "accounts/".toList ++ accountId ++ "/tokens?limit=100".toList

/-- With the number of requests it may make. -/
def countAutoAssociatedTokensFromMirror (rounds : Nat) (accountId : Text) :
    Option (Except Failure Nat) :=
  follow (fetchPage get mirrorNodeConfig) countItems rounds (tokensUrl mirrorNodeConfig accountId) 0

def remaining (maxAutoAssociations : Int) (autoAssociationsCount : Nat) : Int :=
  if maxAutoAssociations = -1 then -1 else max 0 (maxAutoAssociations - autoAssociationsCount)

def getAccountAutoAssociationInfo (rounds : Nat) (targetId : HederaId) :
    Option (Except InvalidResponse (Option AccountAutoAssociation)) :=
  match get (mirrorNodeConfig.baseUrl ++ "accounts/".toList ++ targetId.value) with
  | .error failure => some (.error ⟨failure⟩)
  | .ok none => some (.ok none)
  | .ok (some account) =>
      let maxAutoAssociations := account.maxAutomaticTokenAssociations.getD 0
      match countAutoAssociatedTokensFromMirror get mirrorNodeConfig rounds targetId.value with
      | none => none
      | some (.error failure) => some (.error ⟨failure⟩)
      | some (.ok autoAssociationsCount) =>
          some (.ok (some
            { maxAutoAssociations := some maxAutoAssociations
              autoAssociationsCount := autoAssociationsCount
              remainingAutoAssociations :=
                some (remaining maxAutoAssociations autoAssociationsCount) }))

end Adapter

/-! ## The mirror node -/

def notFound : Data where
  maxAutomaticTokenAssociations := none
  tokens := none
  tokenRelationships := none
  links := none

structure MirrorNode where
  server : Text
  apiPath : Text
  get : Get
  absolute : apiPath.head? = some '/'
  /-- The next page is named by its path on the server. -/
  links_within : ∀ path data next, get (server ++ path) = .ok (some data) →
    data.links.bind Links.next = some next → apiPath <+: next
  /-- There is nothing below the path of the API repeated. -/
  unknown : ∀ path, get (server ++ apiPath ++ (apiPath ++ path)) = .ok (some notFound)

def MirrorNode.pageAt (node : MirrorNode) (path : Text) :
    Except Failure (List Token × Option Text) :=
  match node.get (node.server ++ path) with
  | .error failure => .error failure
  | .ok none => .error .typeError
  | .ok (some data) =>
      match data.tokens with
      | none => .error .typeError
      | some tokens => .ok (tokens, data.links.bind Links.next)

section Listings

variable {node : MirrorNode} {mnConfig : MirrorNodeConfig} {account : HederaId} {details : Data}
  {relationships tokens : List (List Token)}

structure Serves (node : MirrorNode) (mnConfig : MirrorNodeConfig) (account : HederaId)
    (details : Data) (relationships tokens : List (List Token)) : Prop where
  configured : mnConfig.set.baseUrl = node.server ++ node.apiPath
  account_found :
    node.get (node.server ++ node.apiPath ++ "accounts/".toList ++ account.value) =
      .ok (some details)
  relationships_paged :
    Chain node.pageAt
      (node.apiPath ++ "accounts/".toList ++ account.value ++ "/tokens?limit=100".toList)
      relationships
  tokens_paged :
    Chain node.pageAt
      (node.apiPath ++ "tokens?limit=100&order=desc&account.id=".toList ++ account.value) tokens
  short_pages : ∀ page ∈ relationships ++ tokens, page.length ≤ 100

def isAutomatic (rel : Token) : Bool := rel.automaticAssociation = some true

/-- The counting ends, with the number of all automatic associations; the list has all tokens. -/
structure ListsEverything (get : Get) (mirrorNodeConfig : MirrorNodeConfig) (account : HederaId)
    (details : Data) (relationships tokens : List Token) : Prop where
  counted : ∃ enough, ∀ rounds, enough ≤ rounds →
    countAutoAssociatedTokensFromMirror get mirrorNodeConfig rounds account.value =
      some (.ok (relationships.countP isAutomatic))
  reported : ∃ enough, ∀ rounds, enough ≤ rounds →
    ∃ info,
      getAccountAutoAssociationInfo get mirrorNodeConfig rounds account = some (.ok (some info)) ∧
      info.remainingAutoAssociations = some
        (if details.maxAutomaticTokenAssociations = some (-1) then -1
        else max 0 (details.maxAutomaticTokenAssociations.getD 0 -
          (relationships.countP isAutomatic : Nat)))
  listed_all : ∃ coins, getStableCoinsList get mirrorNodeConfig account = .ok coins ∧
    coins.Perm (tokens.map listed)

theorem page_read {path : Text} {items : List Token} {next : Option Text}
    (reads : node.pageAt path = .ok (items, next)) :
    ∃ data, node.get (node.server ++ path) = .ok (some data) ∧ data.tokens = some items ∧
      data.links.bind Links.next = next := by
  rw [MirrorNode.pageAt] at reads
  cases answer : node.get (node.server ++ path) with
  | error failure => rw [answer] at reads; cases reads
  | ok body =>
    cases body with
    | none => rw [answer] at reads; cases reads
    | some data =>
      cases found : data.tokens with
      | none => simp only [answer, found] at reads; cases reads
      | some tokens =>
        simp only [answer, found, Except.ok.injEq, Prod.mk.injEq] at reads
        exact ⟨data, rfl, congrArg some reads.1 ▸ found, reads.2⟩

/-! ## What is read of a listing -/

theorem count_relationships (count : Nat) (items : List Token) :
    countItems count items = count + items.countP isAutomatic := by
  induction items generalizing count with
  | nil => rfl
  | cons rel rest ih =>
    rw [countItems, List.foldl_cons, ← countItems, ih, List.countP_cons, countRelationship]
    by_cases automatic : rel.automaticAssociation = some true
    · simp only [isAutomatic, automatic, if_true, decide_true]
      omega
    · simp only [isAutomatic, automatic, if_false, decide_false, Bool.false_eq_true]
      omega

theorem api_path_ne_nil (node : MirrorNode) : node.apiPath ≠ [] := by
  intro empty
  have absolute := node.absolute
  rw [empty] at absolute
  cases absolute

theorem fetched {path : Text} {items : List Token} {next : Option Text}
    (reads : node.pageAt path = .ok (items, next)) :
    fetchPage node.get mnConfig.set (node.server ++ path) =
      .ok (items, next.map (mnConfig.set.baseUrl ++ ·)) := by
  obtain ⟨data, answer, found, linked⟩ := page_read reads
  have rebuilt : nextUrl mnConfig.set data = next.map (mnConfig.set.baseUrl ++ ·) := by
    rw [nextUrl, linked]
    cases next with
    | none => rfl
    | some following =>
      have nonempty : following ≠ [] := by
        intro empty
        have below := node.links_within path data following answer linked
        rw [empty] at below
        exact api_path_ne_nil node (List.prefix_nil.mp below)
      simp only [if_neg nonempty, Option.map_some]
  have read : items = MirrorListings.items data := by
    rw [MirrorListings.items, found]
    rfl
  simp only [fetchPage, readData, answer, rebuilt, ← read]

theorem rebuilt_not_found (configured : mnConfig.set.baseUrl = node.server ++ node.apiPath)
    {path following : Text} {items : List Token}
    (reads : node.pageAt path = .ok (items, some following)) :
    fetchPage node.get mnConfig.set (mnConfig.set.baseUrl ++ following) = .ok ([], none) := by
  obtain ⟨data, answer, _, linked⟩ := page_read reads
  obtain ⟨rest, below⟩ := node.links_within path data following answer linked
  rw [fetchPage, readData, configured, ← below, node.unknown rest]
  rfl

/-- Whatever the number of pages, it is the first one that is counted. -/
theorem counted_first (configured : mnConfig.set.baseUrl = node.server ++ node.apiPath)
    {path : Text} {first : List Token} {rest : List (List Token)}
    (chain : Chain node.pageAt path (first :: rest)) {rounds : Nat} (enough : 2 ≤ rounds) :
    follow (fetchPage node.get mnConfig.set) countItems rounds (node.server ++ path) 0 =
      some (.ok (first.countP isAutomatic)) := by
  cases chain with
  | last reads =>
    have alone : Chain (fetchPage node.get mnConfig.set) (node.server ++ path) [first] :=
      .last (fetched reads)
    rw [follow_chain countItems alone (Nat.le_of_succ_le enough), List.foldl_cons, List.foldl_nil,
      count_relationships, Nat.zero_add]
  | next reads _ =>
    have two : Chain (fetchPage node.get mnConfig.set) (node.server ++ path) [first, []] :=
      .next (fetched reads) (.last (rebuilt_not_found configured reads))
    rw [follow_chain countItems two enough, List.foldl_cons, List.foldl_cons, List.foldl_nil,
      count_relationships, count_relationships, List.countP_nil, Nat.zero_add, Nat.add_zero]

theorem first_count
    (serves : Serves node mnConfig account details relationships tokens) (rounds : Nat)
    (enough : 2 ≤ rounds) :
    countAutoAssociatedTokensFromMirror node.get mnConfig.set rounds account.value =
      some (.ok (relationships.head (chain_ne_nil serves.relationships_paged) |>.countP
        isAutomatic)) := by
  have paged := serves.relationships_paged
  cases relationships with
  | nil => exact absurd rfl (chain_ne_nil paged)
  | cons first rest =>
    rw [countAutoAssociatedTokensFromMirror, tokensUrl, serves.configured, List.append_assoc,
      List.append_assoc, List.append_assoc, List.head_cons]
    simp only [List.append_assoc] at paged
    exact counted_first serves.configured paged enough

theorem first_listed
    (serves : Serves node mnConfig account details relationships tokens) :
    getStableCoinsList node.get mnConfig.set account =
      .ok ((tokens.head (chain_ne_nil serves.tokens_paged)).map listed) := by
  have paged := serves.tokens_paged
  have read : ∀ {first : List Token} {rest : List (List Token)},
      tokens = first :: rest → ∃ next, node.pageAt
        (node.apiPath ++ "tokens?limit=100&order=desc&account.id=".toList ++ account.value) =
          .ok (first, next) := by
    intro first rest same
    rw [same] at paged
    cases paged with
    | last reads => exact ⟨none, reads⟩
    | next reads _ => exact ⟨_, reads⟩
  cases tokens with
  | nil => exact absurd rfl (chain_ne_nil paged)
  | cons first rest =>
    obtain ⟨next, reads⟩ := read rfl
    obtain ⟨data, answer, found, _⟩ := page_read reads
    simp only [List.append_assoc] at answer
    simp only [getStableCoinsList, serves.configured, readData, List.append_assoc, answer, found,
      List.head_cons]

theorem count_all_of_first_iff {first : List Token} {rest : List (List Token)} :
    first.countP isAutomatic = (first :: rest).flatten.countP isAutomatic ↔
      ∀ rel ∈ rest.flatten, rel.automaticAssociation ≠ some true := by
  rw [List.flatten_cons, List.countP_append, Nat.left_eq_add, List.countP_eq_zero]
  simp only [isAutomatic, decide_eq_true_eq]

theorem listed_all_of_first_iff {first : List Token} {rest : List (List Token)} :
    (first.map listed).Perm ((first :: rest).flatten.map listed) ↔ rest.flatten = [] := by
  rw [List.flatten_cons, List.map_append]
  constructor
  · intro same
    have long := same.length_eq
    rw [List.length_append, Nat.left_eq_add, List.length_map] at long
    exact List.eq_nil_of_length_eq_zero long
  · intro nothing
    rw [nothing, List.map_nil, List.append_nil]

theorem reported_of_counted {get : Get} {mirrorNodeConfig : MirrorNodeConfig} {rounds count : Nat}
    (found : get (mirrorNodeConfig.baseUrl ++ "accounts/".toList ++ account.value) =
      .ok (some details))
    (counted : countAutoAssociatedTokensFromMirror get mirrorNodeConfig rounds account.value =
      some (.ok count)) :
    getAccountAutoAssociationInfo get mirrorNodeConfig rounds account = some (.ok (some
      { maxAutoAssociations := some (details.maxAutomaticTokenAssociations.getD 0)
        autoAssociationsCount := count
        remainingAutoAssociations :=
          some (remaining (details.maxAutomaticTokenAssociations.getD 0) count) })) := by
  simp only [getAccountAutoAssociationInfo, found, counted]

/-- The listings are complete when there is nothing to list behind a first page. -/
theorem lists_everything_iff
    (serves : Serves node mnConfig account details relationships tokens) :
    ListsEverything node.get mnConfig.set account details relationships.flatten tokens.flatten ↔
      (∀ rel ∈ relationships.tail.flatten, rel.automaticAssociation ≠ some true) ∧
        tokens.tail.flatten = [] := by
  have count := first_count serves
  have list := first_listed serves
  have found := serves.account_found
  rw [← serves.configured] at found
  cases relationships with
  | nil => exact absurd rfl (chain_ne_nil serves.relationships_paged)
  | cons firstRelationships moreRelationships =>
    cases tokens with
    | nil => exact absurd rfl (chain_ne_nil serves.tokens_paged)
    | cons firstTokens moreTokens =>
      rw [List.tail_cons, List.tail_cons, ← count_all_of_first_iff, ← listed_all_of_first_iff]
      rw [List.head_cons] at count list
      constructor
      · intro complete
        obtain ⟨enough, counted⟩ := complete.counted
        obtain ⟨coins, returned, all⟩ := complete.listed_all
        constructor
        · have both := (count _ (Nat.le_max_right enough 2)).symm.trans
            (counted _ (Nat.le_max_left enough 2))
          simpa only [Option.some.injEq, Except.ok.injEq] using both
        · rw [list, Except.ok.injEq] at returned
          rw [returned]
          exact all
      · intro ⟨same, all⟩
        rw [same] at count
        constructor
        · exact ⟨2, count⟩
        · refine ⟨2, fun rounds enough => ⟨_, reported_of_counted found (count rounds enough), ?_⟩⟩
          cases details.maxAutomaticTokenAssociations with
          | none => rfl
          | some max => simp only [remaining, Option.getD_some, Option.some.injEq]
        · exact ⟨_, list, all⟩

end Listings

/-! ## An account with 101 tokens -/

def sampleAccount : HederaId := ⟨"0.0.5".toList, rfl⟩

/-- One automatic association is allowed. -/
def sampleDetails : Data := { notFound with maxAutomaticTokenAssociations := some 1 }

def sampleToken (automatic : Bool) (number : Nat) : Token where
  tokenId := "0.0.".toList ++ Nat.toDigits 10 number
  symbol := some "COIN".toList
  automaticAssociation := some automatic

def firstHundred : List Token :=
  (List.range 100).map fun number => sampleToken false (1000 + number)

def onPage (tokens : List Token) (next : Option Text) : Data :=
  { notFound with
    tokens := some tokens
    links := some ⟨next⟩ }

def sampleServed : List (Text × Data) :=
  [("accounts/0.0.5".toList, sampleDetails),
    ("accounts/0.0.5/tokens?limit=100".toList,
      onPage firstHundred
        (some "/api/v1/accounts/0.0.5/tokens?limit=100&token.id=gt:0.0.1099".toList)),
    ("accounts/0.0.5/tokens?limit=100&token.id=gt:0.0.1099".toList,
      onPage [sampleToken true 1100] none),
    ("tokens?limit=100&order=desc&account.id=0.0.5".toList,
      onPage firstHundred
        (some "/api/v1/tokens?limit=100&order=desc&account.id=0.0.5&token.id=lt:0.0.1000".toList)),
    ("tokens?limit=100&order=desc&account.id=0.0.5&token.id=lt:0.0.1000".toList,
      onPage [sampleToken true 1100] none)]

def sampleConfig : MirrorNodeConfig := ⟨"https://mirror/api/v1".toList⟩

def sampleAnswer (url : Text) : Data :=
  match sampleServed.find? fun served => sampleConfig.set.baseUrl ++ served.1 = url with
  | none => notFound
  | some served => served.2

theorem sample_links_within :
    ∀ served ∈ sampleServed, (served.2.links.bind Links.next).all fun next =>
      "/api/v1/".toList.isPrefixOf next := by
  decide

theorem sample_below_api :
    ∀ served ∈ sampleServed, served.1.head? ≠ some '/' := by
  decide

theorem sample_answer_links (url next : Text)
    (linked : (sampleAnswer url).links.bind Links.next = some next) :
    "/api/v1/".toList <+: next := by
  rw [sampleAnswer] at linked
  cases found : sampleServed.find? fun served => sampleConfig.set.baseUrl ++ served.1 = url with
  | none => rw [found] at linked; cases linked
  | some served =>
    rw [found] at linked
    have within := sample_links_within served (List.mem_of_find?_eq_some found)
    rw [linked] at within
    exact List.isPrefixOf_iff_prefix.mp within

theorem sample_answer_unknown (path : Text) :
    sampleAnswer ("https://mirror".toList ++ "/api/v1/".toList ++ ("/api/v1/".toList ++ path)) =
      notFound := by
  rw [sampleAnswer, List.find?_eq_none.mpr]
  intro served listed same
  have below := sample_below_api served listed
  have base : sampleConfig.set.baseUrl = "https://mirror".toList ++ "/api/v1/".toList := by decide
  rw [decide_eq_true_eq, base, List.append_cancel_left_eq] at same
  rw [same] at below
  exact below rfl

def sampleMirror : MirrorNode where
  server := "https://mirror".toList
  apiPath := "/api/v1/".toList
  get := fun url => .ok (some (sampleAnswer url))
  absolute := rfl
  links_within := by
    intro path data next answer linked
    cases answer
    exact sample_answer_links _ next linked
  unknown := fun path => by rw [sample_answer_unknown]

theorem sample_serves :
    Serves sampleMirror sampleConfig sampleAccount sampleDetails
      [firstHundred, [sampleToken true 1100]] [firstHundred, [sampleToken true 1100]] where
  configured := by decide
  account_found := rfl
  relationships_paged := .next rfl (.last rfl)
  tokens_paged := .next rfl (.last rfl)
  short_pages := by decide

theorem lists_everything_iff_on_sample :
    ListsEverything sampleMirror.get sampleConfig.set sampleAccount sampleDetails
        [firstHundred, [sampleToken true 1100]].flatten
        [firstHundred, [sampleToken true 1100]].flatten ↔
      (∀ rel ∈ [firstHundred, [sampleToken true 1100]].tail.flatten,
          rel.automaticAssociation ≠ some true) ∧
        [firstHundred, [sampleToken true 1100]].tail.flatten = [] :=
  lists_everything_iff sample_serves

/-- One automatic association is left although the last relationship has taken it. -/
theorem second_page_not_counted :
    Serves sampleMirror sampleConfig sampleAccount sampleDetails
        [firstHundred, [sampleToken true 1100]] [firstHundred, [sampleToken true 1100]] ∧
      getAccountAutoAssociationInfo sampleMirror.get sampleConfig.set 2 sampleAccount =
        some (.ok (some
          { maxAutoAssociations := some 1
            autoAssociationsCount := 0
            remainingAutoAssociations := some 1 })) ∧
      ¬ListsEverything sampleMirror.get sampleConfig.set sampleAccount sampleDetails
        [firstHundred, [sampleToken true 1100]].flatten
        [firstHundred, [sampleToken true 1100]].flatten := by
  have noneAutomatic : firstHundred.countP isAutomatic = 0 := by decide
  have count := first_count sample_serves
  rw [List.head_cons, noneAutomatic] at count
  refine ⟨sample_serves, ?_, ?_⟩
  · have found : sampleMirror.get (sampleConfig.set.baseUrl ++ "accounts/".toList ++
        sampleAccount.value) = .ok (some sampleDetails) := rfl
    rw [reported_of_counted found (count 2 (le_refl 2))]
    rfl
  · intro complete
    obtain ⟨enough, counted⟩ := complete.counted
    have both := (count _ (Nat.le_max_right enough 2)).symm.trans
      (counted _ (Nat.le_max_left enough 2))
    rw [Option.some.injEq, Except.ok.injEq, ← noneAutomatic, count_all_of_first_iff] at both
    exact both (sampleToken true 1100) (by decide) rfl

end StablecoinStudio.Sdk.MirrorListings
