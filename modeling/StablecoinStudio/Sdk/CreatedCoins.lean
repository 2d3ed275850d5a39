import StablecoinStudio.Sdk.CoinCreation

/-!
# Coins that the SDK creates

The coin that is deployed for a request gives its roles, its minting right and
its keys to those the request names, and a validated request does not fail on
the reserve it asks for.
-/

namespace StablecoinStudio.Sdk.CreatedCoins

open StablecoinStudio.Core.Common
open StablecoinStudio.Core.Constants
open StablecoinStudio.Foundation.CheckedInt
open StablecoinStudio.Foundation.DecimalQuantities
open StablecoinStudio.Foundation.DecimalTexts
open StablecoinStudio.Foundation.Exceptions
open StablecoinStudio.Resolver
open StablecoinStudio.Sdk.BigDecimal
open StablecoinStudio.Sdk.CashIn
open StablecoinStudio.Sdk.CoinCreation
open StablecoinStudio.Sdk.FixedNumber
open StablecoinStudio.Sdk.TokenKeys
open StablecoinStudio.Sdk.Validation
open StablecoinStudio.Token.Administration
open StablecoinStudio.Token.BulkRoles
open StablecoinStudio.Token.Deployment
open StablecoinStudio.Token.FullBacking
open StablecoinStudio.Token.HederaReserve
open StablecoinStudio.Token.ReferenceLedger
open StablecoinStudio.Token.ReserveRule
open StablecoinStudio.Token.Roles
open StablecoinStudio.Token.Services
open StablecoinStudio.Token.StableCoinFactory
open StablecoinStudio.Token.SupplierAdmin
open StablecoinStudio.Token.TokenLaws
open StablecoinStudio.Token.Treasury

set_option autoImplicit false

section Built

variable {fixed : Type} {ethers : FixedNumbers fixed} {answers : Answers}
  {req : CreateRequest} {requestedToken : CoinRequest} {coin : StableCoinProps fixed}
  {command : CreateCommand fixed}

/-! ## The accounts -/

theorem names_iff {name : Option Text} {account : Address} :
    Names answers name account ↔
      name.getD noAccount ≠ noAccount ∧
        answers.accountToEvmAddress (name.getD noAccount) = some account := by
  unfold Names
  cases name with
  | none => simp
  | some value => simp

theorem factory_role_eq {entry : HederaId × Bytes32} (given : entry.1.value ≠ noAccount)
    {role : Bytes32} {account : Address} :
    factoryRole answers entry = some ⟨role, account⟩ ↔
      entry.2 = role ∧ answers.accountToEvmAddress entry.1.value = some account := by
  have resolved : resolve answers entry.1 = answers.accountToEvmAddress entry.1.value := by
    rw [resolve, if_neg given]
  simp only [factoryRole, resolved, Option.bind_eq_bind, Option.bind_eq_some_iff, Option.pure_def,
    Option.some.injEq, RolesStruct.mk.injEq]
  constructor
  · intro made
    obtain ⟨address, answered, rfl, rfl⟩ := made
    exact ⟨rfl, answered⟩
  · intro described
    exact ⟨account, described.2, described.1, rfl⟩

theorem mem_factory_roles {owner : HederaId} {roles : List RolesStruct}
    (props : PropsOf ethers req coin) (isOwner : req.proxyOwnerAccount = some owner.value)
    (made : factoryRoles answers coin owner = some roles) (role : Bytes32) (account : Address) :
    ⟨role, account⟩ ∈ roles ↔ ∃ name, (name, role) ∈ req.named ∧ Names answers name account := by
  have listed (value : Text) : (∃ entry ∈ baseRoles coin owner, entry.1.value = value ∧
      entry.2 = role) ↔ ∃ name, (name, role) ∈ req.named ∧ name.getD noAccount = value := by
    have inBoth : (value, role) ∈
        (baseRoles coin owner).map (fun entry => (entry.1.value, entry.2)) ↔
        (value, role) ∈ req.named.map fun name => (name.1.getD noAccount, name.2) := by
      rw [props.roles owner isOwner]
    simp only [List.mem_map, Prod.mk.injEq, Prod.exists] at inBoth
    constructor
    · intro found
      obtain ⟨entry, member, sameValue, sameRole⟩ := found
      obtain ⟨name, _, named, text, rfl⟩ :=
        inBoth.mp ⟨entry.1, entry.2, member, sameValue, sameRole⟩
      exact ⟨name, named, text⟩
    · intro found
      obtain ⟨name, named, text⟩ := found
      obtain ⟨id, _, member, sameValue, rfl⟩ := inBoth.mpr ⟨name, role, named, text, rfl⟩
      exact ⟨_, member, sameValue, rfl⟩
  rw [mem_of_mapM made]
  constructor
  · intro found
    obtain ⟨entry, member, sent⟩ := found
    obtain ⟨inList, given⟩ := List.mem_filter.mp member
    have given : entry.1.value ≠ noAccount := of_decide_eq_true given
    obtain ⟨sameRole, answered⟩ := (factory_role_eq given).mp sent
    obtain ⟨name, named, text⟩ := (listed entry.1.value).mp ⟨entry, inList, rfl, sameRole⟩
    refine ⟨name, named, names_iff.mpr ?_⟩
    rw [text]
    exact ⟨given, answered⟩
  · intro found
    obtain ⟨name, named, isNamed⟩ := found
    obtain ⟨given, answered⟩ := names_iff.mp isNamed
    obtain ⟨entry, inList, sameValue, sameRole⟩ := (listed _).mpr ⟨name, named, rfl⟩
    rw [← sameValue] at given answered
    exact ⟨entry, List.mem_filter.mpr ⟨inList, decide_eq_true given⟩,
      (factory_role_eq given).mpr ⟨sameRole, answered⟩⟩

/-! ## The amounts -/

theorem decimal_of_checked (laws : Laws ethers) {val : Text} {decimals : Nat}
    {check : Check}
    (valid : checkedAmount ethers val (some decimals) check = some []) :
    (∃ decimal : DecimalText, val = decimal.text ∧ decimal.whole ++ decimal.fractional ≠ [] ∧
      decimal.places ≤ decimals) ∧ check = some [] := by
  unfold checkedAmount at valid
  split at valid
  · cases Option.some.inj valid
  · obtain ⟨more, tooFine, later⟩ := Option.bind_eq_some_iff.mp valid
    cases more with
    | true => cases Option.some.inj later
    | false =>
        refine ⟨?_, later⟩
        obtain ⟨own, read, few⟩ := Option.bind_eq_some_iff.mp tooFine
        have few : ¬decimals < ethers.decimals own := of_decide_eq_false (Option.some.inj few)
        have shaped : ∃ decimal : DecimalText, decimal.text = val ∧
            decimal.whole ++ decimal.fractional ≠ [] := by
          by_contra shapeless
          have rejected := laws.rejects val (getDecimalsFromString val) fun decimal same => by
            by_contra digits
            exact shapeless ⟨decimal, same, digits⟩
          rw [fromString, Option.getD_none, rejected] at read
          cases read
        obtain ⟨decimal, rfl, digits⟩ := shaped
        rw [fromString, Option.getD_none, getDecimalsFromString_text] at read
        have is := laws.reads decimal decimal.places own (Nat.le_refl _) digits read
        rw [is.decimals] at few
        exact ⟨decimal, rfl, digits, Nat.not_lt.mp few⟩

theorem no_digits_in_empty {decimal : DecimalText} (empty : decimal.text = []) :
    decimal.whole ++ decimal.fractional = [] := by
  cases given : decimal.fraction with
  | none =>
      rw [DecimalText.text, given] at empty
      rw [(List.append_eq_nil_iff.mp empty).2, DecimalText.fractional, given]
      rfl
  | some digits => simp [DecimalText.text, given] at empty

/-- An amount of a validated request that is read, or the zero that stands for
none: an empty text is not read. -/
theorem amount_read (laws : Laws ethers) {given : Option Text} {decimals : Nat} {number : fixed}
    (valid : ∀ val, truthy given = some val →
      ∃ check, checkedAmount ethers val (some decimals) check = some [])
    (read : BigDecimal.fromString ethers (given.getD ['0']) (some decimals) = some number) :
    ∃ decimal : DecimalText, given.getD ['0'] = decimal.text ∧
      decimal.whole ++ decimal.fractional ≠ [] ∧ decimal.places ≤ decimals ∧
      ethers.Is number decimals (decimal.unitsAt decimals) := by
  have shaped : ∃ decimal : DecimalText, given.getD ['0'] = decimal.text ∧
      decimal.whole ++ decimal.fractional ≠ [] ∧ decimal.places ≤ decimals := by
    cases given with
    | none => exact ⟨DecimalText.ofInteger 0, rfl, by decide, Nat.zero_le _⟩
    | some text =>
        by_cases empty : text = []
        · have rejected := laws.rejects [] decimals fun _ => no_digits_in_empty
          rw [empty, Option.getD_some, fromString, Option.getD_some, rejected] at read
          cases read
        · obtain ⟨check, passed⟩ := valid text (truthy_eq_some.mpr ⟨rfl, empty⟩)
          exact (decimal_of_checked laws passed).1
  obtain ⟨decimal, text, digits, few⟩ := shaped
  rw [text] at read
  exact ⟨decimal, text, digits, few, laws.reads decimal decimals number few digits read⟩

theorem outcomes_of_validate (validated : validate (req.schema ethers) = []) :
    Valid req.initialSupply (validateInitialSupply ethers req) ∧
      Valid req.reserveInitialAmount (validateReserveInitialAmount ethers req) ∧
      Valid req.cashInRoleAllowance (validateCashInRoleAllowance ethers req) := by
  rw [validated_iff, CreateRequest.schema] at validated
  simp only [List.forall_mem_cons, optional_passes_iff] at validated
  exact ⟨validated.1, validated.2.2.1, validated.2.2.2.1⟩

theorem initial_supply_read (laws : Laws ethers) (props : PropsOf ethers req coin)
    (valid : Valid req.initialSupply (validateInitialSupply ethers req)) :
    ∃ decimal : DecimalText, req.initialSupply.getD ['0'] = decimal.text ∧
      decimal.whole ++ decimal.fractional ≠ [] ∧ decimal.places ≤ req.decimals ∧
      ethers.Is coin.initialSupply req.decimals (decimal.unitsAt req.decimals) := by
  refine amount_read laws ?_ props.initialSupply
  intro val given
  have passed := valid val (truthy_eq_some.mp given).1
  rw [validateInitialSupply, if_neg (truthy_eq_some.mp given).2] at passed
  exact ⟨_, passed⟩

theorem allowance_read (laws : Laws ethers) (props : PropsOf ethers req coin)
    (valid : Valid req.cashInRoleAllowance (validateCashInRoleAllowance ethers req)) :
    ∃ decimal : DecimalText, req.cashInRoleAllowance.getD ['0'] = decimal.text ∧
      decimal.whole ++ decimal.fractional ≠ [] ∧ decimal.places ≤ req.decimals ∧
      ethers.Is coin.cashInRoleAllowance req.decimals (decimal.unitsAt req.decimals) := by
  refine amount_read laws ?_ props.cashInRoleAllowance
  intro val given
  have passed := valid val (truthy_eq_some.mp given).1
  rw [validateCashInRoleAllowance, if_neg (truthy_eq_some.mp given).2] at passed
  exact ⟨_, passed⟩

theorem units_of_zero_text {decimal : DecimalText} (zero : decimal.text = ['0']) (decimals : Nat) :
    decimal.unitsAt decimals = 0 := by
  have parts := DecimalText.split_text decimal
  rw [zero] at parts
  have integer : decimal.integerText = ['0'] := (List.cons.inj parts.symm).1
  have noFraction : decimal.fraction = none :=
    Option.toList_eq_nil_iff.mp (List.cons.inj parts.symm).2
  have whole : decimal.whole = ['0'] := by
    rw [DecimalText.integerText, DecimalText.sign] at integer
    cases negative : decimal.negative with
    | true =>
        rw [negative] at integer
        cases integer
    | false =>
        rw [negative] at integer
        exact integer
  have digits : number (decimal.whole ++ decimal.fractional) = 0 := by
    rw [whole, DecimalText.fractional, noFraction]
    rfl
  rw [DecimalText.unitsAt, DecimalText.units, digits]
  simp

theorem zero_of_shown (laws : Laws ethers) {number : fixed}
    (shown : BigDecimal.toString ethers number = ['0']) : ethers.value number = 0 := by
  obtain ⟨decimal, text, _, _, units⟩ := toString_decimal laws number
  rw [← units]
  exact units_of_zero_text (text.symm.trans shown) _

/-- The rights that an allowance other than zero gives; the largest word stands
for an allowance that is shown as zero. -/
theorem allowance_of_sent (laws : Laws ethers) {number : fixed} {decimals : Nat} {units : Int}
    (is : ethers.Is number decimals units) (fits : Representable decimals units) {word : Uint256}
    (sent : Uint.checked (if BigDecimal.toString ethers number = ['0'] then UINT256_MAX
      else toBigInt ethers number) = some word) (isSet : word.toNat ≠ 0) :
    (allowanceOf word).1 = decide (units = 0) ∧ ((allowanceOf word).2.toNat : Int) = units := by
  have upper := fits.upper
  have value := Uint.checked_eq_some.mp sent
  by_cases zero : BigDecimal.toString ethers number = ['0']
  · have none_ : units = 0 := is.value.symm.trans (zero_of_shown laws zero)
    have largest : word.toNat = RoleManagementFacet.maxUint256 := by
      rw [if_pos zero, UINT256_MAX] at value
      rw [RoleManagementFacet.maxUint256]
      omega
    rw [allowanceOf, if_pos largest, none_]
    exact ⟨rfl, rfl⟩
  · rw [if_neg zero, toBigInt, is.value] at value
    have notLargest : word.toNat ≠ RoleManagementFacet.maxUint256 := by
      rw [RoleManagementFacet.maxUint256]
      omega
    have some_ : units ≠ 0 := by omega
    rw [allowanceOf, if_neg notLargest]
    exact ⟨(decide_eq_false some_).symm, value⟩

structure TokenOf (ethers : FixedNumbers fixed) (answers : Answers) (command : CreateCommand fixed)
    (owner : HederaId) (requestedToken : CoinRequest) : Prop where
  roles : factoryRoles answers command.coin owner = some requestedToken.roles
  cashinRole : factoryCashinRole ethers answers command.coin = some requestedToken.cashinRole
  keys : buildKeysForSmartContract answers [some command.coin.adminKey, command.coin.kycKey,
      command.coin.freezeKey, command.coin.wipeKey, some command.coin.supplyKey,
      command.coin.feeScheduleKey, command.coin.pauseKey] = some requestedToken.keys
  initialSupply : requestedToken.tokenInitialSupply.toInt =
    toBigInt ethers command.coin.initialSupply
  decimals : requestedToken.tokenDecimals.toInt = command.coin.decimals
  reserveInitialAmount : requestedToken.reserveInitialAmount.toInt =
    (command.reserveInitialAmount.map (toBigInt ethers)).getD 0

theorem token_of_some {resolver owner : HederaId} {configId : Bytes32} {configVersion : Nat}
    (sent : stableCoinToCreate ethers answers command resolver owner configId configVersion =
      some requestedToken) : TokenOf ethers answers command owner requestedToken := by
  simp only [stableCoinToCreate, Option.bind_eq_bind, Option.bind_eq_some_iff, Option.pure_def,
    Option.some.injEq] at sent
  obtain ⟨_, _, cashinRole, cashin, keys, built, roles, listed, _, _, _, _, _, _,
    initialSupply, supply,
    decimals, digits, reserveInitialAmount, reserve, rfl⟩ := sent
  exact ⟨listed, cashin, built, Sint.checked_eq_some.mp supply, Sint.checked_eq_some.mp digits,
    Sint.checked_eq_some.mp reserve⟩

/-! ## The coin that is deployed -/

variable {rest : Type}

/-- The roles, the minting right and the first supply that the request asks for,
and no others: an allowance of zero is one without a limit. -/
structure GivenAsNamed (answers : Answers) (req : CreateRequest) (p : Platform rest)
    (caller : Address) (deployed : DeployedStableCoin) (coin : Coin rest) : Prop where
  holders : ∀ role account, RolesStorage.hasRole coin.roles role account = true ↔
    (∃ name, (name, role) ∈ req.named ∧ Names answers name account) ∨
      (role = cashinRole ∧ Names answers req.cashInRoleAccount account ∧ account ≠ 0) ∨
      (role = adminRole ∧ account = caller)
  supplier : ∀ account, Names answers req.cashInRoleAccount account → account ≠ 0 →
    ∃ units : Int, UnitsOf (req.cashInRoleAllowance.getD ['0']) req.decimals units ∧
      (mintable coin account).1 = decide (units = 0) ∧
      ((mintable coin account).2.toNat : Int) = units
  others : ∀ account, ¬(Names answers req.cashInRoleAccount account ∧ account ≠ 0) →
    mintable coin account = (false, 0)
  supply : UnitsOf (req.initialSupply.getD ['0']) req.decimals
    (supply p deployed.tokenAddress coin.world.rest)

theorem cashin_account_iff {role : CashinRoleStruct} (props : PropsOf ethers req coin)
    (made : factoryCashinRole ethers answers coin = some role) {account : Address} :
    Names answers req.cashInRoleAccount account ∧ account ≠ 0 ↔
      account = role.account ∧ role.account ≠ 0 := by
  obtain ⟨sent, resolved, later⟩ := Option.bind_eq_some_iff.mp made
  obtain ⟨_, _, same⟩ := Option.bind_eq_some_iff.mp later
  obtain rfl := Option.some.inj same
  rw [names_iff, ← props.cashInRoleAccount]
  unfold resolve at resolved
  split at resolved
  · next none_ =>
      obtain rfl := Option.some.inj resolved
      simp [none_]
  · next given =>
      rw [resolved, Option.some.injEq]
      constructor
      · intro named
        obtain ⟨⟨_, rfl⟩, isSet⟩ := named
        exact ⟨rfl, isSet⟩
      · intro described
        obtain ⟨rfl, isSet⟩ := described
        exact ⟨⟨given, rfl⟩, isSet⟩

theorem given_as_named (laws : Laws ethers) {p : Platform rest} {feed : Address} {msg : Msg}
    {world_ : FeedWorld rest} {deployed : DeployedStableCoin} {made : Coin rest}
    (builds : Builds ethers answers req requestedToken)
    (done : Deploys p feed requestedToken msg (ResolverProxy.created world_) deployed made)
    (quiet : QuietReceiver (withReserve p feed) msg.sender) (creation : CreationLaws p) :
    GivenAsNamed answers req p msg.sender deployed made := by
  obtain ⟨validated, command, _, owner, _, _, props, isOwner, _, _, sent⟩ := builds
  have token := token_of_some sent
  obtain ⟨supplyValid, _, allowanceValid⟩ := outcomes_of_validate validated
  have starts := starts_as_of_deploys done quiet
  have account (account : Address) : Names answers req.cashInRoleAccount account ∧ account ≠ 0 ↔
      account = requestedToken.cashinRole.account ∧ requestedToken.cashinRole.account ≠ 0 :=
    cashin_account_iff props token.cashinRole
  refine ⟨?_, ?_, ?_, ?_⟩
  · intro role holder
    rw [starts.holders, mem_factory_roles props isOwner token.roles, account holder]
  · intro supplier named isSet
    have isSupplier := (account supplier).mp ⟨named, isSet⟩
    obtain ⟨decimal, text, digits, few, is⟩ := allowance_read laws props allowanceValid
    obtain ⟨_, _, later⟩ := Option.bind_eq_some_iff.mp token.cashinRole
    obtain ⟨word, checked, same⟩ := Option.bind_eq_some_iff.mp later
    have allowance : requestedToken.cashinRole.allowance = word := by
      rw [← Option.some.inj same]
    have positive := allowance_of_deploys done isSupplier.2
    have fits : Representable req.decimals (decimal.unitsAt req.decimals) := by
      have read := props.cashInRoleAllowance
      rw [text] at read
      exact (laws.accepts decimal req.decimals few digits).mp ⟨_, read⟩
    rw [allowance] at positive
    obtain ⟨unlimited, limit⟩ := allowance_of_sent laws is fits checked positive
    refine ⟨_, ⟨decimal, text, few, rfl⟩, ?_⟩
    rw [starts.suppliers, if_pos isSupplier, allowance]
    exact ⟨unlimited, limit⟩
  · intro supplier unnamed
    rw [starts.suppliers, if_neg fun isSupplier => unnamed ((account supplier).mpr isSupplier)]
  · obtain ⟨decimal, text, _, few, is⟩ := initial_supply_read laws props supplyValid
    refine ⟨decimal, text, few, ?_⟩
    rw [issued_of_deploys quiet creation done, token.initialSupply, toBigInt, is.value]

/-! ## The reserve that is asked for -/

theorem zero_read (laws : Laws ethers) {given : Option Text} {decimals : Nat} {number : fixed}
    (none_ : truthy given = none)
    (read : BigDecimal.fromString ethers (given.getD ['0']) (some decimals) = some number) :
    ethers.Is number decimals 0 := by
  cases given with
  | none =>
      have zero : (DecimalText.ofInteger 0).text = ['0'] := rfl
      have is := laws.reads (DecimalText.ofInteger 0) decimals number (Nat.zero_le _) (by decide)
        read
      rw [units_of_zero_text zero] at is
      exact is
  | some text =>
      have empty : text = [] := by
        by_contra some_
        rw [truthy_eq_some.mpr ⟨rfl, some_⟩] at none_
        cases none_
      have rejected := laws.rejects [] decimals fun _ => no_digits_in_empty
      rw [empty, Option.getD_some, fromString, Option.getD_some, rejected] at read
      cases read

theorem amount_of_zero (laws : Laws ethers) {zero : fixed} (read : ZERO ethers = some zero) :
    ethers.amount zero = 0 := by
  have none_ : truthy none = none := rfl
  have is : ethers.Is zero 0 0 := zero_read laws none_ read
  rw [is.amount, quantity_zero]

theorem min_le_of_within (laws : Laws ethers) {value min max : fixed}
    (within : isWithinRange ethers value min max = true) :
    ethers.amount min ≤ ethers.amount value := by
  have notBelow : ethers.lt value min = false := by
    simpa [isGreaterOrEqualThan] using (Bool.and_eq_true_iff.mp within).2
  have order := (laws.lt_iff value min).not.mp (by rw [notBelow]; decide)
  exact not_lt.mp order

theorem first_supply_nonneg (laws : Laws ethers) (props : PropsOf ethers req coin)
    (valid : Valid req.initialSupply (validateInitialSupply ethers req)) :
    0 ≤ ethers.amount coin.initialSupply := by
  have read := props.initialSupply
  cases given : truthy req.initialSupply with
  | none =>
      rw [(zero_read laws given read).amount, quantity_zero]
  | some val =>
      have passed := valid val (truthy_eq_some.mp given).1
      rw [validateInitialSupply, if_neg (truthy_eq_some.mp given).2] at passed
      obtain ⟨_, checked⟩ := decimal_of_checked laws passed
      rw [(truthy_eq_some.mp given).1, Option.getD_some] at read
      rw [read] at checked
      obtain ⟨_, same, checked⟩ := Option.bind_eq_some_iff.mp checked
      obtain rfl := Option.some.inj same
      obtain ⟨_, _, checked⟩ := Option.bind_eq_some_iff.mp checked
      obtain ⟨zero, isZero, checked⟩ := Option.bind_eq_some_iff.mp checked
      obtain ⟨max, _, checked⟩ := Option.bind_eq_some_iff.mp checked
      split at checked
      · next within =>
          rw [← amount_of_zero laws isZero]
          exact min_le_of_within laws within
      · cases Option.some.inj checked

/-- The least reserve that the validation allows is worth the first supply. -/
theorem other_supply_amount (laws : Laws ethers) (props : PropsOf ethers req coin)
    (valid : Valid req.initialSupply (validateInitialSupply ethers req)) {zero : fixed}
    (isZero : ZERO ethers = some zero) {decimals : Nat} (enough : req.decimals ≤ decimals)
    {other : Option fixed}
    (read : otherAmount ethers req.initialSupply req.decimals decimals = some other) :
    ethers.amount (other.getD zero) = ethers.amount coin.initialSupply := by
  unfold otherAmount at read
  split at read
  · next none_ =>
      obtain rfl := Option.some.inj read
      rw [(zero_read laws none_ props.initialSupply).amount, Option.getD_none,
        amount_of_zero laws isZero, quantity_zero]
  · next text given =>
      obtain ⟨decimal, isText, digits, few, is⟩ := initial_supply_read laws props valid
      have passed := valid text (truthy_eq_some.mp given).1
      rw [(truthy_eq_some.mp given).1, Option.getD_some] at isText
      rw [validateInitialSupply, if_neg (truthy_eq_some.mp given).2] at passed
      dsimp only [checkedAmount, checkedDecimals, moreThan] at passed
      split at read
      · next noNumber =>
          rw [if_pos noNumber] at passed
          cases Option.some.inj passed
      · next isNumber =>
          rw [if_neg isNumber] at passed
          obtain ⟨more, tooFine, read⟩ := Option.bind_eq_some_iff.mp read
          rw [tooFine] at passed
          cases more with
          | true => cases Option.some.inj passed
          | false =>
              obtain ⟨number, readNumber, same⟩ := Option.bind_eq_some_iff.mp read
              obtain rfl := Option.some.inj same
              rw [isText] at readNumber
              obtain ⟨_, amount⟩ := amount_of_read laws (few.trans enough) digits readNumber
              rw [Option.getD_some, amount, is.amount, DecimalText.quantity_units_at few]

/-- A validated reserve is worth the first supply at least, in cents that fit in
the common decimals. -/
theorem covered_of_validated (laws : Laws ethers) (props : PropsOf ethers req coin)
    (supplyValid : Valid req.initialSupply (validateInitialSupply ethers req))
    (valid : Valid req.reserveInitialAmount (validateReserveInitialAmount ethers req))
    (creates : req.createReserve = true) {text : Text}
    (given : truthy req.reserveInitialAmount = some text) {amount : fixed}
    (read : BigDecimal.fromString ethers text (some RESERVE_DECIMALS) = some amount) :
    ethers.amount coin.initialSupply ≤ ethers.amount amount ∧
      ∃ cents : Int, ethers.Is amount RESERVE_DECIMALS cents ∧
        cents * 10 ^ (req.decimals - RESERVE_DECIMALS) < 2 ^ 127 := by
  have passed := valid text (truthy_eq_some.mp given).1
  rw [validateReserveInitialAmount, creates, if_neg (by simp [(truthy_eq_some.mp given).2])] at passed
  obtain ⟨⟨decimal, rfl, digits, few⟩, checked⟩ := decimal_of_checked laws passed
  obtain ⟨common, readCommon, checked⟩ := Option.bind_eq_some_iff.mp checked
  obtain ⟨other, readOther, checked⟩ := Option.bind_eq_some_iff.mp checked
  obtain ⟨zero, isZero, checked⟩ := Option.bind_eq_some_iff.mp checked
  obtain ⟨max, _, checked⟩ := Option.bind_eq_some_iff.mp checked
  have is := laws.reads decimal RESERVE_DECIMALS amount few digits read
  have ordered : RESERVE_DECIMALS ≤ commonDecimals req.decimals ∧
      req.decimals ≤ commonDecimals req.decimals ∧
      commonDecimals req.decimals - RESERVE_DECIMALS = req.decimals - RESERVE_DECIMALS := by
    unfold commonDecimals
    split <;> omega
  obtain ⟨_, worth⟩ := amount_of_read laws (few.trans ordered.1) digits readCommon
  split at checked
  · next within =>
      have order := min_le_of_within laws within
      rw [other_supply_amount laws props supplyValid isZero ordered.2.1 readOther, worth] at order
      refine ⟨?_, _, is, ?_⟩
      · rw [is.amount, DecimalText.quantity_units_at few]
        exact order
      · have fits := (laws.accepts decimal _ (few.trans ordered.1) digits).mp ⟨common, readCommon⟩
        have scaled : decimal.unitsAt (commonDecimals req.decimals) =
            decimal.unitsAt RESERVE_DECIMALS * 10 ^ (req.decimals - RESERVE_DECIMALS) := by
          rw [DecimalText.unitsAt, DecimalText.unitsAt, mul_assoc, ← pow_add, ← ordered.2.2]
          congr 2
          omega
        rw [← scaled]
        exact fits.upper
  · cases Option.some.inj checked

theorem fits_reserve {decimals supply cents : Nat} (few : decimals < 80)
    (supplyFits : supply < 2 ^ 63) (centsFit : cents * 10 ^ (decimals - 2) < 2 ^ 127) :
    Fits decimals 2 supply cents where
  tokenPower :=
    Nat.lt_of_le_of_lt (Nat.pow_le_pow_right (by decide) (by omega : decimals - 2 ≤ 77)) (by decide)
  reservePower :=
    Nat.lt_of_le_of_lt (Nat.pow_le_pow_right (by decide) (by omega : 2 - decimals ≤ 2)) (by decide)
  supplyFits := by
    have power : 10 ^ (2 - decimals) ≤ 10 ^ 2 := Nat.pow_le_pow_right (by decide) (by omega)
    exact Nat.lt_of_le_of_lt (Nat.mul_le_mul (Nat.le_of_lt supplyFits) power) (by decide)
  reserveFits := Nat.lt_trans centsFit (by decide)

theorem reserve_accepted (laws : Laws ethers) (builds : Builds ethers answers req requestedToken)
    (creates : req.createReserve = true) (few : req.decimals < 80) {state : Type} {msg : Msg}
    {before : state} :
    validationReserveInitialAmount HederaReserveFacet.decimals requestedToken.reserveInitialAmount
        requestedToken.tokenDecimals requestedToken.tokenInitialSupply msg before =
          .ok ((), before) ↔
      truthy req.reserveInitialAmount ≠ none ∨ requestedToken.tokenInitialSupply.toInt = 0 := by
  obtain ⟨validated, command, _, owner, _, _, props, _, _, amounts, sent⟩ := builds
  have token := token_of_some sent
  obtain ⟨supplyValid, reserveValid, _⟩ := outcomes_of_validate validated
  have sameDecimals : requestedToken.tokenDecimals.toInt = (req.decimals : Nat) := by
    rw [token.decimals, props.decimals]
  obtain ⟨decimal, _, _, _, supplyIs⟩ := initial_supply_read laws props supplyValid
  have worth := first_supply_nonneg laws props supplyValid
  rw [supplyIs.amount, ← quantity_zero req.decimals, quantity_le_iff] at worth
  obtain ⟨supply, isSupply⟩ := Int.eq_ofNat_of_zero_le worth
  rw [isSupply] at supplyIs
  have sameSupply : requestedToken.tokenInitialSupply.toInt = supply :=
    token.initialSupply.trans supplyIs.value
  have supplyFits : supply < 2 ^ 63 := by
    have upper := requestedToken.tokenInitialSupply.upper
    rw [sameSupply] at upper
    exact_mod_cast upper
  cases given : truthy req.reserveInitialAmount with
  | none =>
      rw [given, Option.map_none, eq_comm, Option.map_eq_none_iff] at amounts
      have sameReserve : requestedToken.reserveInitialAmount.toInt = (0 : Nat) := by
        rw [token.reserveInitialAmount, amounts]
        rfl
      rw [validation_ok sameReserve sameDecimals sameSupply, sameSupply]
      constructor
      · intro passed
        have compared := passed.2.2
        rw [aligned, aligned, Nat.zero_mul, Nat.le_zero, Nat.mul_eq_zero] at compared
        rcases compared with nothing | power
        · exact Or.inr (congrArg Int.ofNat nothing)
        · exact absurd power (Nat.ne_of_gt (Nat.pow_pos (by decide)))
      · intro either
        have nothing : supply = 0 := by simpa using either
        subst nothing
        exact ⟨rfl, fits_reserve few supplyFits (by rw [Nat.zero_mul]; decide),
          by rw [aligned, Nat.zero_mul]; exact Nat.zero_le _⟩
  | some text =>
      rw [given, Option.map_some] at amounts
      obtain ⟨amount, isAmount, read⟩ := Option.map_eq_some_iff.mp amounts.symm
      obtain ⟨order, cents, is, centsFit⟩ :=
        covered_of_validated laws props supplyValid reserveValid creates given read.symm
      rw [is.amount, supplyIs.amount] at order
      have nonneg : 0 ≤ cents := by
        rw [← quantity_le_iff RESERVE_DECIMALS, quantity_zero]
        refine le_trans ?_ order
        rw [← quantity_zero req.decimals, quantity_le_iff]
        exact Int.natCast_nonneg supply
      obtain ⟨cents, rfl⟩ := Int.eq_ofNat_of_zero_le nonneg
      have sameReserve : requestedToken.reserveInitialAmount.toInt = cents := by
        rw [token.reserveInitialAmount, isAmount]
        exact is.value
      refine iff_of_true ?_ (Or.inl (Option.some_ne_none _))
      rw [validation_ok sameReserve sameDecimals sameSupply]
      refine ⟨rfl, fits_reserve few supplyFits (by exact_mod_cast centsFit),
        aligned_iff_covered.mpr ?_⟩
      rw [quantity, quantity, Int.cast_natCast, Int.cast_natCast] at order
      exact order

/-! ## The keys of the token -/

theorem held_by_iff {key : PublicKey} {contract : Address} {held : KeyValue} :
    HeldBy answers contract key held ↔
      ∃ bytes, publicKeyBytes answers ⟨formatKey key.key, key.type⟩ = some bytes ∧
        held = KeysLib.generateKey bytes contract (decide (key.type = "ED25519".toList)) := by
  unfold HeldBy publicKeyBytes
  by_cases null : formatKey key.key = PublicKey.NULL.key
  · simp only [if_pos null, Option.some.injEq, exists_eq_left']
    rfl
  · simp only [if_neg null]

theorem key_struct_iff {bit : Nat} {key : PublicKey} {contract : Address}
    {tokenKey : Token.Services.TokenKey} :
    (∃ struct_, keyStruct answers bit ⟨formatKey key.key, key.type⟩ = some struct_ ∧
      (⟨struct_.keyType, KeysLib.generateKey struct_.publicKey contract struct_.isEd25519⟩ :
        Token.Services.TokenKey) = tokenKey) ↔
      tokenKey.keyType.toNat = bit ∧ HeldBy answers contract key tokenKey.key := by
  rw [held_by_iff]
  constructor
  · intro built
    obtain ⟨struct_, built, rfl⟩ := built
    obtain ⟨keyType, checked, later⟩ := Option.bind_eq_some_iff.mp built
    obtain ⟨publicKey, read, same⟩ := Option.bind_eq_some_iff.mp later
    obtain rfl := Option.some.inj same
    exact ⟨by exact_mod_cast Uint.checked_eq_some.mp checked, publicKey, read, rfl⟩
  · intro described
    obtain ⟨sameBit, bytes, read, held⟩ := described
    have checked : Uint.checked bit = some tokenKey.keyType :=
      Uint.checked_eq_some.mpr (by rw [sameBit])
    refine ⟨⟨tokenKey.keyType, bytes, decide (key.type = "ED25519".toList)⟩, ?_, ?_⟩
    · rw [keyStruct, checked, read]
      rfl
    · rw [← held]

theorem mem_token_keys (builds : Builds ethers answers req requestedToken) {contract : Address}
    {tokenKey : Token.Services.TokenKey} :
    tokenKey ∈ (createToken requestedToken.toTokenStruct contract).tokenKeys ↔
      ∃ bit key, (bit, some key) ∈ req.keyed ∧ tokenKey.keyType.toNat = bit ∧
        HeldBy answers contract key tokenKey.key := by
  obtain ⟨_, command, _, owner, _, _, props, _, _, _, sent⟩ := builds
  have built := (token_of_some sent).keys
  have zipped : KEY_TYPE_BITS.zip (req.keyed.map fun entry =>
      entry.2.map fun key => (⟨formatKey key.key, key.type⟩ : PublicKey)) =
      req.keyed.map fun entry => (entry.1, entry.2.map fun key => ⟨formatKey key.key, key.type⟩) :=
    rfl
  rw [props.keys, buildKeysForSmartContract, zipped] at built
  simp only [createToken, List.mem_map]
  constructor
  · intro listed
    obtain ⟨struct_, member, same⟩ := listed
    obtain ⟨sent, provided, isBuilt⟩ := (mem_of_mapM built).mp member
    obtain ⟨_, inList, isSome⟩ := List.mem_filterMap.mp provided
    obtain ⟨⟨bit, named⟩, inKeyed, rfl⟩ := List.mem_map.mp inList
    cases named with
    | none => cases isSome
    | some key =>
        obtain rfl := Option.some.inj isSome
        exact ⟨bit, key, inKeyed, key_struct_iff.mp ⟨struct_, isBuilt, same⟩⟩
  · intro described
    obtain ⟨bit, key, inKeyed, held⟩ := described
    obtain ⟨struct_, isBuilt, same⟩ := key_struct_iff.mpr held
    refine ⟨struct_, (mem_of_mapM built).mpr
      ⟨(bit, ⟨formatKey key.key, key.type⟩), ?_, isBuilt⟩, same⟩
    exact List.mem_filterMap.mpr ⟨_, List.mem_map.mpr ⟨_, inKeyed, rfl⟩, rfl⟩

end Built

/-- The keys of a token: those the request names, and the administrator and the
supply key always with the contract. -/
structure KeysAsNamed (answers : Answers) (req : CreateRequest) (contract : Address)
    (keys : List Token.Services.TokenKey) : Prop where
  listed : ∀ tokenKey, tokenKey ∈ keys ↔
    ∃ bit key, (bit, some key) ∈ req.keyed ∧ tokenKey.keyType.toNat = bit ∧
      HeldBy answers contract key tokenKey.key
  ofContract : ∀ tokenKey ∈ keys, tokenKey.keyType.toNat = 1 ∨ tokenKey.keyType.toNat = 16 →
    tokenKey.key = { delegatableContractId := contract }

theorem key_of_contract {answers : Answers} {req : CreateRequest} {bit : Nat} {key : PublicKey}
    {contract : Address} {held : KeyValue} (named : (bit, some key) ∈ req.keyed)
    (bits : bit = 1 ∨ bit = 16) (holds : HeldBy answers contract key held) :
    held = { delegatableContractId := contract } := by
  have null : key = PublicKey.NULL := by
    simp only [CreateRequest.keyed, List.mem_cons, Prod.mk.injEq, Option.some.injEq,
      List.not_mem_nil, or_false] at named
    rcases named with ⟨_, same⟩ | ⟨other, _⟩ | ⟨other, _⟩ | ⟨other, _⟩ | ⟨_, same⟩ | ⟨other, _⟩ |
      ⟨other, _⟩
    · exact same
    · omega
    · omega
    · omega
    · exact same
    · omega
    · omega
  rw [null] at holds
  exact holds

/-- The one token of a deployment: asked for in the world that the deployment
starts in, and followed by nothing but the refund to the caller. -/
structure TokenCreated {rest : Type} (p : Platform rest) (feed : Address) (answers : Answers)
    (req : CreateRequest) (requestedToken : CoinRequest) (msg : Msg) (start : rest)
    (deployed : DeployedStableCoin) (coin : Coin rest) : Prop where
  answered : (p.createFungibleToken
      (createToken requestedToken.toTokenStruct deployed.stableCoinProxy)
      requestedToken.tokenInitialSupply requestedToken.tokenDecimals msg.value start).1 =
    (success, deployed.tokenAddress)
  keys : KeysAsNamed answers req deployed.stableCoinProxy
    (createToken requestedToken.toTokenStruct deployed.stableCoinProxy).tokenKeys
  reached : ∃ issued refunded : Coin rest,
    issued.world.rest = (p.createFungibleToken
      (createToken requestedToken.toTokenStruct deployed.stableCoinProxy)
      requestedToken.tokenInitialSupply requestedToken.tokenDecimals msg.value start).2 ∧
    (refunded = issued ∨
      ∃ amount, (withReserve p feed).sendValue msg.sender amount issued = some refunded) ∧
    coin =
      { refunded with
        initialized := Function.update refunded.initialized hederaTokenManagerResolverKey true }

section Deployed

variable {fixed rest : Type} (ethers : FixedNumbers fixed) (laws : Laws ethers) (answers : Answers)
  (configuration : Configuration) (req : CreateRequest) (requestedToken : CoinRequest)
  (built : create ethers answers configuration req = .ok requestedToken)

include laws built

/-- For every request that the SDK lets through and the factory carries out: the
holders of roles, the supplier and its allowance, and the supply are those that
the request names. -/
theorem created_coin_is_as_named (p : Platform rest) (feed factory : Address) (msg : Msg)
    (world_ : FeedWorld rest) (deployed : DeployedStableCoin) (coin : Coin rest)
    (committed : deployStableCoin p feed factory requestedToken msg
      (ResolverProxy.created world_) = .ok (deployed, coin))
    (quiet : QuietReceiver (withReserve p feed) msg.sender) (creation : CreationLaws p) :
    GivenAsNamed answers req p msg.sender deployed coin :=
  given_as_named laws (builds_of_ok built) (deploy_ok committed) quiet creation

/-- The factory's check of the reserve that a request asks for passes unless the
request names no amount for a coin with a first supply. -/
theorem reserve_of_request_accepted (creates : req.createReserve = true) (few : req.decimals < 80)
    (state : Type) (msg : Msg) (before : state) :
    validationReserveInitialAmount HederaReserveFacet.decimals requestedToken.reserveInitialAmount
        requestedToken.tokenDecimals requestedToken.tokenInitialSupply msg before =
          .ok ((), before) ↔
      truthy req.reserveInitialAmount ≠ none ∨ requestedToken.tokenInitialSupply.toInt = 0 :=
  reserve_accepted laws (builds_of_ok built) creates few

omit laws

/-- The token that is created for the coin, in the world where its deployment
starts, has the keys that the request names. -/
theorem created_token_has_named_keys (p : Platform rest) (feed factory : Address) (msg : Msg)
    (world_ : FeedWorld rest) (deployed : DeployedStableCoin) (coin : Coin rest)
    (committed : deployStableCoin p feed factory requestedToken msg
      (ResolverProxy.created world_) = .ok (deployed, coin)) :
    TokenCreated p feed answers req requestedToken msg world_.rest deployed coin := by
  have builds := builds_of_ok built
  have done := deploy_ok committed
  obtain ⟨handled, handling, _, later, refunded, answered, refunding, same⟩ := done.steps
  have created := on_rest_eq answered
  rw [handled_rest handling, ← done.proxy] at created
  have listed (tokenKey : Token.Services.TokenKey) :
      tokenKey ∈ (createToken requestedToken.toTokenStruct deployed.stableCoinProxy).tokenKeys ↔ _ :=
    mem_token_keys builds
  exact {
    answered := congrArg Prod.fst created
    keys := {
      listed := listed
      ofContract := by
        intro tokenKey member bits
        obtain ⟨bit, key, named, sameBit, held⟩ := (listed tokenKey).mp member
        rw [sameBit] at bits
        exact key_of_contract named bits held
    }
    reached := ⟨_, refunded, (congrArg Prod.snd created).symm, refunding, same⟩
  }

end Deployed

/-! ## A request to evaluate -/

/-- The freeze key is a public key and the KYC key the contract's; the supplier
of 30.00 is account 5. -/
def sampleRequest : CreateRequest where
  name := "sample"
  symbol := "SMP"
  decimals := 2
  initialSupply := some "10.50".toList
  maxSupply := none
  freezeDefault := none
  freezeKey := some ⟨List.replicate 64 '1', "ED25519".toList⟩
  kycKey := some PublicKey.NULL
  wipeKey := none
  pauseKey := none
  feeScheduleKey := none
  supplyType := none
  burnRoleAccount := some "0.0.6".toList
  wipeRoleAccount := none
  rescueRoleAccount := none
  pauseRoleAccount := none
  freezeRoleAccount := none
  deleteRoleAccount := none
  kycRoleAccount := none
  feeRoleAccount := none
  holdCreatorRoleAccount := none
  cashInRoleAccount := some "0.0.5".toList
  cashInRoleAllowance := some "30".toList
  metadata := none
  proxyOwnerAccount := some "0.0.4".toList
  createReserve := true
  reserveAddress := none
  reserveInitialAmount := some "20.00".toList
  updatedAtThreshold := none
  configId := some 2
  configVersion := some 1
  reserveConfigId := some 3
  reserveConfigVersion := some 1

def sampleAnswers : Answers where
  getContractInfo text := some ⟨some text, 8⟩
  accountToEvmAddress text :=
    if text = "0.0.4".toList then some 4
    else if text = "0.0.5".toList then some 5
    else if text = "0.0.6".toList then some 6
    else none
  getReserveLatestRoundData _ := none
  toBytesRaw text :=
    if text = List.replicate 64 '1' then some (List.replicate 32 17) else none

def sampleConfiguration : Configuration := ⟨"0.0.3".toList, some "0.0.8".toList⟩

def sampleOutcome : Created CoinRequest :=
  create exactNumbers sampleAnswers sampleConfiguration sampleRequest

def sampleToken : CoinRequest :=
  match sampleOutcome with
  | .ok requestedToken => requestedToken
  | .error _ => Token.Deployment.sampleRequest

theorem sample_built : create exactNumbers sampleAnswers sampleConfiguration sampleRequest =
    .ok sampleToken := by
  have succeeds : sampleOutcome.toBool = true := by decide +kernel
  change sampleOutcome = .ok sampleToken
  unfold sampleToken
  cases made : sampleOutcome with
  | error failure =>
      rw [made] at succeeds
      cases succeeds
  | ok requestedToken => rfl

def sampleCall : Except ReserveRevert (DeployedStableCoin × Coin Ledger) :=
  deployStableCoin launching 9 3 sampleToken (sampleMsg 4 5)
    (ResolverProxy.created sampleWorld)

def sampleCreated : DeployedStableCoin × Coin Ledger :=
  match sampleCall with
  | .ok done => done
  | .error _ => sampleDeployment

theorem sample_created : deployStableCoin launching 9 3 sampleToken
    (sampleMsg 4 5) (ResolverProxy.created sampleWorld) =
      .ok (sampleCreated.1, sampleCreated.2) := by
  have succeeds : sampleCall.toBool = true := by decide +kernel
  change sampleCall = .ok sampleCreated
  unfold sampleCreated
  cases made : sampleCall with
  | error failure =>
      rw [made] at succeeds
      cases succeeds
  | ok done => rfl

theorem sample_coin_is_as_named :
    GivenAsNamed sampleAnswers sampleRequest launching 4 sampleCreated.1 sampleCreated.2 :=
  created_coin_is_as_named exactNumbers exact_laws sampleAnswers sampleConfiguration sampleRequest
    sampleToken sample_built launching 9 3 (sampleMsg 4 5) sampleWorld _ _
    sample_created (launching_quiet 4) launching_creation_laws

theorem sample_reserve_accepted :
    validationReserveInitialAmount HederaReserveFacet.decimals sampleToken.reserveInitialAmount
        sampleToken.tokenDecimals sampleToken.tokenInitialSupply
        (sampleMsg 4 5) () = .ok ((), ()) ↔
      truthy sampleRequest.reserveInitialAmount ≠ none ∨
        sampleToken.tokenInitialSupply.toInt = 0 :=
  reserve_of_request_accepted exactNumbers exact_laws sampleAnswers sampleConfiguration
    sampleRequest sampleToken sample_built rfl (by decide) Unit
    (sampleMsg 4 5) ()

theorem sample_token_has_named_keys :
    TokenCreated launching 9 sampleAnswers sampleRequest sampleToken (sampleMsg 4 5)
      sampleWorld.rest sampleCreated.1 sampleCreated.2 :=
  created_token_has_named_keys exactNumbers sampleAnswers sampleConfiguration sampleRequest
    sampleToken sample_built launching 9 3 (sampleMsg 4 5) sampleWorld _ _
    sample_created

end StablecoinStudio.Sdk.CreatedCoins
