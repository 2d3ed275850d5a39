import StablecoinStudio.Foundation.DecimalQuantities
import StablecoinStudio.Token.ReferenceLedger
import StablecoinStudio.Token.StableCoinFactory

/-!
# One reserve rule

The factory checks the first supply and `checkReserveIncrease` checks every
mint. They rescale separately, and both compare the same two rationals; the
second also asks for an amount that the feed's decimals can express.
-/

namespace StablecoinStudio.Token.ReserveRule

open StablecoinStudio.Core.Common
open StablecoinStudio.Foundation.CheckedInt
open StablecoinStudio.Foundation.DecimalQuantities
open StablecoinStudio.Foundation.Transaction
open StablecoinStudio.Token.ProxyState
open StablecoinStudio.Token.ReferenceLedger
open StablecoinStudio.Token.Reserve
open StablecoinStudio.Token.Roles
open StablecoinStudio.Token.Services
open StablecoinStudio.Token.StableCoinFactory

set_option autoImplicit false

/-- The powers of ten and the amounts in the common scale are words. -/
structure Fits (tokenDecimals reserveDecimals supply reserve : Nat) : Prop where
  tokenPower : 10 ^ (tokenDecimals - reserveDecimals) < 2 ^ 256
  reservePower : 10 ^ (reserveDecimals - tokenDecimals) < 2 ^ 256
  supplyFits : aligned tokenDecimals reserveDecimals supply < 2 ^ 256
  reserveFits : aligned reserveDecimals tokenDecimals reserve < 2 ^ 256

theorem word_of_lt {value : Nat} (fits : value < 2 ^ 256) : ∃ word : Uint256, word.toNat = value :=
  ⟨⟨value, fits⟩, rfl⟩

/-! ## The factory -/

section Factory

variable {state : Type} {environment : Msg} {before after : state} {result : Unit}

theorem power_of_ten_ok {larger smaller : Nat} {factor : Uint256} (small : larger < 2 ^ 32) :
    powerOfTen larger smaller environment before = .ok (factor, after) ↔
      smaller ≤ larger ∧ factor.toNat = 10 ^ (larger - smaller) ∧ before = after := by
  simp only [powerOfTen, Tx.bind_ok, Tx.of_option_ok, Uint.checked_eq_some]
  constructor
  · intro committed
    obtain ⟨digits, _, ⟨difference, rfl⟩, power, rfl⟩ := committed
    have exponent : digits.toNat = larger - smaller := by omega
    rw [← exponent]
    exact ⟨by omega, by exact_mod_cast power, rfl⟩
  · intro described
    obtain ⟨ordered, power, rfl⟩ := described
    refine ⟨⟨larger - smaller, by omega⟩, before, ⟨?_, rfl⟩, ?_, rfl⟩
    · simp only
      omega
    · rw [power]
      exact_mod_cast rfl

theorem not_less_ok {value ref : Uint256} :
    notLess value ref environment before = .ok (result, after) ↔
      ref.toNat ≤ value.toNat ∧ before = after := by
  rw [notLess, Tx.require_ok, Nat.not_lt]

theorem arithmetic_of_eq {width : Nat} {failure : Revert} {value : Int} {word : Uint width}
    (exact_ : (word.toNat : Int) = value) :
    (Tx.ofOption failure (Uint.checked value) : ContractTx state (Uint width)) environment before =
      .ok (word, before) :=
  Tx.of_option_ok.mpr ⟨Uint.checked_eq_some.mpr exact_, rfl⟩

theorem scaled_ok {larger smaller : Nat} {amount : Uint256}
    {next : Uint256 → ContractTx state Unit} (small : larger < 2 ^ 32)
    (ordered : smaller ≤ larger) :
    (do let factor ← powerOfTen larger smaller
        let scaled : Uint256 ← arithmetic (Uint.checked (amount.toNat * factor.toNat))
        next scaled : ContractTx state Unit) environment before = .ok (result, after) ↔
      10 ^ (larger - smaller) < 2 ^ 256 ∧
        ∃ scaled : Uint256, scaled.toNat = aligned smaller larger amount.toNat ∧
          next scaled environment before = .ok (result, after) := by
  simp only [Tx.bind_ok, power_of_ten_ok small, Tx.of_option_ok, Uint.checked_eq_some]
  constructor
  · intro committed
    obtain ⟨factor, _, ⟨_, power, rfl⟩, scaled, _, ⟨product, rfl⟩, rest⟩ := committed
    have value : scaled.toNat = aligned smaller larger amount.toNat := by
      rw [aligned, ← power]
      exact_mod_cast product
    refine ⟨?_, scaled, value, rest⟩
    rw [← power]
    exact factor.bound
  · intro described
    obtain ⟨fits, scaled, value, rest⟩ := described
    obtain ⟨factor, power⟩ := word_of_lt fits
    refine ⟨factor, before, ⟨ordered, power, rfl⟩, scaled, before, ⟨?_, rfl⟩, rest⟩
    rw [value, power, aligned]
    exact_mod_cast rfl

/-- The factory accepts what fits and compares as it should. -/
theorem validation_ok {reserveDecimals : Uint8} {reserveInitialAmount : Sint256}
    {tokenDecimals : Sint32} {tokenInitialSupply : Sint64} {reserve decimals supply : Nat}
    (sameReserve : reserveInitialAmount.toInt = reserve)
    (sameDecimals : tokenDecimals.toInt = decimals) (sameSupply : tokenInitialSupply.toInt = supply) :
    validationReserveInitialAmount reserveDecimals reserveInitialAmount tokenDecimals
        tokenInitialSupply environment before = .ok (result, after) ↔
      before = after ∧ Fits decimals reserveDecimals.toNat supply reserve ∧
        aligned decimals reserveDecimals.toNat supply ≤
          aligned reserveDecimals.toNat decimals reserve := by
  have reserveUpper := reserveInitialAmount.upper
  have decimalsUpper := tokenDecimals.upper
  have supplyUpper := tokenInitialSupply.upper
  have byteUpper := reserveDecimals.bound
  rw [sameReserve] at reserveUpper
  rw [sameDecimals] at decimalsUpper
  rw [sameSupply] at supplyUpper
  obtain ⟨reserveWord, rfl⟩ : ∃ word : Uint256, word.toNat = reserve := word_of_lt (by omega)
  obtain ⟨decimalsWord, rfl⟩ : ∃ word : Uint256, word.toNat = decimals := word_of_lt (by omega)
  obtain ⟨supplyWord, rfl⟩ : ∃ word : Uint256, word.toNat = supply := word_of_lt (by omega)
  obtain ⟨short, shortValue⟩ : ∃ short : Uint32, short.toNat = decimalsWord.toNat :=
    ⟨⟨decimalsWord.toNat, by omega⟩, rfl⟩
  have shortUpper := short.bound
  rw [validationReserveInitialAmount, Tx.bind_of_ok (arithmetic_of_eq sameReserve.symm),
    Tx.bind_of_ok (arithmetic_of_eq sameDecimals.symm),
    Tx.bind_of_ok (arithmetic_of_eq (congrArg Nat.cast shortValue)),
    Tx.bind_of_ok (arithmetic_of_eq sameSupply.symm), ← shortValue]
  by_cases finer : short.toNat > reserveDecimals.toNat
  · have unscaled : reserveDecimals.toNat - short.toNat = 0 := by omega
    have supplySide : aligned short.toNat reserveDecimals.toNat supplyWord.toNat =
        supplyWord.toNat := aligned_of_le _ (Nat.le_of_lt finer)
    rw [if_pos finer, scaled_ok shortUpper (Nat.le_of_lt finer)]
    simp only [not_less_ok]
    constructor
    · intro committed
      obtain ⟨power, scaled, value, enough, same⟩ := committed
      rw [value] at enough
      refine ⟨same, ⟨power, by rw [unscaled]; decide, ?_, ?_⟩, by rw [supplySide]; exact enough⟩
      · rw [supplySide]
        exact supplyWord.bound
      · rw [← value]
        exact scaled.bound
    · intro described
      obtain ⟨same, fits, enough⟩ := described
      obtain ⟨scaled, value⟩ := word_of_lt fits.reserveFits
      rw [supplySide, ← value] at enough
      exact ⟨fits.tokenPower, scaled, value, enough, same⟩
  · have unscaled : short.toNat - reserveDecimals.toNat = 0 := by omega
    have reserveSide : aligned reserveDecimals.toNat short.toNat reserveWord.toNat =
        reserveWord.toNat := aligned_of_le _ (Nat.le_of_not_lt finer)
    rw [if_neg finer, scaled_ok (by omega) (Nat.le_of_not_lt finer)]
    simp only [not_less_ok]
    constructor
    · intro committed
      obtain ⟨power, scaled, value, enough, same⟩ := committed
      rw [value] at enough
      refine ⟨same, ⟨by rw [unscaled]; decide, power, ?_, ?_⟩, by rw [reserveSide]; exact enough⟩
      · rw [← value]
        exact scaled.bound
      · rw [reserveSide]
        exact reserveWord.bound
    · intro described
      obtain ⟨same, fits, enough⟩ := described
      obtain ⟨scaled, value⟩ := word_of_lt fits.supplyFits
      rw [reserveSide, ← value] at enough
      exact ⟨fits.reservePower, scaled, value, enough, same⟩

end Factory

/-! ## The mint -/

section Mint

variable {world : Type} {p : Platform world} {environment : Msg} {before after : State world}
  {tokenDecimals reserveDecimals : Uint8} {currentReserve totalSupply amount : Uint256}

/-- The feed can express the amount. -/
def Expressible (tokenDecimals reserveDecimals : Uint8) (amount : Uint256) : Prop :=
  reserveDecimals.toNat < tokenDecimals.toNat →
    10 ^ (tokenDecimals.toNat - reserveDecimals.toNat) ∣ amount.toNat

theorem rescale_iff {result : Uint256 × Uint256 × Uint256} :
    ReserveStorageWrapper.rescale tokenDecimals reserveDecimals currentReserve totalSupply amount
        environment before = .ok (result, after) ↔
      before = after ∧ Expressible tokenDecimals reserveDecimals amount ∧
        10 ^ (tokenDecimals.toNat - reserveDecimals.toNat) < 2 ^ 256 ∧
        10 ^ (reserveDecimals.toNat - tokenDecimals.toNat) < 2 ^ 256 ∧
        result.1.toNat = aligned reserveDecimals.toNat tokenDecimals.toNat currentReserve.toNat ∧
        result.2.1.toNat = aligned tokenDecimals.toNat reserveDecimals.toNat totalSupply.toNat ∧
        result.2.2.toNat = aligned tokenDecimals.toNat reserveDecimals.toNat amount.toNat := by
  constructor
  · intro committed
    obtain ⟨rfl, reserveSide, supplySide, amountSide⟩ :=
      ReserveStorageWrapper.rescale_ok committed
    unfold ReserveStorageWrapper.rescale at committed
    split at committed
    · next finer =>
        simp only [Tx.bind_ok, ReserveStorageWrapper.scale_ok, Tx.require_ok] at committed
        obtain ⟨factor, _, ⟨_, power, rfl⟩, _, _, ⟨divisible, rfl⟩, _⟩ := committed
        have none_ : reserveDecimals.toNat - tokenDecimals.toNat = 0 := by omega
        rw [power] at divisible
        refine ⟨rfl, fun _ => Nat.dvd_of_mod_eq_zero divisible, ?_, by rw [none_]; decide,
          reserveSide, supplySide, amountSide⟩
        rw [← power]
        exact factor.bound
    · next coarser =>
        have none_ : tokenDecimals.toNat - reserveDecimals.toNat = 0 := by omega
        refine ⟨rfl, fun finer => (coarser finer).elim, by rw [none_]; decide, ?_, reserveSide,
          supplySide, amountSide⟩
        split at committed
        · next finerReserve =>
            simp only [Tx.bind_ok, ReserveStorageWrapper.scale_ok] at committed
            obtain ⟨factor, _, ⟨_, power, rfl⟩, _⟩ := committed
            rw [← power]
            exact factor.bound
        · next same =>
            have equal : reserveDecimals.toNat - tokenDecimals.toNat = 0 := by omega
            rw [equal]
            decide
  · intro described
    obtain ⟨rfl, expressible, tokenPower, reservePower, reserveSide, supplySide, amountSide⟩ :=
      described
    have triple : result = (result.1, result.2.1, result.2.2) := rfl
    unfold ReserveStorageWrapper.rescale
    split
    · next finer =>
        rw [aligned_of_le _ (Nat.le_of_lt finer), ← Uint.ext_iff] at supplySide amountSide
        obtain ⟨factor, power⟩ := word_of_lt tokenPower
        have divisible : amount.toNat % factor.toNat = 0 := by
          rw [power]
          exact Nat.mod_eq_zero_of_dvd (expressible finer)
        rw [aligned, ← power] at reserveSide
        simp only [Tx.bind_ok, ReserveStorageWrapper.scale_ok, Tx.require_ok,
          ReserveStorageWrapper.multiply_ok, Tx.pure_ok]
        refine ⟨factor, _, ⟨Nat.le_of_lt finer, power, rfl⟩, (), _, ⟨divisible, rfl⟩, result.1, _,
          ⟨reserveSide, rfl⟩, ?_, rfl⟩
        rw [triple, supplySide, amountSide]
    · next coarser =>
        rw [aligned_of_le _ (Nat.le_of_not_lt coarser), ← Uint.ext_iff] at reserveSide
        split
        · next finerReserve =>
            obtain ⟨factor, power⟩ := word_of_lt reservePower
            rw [aligned, ← power] at supplySide amountSide
            simp only [Tx.bind_ok, ReserveStorageWrapper.scale_ok,
              ReserveStorageWrapper.multiply_ok, Tx.pure_ok]
            refine ⟨factor, _, ⟨Nat.le_of_lt finerReserve, power, rfl⟩, result.2.2, _,
              ⟨amountSide, rfl⟩, result.2.1, _, ⟨supplySide, rfl⟩, ?_, rfl⟩
            rw [triple, reserveSide]
        · next same =>
            rw [aligned_of_le _ (Nat.le_of_not_lt same), ← Uint.ext_iff] at supplySide amountSide
            rw [Tx.pure_ok, triple, reserveSide, supplySide, amountSide]
            exact ⟨rfl, rfl⟩

/-- What the feed and the token of a proxy answer, recently enough. -/
structure FeedAnswers (p : Platform world) (msg : Msg) (state : State world) (reserve : Nat)
    (reserveDecimals tokenDecimals : Uint8) (totalSupply : Uint256) : Prop where
  isSet : state.reserve.reserveAddress ≠ 0
  round : ∃ answer : Sint256, ∃ updatedAt : Uint256, answer.toInt = reserve ∧
    p.latestRoundData state.reserve.reserveAddress state.world = some (answer, updatedAt) ∧
    updatedAt.toNat ≤ msg.timestamp.toNat ∧
    (0 < state.reserve.updatedAtThreshold.toNat →
      msg.timestamp.toNat - updatedAt.toNat ≤ state.reserve.updatedAtThreshold.toNat)
  feedDecimals : p.feedDecimals state.reserve.reserveAddress state.world = some reserveDecimals
  decimals : p.decimals state.tokenAddress state.world = tokenDecimals
  supply : p.totalSupply state.tokenAddress state.world = totalSupply

/-- A recent answer leaves the comparison in the common scale. -/
theorem check_of_answers {reserve : Nat} (sameReserve : currentReserve.toNat = reserve)
    (answers : FeedAnswers p environment before reserve reserveDecimals tokenDecimals totalSupply) :
    ReserveStorageWrapper.checkReserveAmount p amount environment before =
      (do let (scaledReserve, scaledSupply, scaledAmount) ←
            ReserveStorageWrapper.rescale tokenDecimals reserveDecimals currentReserve totalSupply
              amount
          let required : Uint256 ←
            arithmetic (Uint.checked (scaledSupply.toNat + scaledAmount.toNat))
          return decide (scaledReserve.toNat ≥ required.toNat) : FacetTx world Bool)
        environment before := by
  obtain ⟨answer, updatedAt, value, answered, past, fresh⟩ := answers.round
  have asked : ReserveStorageWrapper.getReserveAmount p environment before =
      .ok ((answer, updatedAt), before) := by
    rw [ReserveStorageWrapper.getReserveAmount, Tx.bind_of_ok (Tx.get_ok.mpr ⟨rfl, rfl⟩),
      if_pos answers.isSet]
    exact Tx.of_option_ok.mpr ⟨answered, rfl⟩
  have recent : ¬ (before.reserve.updatedAtThreshold.toNat > 0 ∧
      environment.timestamp.toNat - updatedAt.toNat > before.reserve.updatedAtThreshold.toNat) := by
    intro old
    have age := fresh old.1
    omega
  have passed {condition : Prop} [Decidable condition] {failure : Revert} (met : condition) :
      Tx.require condition failure environment before = .ok ((), before) :=
    Tx.require_ok.mpr ⟨met, rfl⟩
  have nonNegative : 0 ≤ answer.toInt := by omega
  have cast : (currentReserve.toNat : Int) = answer.toInt := by omega
  rw [ReserveStorageWrapper.checkReserveAmount, Tx.bind_of_ok (Tx.get_ok.mpr ⟨rfl, rfl⟩),
    if_neg answers.isSet, Tx.bind_of_ok asked]
  dsimp only
  rw [Tx.bind_of_ok (Tx.read_ok.mpr ⟨rfl, rfl⟩),
    Tx.bind_of_ok (passed past), Tx.bind_of_ok (passed recent), Tx.bind_of_ok (passed nonNegative),
    Tx.bind_of_ok (arithmetic_of_eq cast),
    Tx.bind_of_ok (Tx.of_option_ok.mpr ⟨answers.feedDecimals, rfl⟩),
    Tx.bind_of_ok (TokenOwnerStorageWrapper.decimals_ok.mpr ⟨answers.decimals, rfl⟩),
    Tx.bind_of_ok (TokenOwnerStorageWrapper.total_supply_ok.mpr ⟨answers.supply, rfl⟩)]

theorem aligned_add (digits other first second : Nat) :
    aligned digits other (first + second) = aligned digits other first + aligned digits other second :=
  Nat.add_mul ..

theorem check_ok {reserve : Nat} {covered : Bool}
    (answers : FeedAnswers p environment before reserve reserveDecimals tokenDecimals totalSupply) :
    ReserveStorageWrapper.checkReserveAmount p amount environment before = .ok (covered, after) ↔
      before = after ∧ Expressible tokenDecimals reserveDecimals amount ∧
        Fits tokenDecimals.toNat reserveDecimals.toNat (totalSupply.toNat + amount.toNat) reserve ∧
        covered = decide (aligned tokenDecimals.toNat reserveDecimals.toNat
            (totalSupply.toNat + amount.toNat) ≤
          aligned reserveDecimals.toNat tokenDecimals.toNat reserve) := by
  obtain ⟨currentReserve, sameReserve⟩ : ∃ word : Uint256, word.toNat = reserve := by
    obtain ⟨answer, _, value, _⟩ := answers.round
    have upper := answer.upper
    exact word_of_lt (by omega)
  rw [check_of_answers sameReserve answers]
  simp only [Tx.bind_ok, rescale_iff, Tx.of_option_ok, Uint.checked_eq_some, Tx.pure_ok,
    sameReserve, aligned_add]
  constructor
  · intro committed
    obtain ⟨scaled, _, ⟨rfl, expressible, tokenPower, reservePower, reserveSide, supplySide,
      amountSide⟩, required, _, ⟨sum, rfl⟩, rfl, rfl⟩ := committed
    have total : required.toNat = scaled.2.1.toNat + scaled.2.2.toNat := by exact_mod_cast sum
    refine ⟨rfl, expressible, ⟨tokenPower, reservePower, ?_, ?_⟩, ?_⟩
    · rw [aligned_add, ← supplySide, ← amountSide, ← total]
      exact required.bound
    · rw [← reserveSide]
      exact scaled.1.bound
    · rw [total, supplySide, amountSide, reserveSide]
  · intro described
    obtain ⟨rfl, expressible, fits, rfl⟩ := described
    have supplyFits := fits.supplyFits
    rw [aligned_add] at supplyFits
    obtain ⟨scaledReserve, reserveSide⟩ := word_of_lt fits.reserveFits
    obtain ⟨scaledSupply, supplySide⟩ := word_of_lt (Nat.lt_of_le_of_lt (Nat.le_add_right ..) supplyFits)
    obtain ⟨scaledAmount, amountSide⟩ := word_of_lt (Nat.lt_of_le_of_lt (Nat.le_add_left ..) supplyFits)
    obtain ⟨required, sum⟩ := word_of_lt supplyFits
    refine ⟨(scaledReserve, scaledSupply, scaledAmount), _, ⟨rfl, expressible, fits.tokenPower,
      fits.reservePower, reserveSide, supplySide, amountSide⟩, required, _, ⟨?_, rfl⟩, ?_, rfl⟩
    · rw [supplySide, amountSide]
      exact_mod_cast sum
    · rw [sum, reserveSide]

/-- An amount that the feed cannot express is named in the error. -/
theorem check_refused {reserve : Nat}
    (answers : FeedAnswers p environment before reserve reserveDecimals tokenDecimals totalSupply)
    (fits : 10 ^ (tokenDecimals.toNat - reserveDecimals.toNat) < 2 ^ 256)
    (inexpressible : ¬ Expressible tokenDecimals reserveDecimals amount) :
    ReserveStorageWrapper.checkReserveAmount p amount environment before =
      .error (.formatNumberIncorrect amount) := by
  obtain ⟨currentReserve, sameReserve⟩ : ∃ word : Uint256, word.toNat = reserve := by
    obtain ⟨answer, _, value, _⟩ := answers.round
    have upper := answer.upper
    exact word_of_lt (by omega)
  obtain ⟨finer, indivisible⟩ := Classical.not_imp.mp inexpressible
  obtain ⟨factor, power⟩ := word_of_lt fits
  have refused : ¬ amount.toNat % factor.toNat = 0 := by
    rw [power]
    exact fun divisible => indivisible (Nat.dvd_of_mod_eq_zero divisible)
  rw [check_of_answers sameReserve answers, Tx.bind_error]
  apply Or.inl
  rw [ReserveStorageWrapper.rescale, if_pos finer,
    Tx.bind_of_ok (ReserveStorageWrapper.scale_ok.mpr ⟨Nat.le_of_lt finer, power, rfl⟩),
    Tx.bind_error]
  exact Or.inl (Tx.require_error.mpr ⟨refused, rfl⟩)

end Mint

/-! ## Both -/

/-- The reserve covers the supply, as rationals. -/
def Covered (tokenDecimals reserveDecimals supply reserve : Nat) : Prop :=
  (supply : ℚ) / 10 ^ tokenDecimals ≤ (reserve : ℚ) / 10 ^ reserveDecimals

theorem aligned_iff_covered {tokenDecimals reserveDecimals supply reserve : Nat} :
    aligned tokenDecimals reserveDecimals supply ≤ aligned reserveDecimals tokenDecimals reserve ↔
      Covered tokenDecimals reserveDecimals supply reserve :=
  aligned_le_aligned_iff

variable {world factoryState : Type} {p : Platform world} {msg : Msg} {state : State world}
  {factory : factoryState} {reserve : Nat} {tokenDecimals reserveDecimals : Uint8}
  {totalSupply amount : Uint256} {answer : Sint256} {decimals : Sint32} {total : Sint64}

/-- What the two checks answer: the factory for `total` as the first supply,
the coin for a mint of `amount`. -/
structure SameRule (p : Platform world) (msg : Msg) (factory : factoryState) (state : State world)
    (reserveDecimals : Uint8) (answer : Sint256) (decimals : Sint32) (total : Sint64)
    (amount : Uint256) (covered expressible : Prop) : Prop where
  deployment :
    validationReserveInitialAmount reserveDecimals answer decimals total msg factory =
      .ok ((), factory) ↔ covered
  mint : ReserveStorageWrapper.checkReserveAmount p amount msg state = .ok (true, state) ↔
    covered ∧ expressible
  uncovered : expressible → ¬ covered →
    ReserveStorageWrapper.checkReserveAmount p amount msg state = .ok (false, state)
  inexpressible : ¬ expressible →
    ReserveStorageWrapper.checkReserveAmount p amount msg state =
      .error (.formatNumberIncorrect amount)

structure BothRevert (p : Platform world) (msg : Msg) (factory : factoryState)
    (state : State world) (reserveDecimals : Uint8) (answer : Sint256) (decimals : Sint32)
    (total : Sint64) (amount : Uint256) : Prop where
  deployment : ∃ failure,
    validationReserveInitialAmount reserveDecimals answer decimals total msg factory =
      .error failure
  mint : ∃ failure,
    ReserveStorageWrapper.checkReserveAmount p amount msg state = .error failure

/-- For all decimals, reserves, supplies and amounts. -/
theorem same_reserve_rule (factory : factoryState)
    (answers : FeedAnswers p msg state reserve reserveDecimals tokenDecimals totalSupply)
    (sameReserve : answer.toInt = reserve) (sameDecimals : decimals.toInt = tokenDecimals.toNat)
    (sameTotal : total.toInt = (totalSupply.toNat + amount.toNat : Nat)) :
    (Fits tokenDecimals.toNat reserveDecimals.toNat (totalSupply.toNat + amount.toNat) reserve →
      SameRule p msg factory state reserveDecimals answer decimals total amount
        (Covered tokenDecimals.toNat reserveDecimals.toNat (totalSupply.toNat + amount.toNat)
          reserve)
        (Expressible tokenDecimals reserveDecimals amount)) ∧
    (¬ Fits tokenDecimals.toNat reserveDecimals.toNat (totalSupply.toNat + amount.toNat) reserve →
      BothRevert p msg factory state reserveDecimals answer decimals total amount) := by
  constructor
  · intro fits
    constructor
    · rw [validation_ok sameReserve sameDecimals sameTotal, aligned_iff_covered]
      exact ⟨fun accepted => accepted.2.2, fun covered => ⟨rfl, fits, covered⟩⟩
    · rw [check_ok answers, ← aligned_iff_covered]
      constructor
      · intro accepted
        obtain ⟨_, expressible, _, covered⟩ := accepted
        exact ⟨of_decide_eq_true covered.symm, expressible⟩
      · intro described
        obtain ⟨covered, expressible⟩ := described
        exact ⟨rfl, expressible, fits, (decide_eq_true covered).symm⟩
    · intro expressible uncovered
      rw [check_ok answers]
      refine ⟨rfl, expressible, fits, (decide_eq_false ?_).symm⟩
      rw [aligned_iff_covered]
      exact uncovered
    · exact check_refused answers fits.tokenPower
  · intro overflow
    constructor
    · cases outcome : validationReserveInitialAmount reserveDecimals answer decimals total msg
          factory with
      | error failure => exact ⟨failure, rfl⟩
      | ok pair =>
          have accepted := (validation_ok sameReserve sameDecimals sameTotal).mp outcome
          exact (overflow accepted.2.1).elim
    · cases outcome : ReserveStorageWrapper.checkReserveAmount p amount msg state with
      | error failure => exact ⟨failure, rfl⟩
      | ok pair =>
          have accepted := (check_ok answers).mp outcome
          exact (overflow accepted.2.2.1).elim

/-- A feed with two decimals answers 20.00 for a token with three of them. -/
def finerLedger : Ledger where
  balances _ := 0
  supply := units256 15000
  tokenDecimals := ⟨3, by decide⟩
  round := some (⟨2000, by decide, by decide⟩, units256 1)
  roundDecimals := ⟨2, by decide⟩

def finerCoin : State Ledger :=
  { deployed RolesStorage.empty finerLedger with reserve := ⟨9, 0⟩ }

/-- With 15.000 issued another 5.000 are covered, and one unit has no place in
the feed. -/
theorem same_reserve_rule_on_samples :
    SameRule (reference 1) (sampleMsg 5 2) () finerCoin ⟨2, by decide⟩
        ⟨2000, by decide, by decide⟩ ⟨3, by decide, by decide⟩ (units64 20000) (units256 5000)
        (Covered 3 2 20000 2000) (Expressible ⟨3, by decide⟩ ⟨2, by decide⟩ (units256 5000)) ∧
      SameRule (reference 1) (sampleMsg 5 2) () finerCoin ⟨2, by decide⟩
        ⟨2000, by decide, by decide⟩ ⟨3, by decide, by decide⟩ (units64 15001) (units256 1)
        (Covered 3 2 15001 2000) (Expressible ⟨3, by decide⟩ ⟨2, by decide⟩ (units256 1)) := by
  have answers : FeedAnswers (reference 1) (sampleMsg 5 2) finerCoin 2000 ⟨2, by decide⟩
      ⟨3, by decide⟩ (units256 15000) :=
    ⟨by decide, ⟨_, units256 1, rfl, rfl, by decide, by decide⟩, rfl, rfl, rfl⟩
  exact ⟨(same_reserve_rule () answers rfl rfl rfl).1 ⟨by decide, by decide, by decide, by decide⟩,
    (same_reserve_rule () answers rfl rfl rfl).1 ⟨by decide, by decide, by decide, by decide⟩⟩

end StablecoinStudio.Token.ReserveRule
