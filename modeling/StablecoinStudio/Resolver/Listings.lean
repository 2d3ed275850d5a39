import StablecoinStudio.Core.LibCommon
import StablecoinStudio.Resolver.DiamondCutManagerWrapper

/-!
# Listings of the resolver

The listings are asked for page by page. Their loops differ in what they read
for an item and in how they count, and all of them cut the list in the same
way. The end of a page is computed without regard to the end of the list, so a
page that would end beyond the largest word is a failure.
-/

namespace StablecoinStudio.Resolver.Listings

open StablecoinStudio.Core.Common
open StablecoinStudio.Core.EnumerableSetBytes4
open StablecoinStudio.Core.LibCommon
open StablecoinStudio.Foundation.CheckedInt
open StablecoinStudio.Foundation.Pages
open StablecoinStudio.Foundation.Transaction
open StablecoinStudio.Resolver.BusinessLogicResolverWrapper
open StablecoinStudio.Resolver.DiamondCutManagerWrapper

set_option autoImplicit false

instance : Inhabited Facet := ⟨⟨0, 0, [], []⟩⟩

section Calls

variable {state item : Type}

/-- Two functions of the source, for items of 32 bytes and of four. -/
def buildPaginated [Inhabited item] (source : List item) (pageIndex pageLength : Uint256) :
    ContractTx state (List item) := do
  let (start, end_) ← getStartAndEnd pageIndex pageLength
  let size ← getSize start end_ source.length
  fillByStart (load source) start size

def getBusinessLogicKeys (pageIndex pageLength : Uint256) : RegistryTx (List Bytes32) := do
  let storage ← Tx.get
  let (start, end_) ← getStartAndEnd pageIndex pageLength
  let size ← getSize start end_ storage.activeBusinessLogics.length
  fillByIndex (load storage.activeBusinessLogics) start size

variable (dcms : DiamondCutManagerStorage) (configurationId : Bytes32) (version : Nat)
  (pageIndex pageLength : Uint256)

def getFacetsByConfigurationIdAndVersion : ContractTx state (List Facet) := do
  let facetIds := dcms.facetIds (configurationId, resolveVersion dcms configurationId version)
  let (start, end_) ← getStartAndEnd pageIndex pageLength
  let size ← getSize start end_ facetIds.length
  let version := resolveVersion dcms configurationId version
  fillByStart
    (fun start => do
      let facetId ← load facetIds start
      return getFacetByConfigurationIdVersionAndFacetId dcms configurationId version facetId)
    start size

def getFacetAddressesByConfigurationIdAndVersion : ContractTx state (List Address) := do
  let facetIds := dcms.facetIds (configurationId, resolveVersion dcms configurationId version)
  let (start, end_) ← getStartAndEnd pageIndex pageLength
  let size ← getSize start end_ facetIds.length
  fillByStart
    (fun start => do
      let facetId ← load facetIds start
      return dcms.addr ((configurationId, resolveVersion dcms configurationId version), facetId))
    start size

end Calls

/-! ## Whole lists -/

section Lists

variable (dcms : DiamondCutManagerStorage) (configurationId : Bytes32) (version : Nat)

def facetsOf : List Facet :=
  (getFacetIdsByConfigurationIdAndVersion dcms configurationId version).map
    (getFacetByConfigurationIdVersionAndFacetId dcms configurationId version)

def facetAddressesOf : List Address :=
  (facetsOf dcms configurationId version).map Facet.addr

theorem resolve_version_resolved :
    resolveVersion dcms configurationId (resolveVersion dcms configurationId version) =
      resolveVersion dcms configurationId version := by
  by_cases positive : version > 0
  · simp only [resolveVersion, positive, if_true]
  · simp only [resolveVersion, positive, if_false]
    exact ite_self _

end Lists

/-- What a listing should do with a list. The largest word bounds the end of a
page, not only its start. -/
structure Paginates {state item : Type} (msg : Msg) (before : state)
    (call : Uint256 → Uint256 → ContractTx state (List item)) (items : List item) : Prop where
  page : ∀ pageIndex pageLength : Uint256,
    pageIndex.toNat * pageLength.toNat + pageLength.toNat < 2 ^ 256 →
      call pageIndex pageLength msg before =
        .ok ((items.drop (pageIndex.toNat * pageLength.toNat)).take pageLength.toNat, before)
  all : ∀ pageLength : Uint256, 0 < pageLength.toNat →
    (items.length ⌈/⌉ pageLength.toNat) * pageLength.toNat < 2 ^ 256 →
      ∃ pages : List (List item), pages.length = items.length ⌈/⌉ pageLength.toNat ∧
        (∀ (pageIndex : Uint256) (inside : pageIndex.toNat < pages.length),
          call pageIndex pageLength msg before = .ok (pages[pageIndex.toNat], before)) ∧
        pages.flatten = items
  pastEnd : ∀ pageIndex pageLength : Uint256,
    pageIndex.toNat * pageLength.toNat + pageLength.toNat < 2 ^ 256 →
      items.length ≤ pageIndex.toNat * pageLength.toNat →
        call pageIndex pageLength msg before = .ok ([], before)
  lengthZero : ∀ pageIndex : Uint256, call pageIndex 0 msg before = .ok ([], before)

section Agreement

variable {state item : Type} {msg : Msg} {before : state}

theorem paginates {call : Uint256 → Uint256 → ContractTx state (List item)} {items : List item}
    (pageOf : ∀ pageIndex pageLength : Uint256,
      pageIndex.toNat * pageLength.toNat + pageLength.toNat < 2 ^ 256 →
        call pageIndex pageLength msg before =
          .ok (page items pageIndex.toNat pageLength.toNat, before)) :
    Paginates msg before call items where
  page := pageOf
  all := by
    intro pageLength positive fits
    refine ⟨(List.range (pageCount items.length pageLength.toNat)).map
      fun index => page items index pageLength.toNat, by rw [List.length_map, List.length_range]; rfl,
      ?_, ?_⟩
    · intro pageIndex inside
      rw [List.length_map, List.length_range] at inside
      have last : (pageIndex.toNat + 1) * pageLength.toNat ≤
          pageCount items.length pageLength.toNat * pageLength.toNat :=
        Nat.mul_le_mul_right _ inside
      rw [List.getElem_map, List.getElem_range]
      apply pageOf
      rw [← Nat.succ_mul]
      exact Nat.lt_of_le_of_lt last fits
    · rw [← List.flatMap_def]
      exact pages_cover items positive
  pastEnd := by
    intro pageIndex pageLength fits past
    rw [pageOf pageIndex pageLength fits, page_past_end past]
  lengthZero := by
    intro pageIndex
    have fits : pageIndex.toNat * (0 : Uint256).toNat + (0 : Uint256).toNat < 2 ^ 256 := by
      rw [Uint.to_nat_zero, Nat.mul_zero]
      decide
    rw [pageOf pageIndex 0 fits, Uint.to_nat_zero, page_of_length_zero]

theorem reads_load (items : List item) : Reads msg before (load items) items :=
  fun _ inside => load_ok inside

theorem reads_load_map {image : Type} (items : List item) (f : item → image) :
    Reads msg before
      (fun word => do
        let value ← load items word
        return f value : Uint256 → ContractTx state image)
      (items.map f) := by
  intro word inside
  have listed : word.toNat < items.length := by
    rw [List.length_map] at inside
    exact inside
  dsimp only
  rw [Tx.bind_of_ok (load_ok listed), List.getElem_map]
  rfl

theorem build_paginated [Inhabited item] (source : List item) :
    Paginates msg before (buildPaginated source) source :=
  paginates fun _ _ fits =>
    listed rfl (fun _ _ bounds => fill_by_start (reads_load source) bounds) fits

theorem get_business_logic_keys (storage : BusinessLogicResolverDataStorage) :
    Paginates msg storage getBusinessLogicKeys storage.activeBusinessLogics :=
  paginates fun _ _ fits => by
    rw [getBusinessLogicKeys, Tx.bind_of_ok (Tx.get_ok.mpr ⟨rfl, rfl⟩)]
    exact listed rfl (fun _ _ bounds => fill_by_index (reads_load _) bounds) fits

theorem get_from_set (set : Bytes4Set) : Paginates msg set getFromSet set.values := by
  have reads : Reads msg set (fun position => at_ position.toNat) set.values := by
    intro word inside
    dsimp only
    rw [at_, Tx.bind_of_ok (Tx.get_ok.mpr ⟨rfl, rfl⟩)]
    exact load_ok inside
  apply paginates
  intro _ _ fits
  rw [getFromSet, Tx.bind_of_ok (Tx.get_ok.mpr ⟨rfl, rfl⟩)]
  exact listed rfl (fun _ _ bounds => fill_by_index reads bounds) fits

variable (dcms : DiamondCutManagerStorage) (configurationId : Bytes32) (version : Nat)

/-- The version is resolved again for every facet. -/
theorem get_facets : Paginates msg before
    (getFacetsByConfigurationIdAndVersion dcms configurationId version)
    (facetsOf dcms configurationId version) := by
  have same : facetsOf dcms configurationId version =
      (getFacetIdsByConfigurationIdAndVersion dcms configurationId version).map
        (getFacetByConfigurationIdVersionAndFacetId dcms configurationId
          (resolveVersion dcms configurationId version)) := by
    unfold facetsOf getFacetByConfigurationIdVersionAndFacetId
    rw [resolve_version_resolved]
  rw [same]
  apply paginates
  intro _ _ fits
  exact listed (List.length_map _).symm
    (fun _ _ bounds => fill_by_start (reads_load_map _ _) bounds) fits

theorem get_facet_addresses : Paginates msg before
    (getFacetAddressesByConfigurationIdAndVersion dcms configurationId version)
    (facetAddressesOf dcms configurationId version) := by
  have same : facetAddressesOf dcms configurationId version =
      (getFacetIdsByConfigurationIdAndVersion dcms configurationId version).map
        fun facetId => dcms.addr
          ((configurationId, resolveVersion dcms configurationId version), facetId) :=
    List.map_map
  rw [same]
  apply paginates
  intro _ _ fits
  exact listed (List.length_map _).symm
    (fun _ _ bounds => fill_by_start (reads_load_map _ _) bounds) fits

end Agreement

/-- Every listing of the resolver hands out its list page by page. -/
theorem listings_paginate {state : Type} (msg : Msg) (before : state) :
    (∀ storage : BusinessLogicResolverDataStorage,
      Paginates msg storage getBusinessLogicKeys storage.activeBusinessLogics) ∧
    (∀ source : List Bytes32, Paginates msg before (buildPaginated source) source) ∧
    (∀ source : List Bytes4, Paginates msg before (buildPaginated source) source) ∧
    (∀ set : Bytes4Set, Paginates msg set getFromSet set.values) ∧
    ∀ (dcms : DiamondCutManagerStorage) (configurationId : Bytes32) (version : Nat),
      Paginates msg before (getFacetsByConfigurationIdAndVersion dcms configurationId version)
        (facetsOf dcms configurationId version) ∧
      Paginates msg before
        (getFacetAddressesByConfigurationIdAndVersion dcms configurationId version)
        (facetAddressesOf dcms configurationId version) :=
  ⟨get_business_logic_keys, build_paginated, build_paginated, get_from_set,
    fun dcms configurationId version =>
      ⟨get_facets dcms configurationId version, get_facet_addresses dcms configurationId version⟩⟩

/-- The second page of half the words starts at a word and ends beyond the
largest one. -/
theorem second_half_of_the_words :
    ¬∀ (msg : Msg) (source : List Bytes32) (pageIndex pageLength : Uint256),
      0 < pageLength.toNat → pageIndex.toNat * pageLength.toNat < 2 ^ 256 →
        source.length ≤ pageIndex.toNat * pageLength.toNat →
          buildPaginated source pageIndex pageLength msg () = .ok ([], ()) := by
  intro empty
  have failed : buildPaginated ([] : List Bytes32) ⟨1, by decide⟩ ⟨2 ^ 255, by decide⟩
      ⟨0, 0, 0⟩ () = .error (.panic .arithmetic) := rfl
  have listed := empty ⟨0, 0, 0⟩ [] ⟨1, by decide⟩ ⟨2 ^ 255, by decide⟩ (by decide) (by decide)
    (Nat.zero_le _)
  rw [failed] at listed
  cases listed

end StablecoinStudio.Resolver.Listings
