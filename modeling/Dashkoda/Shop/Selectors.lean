import Dashkoda.Lib.PyText
import Dashkoda.Lib.Ranking
import Dashkoda.Lib.Tally
import Dashkoda.Shop.Models
import Dashkoda.Shop.Periods
import Mathlib.Data.Finset.Sort

/-!
# What the stored E-pood dataset answers

One row for each product in scope, with its Commerce measures in the chosen window, its units in the
window before, and the views of its pages.
-/

open Lib

namespace Dashkoda.Shop.Selectors

open EventProgramme (Ga4Snapshot currentDays currentPages)

/-- What the pages read, with what the constraints of the tables promise. -/
structure ShopTables where
  products : List ShopProduct
  snapshots : List ShopProductSnapshot
  facts : List ShopDailyFact
  pages : List ShopProductPage
  ga4 : List Ga4Snapshot
  one_pk : (products.map (·.pk)).Nodup
  one_id : (products.map (·.sourceProductId)).Nodup
  snapshot_product : ∀ snapshot ∈ snapshots, ∃ product ∈ products, product.pk = snapshot.key.1
  one_observation : ((snapshots.filter (·.isCurrent)).map (·.key)).Nodup

structure Filters where
  productTypes : List String
  categoryTermIds : List Int
  memberStatus : String

structure PageViewFigure where
  path : String
  views : Option Int
  isMeasuredZero : Bool
  deriving DecidableEq

structure ProductRow where
  sourceProductId : Nat
  productType : ProductType
  title : String
  categoryTermId : Option Int
  categoryName : String
  published : Option Bool
  publiclyListed : Option Bool
  productPath : String
  informationPath : String
  eventPath : String
  orders : Nat
  units : ℚ
  orderedValueNet : ℚ
  productPageViews : Option PageViewFigure
  informationPageViews : Option PageViewFigure
  eventPageViews : Option PageViewFigure
  conversionUnits : ℚ
  previousUnits : ℚ

/-- Some order in which a set of keys is iterated. -/
structure SetOrder where
  keys : Finset Nat → List Nat
  nodup : ∀ s, (keys s).Nodup
  mem_keys : ∀ s pk, pk ∈ keys s ↔ pk ∈ s

/-- In order of their numbers. -/
def ascending : SetOrder where
  keys s := s.sort (· ≤ ·)
  nodup s := s.sort_nodup (· ≤ ·)
  mem_keys s _ := s.mem_sort (· ≤ ·)

section Read

variable (tables : ShopTables)

def productOf (pk : Nat) : Option ShopProduct :=
  tables.products.find? fun product => product.pk = pk

/-- `latest_snapshots`: the newest current observation of a product. -/
def latestSnapshot (pk : Nat) : Option ShopProductSnapshot :=
  minOn? (fun snapshot => OrderDual.toDual snapshot.key.2)
    (tables.snapshots.filter fun snapshot => snapshot.isCurrent && snapshot.key.1 = pk)

/-- `product__product_type__in` -/
def hasType (productTypes : List String) (pk : Nat) : Bool :=
  (productOf tables pk).any fun product => product.productType.value ∈ productTypes

/-- `_product_pks_in_categories` -/
def inCategories (categoryTermIds : List Int) (pk : Nat) : Bool :=
  (latestSnapshot tables pk).any fun snapshot =>
    snapshot.fields.categoryTermId.any fun termId => termId ∈ categoryTermIds

/-- The type and the category of the product. -/
def productInScope (filters : Filters) (pk : Nat) : Bool :=
  (filters.productTypes = [] || hasType tables filters.productTypes pk) &&
    (filters.categoryTermIds = [] || inCategories tables filters.categoryTermIds pk)

def datedWithin (first last : Date) (fact : ShopDailyFact) : Bool :=
  fact.isCurrent && first ≤ fact.key.reportDate && fact.key.reportDate ≤ last

/-- `_facts_in_window` -/
def factsInWindow (first last : Option Date) (filters : Filters) : List ShopDailyFact :=
  match first, last with
  | some first, some last => tables.facts.filter fun fact => datedWithin first last fact &&
      productInScope tables filters fact.key.product &&
      (filters.memberStatus = "" || fact.key.memberStatus.value = filters.memberStatus)
  | _, _ => []

structure Measures where
  orders : Nat
  units : ℚ
  value : ℚ

/-- `_measures`: the sums of a product's facts, if it has any. -/
def measures (rows : List ShopDailyFact) (pk : Nat) : Option Measures :=
  let own := rows.filter fun fact => fact.key.product = pk
  if own = [] then none
  else some ⟨total (·.fields.orderCount) own, total (·.fields.units) own,
    total (·.fields.orderedValueNet) own⟩

/-- `_units_by_product`, `ZERO` where the product has no facts. -/
def unitsByProduct (first last : Option Date) (filters : Filters) (pk : Nat) : ℚ :=
  match first, last with
  | some first, some last => totalAt (·.key.product) (·.fields.units)
      (tables.facts.filter fun fact =>
        datedWithin first last fact && productInScope tables filters fact.key.product) pk
  | _, _ => 0

/-- `paths_by_product`, blank where the product has no page of the role. -/
def pathOf (pk : Nat) (role : PageRole) : String :=
  (((tables.pages.filter fun page => page.isCurrent && page.product = pk && page.pageRole =
    role).getLast?).map
    (·.path)).getD ""

/-- `page_views_in_window` for one path. -/
def pageViews (window : ComparisonWindow) (path : String) : Option PageViewFigure :=
  if path = "" || !window.hasWeb then none
  else
    let rows := (currentPages tables.ga4).filter fun row => row.2.path = path &&
      window.webStart.any (fun first => first ≤ row.1) && window.webEnd.any fun last => row.1 ≤ last
    if rows ≠ [] then some ⟨path, some (total (·.2.pageViews) rows), false⟩
    else if window.pageDetailComplete then some ⟨path, some 0, true⟩ else none

variable (casefold : String → String)

/-- `part in text` -/
def contains (text part : String) : Bool := decide (part.toList <:+: text.toList)

/-- The search term is in the title or a path of the product, or is its number. -/
def found (search : String) (product : ShopProduct) (snapshot : ShopProductSnapshot) : Bool :=
  let term := casefold (PyText.strip search)
  term = "" || contains (casefold snapshot.fields.title) term ||
    contains (casefold (pathOf tables product.pk .product)) term ||
    contains (casefold (pathOf tables product.pk .information)) term ||
    contains (casefold (pathOf tables product.pk .event)) term || term =
      toString product.sourceProductId

/-- The row of one product, if it has a catalogue observation and the search finds it. -/
def productRow (window : ComparisonWindow) (filters : Filters) (search : String)
    (previousStart previousEnd : Option Date) (pk : Nat) : Option ProductRow := do
  let snapshot ← latestSnapshot tables pk
  let product ← productOf tables pk
  if found tables casefold search product snapshot then
    let own := measures (factsInWindow tables window.commerceStart window.commerceEnd filters) pk
    let conversion := if window.hasWeb then
        measures (factsInWindow tables window.webStart window.webEnd filters) pk
      else none
    let figure (role : PageRole) := pageViews tables window (pathOf tables pk role)
    some {
      sourceProductId := product.sourceProductId
      productType := product.productType
      title := snapshot.fields.title
      categoryTermId := snapshot.fields.categoryTermId
      categoryName := snapshot.fields.categoryName
      published := snapshot.fields.published
      publiclyListed := snapshot.fields.publiclyListed
      productPath := pathOf tables pk .product
      informationPath := pathOf tables pk .information
      eventPath := pathOf tables pk .event
      orders := (own.map (·.orders)).getD 0
      units := (own.map (·.units)).getD 0
      orderedValueNet := (own.map (·.value)).getD 0
      productPageViews := figure .product
      informationPageViews := figure .information
      eventPageViews := figure .event
      conversionUnits := (conversion.map (·.units)).getD 0
      previousUnits := unitsByProduct tables previousStart previousEnd filters pk }
  else none

/-- The keys of the facts in the window and of the observed products, in scope. -/
def wantedPks (window : ComparisonWindow) (filters : Filters) : Finset Nat :=
  ((((factsInWindow tables window.commerceStart window.commerceEnd filters).map (·.key.product)) ++
    ((tables.snapshots.filter (·.isCurrent)).map (·.key.1))).toFinset).filter fun pk =>
      (filters.productTypes = [] || (latestSnapshot tables pk).isSome && hasType tables
        filters.productTypes pk) &&
      (filters.categoryTermIds = [] || inCategories tables filters.categoryTermIds pk)

/-- `build_product_rows` -/
def buildProductRows (order : SetOrder) (window : ComparisonWindow) (filters : Filters)
    (search : String)
    (previousStart previousEnd : Option Date) : List ProductRow :=
  if window.hasCommerce then
    (order.keys (wantedPks tables window filters)).filterMap
      (productRow tables casefold window filters search previousStart previousEnd)
  else []

end Read

/-! ## Which products have a row -/

section Rows

variable {tables : ShopTables} {casefold : String → String} {window : ComparisonWindow}
  {filters : Filters}
  {search : String} {previousStart previousEnd : Option Date} {order : SetOrder} {pk : Nat}

/-- The product passes the filters of the page and is found by the search. -/
def Listed (tables : ShopTables) (casefold : String → String) (filters : Filters) (search : String)
    (pk : Nat) :
    Prop :=
  productInScope tables filters pk = true ∧ ∃ snapshot product, latestSnapshot tables pk =
    some snapshot ∧
    productOf tables pk = some product ∧ found tables casefold search product snapshot = true

theorem productOf_pk {product : ShopProduct} (h : productOf tables pk = some product) :
    product ∈ tables.products ∧ product.pk = pk := by
  have hfind : tables.products.find? (fun product => product.pk = pk) = some product := h
  have hpk := List.find?_some hfind
  exact ⟨List.mem_of_find?_eq_some hfind, of_decide_eq_true hpk⟩

theorem latestSnapshot_mem {snapshot : ShopProductSnapshot}
    (h : latestSnapshot tables pk = some snapshot) :
    snapshot ∈ tables.snapshots ∧ snapshot.isCurrent = true ∧ snapshot.key.1 = pk := by
  have hmem := List.mem_filter.mp (minOn?_mem h)
  rw [Bool.and_eq_true, decide_eq_true_eq] at hmem
  exact hmem

/-- A product gets a row exactly if it is in scope, observed and found. -/
theorem productRow_eq_some_iff {row : ProductRow} :
    productRow tables casefold window filters search previousStart previousEnd pk = some row ↔
      ∃ snapshot product, latestSnapshot tables pk = some snapshot ∧
      productOf tables pk = some product ∧
        found tables casefold search product snapshot = true ∧
        productRow tables casefold window filters search previousStart previousEnd pk =
          some row := by
  refine ⟨fun h => ?_, fun ⟨_, _, _, _, _, h⟩ => h⟩
  have hrow := h
  unfold productRow at h
  obtain ⟨snapshot, hsnapshot, h⟩ := Option.bind_eq_some_iff.mp h
  obtain ⟨product, hproduct, h⟩ := Option.bind_eq_some_iff.mp h
  by_cases hfound : found tables casefold search product snapshot = true
  · exact ⟨snapshot, product, hsnapshot, hproduct, hfound, hrow⟩
  · rw [if_neg hfound] at h
    cases h

theorem isSome_productRow :
    (∃ row, productRow tables casefold window filters search previousStart previousEnd pk =
      some row) ↔ ∃ snapshot product, latestSnapshot tables pk = some snapshot ∧
        productOf tables pk = some product ∧
        found tables casefold search product snapshot = true := by
  constructor
  · rintro ⟨row, hrow⟩
    obtain ⟨snapshot, product, hsnapshot, hproduct, hfound, -⟩ := productRow_eq_some_iff.mp hrow
    exact ⟨snapshot, product, hsnapshot, hproduct, hfound⟩
  · rintro ⟨snapshot, product, hsnapshot, hproduct, hfound⟩
    unfold productRow
    rw [hsnapshot, hproduct]
    show ∃ row, (if found tables casefold search product snapshot = true then _ else
      none) = some row
    rw [if_pos hfound]
    exact ⟨_, rfl⟩

/-- An observed product is wanted exactly if it is in scope. -/
theorem mem_wantedPks {snapshot : ShopProductSnapshot}
    (h : latestSnapshot tables pk = some snapshot) :
    pk ∈ wantedPks tables window filters ↔ productInScope tables filters pk = true := by
  obtain ⟨hmem, hcurrent, hkey⟩ := latestSnapshot_mem h
  have hobserved :
      pk ∈ ((((factsInWindow tables window.commerceStart window.commerceEnd filters).map
      (·.key.product)) ++ ((tables.snapshots.filter (·.isCurrent)).map (·.key.1))).toFinset) := by
    rw [List.mem_toFinset, List.mem_append]
    exact Or.inr (List.mem_map.mpr ⟨snapshot, List.mem_filter.mpr ⟨hmem, hcurrent⟩, hkey⟩)
  unfold wantedPks productInScope
  rw [Finset.mem_filter, h]
  simp only [Option.isSome_some, Bool.true_and]
  exact ⟨fun hboth => hboth.2, fun hscope => ⟨hobserved, hscope⟩⟩

/-- The rows of the page are the rows of the listed products. -/
theorem mem_buildProductRows {row : ProductRow} (h : window.hasCommerce = true) :
    row ∈ buildProductRows tables casefold order window filters search previousStart previousEnd ↔
      ∃ pk, Listed tables casefold filters search pk ∧
        productRow tables casefold window filters search previousStart previousEnd pk =
          some row := by
  unfold buildProductRows
  rw [if_pos h, List.mem_filterMap]
  constructor
  · rintro ⟨pk, hpk, hrow⟩
    obtain ⟨snapshot, product, hsnapshot, hproduct, hfound, -⟩ := productRow_eq_some_iff.mp hrow
    have hscope := (mem_wantedPks hsnapshot).mp ((order.mem_keys _ pk).mp hpk)
    exact ⟨pk, ⟨hscope, snapshot, product, hsnapshot, hproduct, hfound⟩, hrow⟩
  · rintro ⟨pk, ⟨hscope, snapshot, product, hsnapshot, hproduct, hfound⟩, hrow⟩
    exact ⟨pk, (order.mem_keys _ pk).mpr ((mem_wantedPks hsnapshot).mpr hscope), hrow⟩

/-- A row shows its product's number and the units of both windows. -/
theorem productRow_spec {row : ProductRow}
    (h : productRow tables casefold window filters search previousStart previousEnd pk = some row) :
    (∃ product, productOf tables pk = some product ∧
      row.sourceProductId = product.sourceProductId) ∧
      row.units =
        ((measures (factsInWindow tables window.commerceStart window.commerceEnd filters) pk).map
        (·.units)).getD 0 ∧
      row.previousUnits = unitsByProduct tables previousStart previousEnd filters pk := by
  unfold productRow at h
  obtain ⟨snapshot, hsnapshot, h⟩ := Option.bind_eq_some_iff.mp h
  obtain ⟨product, hproduct, h⟩ := Option.bind_eq_some_iff.mp h
  by_cases hfound : found tables casefold search product snapshot = true
  · rw [if_pos hfound] at h
    cases h
    exact ⟨⟨product, hproduct, rfl⟩, rfl, rfl⟩
  · rw [if_neg hfound] at h
    cases h

end Rows

/-! ## Units under the filters -/

section Units

variable {tables : ShopTables} {filters : Filters} {pk : Nat} {first last : Date}

theorem units_measures (rows : List ShopDailyFact) (pk : Nat) :
    ((measures rows pk).map (·.units)).getD 0 = totalAt (·.key.product)
      (·.fields.units) rows pk := by
  unfold measures totalAt
  dsimp only
  by_cases hnone : (rows.filter fun fact => fact.key.product = pk) = []
  · rw [if_pos hnone, hnone]
    rfl
  · rw [if_neg hnone]
    rfl

/-- What does not pass a filter adds up to the rest. -/
theorem total_filter_add (rows : List ShopDailyFact) (p : ShopDailyFact → Bool) :
    total (·.fields.units) rows = total (·.fields.units) (rows.filter p) +
      total (·.fields.units) (rows.filter fun fact => !p fact) := by
  rw [← total_append]
  exact (total_perm _ (List.filter_append_perm p rows)).symm

def productFacts (tables : ShopTables) (first last : Date) (pk : Nat) : List ShopDailyFact :=
  tables.facts.filter fun fact => datedWithin first last fact && fact.key.product = pk

/-- The units of a product's facts of another status than the one asked for. -/
def otherStatusUnits (tables : ShopTables) (first last : Date) (memberStatus : String)
    (pk : Nat) : ℚ :=
  total (·.fields.units) ((productFacts tables first last pk).filter fun fact =>
    !(memberStatus = "" || fact.key.memberStatus.value = memberStatus))

/-- The previous units count every status of the product. -/
theorem unitsByProduct_eq (h : productInScope tables filters pk = true) :
    unitsByProduct tables (some first) (some last) filters pk =
      total (·.fields.units) (productFacts tables first last pk) := by
  unfold unitsByProduct totalAt productFacts
  dsimp only
  rw [List.filter_filter]
  congr 1
  apply List.filter_congr
  intro fact _
  by_cases hpk : fact.key.product = pk
  · have hscope : productInScope tables filters fact.key.product = true := hpk ▸ h
    rw [hscope, decide_eq_true hpk, Bool.true_and, Bool.and_true]
  · rw [decide_eq_false hpk, Bool.false_and, Bool.and_false]

/-- The units of a window count the status asked for. -/
theorem units_factsInWindow (h : productInScope tables filters pk = true) :
    ((measures (factsInWindow tables (some first) (some last) filters) pk).map (·.units)).getD 0 =
      total (·.fields.units) ((productFacts tables first last pk).filter fun fact =>
        filters.memberStatus = "" || fact.key.memberStatus.value = filters.memberStatus) := by
  rw [units_measures]
  unfold factsInWindow totalAt productFacts
  dsimp only
  rw [List.filter_filter, List.filter_filter]
  congr 1
  apply List.filter_congr
  intro fact _
  by_cases hpk : fact.key.product = pk
  · have hscope : productInScope tables filters fact.key.product = true := hpk ▸ h
    rw [hscope, decide_eq_true hpk, Bool.true_and, Bool.and_true, Bool.and_comm]
  · rw [decide_eq_false hpk, Bool.false_and, Bool.and_false, Bool.and_false]

/-- The two agree exactly if the other statuses add nothing. -/
theorem previous_eq_units_iff (h : productInScope tables filters pk = true) :
    unitsByProduct tables (some first) (some last) filters pk =
        ((measures (factsInWindow tables (some first) (some last) filters) pk).map
          (·.units)).getD 0 ↔
      otherStatusUnits tables first last filters.memberStatus pk = 0 := by
  rw [unitsByProduct_eq h, units_factsInWindow h]
  have hsplit := total_filter_add (productFacts tables first last pk) fun fact =>
    filters.memberStatus = "" || fact.key.memberStatus.value = filters.memberStatus
  unfold otherStatusUnits
  constructor
  · intro heq
    rw [heq] at hsplit
    exact left_eq_add.mp hsplit
  · intro hzero
    rw [hsplit, hzero, add_zero]

end Units

/-! ## The order of the stored facts -/

section Order

variable {tables : ShopTables} {filters : Filters} {facts : List ShopDailyFact}

/-- The same tables with their facts in another order. -/
def withFacts (tables : ShopTables) (facts : List ShopDailyFact) : ShopTables :=
  { tables with facts := facts }

theorem factsInWindow_perm (h : facts.Perm tables.facts) (first last : Option Date) :
    (factsInWindow (withFacts tables facts) first last filters).Perm
      (factsInWindow tables first last filters) := by
  unfold factsInWindow
  cases first with
  | none => exact List.Perm.nil
  | some first =>
    cases last with
    | none => exact List.Perm.nil
    | some last => exact h.filter _

theorem measures_perm {rows rows' : List ShopDailyFact} (h : rows.Perm rows') (pk : Nat) :
    measures rows pk = measures rows' pk := by
  have hown := h.filter fun fact => fact.key.product = pk
  unfold measures
  dsimp only
  by_cases hnone : (rows.filter fun fact => fact.key.product = pk) = []
  · have hnone' : (rows'.filter fun fact => fact.key.product = pk) = [] := by
      rw [hnone] at hown
      exact hown.nil_eq.symm
    rw [if_pos hnone, if_pos hnone']
  · have hsome : (rows'.filter fun fact => fact.key.product = pk) ≠ [] := by
      intro hnil
      rw [hnil] at hown
      exact hnone hown.eq_nil
    rw [if_neg hnone, if_neg hsome, total_perm _ hown, total_perm _ hown, total_perm _ hown]

theorem unitsByProduct_perm (h : facts.Perm tables.facts) (first last : Option Date) (pk : Nat) :
    unitsByProduct (withFacts tables facts) first last filters pk =
      unitsByProduct tables first last filters pk := by
  unfold unitsByProduct
  cases first with
  | none => rfl
  | some first =>
    cases last with
    | none => rfl
    | some last => exact total_perm _ ((h.filter _).filter _)

theorem productRow_perm (h : facts.Perm tables.facts) (casefold : String → String)
    (window : ComparisonWindow) (search : String) (previousStart previousEnd : Option Date)
    (pk : Nat) :
    productRow (withFacts tables facts) casefold window filters search previousStart
      previousEnd pk =
      productRow tables casefold window filters search previousStart previousEnd pk := by
  have hown := measures_perm
    (@factsInWindow_perm tables filters facts h window.commerceStart window.commerceEnd) pk
  have hweb :=
    measures_perm (@factsInWindow_perm tables filters facts h window.webStart window.webEnd) pk
  unfold productRow
  rw [hown, hweb, unitsByProduct_perm h]
  rfl

theorem wantedPks_perm (h : facts.Perm tables.facts) (window : ComparisonWindow) :
    wantedPks (withFacts tables facts) window filters = wantedPks tables window filters := by
  have hfacts := @factsInWindow_perm tables filters facts h window.commerceStart window.commerceEnd
  unfold wantedPks
  congr 1
  ext pk
  rw [List.mem_toFinset, List.mem_toFinset, List.mem_append, List.mem_append,
    (hfacts.map _).mem_iff]
  rfl

/-- The rows are the same whatever the order of the facts and of the keys. -/
theorem buildProductRows_perm (h : facts.Perm tables.facts) (casefold : String → String)
    (order order' : SetOrder) (window : ComparisonWindow) (search : String)
    (previousStart previousEnd : Option Date) :
    (buildProductRows (withFacts tables facts) casefold order window filters search previousStart
      previousEnd).Perm
      (buildProductRows tables casefold order' window filters search previousStart
        previousEnd) := by
  unfold buildProductRows
  by_cases hcommerce : window.hasCommerce = true
  · have hrow :=
      funext
        (@productRow_perm tables filters facts h casefold window search previousStart previousEnd)
    have hkeys : (order.keys (wantedPks tables window filters)).Perm
        (order'.keys (wantedPks tables window filters)) :=
      (List.perm_ext_iff_of_nodup (order.nodup _) (order'.nodup _)).mpr fun pk => by
        rw [order.mem_keys, order'.mem_keys]
    rw [if_pos hcommerce, if_pos hcommerce, wantedPks_perm h, hrow]
    exact hkeys.filterMap _
  · rw [if_neg hcommerce, if_neg hcommerce]

end Order

/-! ## Like with like -/

/-- The window before, as the one a page is about. -/
def previousWindow (first last : Date) : ComparisonWindow :=
  ⟨some first, some last, none, none, false⟩

/-- Every row compares its units with those of the same product on the page of the window before,
and the rows do not depend on the order of the facts. -/
structure LikeWithLike (tables : ShopTables) (casefold : String → String)
    (window : ComparisonWindow) (filters : Filters) (search : String)
    (first last : Date) : Prop where
  previous : ∀ order order',
    ∀ row ∈ buildProductRows tables casefold order window filters search (some first) (some last),
    (previousWindow first last).hasCommerce = true →
      ∃ row' ∈ buildProductRows tables casefold order' (previousWindow first last) filters
        search none none,
        row'.sourceProductId = row.sourceProductId ∧ row.previousUnits = row'.units
  order : ∀ facts, facts.Perm tables.facts → ∀ order order',
    (buildProductRows (withFacts tables facts) casefold order window filters search (some first)
      (some last)).Perm
      (buildProductRows tables casefold order' window filters search (some first) (some last))

/-- No listed product has units of another status in the window before. -/
def StatusesAlike (tables : ShopTables) (casefold : String → String) (window : ComparisonWindow)
    (filters : Filters) (search : String) (first last : Date) : Prop :=
  window.hasCommerce = true → first ≤ last → ∀ pk, Listed tables casefold filters search pk →
    otherStatusUnits tables first last filters.memberStatus pk = 0

theorem LikeWithLike.statusesAlike {tables : ShopTables} {casefold : String → String}
    {window : ComparisonWindow} {filters : Filters} {search : String} {first last : Date}
    (h : LikeWithLike tables casefold window filters search first last) :
    StatusesAlike tables casefold window filters search first last := by
  intro hcommerce hle pk hlisted
  have hprevious : (previousWindow first last).hasCommerce = true := decide_eq_true hle
  obtain ⟨hscope, snapshot, product, hsnapshot, hproduct, hfound⟩ := hlisted
  obtain ⟨row, hrow⟩ :=
    (@isSome_productRow tables casefold window filters search (some first) (some last) pk).mpr
      ⟨snapshot, product, hsnapshot, hproduct, hfound⟩
  have hmem := (@mem_buildProductRows _ _ _ _ _ _ _ ascending _ hcommerce).mpr
    ⟨pk, ⟨hscope, snapshot, product, hsnapshot, hproduct, hfound⟩, hrow⟩
  obtain ⟨row', hmem', hid, heq⟩ := h.previous ascending ascending row hmem hprevious
  obtain ⟨pk', -, hrow'⟩ := (mem_buildProductRows hprevious).mp hmem'
  obtain ⟨⟨_, hown, hrowId⟩, -, hbefore⟩ := productRow_spec hrow
  obtain ⟨⟨product', hown', hrowId'⟩, hunits, -⟩ := productRow_spec hrow'
  cases hproduct.symm.trans hown
  -- both rows are about one product, whose number is its own
  have hsame : product' = product := List.inj_on_of_nodup_map tables.one_id (productOf_pk hown').1
    (productOf_pk hproduct).1 (hrowId'.symm.trans (hid.trans hrowId))
  have hpk : pk' = pk := by
    rw [← (productOf_pk hown').2, hsame, (productOf_pk hproduct).2]
  subst hpk
  exact (previous_eq_units_iff hscope).mp (hbefore.symm.trans (heq.trans hunits))

/-- The rows compare like with like exactly if the statuses the filter leaves out sold nothing in
the window before. -/
theorem likeWithLike_iff (tables : ShopTables) (casefold : String → String)
    (window : ComparisonWindow) (filters : Filters) (search : String) (first last : Date) :
    LikeWithLike tables casefold window filters search first last ↔
      StatusesAlike tables casefold window filters search first last := by
  have hprevious : (previousWindow first last).hasCommerce = true ↔ first ≤ last :=
    decide_eq_true_iff
  constructor
  · exact LikeWithLike.statusesAlike
  · intro h
    refine ⟨fun order order' row hrow hwindow => ?_, fun facts hfacts order order' =>
      buildProductRows_perm hfacts casefold order order' window search _ _⟩
    by_cases hcommerce : window.hasCommerce = true
    · obtain ⟨pk, hlisted, hrow⟩ := (mem_buildProductRows hcommerce).mp hrow
      obtain ⟨row', hrow'⟩ :=
        (@isSome_productRow tables casefold (previousWindow first last) filters search none none
        pk).mpr hlisted.2
      obtain ⟨⟨_, hown, hrowId⟩, -, hbefore⟩ := productRow_spec hrow
      obtain ⟨⟨_, hown', hrowId'⟩, hunits, -⟩ := productRow_spec hrow'
      cases hown.symm.trans hown'
      refine ⟨row', (mem_buildProductRows hwindow).mpr ⟨pk, hlisted, hrow'⟩,
        hrowId'.trans hrowId.symm, ?_⟩
      rw [hbefore, hunits]
      exact (previous_eq_units_iff hlisted.1).mpr (h hcommerce (hprevious.mp hwindow) pk hlisted)
    · unfold buildProductRows at hrow
      rw [if_neg hcommerce] at hrow
      cases hrow

section Sample

/-- Two templates bought in June, both by a company that is no member. -/
def sampleTables : ShopTables where
  products := [⟨1, 501, .document, .of 2026 1 1,
    .of 2026 8 1⟩]
  snapshots := [⟨1, (1, .of 2026 8 1),
    ⟨"Tööleping", none, "", none, none, none, none, none, none⟩, true, none, 1⟩]
  facts := [⟨1, ⟨1, .of 2026 6 10, .nonMember, .invoice, "EUR"⟩,
    ⟨1, 2, 40, none, none, none⟩, true, none, 1⟩]
  pages := []
  ga4 := []
  one_pk := by decide
  one_id := by decide
  snapshot_product := by decide
  one_observation := by decide

/-- A July of members is compared with a June of everyone. -/
theorem members_compared_with_everyone : ¬ LikeWithLike sampleTables id
    ⟨some ⟨2026, 7, 1, by decide, by decide, by decide⟩,
      some ⟨2026, 7, 30, by decide, by decide, by decide⟩,
      none, none, false⟩ ⟨[], [], "member"⟩ "" ⟨2026, 6, 1, by decide, by decide, by decide⟩
    ⟨2026, 6, 30, by decide, by decide, by decide⟩ := by
  intro h
  have hsilent := h.statusesAlike (by decide +kernel) (by decide +kernel) 1
    ⟨by decide +kernel, _, _, rfl, rfl, by decide +kernel⟩
  have htwo : otherStatusUnits sampleTables ⟨2026, 6, 1, by decide, by decide, by decide⟩
      ⟨2026, 6, 30, by decide, by decide, by decide⟩ "member" 1 = 2 := by decide +kernel
  rw [htwo] at hsilent
  exact absurd hsilent (by decide)

end Sample

end Dashkoda.Shop.Selectors
