import Dashkoda.Shop.Importing

/-!
# What the writers leave

Products keep their identity, and a table revised by its natural key has one current row for every
key that was stated, with the stated figures as the columns keep them.
-/

open Lib

namespace Dashkoda.Shop

/-! ## Products -/

structure ProductsSound (products : List ShopProduct) : Prop where
  keys : Table.UniqueKeys products
  ids : (products.map (·.sourceProductId)).Nodup

def identity (product : ShopProduct) : Nat × Nat := (product.pk, product.sourceProductId)

theorem productsSound_of_identity {products products' : List ShopProduct}
    (h : ProductsSound products) (hsame : products'.map identity = products.map identity) :
    ProductsSound products' := by
  have hpks := congrArg (List.map Prod.fst) hsame
  have hids := congrArg (List.map Prod.snd) hsame
  rw [List.map_map, List.map_map] at hpks hids
  constructor
  · show (products'.map ShopProduct.pk).Nodup
    rw [show products'.map ShopProduct.pk = products.map ShopProduct.pk from hpks]
    exact h.keys
  · rw [show products'.map ShopProduct.sourceProductId = _ from hids]
    exact h.ids

theorem observeProduct_identity {products products' : List ShopProduct} {row : ProductRow}
    (h : ProductsSound products) (hok : observeProduct products row = .ok products') :
    products'.map identity = products.map identity := by
  unfold observeProduct at hok
  split at hok
  · cases hok
    rfl
  · rename_i found hfound
    split at hok
    · cases hok
    · split at hok
      · cases hok
        exact Table.map_save identity h.keys (List.mem_of_find?_eq_some hfound) rfl rfl
      · cases hok
        rfl

theorem observeProducts_identity (rows : List ProductRow) {products products' : List ShopProduct}
    (h : ProductsSound products) (hok : rows.foldlM observeProduct products = .ok products') :
    products'.map identity = products.map identity := by
  induction rows generalizing products with
  | nil =>
    cases hok
    rfl
  | cons row rest ih =>
    rw [List.foldlM_cons] at hok
    obtain ⟨middle, hrow, hrest⟩ := bind_eq_ok_iff.mp hok
    have hsame := observeProduct_identity h hrow
    exact (ih (productsSound_of_identity h hsame) hrest).trans hsame

theorem requireColumn_eq_ok_iff {column : String} {fits : Bool} {out : Unit} :
    requireColumn column fits = .ok out ↔ fits = true := by
  unfold requireColumn
  cases fits <;> simp

/-- The products after a package: those of before under their keys, and the stated ones. -/
structure ProductsWritten (package : ParsedPackage) (products products' : List ShopProduct) :
    Prop where
  sound : ProductsSound products'
  kept : ∀ product ∈ products, ∃ product' ∈ products', identity product' = identity product
  stated : ∀ row ∈ package.products, ∃ product ∈ products',
    product.sourceProductId = row.sourceProductId

theorem writeProducts_writes {package : ParsedPackage} {products products' : List ShopProduct}
    (hids : (package.products.map (·.sourceProductId)).Nodup) (h : ProductsSound products)
    (hok : writeProducts package products = .ok products') :
    ProductsWritten package products products' := by
  unfold writeProducts at hok
  obtain ⟨observed, hobserved, hok⟩ := bind_eq_ok_iff.mp hok
  obtain ⟨-, -, hok⟩ := bind_eq_ok_iff.mp hok
  have hsame := observeProducts_identity _ h hobserved
  have hsound := productsSound_of_identity h hsame
  have hids' : observed.map (·.sourceProductId) = products.map (·.sourceProductId) := by
    have := congrArg (List.map Prod.snd) hsame
    rwa [List.map_map, List.map_map] at this
  let created := package.products.filter fun row =>
    !products.any (·.sourceProductId = row.sourceProductId)
  have hcreated : (created.mapIdx fun i row => newProduct (Table.nextPk observed + i) row).map
      (·.sourceProductId) = created.map (·.sourceProductId) := Table.map_mapIdx fun _ _ => rfl
  have hnew : ∀ row ∈ created, row.sourceProductId ∉ products.map (·.sourceProductId) := by
    intro row hrow hmem
    obtain ⟨product, hproduct, hsame⟩ := List.mem_map.mp hmem
    have hnone := (List.mem_filter.mp hrow).2
    rw [Bool.not_eq_true', List.any_eq_false] at hnone
    exact hnone product hproduct (decide_eq_true hsame)
  cases hok
  refine ⟨⟨?_, ?_⟩, ?_, ?_⟩
  · exact Table.uniqueKeys_append_mapIdx hsound.keys created newProduct (fun _ _ => rfl)
      fun _ hr => Table.pk_lt_nextPk hr
  · show ((observed ++ _).map _).Nodup
    rw [List.map_append, hcreated, hids', List.nodup_append]
    refine ⟨h.ids, hids.sublist (List.filter_sublist.map _), ?_⟩
    intro a ha b hb heq
    obtain ⟨row, hrow, rfl⟩ := List.mem_map.mp hb
    exact hnew row hrow (heq ▸ ha)
  · intro product hproduct
    have hmem : identity product ∈ observed.map identity := hsame ▸ List.mem_map_of_mem hproduct
    obtain ⟨product', hproduct', hsame'⟩ := List.mem_map.mp hmem
    exact ⟨product', List.mem_append_left _ hproduct', hsame'⟩
  · intro row hrow
    by_cases hknown : row.sourceProductId ∈ products.map (·.sourceProductId)
    · -- observed again
      rw [← hids'] at hknown
      obtain ⟨product, hproduct, hsame⟩ := List.mem_map.mp hknown
      exact ⟨product, List.mem_append_left _ hproduct, hsame⟩
    · -- created
      have hmem : row ∈ created := by
        refine List.mem_filter.mpr ⟨hrow, ?_⟩
        rw [Bool.not_eq_true', List.any_eq_false]
        intro product hproduct hsame
        exact hknown (of_decide_eq_true hsame ▸ List.mem_map_of_mem hproduct)
      have hid : row.sourceProductId ∈ (created.mapIdx fun i row =>
          newProduct (Table.nextPk observed + i) row).map (·.sourceProductId) :=
        hcreated ▸ List.mem_map_of_mem hmem
      obtain ⟨product, hproduct, hsame⟩ := List.mem_map.mp hid
      exact ⟨product, List.mem_append_right _ hproduct, hsame⟩

section ProductPk

variable {products : List ShopProduct}

theorem productPk_eq_ok_iff (h : ProductsSound products) {id pk : Nat} :
    productPk products id = .ok pk ↔
      ∃ product ∈ products, product.sourceProductId = id ∧ product.pk = pk := by
  constructor
  · intro hok
    unfold productPk at hok
    split at hok
    · rename_i product hfound
      cases hok
      have hid := List.find?_some hfound
      exact ⟨product, List.mem_of_find?_eq_some hfound, of_decide_eq_true hid, rfl⟩
    · cases hok
  · rintro ⟨product, hproduct, rfl, rfl⟩
    unfold productPk
    rw [find?_key_of_mem ShopProduct.sourceProductId h.ids hproduct]

/-- Two source products do not share a row. -/
theorem productPk_injective (h : ProductsSound products) {id id' pk : Nat}
    (hok : productPk products id = .ok pk) (hok' : productPk products id' = .ok pk) : id = id' := by
  obtain ⟨product, hproduct, rfl, hpk⟩ := (productPk_eq_ok_iff h).mp hok
  obtain ⟨product', hproduct', rfl, hpk'⟩ := (productPk_eq_ok_iff h).mp hok'
  have hsame : product = product' :=
    Table.eq_of_pk_eq h.keys hproduct hproduct' (hpk.trans hpk'.symm)
  rw [hsame]

end ProductPk

/-! ## Rows of a natural key -/

section Revise

variable {κ φ : Type} [DecidableEq κ] [DecidableEq φ]

/-- A row names the one it replaced. -/
def Names (previous : Option (RevisedRow κ φ)) (row : RevisedRow κ φ) : Prop :=
  row.supersedes = previous.map (·.pk)

omit [DecidableEq κ] [DecidableEq φ] in
theorem names_blind : Lineage.Blind (Names : Option (RevisedRow κ φ) → _ → Prop) := by
  intro f hf previous row h
  have hpk (r : RevisedRow κ φ) : (f r).pk = r.pk := by
    cases hf r with
    | inl heq => rw [heq]
    | inr heq => rw [heq]; rfl
  have hsupersedes : (f row).supersedes = row.supersedes := by
    cases hf row with
    | inl heq => rw [heq]
    | inr heq => rw [heq]; rfl
  unfold Names at h ⊢
  rw [hsupersedes, h, Option.map_map]
  exact congrArg (Option.map · previous) (funext fun r => (hpk r).symm)

/-- What is written is what the columns keep of it. -/
def Stored (columns : φ → Except ShopExn φ) (rows : List (RevisedRow κ φ)) : Prop :=
  ∀ row ∈ rows, columns row.fields = .ok row.fields

/-- A row is left as it is, or retired and named by its successor. -/
def RowKept (rows' : List (RevisedRow κ φ)) (row : RevisedRow κ φ) : Prop :=
  row ∈ rows' ∨ ({ row with isCurrent := false } ∈ rows' ∧
    ∃ successor ∈ rows', successor.supersedes = some row.pk ∧ successor.key = row.key)

/-- The rows that state something stored: current, alone, and with these figures. -/
def StatesStored (columns : φ → Except ShopExn φ) (rows : List (RevisedRow κ φ))
    (stated : κ × φ) : Prop :=
  ∃ row, (Lineage.history stated.1 rows).filter (·.isCurrent) = [row] ∧
    columns stated.2 = .ok row.fields

structure Revises (columns : φ → Except ShopExn φ) (stated : List (κ × φ))
    (rows rows' : List (RevisedRow κ φ)) : Prop where
  sound : Lineage.Sound Names rows'
  stored : Stored columns rows'
  states : ∀ item ∈ stated, StatesStored columns rows' item
  kept : ∀ row ∈ rows, RowKept rows' row

section Changes

variable {rows : List (RevisedRow κ φ)} {stated : List (κ × φ)}
  {changes : List (κ × φ × Option Nat)}
  {columns : φ → Except ShopExn φ}

theorem mem_changed {change : κ × φ × Option Nat} : change ∈ changed rows stated ↔
    (change.1, change.2.1) ∈ stated ∧
      change.2.2 = (Lineage.current? change.1 rows).map (·.pk) ∧
      ∀ found, Lineage.current? change.1 rows = some found → found.fields ≠ change.2.1 := by
  obtain ⟨key, fields, supersedes⟩ := change
  unfold changed
  rw [List.mem_filterMap]
  constructor
  · rintro ⟨⟨key', fields'⟩, hstated, heq⟩
    dsimp only at heq
    cases hfound : Lineage.current? key' rows with
    | none =>
      rw [hfound] at heq
      cases heq
      refine ⟨hstated, by rw [hfound]; rfl, fun found h => ?_⟩
      rw [hfound] at h
      cases h
    | some found =>
      rw [hfound] at heq
      dsimp only at heq
      split at heq
      · cases heq
      · rename_i hne
        cases heq
        refine ⟨hstated, by rw [hfound]; rfl, fun found' h => ?_⟩
        rw [hfound] at h
        cases h
        exact hne
  · rintro ⟨hstated, hsupersedes, hne⟩
    refine ⟨(key, fields), hstated, ?_⟩
    dsimp only at hstated hsupersedes hne ⊢
    cases hfound : Lineage.current? key rows with
    | none =>
      rw [hfound] at hsupersedes
      rw [hsupersedes]
      rfl
    | some found =>
      rw [hfound] at hsupersedes
      dsimp only
      rw [if_neg (hne found hfound), hsupersedes]
      rfl

theorem nodup_changed (hkeys : (stated.map Prod.fst).Nodup) :
    ((changed rows stated).map Prod.fst).Nodup := by
  have hsub : ((changed rows stated).map Prod.fst).Sublist (stated.map Prod.fst) := by
    unfold changed
    induction stated with
    | nil => exact List.Sublist.refl _
    | cons item rest ih =>
      have ih := ih (List.nodup_cons.mp hkeys).2
      rw [List.filterMap_cons, List.map_cons]
      split
      · exact ih.cons _
      · rename_i change hchange
        have hkey : change.1 = item.1 := by
          have hmem : change ∈ changed rows [item] :=
            List.mem_filterMap.mpr ⟨item, List.mem_singleton_self item, hchange⟩
          exact congrArg Prod.fst (List.mem_singleton.mp (mem_changed.mp hmem).1)
        rw [List.map_cons, hkey]
        exact ih.cons_cons _
  exact hkeys.sublist hsub

omit [DecidableEq κ] [DecidableEq φ] in
theorem storeChange_eq_ok {change stored : κ × φ × Option Nat}
    (h : storeChange columns change = .ok stored) :
    stored.1 = change.1 ∧ columns change.2.1 = .ok stored.2.1 ∧ stored.2.2 = change.2.2 := by
  unfold storeChange at h
  obtain ⟨fields, hfields, heq⟩ := bind_eq_ok_iff.mp h
  cases heq
  exact ⟨rfl, hfields, rfl⟩

structure ChangesStored (columns : φ → Except ShopExn φ) (rows : List (RevisedRow κ φ))
    (stated : List (κ × φ)) (changes : List (κ × φ × Option Nat)) : Prop where
  distinct : (changes.map Prod.fst).Nodup
  origin : ∀ change ∈ changes, change.2.2 = (Lineage.current? change.1 rows).map (·.pk) ∧
    ∃ fields, (change.1, fields) ∈ stated ∧ columns fields = .ok change.2.1
  reaches : ∀ item ∈ stated, (∃ found, Lineage.current? item.1 rows = some found ∧
      found.fields = item.2) ∨
    ∃ change ∈ changes, change.1 = item.1 ∧ columns item.2 = .ok change.2.1

theorem changesStored (hkeys : (stated.map Prod.fst).Nodup)
    (hok : (changed rows stated).mapM (storeChange columns) = .ok changes) :
    ChangesStored columns rows stated changes := by
  have hall := forall₂_of_mapM_eq_ok hok
  refine ⟨?_, ?_, ?_⟩
  · refine nodup_map_of_forall₂ hall (nodup_changed hkeys) ?_
    intro change change' stored stored' h h' hsame
    rw [← (storeChange_eq_ok h).1, ← (storeChange_eq_ok h').1, hsame]
  · intro stored hstored
    obtain ⟨change, hchange, h⟩ := exists_of_mem_forall₂ hall hstored
    obtain ⟨hkey, hfields, hsupersedes⟩ := storeChange_eq_ok h
    obtain ⟨hstated, hfollows, -⟩ := mem_changed.mp hchange
    rw [hsupersedes, hkey]
    exact ⟨hfollows, change.2.1, hstated, hfields⟩
  · rintro ⟨key, fields⟩ hitem
    by_cases hsame : ∃ found, Lineage.current? key rows = some found ∧ found.fields = fields
    · exact Or.inl hsame
    · -- what is not stated yet is a change
      have hchange : (key, fields, (Lineage.current? key rows).map (·.pk)) ∈ changed rows stated :=
        mem_changed.mpr ⟨hitem, rfl, fun found hfound heq => hsame ⟨found, hfound, heq⟩⟩
      obtain ⟨stored, hstored, h⟩ := exists_of_mem_forall₂_left hall hchange
      obtain ⟨hkey, hfields, -⟩ := storeChange_eq_ok h
      exact Or.inr ⟨stored, hstored, hkey, hfields⟩

omit [DecidableEq φ] in
theorem ChangesStored.revision (h : ChangesStored columns rows stated changes)
    (hsound : Lineage.Sound Names rows) (run : Nat) :
    Lineage.Revision Names rows (changes.filterMap (·.2.2))
      (changes.mapIdx fun i change => revisedRow run (Table.nextPk rows + i) change) := by
  have hkeys : (changes.mapIdx fun i change => revisedRow run (Table.nextPk rows + i) change).map
      Revised.key = changes.map Prod.fst := Table.map_mapIdx fun _ _ => rfl
  have horigin {row : RevisedRow κ φ}
      (hrow : row ∈ changes.mapIdx fun i change => revisedRow run (Table.nextPk rows + i) change) :
      ∃ change ∈ changes, ∃ pk, row = revisedRow run pk change := by
    obtain ⟨i, hi, rfl⟩ := List.mem_mapIdx.mp hrow
    exact ⟨changes[i], List.getElem_mem hi, _, rfl⟩
  refine ⟨?_, ?_, ?_, ?_, ?_⟩
  · exact Table.uniqueKeys_append_mapIdx hsound.keys changes (revisedRow run) (fun _ _ => rfl)
      fun _ hr => Table.pk_lt_nextPk hr
  · rw [hkeys]
    exact h.distinct
  · intro row hrow
    obtain ⟨change, -, pk, rfl⟩ := horigin hrow
    rfl
  · intro row hrow
    obtain ⟨change, hchange, pk, rfl⟩ := horigin hrow
    exact (h.origin change hchange).1
  · intro row hrow hcurrent
    rw [hkeys, List.mem_filterMap]
    have hfound : Lineage.current? row.key rows = some row := hsound.current?_of_mem hrow hcurrent
    constructor
    · rintro ⟨change, hchange, hpk⟩
      rw [(h.origin change hchange).1] at hpk
      obtain ⟨found, hcurrent', hsame⟩ := Option.map_eq_some_iff.mp hpk
      obtain ⟨hmem, hkey, -⟩ := Lineage.mem_of_current? hcurrent'
      have heq : found = row := Table.eq_of_pk_eq hsound.keys hmem hrow hsame
      exact List.mem_map.mpr ⟨change, hchange, heq ▸ hkey.symm⟩
    · intro hkey
      obtain ⟨change, hchange, hsame⟩ := List.mem_map.mp hkey
      refine ⟨change, hchange, ?_⟩
      rw [(h.origin change hchange).1, show change.1 = row.key from hsame, hfound]
      rfl

end Changes

/-- **A revised table states what was stated**, and keeps the rows it replaced. -/
theorem reviseRows_revises {constraint : String} {columns : φ → Except ShopExn φ} {run count : Nat}
    {stated : List (κ × φ)} {rows rows' : List (RevisedRow κ φ)}
    (hkeys : (stated.map Prod.fst).Nodup) (hsound : Lineage.Sound Names rows)
    (hstored : Stored columns rows)
    (hidempotent : ∀ fields kept, columns fields = .ok kept → columns kept = .ok kept)
    (hok : reviseRows constraint columns run stated rows = .ok (rows', count)) :
    Revises columns stated rows rows' := by
  unfold reviseRows at hok
  obtain ⟨changes, hchanges, hok⟩ := bind_eq_ok_iff.mp hok
  have h := changesStored hkeys hchanges
  have hrevision := h.revision hsound run
  dsimp only at hok
  split at hok
  swap
  · cases hok
  obtain ⟨hrows, -⟩ := Prod.mk.inj (Except.ok.inj hok)
  have hsound' : Lineage.Sound Names rows' := hrows ▸ hsound.revise names_blind hrevision
  have hmem {row : RevisedRow κ φ} : row ∈ rows' ↔
      (∃ r ∈ rows, (if r.pk ∈ changes.filterMap (·.2.2) then { r with isCurrent := false }
        else r) = row) ∨
      row ∈ changes.mapIdx fun i change => revisedRow run (Table.nextPk rows + i) change :=
    hrows ▸ Lineage.mem_revise
  have hcreated (change : κ × φ × Option Nat) (hchange : change ∈ changes) :
      ∃ pk, revisedRow run pk change ∈ rows' := by
    obtain ⟨i, hi, rfl⟩ := List.getElem_of_mem hchange
    exact ⟨_, hmem.mpr (Or.inr (List.mem_mapIdx.mpr ⟨i, hi, rfl⟩))⟩
  refine ⟨hsound', ?_, ?_, ?_⟩
  · intro row hrow
    cases hmem.mp hrow with
    | inl hold =>
      obtain ⟨old, hold, rfl⟩ := hold
      have hfields : (if old.pk ∈ changes.filterMap (·.2.2) then { old with isCurrent := false }
          else old).fields = old.fields := by
        split <;> rfl
      rw [hfields]
      exact hstored old hold
    | inr hnew =>
      obtain ⟨i, hi, rfl⟩ := List.mem_mapIdx.mp hnew
      obtain ⟨-, fields, -, hfields⟩ := h.origin _ (List.getElem_mem hi)
      exact hidempotent fields _ hfields
  · rintro ⟨key, fields⟩ hitem
    have hstates {row : RevisedRow κ φ} (hrow : row ∈ rows') (hkey : row.key = key)
        (hcurrent : row.isCurrent = true) (hfields : columns fields = .ok row.fields) :
        StatesStored columns rows' (key, fields) := by
      have hone := hsound'.currents_eq_singleton hrow hcurrent
      rw [show Revised.key row = key from hkey] at hone
      exact ⟨row, hone, hfields⟩
    by_cases hchange : ∃ change ∈ changes, change.1 = key ∧ columns fields = .ok change.2.1
    · obtain ⟨change, hmem', hkey, hfields⟩ := hchange
      obtain ⟨pk, hrow⟩ := hcreated change hmem'
      exact hstates hrow hkey rfl hfields
    · obtain ⟨found, hfound, hsame⟩ := (h.reaches _ hitem).resolve_right hchange
      obtain ⟨hrow, hkey, hcurrent⟩ := Lineage.mem_of_current? hfound
      refine hstates (hmem.mpr (Or.inl ⟨found, hrow, if_neg ?_⟩)) hkey hcurrent ?_
      · -- a row that states it already is not retired
        intro hretired
        have hnew := (hrevision.retires found hrow hcurrent).mp hretired
        rw [show (changes.mapIdx fun i change => revisedRow run (Table.nextPk rows + i) change).map
          Revised.key = changes.map Prod.fst from Table.map_mapIdx fun _ _ => rfl] at hnew
        obtain ⟨change, hmem', hsame'⟩ := List.mem_map.mp hnew
        have hkey' : change.1 = key := hsame'.trans hkey
        obtain ⟨-, fields', hstated, hstore⟩ := h.origin change hmem'
        rw [hkey'] at hstated
        have hone : fields' = fields :=
          congrArg Prod.snd (List.inj_on_of_nodup_map hkeys hstated hitem rfl)
        exact hchange ⟨change, hmem', hkey', hone ▸ hstore⟩
      · have hkept := hstored found hrow
        rw [hsame] at hkept
        exact hsame ▸ hkept
  · intro row hrow
    by_cases hretired : row.pk ∈ changes.filterMap (·.2.2)
    · right
      obtain ⟨change, hchange, hpk⟩ := List.mem_filterMap.mp hretired
      obtain ⟨pk, hsuccessor⟩ := hcreated change hchange
      refine ⟨hmem.mpr (Or.inl ⟨row, hrow, if_pos hretired⟩), _, hsuccessor, hpk, ?_⟩
      rw [(h.origin change hchange).1] at hpk
      obtain ⟨found, hfound, hsame⟩ := Option.map_eq_some_iff.mp hpk
      obtain ⟨hfoundRow, hkey, -⟩ := Lineage.mem_of_current? hfound
      have heq : found = row := Table.eq_of_pk_eq hsound.keys hfoundRow hrow hsame
      exact hkey.symm.trans (congrArg RevisedRow.key heq)
    · exact Or.inl (hmem.mpr (Or.inl ⟨row, hrow, if_neg hretired⟩))

end Revise

/-! ## What the columns keep -/

theorem storeNumeric_idempotent {digits places : Nat} {q kept : ℚ}
    (h : storeNumeric digits places q = some kept) :
      storeNumeric digits places kept = some kept := by
  unfold storeNumeric at h
  dsimp only at h
  generalize (if 0 ≤ q * 10 ^ places then ⌊q * 10 ^ places + 1 / 2⌋
    else -⌊-(q * 10 ^ places) + 1 / 2⌋ : Int) = n at h
  split at h
  swap
  · cases h
  rename_i hdigits
  cases h
  have hscale : (n : ℚ) / 10 ^ places * 10 ^ places = n := by
    field_simp
  have hhalf (m : Int) : ⌊(m : ℚ) + 1 / 2⌋ = m := by
    rw [Int.floor_eq_iff]
    constructor <;> linarith
  have hround : (if 0 ≤ (n : ℚ) then ⌊(n : ℚ) + 1 / 2⌋ else -⌊-(n : ℚ) + 1 / 2⌋) = n := by
    split
    · exact hhalf n
    · rw [show -(n : ℚ) = ((-n : Int) : ℚ) by push_cast; rfl, hhalf]
      omega
  unfold storeNumeric
  dsimp only
  rw [hscale, hround, if_pos hdigits]

theorem storeOptional_idempotent {store : ℚ → Option ℚ}
    (hstore : ∀ q kept, store q = some kept → store kept = some kept) {q kept : Option ℚ}
    (h : storeOptional store q = some kept) : storeOptional store kept = some kept := by
  cases q with
  | none =>
    cases h
    rfl
  | some q =>
    obtain ⟨kept', hkept, rfl⟩ := Option.map_eq_some_iff.mp h
    exact Option.map_eq_some_iff.mpr ⟨kept', hstore q kept' hkept, rfl⟩

theorem columnValue_eq_ok_iff {α : Type} {column : String} {value : Option α} {out : α} :
    columnValue column value = .ok out ↔ value = some out := by
  cases value with
  | none => exact ⟨fun h => (by cases h), fun h => (by cases h)⟩
  | some a =>
    show Except.ok a = .ok out ↔ _
    rw [Except.ok.injEq, Option.some.injEq]

theorem textValue_eq_ok_iff {column stored : String} {value : Except ColumnError String} :
    textValue column value = .ok stored ↔ value = .ok stored := by
  cases value with
  | ok text =>
    show Except.ok text = .ok stored ↔ _
    rw [Except.ok.injEq, Except.ok.injEq]
  | error e => exact ⟨fun h => (by cases h), fun h => (by cases h)⟩

theorem snapshotColumns_eq_ok_iff {fields kept : SnapshotFields} : fields.columns = .ok kept ↔
    '\x00' ∉ fields.title.toList ∧ inRange maxInteger fields.categoryTermId = true ∧
      Column.varchar 200 fields.categoryName = .ok kept.categoryName ∧
      inRange maxBigInteger fields.connectedEventNodeId = true ∧
      storeOptional storeMoney fields.listPriceNet = some kept.listPriceNet ∧
      storeOptional storeMoney fields.memberPriceNet = some kept.memberPriceNet ∧
      kept = { fields with
        categoryName := kept.categoryName
        listPriceNet := kept.listPriceNet
        memberPriceNet := kept.memberPriceNet } := by
  unfold SnapshotFields.columns
  simp only [bind_eq_ok_iff, requireColumn_eq_ok_iff, columnValue_eq_ok_iff, textValue_eq_ok_iff,
    decide_eq_true_eq]
  constructor
  · rintro ⟨-, htitle, -, hterm, name, hname, -, hevent, list, hlist, member, hmember, heq⟩
    cases heq
    exact ⟨htitle, hterm, hname, hevent, hlist, hmember, rfl⟩
  · rintro ⟨htitle, hterm, hname, hevent, hlist, hmember, heq⟩
    exact ⟨⟨⟩, htitle, ⟨⟩, hterm, _, hname, ⟨⟩, hevent, _, hlist, _, hmember,
      congrArg Except.ok heq.symm⟩

theorem snapshotColumns_idempotent (fields kept : SnapshotFields) (h : fields.columns = .ok kept) :
    kept.columns = .ok kept := by
  obtain ⟨htitle, hterm, hname, hevent, hlist, hmember, heq⟩ := snapshotColumns_eq_ok_iff.mp h
  refine snapshotColumns_eq_ok_iff.mpr
    ⟨?_, ?_, Column.varchar_idempotent hname, ?_, ?_, ?_, rfl⟩
  · rw [heq]; exact htitle
  · rw [heq]; exact hterm
  · rw [heq]; exact hevent
  · exact storeOptional_idempotent (fun _ _ => storeNumeric_idempotent) hlist
  · exact storeOptional_idempotent (fun _ _ => storeNumeric_idempotent) hmember

theorem factColumns_eq_ok_iff {fields kept : FactFields} : fields.columns = .ok kept ↔
    (fields.orderCount : Int) ≤ maxInteger ∧ storeQuantity fields.units = some kept.units ∧
      storeMoney fields.orderedValueNet = some kept.orderedValueNet ∧
      storeOptional storeQuantity fields.freeUnits = some kept.freeUnits ∧
      storeOptional storeQuantity fields.paidUnits = some kept.paidUnits ∧
      storeOptional storeQuantity fields.unknownUnits = some kept.unknownUnits ∧
      kept.orderCount = fields.orderCount := by
  unfold FactFields.columns
  simp only [bind_eq_ok_iff, requireColumn_eq_ok_iff, columnValue_eq_ok_iff, decide_eq_true_eq]
  constructor
  · rintro ⟨-, hcount, units, hunits, value, hvalue, free, hfree, paid, hpaid, unknown,
      hunknown, heq⟩
    cases heq
    exact ⟨hcount, hunits, hvalue, hfree, hpaid, hunknown, rfl⟩
  · rintro ⟨hcount, hunits, hvalue, hfree, hpaid, hunknown, horders⟩
    refine ⟨⟨⟩, hcount, _, hunits, _, hvalue, _, hfree, _, hpaid, _, hunknown, ?_⟩
    rw [← horders]
    rfl

theorem factColumns_idempotent (fields kept : FactFields) (h : fields.columns = .ok kept) :
    kept.columns = .ok kept := by
  obtain ⟨hcount, hunits, hvalue, hfree, hpaid, hunknown, horders⟩ := factColumns_eq_ok_iff.mp h
  refine factColumns_eq_ok_iff.mpr ⟨?_, ?_, ?_, ?_, ?_, ?_, rfl⟩
  · rw [horders]; exact hcount
  · exact storeNumeric_idempotent hunits
  · exact storeNumeric_idempotent hvalue
  · exact storeOptional_idempotent (fun _ _ => storeNumeric_idempotent) hfree
  · exact storeOptional_idempotent (fun _ _ => storeNumeric_idempotent) hpaid
  · exact storeOptional_idempotent (fun _ _ => storeNumeric_idempotent) hunknown

theorem summaryColumns_eq_ok_iff {count kept : Nat} :
    summaryColumns count = .ok kept ↔ (count : Int) ≤ maxInteger ∧ kept = count := by
  unfold summaryColumns
  simp only [bind_eq_ok_iff, requireColumn_eq_ok_iff, decide_eq_true_eq]
  constructor
  · rintro ⟨-, hcount, heq⟩
    cases heq
    exact ⟨hcount, rfl⟩
  · rintro ⟨hcount, rfl⟩
    exact ⟨⟨⟩, hcount, rfl⟩

theorem summaryColumns_idempotent (count kept : Nat) (h : summaryColumns count = .ok kept) :
    summaryColumns kept = .ok kept := by
  obtain ⟨hcount, rfl⟩ := summaryColumns_eq_ok_iff.mp h
  exact h

/-! ## What a package states -/

section Stated

variable {package : ParsedPackage} {products : List ShopProduct}

theorem statedSnapshots_spec {stated : List ((Nat × Date) × SnapshotFields)}
    (hsound : ProductsSound products) (hids : (package.products.map (·.sourceProductId)).Nodup)
    (hok : statedSnapshots package products = .ok stated) :
    (stated.map Prod.fst).Nodup ∧ ∀ row ∈ package.products, ∃ product ∈ products,
      product.sourceProductId = row.sourceProductId ∧
      ((product.pk, row.observedOn), row.fields) ∈ stated := by
  have hall := forall₂_of_mapM_eq_ok hok
  constructor
  · refine nodup_map_of_forall₂ hall hids ?_
    intro row row' item item' h h' hsame
    obtain ⟨pk, hpk, heq⟩ := bind_eq_ok_iff.mp h
    obtain ⟨pk', hpk', heq'⟩ := bind_eq_ok_iff.mp h'
    cases heq
    cases heq'
    have hone : pk = pk' := congrArg Prod.fst hsame
    exact productPk_injective hsound hpk (hone ▸ hpk')
  · intro row hrow
    obtain ⟨item, hitem, h⟩ := exists_of_mem_forall₂_left hall hrow
    obtain ⟨pk, hpk, heq⟩ := bind_eq_ok_iff.mp h
    cases heq
    obtain ⟨product, hproduct, hid, rfl⟩ := (productPk_eq_ok_iff hsound).mp hpk
    exact ⟨product, hproduct, hid, hitem⟩

theorem statedFacts_spec {stated : List (FactKey × FactFields)} (hsound : ProductsSound products)
    (hkeys : (package.dailyFacts.map fun row => (row.reportDate, row.sourceProductId,
      row.memberStatus, row.paymentClass, row.currency)).Nodup)
    (hok : statedFacts package products = .ok stated) :
    (stated.map Prod.fst).Nodup ∧ ∀ row ∈ package.dailyFacts, ∃ product ∈ products,
      product.sourceProductId = row.sourceProductId ∧
      (row.key product.pk, row.fields) ∈ stated := by
  have hall := forall₂_of_mapM_eq_ok hok
  constructor
  · refine nodup_map_of_forall₂ hall hkeys ?_
    intro row row' item item' h h' hsame
    obtain ⟨pk, hpk, heq⟩ := bind_eq_ok_iff.mp h
    obtain ⟨pk', hpk', heq'⟩ := bind_eq_ok_iff.mp h'
    cases heq
    cases heq'
    obtain ⟨hone, hdate, hmember, hpayment, hcurrency⟩ := FactKey.mk.inj hsame
    rw [hdate, hmember, hpayment, hcurrency, productPk_injective hsound hpk (hone ▸ hpk')]
  · intro row hrow
    obtain ⟨item, hitem, h⟩ := exists_of_mem_forall₂_left hall hrow
    obtain ⟨pk, hpk, heq⟩ := bind_eq_ok_iff.mp h
    cases heq
    obtain ⟨product, hproduct, hid, rfl⟩ := (productPk_eq_ok_iff hsound).mp hpk
    exact ⟨product, hproduct, hid, hitem⟩

theorem wantedPaths_spec {wanted : List (Nat × ProductPathRow)} (hsound : ProductsSound products)
    (hroles : (package.productPaths.map fun row => (row.sourceProductId, row.pageRole)).Nodup)
    (hok : wantedPaths package products = .ok wanted) :
    (wanted.map fun item => (item.1, item.2.pageRole)).Nodup ∧
      (∀ row ∈ package.productPaths, ∃ product ∈ products,
        product.sourceProductId = row.sourceProductId ∧ (product.pk, row) ∈ wanted) ∧
      ∀ item ∈ wanted, item.2 ∈ package.productPaths ∧ ∃ product ∈ products,
        product.sourceProductId = item.2.sourceProductId ∧ product.pk = item.1 := by
  have hall := forall₂_of_mapM_eq_ok hok
  refine ⟨?_, ?_, ?_⟩
  · refine nodup_map_of_forall₂ hall hroles ?_
    intro row row' item item' h h' hsame
    obtain ⟨pk, hpk, heq⟩ := bind_eq_ok_iff.mp h
    obtain ⟨pk', hpk', heq'⟩ := bind_eq_ok_iff.mp h'
    cases heq
    cases heq'
    obtain ⟨hone, hrole⟩ := Prod.mk.inj hsame
    have hone : pk = pk' := hone
    rw [show row.pageRole = row'.pageRole from hrole,
      productPk_injective hsound hpk (hone ▸ hpk')]
  · intro row hrow
    obtain ⟨item, hitem, h⟩ := exists_of_mem_forall₂_left hall hrow
    obtain ⟨pk, hpk, heq⟩ := bind_eq_ok_iff.mp h
    cases heq
    obtain ⟨product, hproduct, hid, rfl⟩ := (productPk_eq_ok_iff hsound).mp hpk
    exact ⟨product, hproduct, hid, hitem⟩
  · intro item hitem
    obtain ⟨row, hrow, h⟩ := exists_of_mem_forall₂ hall hitem
    obtain ⟨pk, hpk, heq⟩ := bind_eq_ok_iff.mp h
    cases heq
    exact ⟨hrow, (productPk_eq_ok_iff hsound).mp hpk⟩

end Stated

end Dashkoda.Shop
