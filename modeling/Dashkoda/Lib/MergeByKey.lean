import Dashkoda.Lib.Dict
import Dashkoda.Lib.Tally

/-!
# Rows folded into one for each key

A row whose key is there already is merged into the row that is there.  What a commutative and
associative merge keeps of the rows does not depend on their order, and a sum stays what it was.
-/

namespace Lib

universe u v w

variable {α : Type u} {κ : Type v} {β : Type w} [DecidableEq κ]

/-- One more row for a key. -/
def combine (merge : α → α → α) : Option α → α → Option α
  | none, row => some row
  | some existing, row => some (merge existing row)

def mergeStep (key : α → κ) (merge : α → α → α) (merged : Dict κ α) (row : α) : Dict κ α :=
  match merged.get? (key row) with
  | none => merged.set (key row) row
  | some existing => merged.set (key row) (merge existing row)

def mergeByKey (key : α → κ) (merge : α → α → α) (rows : List α) : Dict κ α :=
  rows.foldl (mergeStep key merge) Dict.empty

section Merge

variable {key : α → κ} {merge : α → α → α}

theorem get?_mergeStep (merged : Dict κ α) (row : α) (k : κ) :
    (mergeStep key merge merged row).get? k =
      if key row = k then combine merge (merged.get? k) row else merged.get? k := by
  unfold mergeStep
  by_cases hk : key row = k
  · subst hk
    rw [if_pos rfl]
    cases merged.get? (key row) with
    | none => exact Dict.get?_set_self _ _ _
    | some existing => exact Dict.get?_set_self _ _ _
  · rw [if_neg hk]
    have hne : k ≠ key row := fun heq => hk heq.symm
    cases merged.get? (key row) with
    | none => exact Dict.get?_set_ne _ _ hne
    | some existing => exact Dict.get?_set_ne _ _ hne

/-- Each key sees its own rows, one after another. -/
theorem get?_foldl_mergeStep (rows : List α) (merged : Dict κ α) (k : κ) :
    (rows.foldl (mergeStep key merge) merged).get? k =
      (rows.filter fun row => key row = k).foldl (combine merge) (merged.get? k) := by
  induction rows generalizing merged with
  | nil => rfl
  | cons row rest ih =>
    rw [List.foldl_cons, ih, get?_mergeStep, List.filter_cons]
    by_cases hk : key row = k
    · rw [if_pos hk, if_pos (decide_eq_true hk), List.foldl_cons]
    · rw [if_neg hk, if_neg (by simpa using hk)]

theorem get?_mergeByKey (rows : List α) (k : κ) :
    (mergeByKey key merge rows).get? k =
      (rows.filter fun row => key row = k).foldl (combine merge) none :=
  get?_foldl_mergeStep rows Dict.empty k

theorem foldl_combine_isSome (rows : List α) {acc : Option α} (h : acc.isSome = true ∨ rows ≠ []) :
    (rows.foldl (combine merge) acc).isSome = true := by
  induction rows generalizing acc with
  | nil => exact h.resolve_right fun hne => hne rfl
  | cons row rest ih =>
    rw [List.foldl_cons]
    apply ih
    left
    cases acc with
    | none => rfl
    | some existing => rfl

/-- The keys are those of the rows. -/
theorem mem_keys_mergeByKey {rows : List α} {k : κ} :
    k ∈ (mergeByKey key merge rows).keys ↔ ∃ row ∈ rows, key row = k := by
  rw [Dict.mem_keys_iff_get?, get?_mergeByKey]
  constructor
  · intro ⟨value, hvalue⟩
    cases hrows : rows.filter fun row => key row = k with
    | nil =>
      rw [hrows] at hvalue
      cases hvalue
    | cons row rest =>
      have hmem : row ∈ rows.filter fun row => key row = k := by
        rw [hrows]
        exact List.mem_cons_self
      rw [List.mem_filter, decide_eq_true_eq] at hmem
      exact ⟨row, hmem⟩
  · intro ⟨row, hrow, hkey⟩
    rw [← Option.isSome_iff_exists]
    apply foldl_combine_isSome
    right
    exact List.ne_nil_of_mem (List.mem_filter.mpr ⟨hrow, decide_eq_true hkey⟩)

/-- A merge that keeps the key of its second row keeps each row under its own key. -/
theorem key_of_get?_mergeByKey (hkey : ∀ a b, key (merge a b) = key b) {rows : List α} {k : κ}
    {value : α} (h : (mergeByKey key merge rows).get? k = some value) : key value = k := by
  rw [get?_mergeByKey] at h
  have hfold (group : List α) (acc : Option α) (hgroup : ∀ row ∈ group, key row = k)
      (hacc : ∀ row ∈ acc, key row = k) :
      ∀ row ∈ group.foldl (combine merge) acc, key row = k := by
    induction group generalizing acc with
    | nil => exact hacc
    | cons row rest ih =>
      rw [List.foldl_cons]
      refine ih _ (fun other hother => hgroup other (List.mem_cons_of_mem _ hother)) ?_
      intro merged hmerged
      cases acc with
      | none => exact Option.some.inj hmerged ▸ hgroup row List.mem_cons_self
      | some existing =>
        rw [← Option.some.inj hmerged, hkey]
        exact hgroup row List.mem_cons_self
  refine hfold _ none (fun row hrow => ?_) (fun _ hnone => by cases hnone) value h
  exact of_decide_eq_true (List.mem_filter.mp hrow).2

/-- The row under a key stands for its rows. -/
theorem sum_foldl_combine {M : Type*} [AddCommMonoid M] {f : α → M}
    (hadd : ∀ a b, f (merge a b) = f a + f b) (rows : List α) (acc : Option α) :
    (rows.foldl (combine merge) acc).elim 0 f = acc.elim 0 f + total f rows := by
  induction rows generalizing acc with
  | nil => exact (add_zero _).symm
  | cons row rest ih =>
    rw [List.foldl_cons, ih, total_cons, ← add_assoc]
    congr 1
    cases acc with
    | none => exact (zero_add _).symm
    | some existing => exact hadd existing row

/-- A sum that the merge keeps is the sum of all the rows. -/
theorem total_mergeByKey {M : Type*} [AddCommMonoid M] {f : α → M}
    (hadd : ∀ a b, f (merge a b) = f a + f b) (rows : List α) :
    total f (mergeByKey key merge rows).values = total f rows := by
  let merged := mergeByKey key merge rows
  have hentry : ∀ entry ∈ merged.entries, f entry.2 = totalAt key f rows entry.1 := by
    intro entry hentry
    have hget : merged.get? entry.1 = some entry.2 := Dict.get?_eq_some_iff.mpr hentry
    have hsum := sum_foldl_combine hadd (rows.filter fun row => key row = entry.1) none
    rw [← get?_mergeByKey, hget] at hsum
    exact hsum.trans (zero_add _)
  have hvalues : total f merged.values = total (totalAt key f rows) merged.keys := by
    unfold total Dict.values Dict.keys
    rw [List.map_map, List.map_map]
    exact congrArg List.sum (List.map_congr_left hentry)
  rw [show (mergeByKey key merge rows).values = merged.values from rfl, hvalues]
  exact total_totalAt_of_mem key f merged.keys_nodup fun row hrow =>
    mem_keys_mergeByKey.mpr ⟨row, hrow, rfl⟩

section View

variable {view : α → β} {mergeView : β → β → β}

theorem foldl_combine_view (hview : ∀ a b, view (merge a b) = mergeView (view a) (view b))
    (rows : List α) (acc : Option α) :
    (rows.foldl (combine merge) acc).map view =
      (rows.map view).foldl (combine mergeView) (acc.map view) := by
  induction rows generalizing acc with
  | nil => rfl
  | cons row rest ih =>
    rw [List.foldl_cons, ih, List.map_cons, List.foldl_cons]
    congr 1
    cases acc with
    | none => rfl
    | some existing => exact congrArg some (hview existing row)

theorem combine_right_comm (hcomm : ∀ a b, mergeView a b = mergeView b a)
    (hassoc : ∀ a b c, mergeView (mergeView a b) c = mergeView a (mergeView b c)) (acc : Option β)
    (x y : β) :
    combine mergeView (combine mergeView acc x) y =
      combine mergeView (combine mergeView acc y) x := by
  cases acc with
  | none => exact congrArg some (hcomm x y)
  | some existing =>
    show some (mergeView (mergeView existing x) y) = some (mergeView (mergeView existing y) x)
    rw [hassoc, hcomm x y, ← hassoc]

/-- What the merge keeps commutatively does not depend on the order of the rows. -/
theorem get?_mergeByKey_perm (hview : ∀ a b, view (merge a b) = mergeView (view a) (view b))
    (hcomm : ∀ a b, mergeView a b = mergeView b a)
    (hassoc : ∀ a b c, mergeView (mergeView a b) c = mergeView a (mergeView b c))
    {rows rows' : List α} (h : rows.Perm rows') (k : κ) :
    ((mergeByKey key merge rows).get? k).map view =
      ((mergeByKey key merge rows').get? k).map view := by
  rw [get?_mergeByKey, get?_mergeByKey, foldl_combine_view hview, foldl_combine_view hview]
  exact ((h.filter _).map view).foldl_eq'
    (fun x _ y _ acc => combine_right_comm hcomm hassoc acc x y) none

end View

end Merge

end Lib
