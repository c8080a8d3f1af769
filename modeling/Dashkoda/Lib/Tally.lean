import Mathlib.Algebra.BigOperators.Group.List.Basic

/-!
# Totals by key

Rows fall into groups by a key.  Over distinct keys, the totals of the groups add up to the total of
the rows that have one of the keys.
-/

namespace Lib

universe u v w

variable {α : Type u} {κ : Type v} {M : Type w} [AddCommMonoid M] [DecidableEq κ]

def total (f : α → M) (rows : List α) : M := (rows.map f).sum

def totalAt (key : α → κ) (f : α → M) (rows : List α) (k : κ) : M :=
  total f (rows.filter fun row => key row = k)

@[simp] theorem total_nil (f : α → M) : total f [] = 0 := rfl

@[simp] theorem total_cons (f : α → M) (row : α) (rows : List α) :
    total f (row :: rows) = f row + total f rows := List.sum_cons

theorem total_append (f : α → M) (a b : List α) : total f (a ++ b) = total f a + total f b := by
  unfold total
  rw [List.map_append, List.sum_append]

theorem total_perm (f : α → M) {a b : List α} (h : a.Perm b) : total f a = total f b :=
  (h.map f).sum_eq

/-- One more row adds to the group of its key alone. -/
theorem totalAt_cons (key : α → κ) (f : α → M) (row : α) (rows : List α) (k : κ) :
    totalAt key f (row :: rows) k = (if key row = k then f row else 0) + totalAt key f rows k := by
  unfold totalAt
  rw [List.filter_cons]
  by_cases hkey : key row = k
  · rw [if_pos (decide_eq_true hkey), if_pos hkey, total_cons]
  · rw [if_neg (by simpa using hkey), if_neg hkey, zero_add]

theorem total_ite_single {keys : List κ} (hkeys : keys.Nodup) (k : κ) (x : M) :
    total (fun other => if k = other then x else 0) keys = if k ∈ keys then x else 0 := by
  induction keys with
  | nil => rfl
  | cons first rest ih =>
    obtain ⟨hfirst, hrest⟩ := List.nodup_cons.mp hkeys
    rw [total_cons, ih hrest]
    by_cases hk : k = first
    · subst hk
      rw [if_pos rfl, if_neg hfirst, if_pos List.mem_cons_self, add_zero]
    · rw [if_neg hk, zero_add]
      by_cases hmem : k ∈ rest
      · rw [if_pos hmem, if_pos (List.mem_cons_of_mem _ hmem)]
      · rw [if_neg hmem, if_neg fun hin => (List.mem_cons.mp hin).elim hk hmem]

theorem total_add (f g : α → M) (rows : List α) :
    total (fun row => f row + g row) rows = total f rows + total g rows := by
  induction rows with
  | nil => exact (add_zero 0).symm
  | cons row rest ih =>
    rw [total_cons, total_cons, total_cons, ih]
    exact add_add_add_comm _ _ _ _

/-- Over distinct keys, every row that has one of them is counted once. -/
theorem total_totalAt (key : α → κ) (f : α → M) (rows : List α) {keys : List κ}
    (hkeys : keys.Nodup) :
    total (totalAt key f rows) keys = total f (rows.filter fun row => key row ∈ keys) := by
  induction rows with
  | nil =>
    have hzero (keys : List κ) : total (totalAt key f ([] : List α)) keys = 0 := by
      induction keys with
      | nil => rfl
      | cons k rest ih => rw [total_cons, ih, add_zero]; rfl
    exact hzero keys
  | cons row rest ih =>
    have hrow : totalAt key f (row :: rest) =
        fun k => (if key row = k then f row else 0) + totalAt key f rest k := by
      funext k
      exact totalAt_cons key f row rest k
    rw [hrow, total_add, ih, total_ite_single hkeys, List.filter_cons]
    by_cases hmem : key row ∈ keys
    · rw [if_pos hmem, if_pos (decide_eq_true hmem), total_cons]
    · rw [if_neg hmem, if_neg (by simpa using hmem), zero_add]

/-- Where every row has one of the keys, nothing is left out. -/
theorem total_totalAt_of_mem (key : α → κ) (f : α → M) {rows : List α} {keys : List κ}
    (hkeys : keys.Nodup) (hall : ∀ row ∈ rows, key row ∈ keys) :
    total (totalAt key f rows) keys = total f rows := by
  rw [total_totalAt key f rows hkeys, List.filter_eq_self.mpr fun row hrow =>
    decide_eq_true (hall row hrow)]

/-! ## Rows that are counted several times -/

section Repeated

variable {β : Type*}

theorem total_map (f : α → M) (g : β → α) (rows : List β) :
    total f (rows.map g) = total (fun row => f (g row)) rows := by
  unfold total
  rw [List.map_map]
  rfl

theorem total_flatMap (f : α → M) (g : β → List α) (rows : List β) :
    total f (rows.flatMap g) = total (fun row => total f (g row)) rows := by
  induction rows with
  | nil => rfl
  | cons row rest ih => rw [List.flatMap_cons, total_append, total_cons, ih]

theorem total_filter (f : α → M) (p : α → Bool) (rows : List α) :
    total f (rows.filter p) = total (fun row => if p row then f row else 0) rows := by
  induction rows with
  | nil => rfl
  | cons row rest ih =>
    rw [List.filter_cons, total_cons]
    by_cases h : p row = true
    · rw [if_pos h, if_pos h, total_cons, ih]
    · rw [if_neg h, if_neg h, zero_add, ih]

theorem total_congr {f g : α → M} {rows : List α} (h : ∀ row ∈ rows, f row = g row) :
    total f rows = total g rows := by
  unfold total
  rw [List.map_congr_left h]

theorem total_zero (rows : List α) : total (fun _ => (0 : M)) rows = 0 := by
  induction rows with
  | nil => rfl
  | cons row rest ih => rw [total_cons, ih, add_zero]

/-- Selections of the same rows count each row as often as it is selected. -/
theorem total_selections (f : α → M) (selects : β → α → Bool) (selections : List β)
    (rows : List α) :
    total (fun selection => total f (rows.filter (selects selection))) selections =
      total
        (fun row => (selections.countP fun selection => selects selection row) • f row) rows := by
  induction selections with
  | nil =>
    rw [total_nil, ← total_zero (α := α) rows]
    exact total_congr fun row _ => (zero_nsmul (f row)).symm
  | cons selection rest ih =>
    rw [total_cons, ih, total_filter, ← total_add]
    apply total_congr
    intro row _
    rw [List.countP_cons, add_nsmul, add_comm]
    by_cases h : selects selection row = true
    · rw [if_pos h, if_pos h, one_nsmul]
    · rw [if_neg h, if_neg h, zero_nsmul]

end Repeated

end Lib
