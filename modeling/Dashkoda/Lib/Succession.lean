import Dashkoda.Lib.Table

/-!
# One line of rows

Rows that replace one another stand in one line: every row but the last was retired and names the
row that replaced it.
-/

namespace Lib

universe u

class Succeeding (α : Type u) extends Row α where
  isCurrent : α → Bool
  successor : α → Option Nat
  /-- Stand down in favour of the row under this key. -/
  retire : Nat → α → α
  pk_retire : ∀ next row, pk (retire next row) = pk row
  isCurrent_retire : ∀ next row, isCurrent (retire next row) = false
  successor_retire : ∀ next row, successor (retire next row) = some next

namespace Succession

variable {α : Type u} [Succeeding α]

open Succeeding (isCurrent successor retire)

/-- Every row but the last is retired and names the next one. -/
def Line : List α → Prop
  | [] => True
  | [row] => isCurrent row = true ∧ successor row = none
  | row :: next :: rest =>
    isCurrent row = false ∧ successor row = some (Row.pk next) ∧ Line (next :: rest)

/-- The row after the others, of which the current ones are retired. -/
def replaceBy (row : α) (rows : List α) : List α :=
  rows.map (fun old => if isCurrent old then retire (Row.pk row) old else old) ++ [row]

variable {rows : List α} {row : α}

theorem pk_stoodDown (old : α) : Row.pk (if isCurrent old then retire (Row.pk row) old else old) =
    Row.pk old := by
  by_cases h : isCurrent old = true
  · rw [if_pos h, Succeeding.pk_retire]
  · rw [if_neg h]

theorem Line.replaceBy (h : Line rows) (hcurrent : isCurrent row = true)
    (hlast : successor row = none) :
    Line (replaceBy row rows) := by
  unfold Succession.replaceBy
  fun_induction Line rows with
  | case1 => exact ⟨hcurrent, hlast⟩
  | case2 old =>
    rw [List.map_singleton, if_pos h.1]
    exact ⟨Succeeding.isCurrent_retire _ _, Succeeding.successor_retire _ _, hcurrent, hlast⟩
  | case3 old next rest ih =>
    obtain ⟨hretired, hnext, hrest⟩ := h
    have htail := ih hrest
    have hne : ¬ isCurrent old = true := by
      rw [hretired]
      exact Bool.false_ne_true
    rw [List.map_cons, if_neg hne]
    rw [List.map_cons] at htail ⊢
    exact ⟨hretired, hnext.trans (congrArg some (pk_stoodDown next).symm), htail⟩

/-- Only the last row is current. -/
theorem Line.currents (h : Line rows) : rows.filter isCurrent = rows.getLast?.toList := by
  fun_induction Line rows with
  | case1 => rfl
  | case2 row =>
    rw [List.filter_cons_of_pos h.1]
    rfl
  | case3 row next rest ih =>
    have hne : ¬ isCurrent row = true := by
      rw [h.1]
      exact Bool.false_ne_true
    rw [List.filter_cons_of_neg hne, ih h.2.2, List.getLast?_cons_cons]

theorem uniqueKeys_replaceBy (h : Table.UniqueKeys rows)
    (hfresh : ∀ old ∈ rows, Row.pk old ≠ Row.pk row) :
    Table.UniqueKeys (replaceBy row rows) := by
  unfold Succession.replaceBy
  refine Table.uniqueKeys_append (Table.uniqueKeys_map h pk_stoodDown) fun old hold => ?_
  obtain ⟨before, hbefore, rfl⟩ := List.mem_map.mp hold
  rw [pk_stoodDown]
  exact hfresh before hbefore

/-- What retiring does not touch stays as it was. -/
theorem map_replaceBy {β : Type*} {f : α → β} (hkept : ∀ next old, f (retire next old) = f old) :
    (replaceBy row rows).map f = rows.map f ++ [f row] := by
  unfold Succession.replaceBy
  rw [List.map_append, List.map_map]
  congr 1
  refine List.map_congr_left fun old _ => ?_
  show f (if isCurrent old then retire (Row.pk row) old else old) = f old
  by_cases h : isCurrent old = true
  · rw [if_pos h, hkept]
  · rw [if_neg h]

end Succession

end Lib
