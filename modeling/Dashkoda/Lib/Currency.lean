import Mathlib.Data.Prod.Lex
import Dashkoda.Lib.Ranking
import Dashkoda.Lib.Table

/-!
# Tables with current rows

Rows are published at a time and carry a flag that says whether they are current.  Publishing a
row retires the current rows of its scope.
-/

namespace Lib

universe u

class Published (α : Type u) extends Row α where
  publishedAt : α → Nat
  isCurrent : α → Bool
  setCurrent : Bool → α → α
  pk_setCurrent : ∀ flag row, pk (setCurrent flag row) = pk row
  publishedAt_setCurrent : ∀ flag row, publishedAt (setCurrent flag row) = publishedAt row
  isCurrent_setCurrent : ∀ flag row, isCurrent (setCurrent flag row) = flag

namespace Currency

variable {α : Type u} [Published α]

open Published (isCurrent setCurrent publishedAt)

/-- Newest first, then the greatest key. -/
def newestKey (row : α) : Lex (Natᵒᵈ × Natᵒᵈ) :=
  toLex (OrderDual.toDual (publishedAt row), OrderDual.toDual (Row.pk row))

/-- `.first()` of a queryset ordered newest first. -/
def first? (rows : List α) : Option α := minOn? newestKey rows

def currents (rows : List α) : List α := rows.filter isCurrent

/-- `.filter(is_current=True).first()` -/
def current? (rows : List α) : Option α := first? (currents rows)

/-- Retire the current rows of the scope and make the row under `pk` the current one. -/
def promote (inScope : α → Bool) (pk : Nat) (rows : List α) : List α :=
  rows.map fun row =>
    if Row.pk row = pk then setCurrent true row
    else if inScope row && isCurrent row then setCurrent false row
    else row

/-- Save a new row and promote it. -/
def publish (inScope : α → Bool) (row : α) (rows : List α) : List α :=
  promote inScope (Row.pk row) (rows ++ [row])

theorem newestKey_le {a b : α} : newestKey a ≤ newestKey b ↔
    publishedAt b < publishedAt a ∨ publishedAt b = publishedAt a ∧ Row.pk b ≤ Row.pk a := by
  unfold newestKey
  rw [Prod.Lex.toLex_le_toLex]
  constructor
  · rintro (h | ⟨heq, h⟩)
    · exact Or.inl h
    · exact Or.inr ⟨heq.symm, h⟩
  · rintro (h | ⟨heq, h⟩)
    · exact Or.inl h
    · exact Or.inr ⟨heq.symm, h⟩

theorem pk_of_newestKey_eq {a b : α} (h : newestKey a = newestKey b) : Row.pk a = Row.pk b :=
  congrArg (fun key => OrderDual.ofDual (ofLex key).2) h

theorem mem_of_current? {rows : List α} {row : α} (h : current? rows = some row) :
    row ∈ rows ∧ isCurrent row = true := List.mem_filter.mp (minOn?_mem h)

section Publish

variable {inScope : α → Bool} {row : α} {rows : List α}

theorem mem_publish (hfresh : ∀ r ∈ rows, Row.pk r < Row.pk row) {x : α} :
    x ∈ publish inScope row rows ↔ x = setCurrent true row ∨
      ∃ r ∈ rows, x = if inScope r && isCurrent r then setCurrent false r else r := by
  have hold : ∀ r ∈ rows, Row.pk r ≠ Row.pk row := fun r hr => (hfresh r hr).ne
  unfold publish promote
  rw [List.map_append, List.mem_append, List.mem_map, List.map_singleton, List.mem_singleton,
    if_pos rfl, or_comm]
  apply or_congr_right
  constructor
  · rintro ⟨r, hr, heq⟩
    rw [if_neg (hold r hr)] at heq
    exact ⟨r, hr, heq.symm⟩
  · rintro ⟨r, hr, heq⟩
    refine ⟨r, hr, ?_⟩
    rw [if_neg (hold r hr), heq]

/-- What was there before keeps its key and its time. -/
theorem old_of_mem_publish (hfresh : ∀ r ∈ rows, Row.pk r < Row.pk row) {x : α}
    (hx : x ∈ publish inScope row rows) : x = setCurrent true row ∨
      ∃ r ∈ rows, Row.pk x = Row.pk r ∧ publishedAt x = publishedAt r := by
  cases (mem_publish hfresh).mp hx with
  | inl heq => exact Or.inl heq
  | inr hold =>
    obtain ⟨r, hr, heq⟩ := hold
    refine Or.inr ⟨r, hr, ?_⟩
    rw [heq]
    split
    · exact ⟨Published.pk_setCurrent _ r, Published.publishedAt_setCurrent _ r⟩
    · exact ⟨rfl, rfl⟩

/-- The row just published is the current one a reader finds first. -/
theorem current?_publish (hfresh : ∀ r ∈ rows, Row.pk r < Row.pk row)
    (htime : ∀ r ∈ rows, publishedAt r ≤ publishedAt row) :
    current? (publish inScope row rows) = some (setCurrent true row) := by
  have hpk : Row.pk (setCurrent true row) = Row.pk row := Published.pk_setCurrent true row
  have hat : publishedAt (setCurrent true row) = publishedAt row :=
    Published.publishedAt_setCurrent true row
  apply minOn?_eq_some_of_forall_le
  · rw [currents, List.mem_filter]
    exact ⟨(mem_publish hfresh).mpr (Or.inl rfl), Published.isCurrent_setCurrent true row⟩
  · intro x hx
    rw [newestKey_le, hpk, hat]
    cases old_of_mem_publish hfresh (List.mem_filter.mp hx).1 with
    | inl heq =>
      rw [heq, hpk, hat]
      exact Or.inr ⟨rfl, le_rfl⟩
    | inr hold =>
      obtain ⟨r, hr, hxpk, hxat⟩ := hold
      have := hfresh r hr
      have := htime r hr
      omega
  · intro x hx hkey
    have hxpk := pk_of_newestKey_eq hkey
    rw [hpk] at hxpk
    cases old_of_mem_publish hfresh (List.mem_filter.mp hx).1 with
    | inl heq => exact heq
    | inr hold =>
      obtain ⟨r, hr, hrpk, _⟩ := hold
      have := hfresh r hr
      omega

/-- The row just published is the only current one of its scope. -/
theorem currents_publish_scope (hfresh : ∀ r ∈ rows, Row.pk r < Row.pk row)
    (hscope : ∀ flag (r : α), inScope (setCurrent flag r) = inScope r) (hrow : inScope row = true) :
    currents ((publish inScope row rows).filter inScope) = [setCurrent true row] := by
  have hold : ∀ r ∈ rows, Row.pk r ≠ Row.pk row := fun r hr => (hfresh r hr).ne
  unfold publish promote currents
  rw [List.map_append, List.filter_append, List.filter_append, List.map_singleton, if_pos rfl,
    List.filter_singleton, hscope, hrow, cond_true, List.filter_singleton,
    Published.isCurrent_setCurrent, cond_true, List.filter_filter]
  have hnone : ∀ x ∈ rows.map (fun r => if Row.pk r = Row.pk row then setCurrent true r
      else if inScope r && isCurrent r then setCurrent false r else r),
      ¬ (isCurrent x && inScope x) = true := by
    intro x hx
    obtain ⟨r, hr, heq⟩ := List.mem_map.mp hx
    rw [if_neg (hold r hr)] at heq
    rw [← heq]
    split
    · rw [Published.isCurrent_setCurrent, Bool.false_and]
      exact Bool.false_ne_true
    · rename_i hother
      rw [Bool.and_comm]
      exact hother
  rw [List.filter_eq_nil_iff.mpr hnone, List.nil_append]

/-- Where the whole table is one scope, the row just published is the only current one. -/
theorem currents_publish_all (hfresh : ∀ r ∈ rows, Row.pk r < Row.pk row) :
    currents (publish (fun _ => true) row rows) = [setCurrent true row] := by
  have hall : currents ((publish (fun _ => true) row rows).filter fun _ => true) = _ :=
    currents_publish_scope hfresh (fun _ _ => rfl) rfl
  rwa [List.filter_eq_self.mpr fun _ _ => rfl] at hall

/-- `.filter(source=..., is_current=True).first()` after a publication in the scope. -/
theorem current?_publish_scope (hfresh : ∀ r ∈ rows, Row.pk r < Row.pk row)
    (hscope : ∀ flag (r : α), inScope (setCurrent flag r) = inScope r) (hrow : inScope row = true) :
    current? ((publish inScope row rows).filter inScope) = some (setCurrent true row) := by
  unfold current?
  rw [currents_publish_scope hfresh hscope hrow]
  rfl

theorem uniqueKeys_publish (hkeys : Table.UniqueKeys rows)
    (hfresh : ∀ r ∈ rows, Row.pk r < Row.pk row) :
    Table.UniqueKeys (publish inScope row rows) := by
  unfold publish promote
  apply Table.uniqueKeys_map
  · exact Table.uniqueKeys_append hkeys fun r hr => (hfresh r hr).ne
  · intro r
    split
    · exact Published.pk_setCurrent true r
    · split
      · exact Published.pk_setCurrent false r
      · rfl

end Publish

end Currency

end Lib
