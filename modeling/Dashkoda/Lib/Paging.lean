import Mathlib.Algebra.Order.Floor.Div
import Mathlib.Data.List.Range

/-!
# Pages of a listing

A listing is shown so many rows at a time.  The pages one after another are the listing.
-/

namespace Lib

variable {α : Type*}

/-- `paginator.num_pages`: an empty listing has one page. -/
def numPages (per count : Nat) : Nat := (max 1 count + per - 1) / per

/-- `paginator.page(number).object_list` -/
def pageOf (per : Nat) (rows : List α) (number : Nat) : List α :=
  (rows.drop ((number - 1) * per)).take per

theorem numPages_pos {per : Nat} (hper : 0 < per) (count : Nat) : 0 < numPages per count := by
  unfold numPages
  exact Nat.div_pos (by omega) hper

theorem numPages_le {per : Nat} (hper : 0 < per) (count : Nat) :
    numPages per count ≤ max 1 count := by
  unfold numPages
  rw [Nat.div_le_iff_le_mul hper]
  have hmul : max 1 count ≤ max 1 count * per := Nat.le_mul_of_pos_right _ hper
  omega

theorem le_numPages_mul {per : Nat} (hper : 0 < per) (count : Nat) :
    count ≤ numPages per count * per := by
  unfold numPages
  have hmod := Nat.mod_lt (max 1 count + per - 1) hper
  have hdiv := Nat.div_add_mod' (max 1 count + per - 1) per
  have hmax : count ≤ max 1 count := le_max_right _ _
  omega

/-- The first pages are the first rows. -/
theorem flatten_pages (per : Nat) (rows : List α) (count : Nat) :
    ((List.range count).map fun index => pageOf per rows (index + 1)).flatten =
      rows.take (count * per) := by
  induction count with
  | zero => rw [Nat.zero_mul, List.take_zero]; rfl
  | succ count ih =>
    rw [List.range_succ, List.map_append, List.flatten_append, ih, Nat.succ_mul, List.take_add]
    congr 1
    exact List.append_nil _

/-- Every row is on one page. -/
theorem flatten_all_pages {per : Nat} (hper : 0 < per) (rows : List α) :
    ((List.range (numPages per rows.length)).map fun index =>
      pageOf per rows (index + 1)).flatten = rows := by
  rw [flatten_pages, List.take_of_length_le (le_numPages_mul hper rows.length)]

end Lib
