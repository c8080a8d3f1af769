import Dashkoda.Lib.Decimal
import Mathlib.Tactic.Linarith
import Mathlib.Tactic.Positivity
import Mathlib.Tactic.Push

/-!
# Rounding to whole numbers

Halves go away from zero, or to the even neighbour; either way a number moves by at most a half.
-/

namespace Lib.Decimal

theorem roundHalfUp_neg (q : ℚ) : roundHalfUp (-q) = -roundHalfUp q := by
  unfold roundHalfUp
  by_cases hzero : q = 0
  · subst hzero
    norm_num
  · by_cases hpos : 0 ≤ q
    · have hlt : 0 < q := lt_of_le_of_ne hpos (Ne.symm hzero)
      rw [if_neg (by linarith), if_pos hpos, neg_neg]
    · rw [if_pos (by linarith), if_neg hpos, neg_neg]

/-- What is rounded to at most a whole number. -/
theorem roundHalfUp_le_iff {q : ℚ} {n : ℤ} : roundHalfUp q ≤ n ↔ q < n + 1 / 2 ∨
    q = n + 1 / 2 ∧ n < 0 := by
  unfold roundHalfUp
  by_cases hpos : 0 ≤ q
  · rw [if_pos hpos, ← Int.lt_add_one_iff, Int.floor_lt]
    push_cast
    constructor
    · exact fun h => Or.inl (by linarith)
    · rintro (h | ⟨h, hn⟩)
      · linarith
      · have hcast : (n : ℚ) ≤ -1 := by exact_mod_cast Int.le_sub_one_of_lt hn
        linarith
  · rw [if_neg hpos, neg_le, Int.le_floor]
    push_cast
    constructor
    · intro h
      by_cases heq : q = n + 1 / 2
      · refine Or.inr ⟨heq, ?_⟩
        have hcast : (n : ℚ) < 0 := by linarith
        exact_mod_cast hcast
      · exact Or.inl (lt_of_le_of_ne (by linarith) heq)
    · rintro (h | ⟨h, -⟩) <;> linarith

/-- What is rounded to at least a whole number. -/
theorem le_roundHalfUp_iff {q : ℚ} {n : ℤ} : n ≤ roundHalfUp q ↔ n - 1 / 2 < q ∨
    q = n - 1 / 2 ∧ 0 < n := by
  rw [← neg_le_neg_iff, ← roundHalfUp_neg, roundHalfUp_le_iff, neg_lt_zero]
  push_cast
  refine or_congr ?_ (and_congr_left fun _ => ?_)
  · constructor <;> intro h <;> linarith
  · constructor <;> intro h <;> linarith

/-- Rounding moves a number by at most a half. -/
theorem roundHalfUp_le (q : ℚ) : (roundHalfUp q : ℚ) ≤ q + 1 / 2 := by
  cases (le_roundHalfUp_iff (q := q)).mp (le_refl _) with
  | inl h => linarith
  | inr h => linarith [h.1]

theorem le_roundHalfUp (q : ℚ) : q - 1 / 2 ≤ roundHalfUp q := by
  cases (roundHalfUp_le_iff (q := q)).mp (le_refl _) with
  | inl h => linarith
  | inr h => linarith [h.1]

/-- How far the half above a number is from what the number rounds to: the fractional part of that
half, which counts as one instead of none below zero. -/
def halfFract (q : ℚ) : ℚ := if 0 ≤ q then Int.fract (q + 1 / 2) else 1 - Int.fract (1 / 2 - q)

theorem roundHalfUp_eq (q : ℚ) : (roundHalfUp q : ℚ) = q + 1 / 2 - halfFract q := by
  unfold roundHalfUp halfFract Int.fract
  split
  · ring
  · push_cast
    rw [neg_add_eq_sub]
    ring

theorem halfFract_mem (q : ℚ) : 0 ≤ halfFract q ∧ halfFract q ≤ 1 := by
  have hle := roundHalfUp_le q
  have hge := le_roundHalfUp q
  rw [roundHalfUp_eq] at hle hge
  constructor <;> linarith

/-! ## Halves to even -/

theorem roundHalfEven_mem (q : ℚ) : q - 1 / 2 ≤ roundHalfEven q ∧
    (roundHalfEven q : ℚ) ≤ q + 1 / 2 := by
  have hfloor := Int.floor_le q
  have hnext := Int.lt_floor_add_one q
  unfold roundHalfEven
  dsimp only
  by_cases hlow : q - ⌊q⌋ < 1 / 2
  · rw [if_pos hlow]
    constructor <;> linarith
  · rw [if_neg hlow]
    have hhalf := not_lt.mp hlow
    by_cases hhigh : 1 / 2 < q - ⌊q⌋
    · rw [if_pos hhigh]
      push_cast
      constructor <;> linarith
    · rw [if_neg hhigh]
      have heq := le_antisymm (not_lt.mp hhigh) hhalf
      by_cases heven : ⌊q⌋ % 2 = 0
      · rw [if_pos heven]
        constructor <;> linarith
      · rw [if_neg heven]
        push_cast
        constructor <;> linarith

theorem roundHalfEven_le {q : ℚ} {n : ℤ} (h : q ≤ n) : roundHalfEven q ≤ n := by
  have habove := (roundHalfEven_mem q).2
  have hcast : (roundHalfEven q : ℚ) < n + 1 := by linarith
  exact Int.lt_add_one_iff.mp (by exact_mod_cast hcast)

theorem le_roundHalfEven {q : ℚ} {n : ℤ} (h : n ≤ q) : n ≤ roundHalfEven q := by
  have hbelow := (roundHalfEven_mem q).1
  have hcast : (n : ℚ) < roundHalfEven q + 1 := by linarith
  exact Int.lt_add_one_iff.mp (by exact_mod_cast hcast)

theorem roundHalfEven_nonneg {q : ℚ} (h : 0 ≤ q) : 0 ≤ roundHalfEven q :=
  le_roundHalfEven (by exact_mod_cast h)

theorem fix_nonneg {q : ℚ} (h : 0 ≤ q) : 0 ≤ fix q := by
  unfold fix
  by_cases hzero : q = 0
  · rw [if_pos hzero]
  · rw [if_neg hzero]
    have hunit : 0 ≤ pow10 (adjusted q - (precision - 1)) := by
      unfold pow10
      split <;> positivity
    have hround : (0 : ℚ) ≤ roundHalfEven (q / pow10 (adjusted q - (precision - 1))) := by
      exact_mod_cast roundHalfEven_nonneg (div_nonneg h hunit)
    exact mul_nonneg hround hunit

theorem quantizeCents_nonneg {q cents : ℚ} (h : 0 ≤ q) (hcents : quantizeCents q = some cents) :
    0 ≤ cents := by
  unfold quantizeCents at hcents
  dsimp only at hcents
  split at hcents
  · cases hcents
    have hround : (0 : ℚ) ≤ roundHalfEven (q * 100) := by
      exact_mod_cast roundHalfEven_nonneg (by linarith)
    positivity
  · cases hcents

end Lib.Decimal
