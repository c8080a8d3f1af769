import Dashkoda.Lib.Except
import Dashkoda.Lib.Rounding

/-!
# The range a membership axis covers

The span of the values, widened to a fraction of the largest one and padded, and then rounded to
whole numbers.  The decimals are exact here.
-/

open Lib

namespace Dashkoda.Membership

/-- The value range an axis should cover. -/
structure Domain where
  minimum : ℤ
  maximum : ℤ
  deriving DecidableEq

/-- A range with a height, which contains every value and is at least a fraction of the largest one
high. -/
structure Domain.Covers (domain : Domain) (minFraction : ℚ) (values : List ℚ) : Prop where
  height : domain.minimum < domain.maximum
  contains : ∀ value ∈ values, domain.minimum ≤ value ∧ value ≤ domain.maximum
  fraction : ∀ largest ∈ values, (∀ value ∈ values, value ≤ largest) →
    |largest| * minFraction ≤ domain.maximum - domain.minimum

/-- How far the widening and the padding take each end of the range beyond the values. -/
def reach (minFraction padding lowest highest : ℚ) : ℚ :=
  let span := max (highest - lowest) (|highest| * minFraction)
  (span - (highest - lowest)) / 2 + padding * span

/-- The reach makes good what rounding takes from the range. -/
structure Roomy (minFraction padding lowest highest : ℚ) : Prop where
  below : Int.fract lowest < 1 / 2 + reach minFraction padding lowest highest ∨
    Int.fract lowest = 1 / 2 + reach minFraction padding lowest highest ∧ lowest < 0
  above : Int.fract (-highest) < 1 / 2 + reach minFraction padding lowest highest ∨
    Int.fract (-highest) = 1 / 2 + reach minFraction padding lowest highest ∧ 0 < highest
  /-- A widened span loses no more than its padding; another one is not empty. -/
  tall : if highest - lowest < |highest| * minFraction then
      Decimal.halfFract (highest + reach minFraction padding lowest highest) ≤
        2 * padding * (|highest| * minFraction) +
          Decimal.halfFract (lowest - reach minFraction padding lowest highest)
    else lowest < highest
  /-- Both ends have at most 28 digits. -/
  small : 1 / 2 - 10 ^ Decimal.precision < lowest - reach minFraction padding lowest highest ∧
    highest + reach minFraction padding lowest highest < 10 ^ Decimal.precision - 1 / 2

section Covers

variable {minFraction padding : ℚ} {first : ℚ} {rest : List ℚ}

/-- The least and the largest value. -/
theorem foldl_min_le (first : ℚ) (rest : List ℚ) :
    ∀ value ∈ first :: rest, rest.foldl min first ≤ value := by
  intro value hvalue
  have hmin : (first :: rest).min? = some (rest.foldl min first) := List.min?_cons'
  exact (List.min?_eq_some_iff.mp hmin).2 value hvalue

theorem foldl_min_mem (first : ℚ) (rest : List ℚ) : rest.foldl min first ∈ first :: rest := by
  have hmin : (first :: rest).min? = some (rest.foldl min first) := List.min?_cons'
  exact (List.min?_eq_some_iff.mp hmin).1

theorem le_foldl_max (first : ℚ) (rest : List ℚ) :
    ∀ value ∈ first :: rest, value ≤ rest.foldl max first := by
  intro value hvalue
  have hmax : (first :: rest).max? = some (rest.foldl max first) := List.max?_cons'
  exact (List.max?_eq_some_iff.mp hmax).2 value hvalue

theorem foldl_max_mem (first : ℚ) (rest : List ℚ) : rest.foldl max first ∈ first :: rest := by
  have hmax : (first :: rest).max? = some (rest.foldl max first) := List.max?_cons'
  exact (List.max?_eq_some_iff.mp hmax).1

/-- A range covers the values when it covers the least and the largest one. -/
theorem covers_iff {domain : Domain} : domain.Covers minFraction (first :: rest) ↔
    domain.minimum < domain.maximum ∧ domain.minimum ≤ rest.foldl min first ∧
    rest.foldl max first ≤ domain.maximum ∧
      |rest.foldl max first| * minFraction ≤ domain.maximum - domain.minimum := by
  constructor
  · intro h
    exact ⟨h.height, (h.contains _ (foldl_min_mem first rest)).1,
      (h.contains _ (foldl_max_mem first rest)).2,
      h.fraction _ (foldl_max_mem first rest) (le_foldl_max first rest)⟩
  · rintro ⟨hheight, hlowest, hhighest, hfraction⟩
    refine ⟨hheight, fun value hvalue => ⟨hlowest.trans (foldl_min_le first rest value hvalue),
      (le_foldl_max first rest value hvalue).trans hhighest⟩, fun largest hlargest hall => ?_⟩
    have hsame : largest = rest.foldl max first :=
      le_antisymm (le_foldl_max first rest largest hlargest) (hall _ (foldl_max_mem first rest))
    rw [hsame]
    exact hfraction

section Rounded

variable {lowest highest reached : ℚ}

end Rounded

/-- Where the padding is half a unit or more, digits are all that can be wanting. -/
theorem roomy_of_padding {lowest highest : ℚ} (hpos : 0 < padding)
    (hpadding : 1 / 2 ≤ padding * max (highest - lowest) (|highest| * minFraction))
    (hsmall : 1 / 2 - 10 ^ Decimal.precision < lowest - reach minFraction padding lowest highest ∧
      highest + reach minFraction padding lowest highest < 10 ^ Decimal.precision - 1 / 2) :
    Roomy minFraction padding lowest highest := by
  have hspan : highest - lowest ≤ max (highest - lowest) (|highest| * minFraction) :=
    le_max_left _ _
  have hreach : 1 / 2 ≤ reach minFraction padding lowest highest := by
    unfold reach
    dsimp only
    linarith
  have hfract := Int.fract_lt_one lowest
  have hfract' := Int.fract_lt_one (-highest)
  refine ⟨Or.inl (by linarith), Or.inl (by linarith), ?_, hsmall⟩
  by_cases hflat : highest - lowest < |highest| * minFraction
  · rw [if_pos hflat]
    rw [max_eq_right hflat.le] at hpadding
    have hone := (Decimal.halfFract_mem (highest + reach minFraction padding lowest highest)).2
    have hnone := (Decimal.halfFract_mem (lowest - reach minFraction padding lowest highest)).1
    linarith
  · rw [if_neg hflat]
    rw [max_eq_left (not_lt.mp hflat)] at hpadding
    by_contra hneg
    have hnonpos := mul_nonpos_of_nonneg_of_nonpos hpos.le (sub_nonpos.mpr (not_lt.mp hneg))
    linarith

end Covers

end Dashkoda.Membership
