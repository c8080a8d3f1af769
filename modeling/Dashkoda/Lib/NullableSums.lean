import Dashkoda.Lib.Tally
import Mathlib.Algebra.Order.Group.Int
import Mathlib.Data.Rat.Cast.Order
import Mathlib.Tactic.FieldSimp
import Mathlib.Tactic.Linarith
import Mathlib.Tactic.Push
import Mathlib.Tactic.Ring

/-!
# Sums of figures that may be absent

`SUM` skips what is null and is null where nothing is left.  A quotient of two such sums is the one
over the rows that carry both figures exactly where the rows that carry one of them alone leave it
as it is.
-/

namespace Lib

variable {α : Type*} (f g : α → Option ℤ)

/-- `Sum("f")` -/
def sumOf (rows : List α) : Option ℤ :=
  let values := rows.filterMap f
  if values = [] then none else some values.sum

/-- `Max("f")` -/
def maxOf (rows : List α) : Option ℤ := (rows.filterMap f).max?

/-- A quotient, or `none` where one cannot be formed. -/
def ratio : Option ℤ → Option ℤ → Option ℚ
  | some numerator, some denominator =>
    if denominator = 0 then none else some (numerator / denominator)
  | _, _ => none

def carryBoth (rows : List α) : List α := rows.filter fun row => (f row).isSome ∧ (g row).isSome

/-- The quotient of the two sums over exactly the rows that carry both figures. -/
def matchedRatio (rows : List α) : Option ℚ :=
  ratio (sumOf f (carryBoth f g rows)) (sumOf g (carryBoth f g rows))

/-- What a figure adds up to. -/
def amountOf (rows : List α) : ℤ := total (fun row => (f row).getD 0) rows

/-- What it adds up to on the rows that carry no other figure. -/
def amountAlone (rows : List α) : ℤ :=
  amountOf f (rows.filter fun row => (f row).isSome ∧ (g row) = none)

/-- The rows that carry one of the figures alone leave the quotient as it is. -/
def Unbiased (rows : List α) : Prop :=
  if amountOf g (carryBoth f g rows) = 0 then amountAlone g f rows = 0 ∨ ∀ row ∈ rows, f row = none
  else amountAlone f g rows * amountOf g (carryBoth f g rows) =
    amountOf f (carryBoth f g rows) * amountAlone g f rows

/-- The rows that carry the numerator alone add nothing to it, or there is no quotient. -/
def NothingAlone (rows : List α) : Prop :=
  amountOf g (carryBoth f g rows) = 0 ∨ amountAlone f g rows = 0

section Sums

variable {f g}

theorem sumOf_eq (rows : List α) : sumOf f rows = if ∀ row ∈ rows, f row = none then none else
    some (amountOf f rows) := by
  have hempty : rows.filterMap f = [] ↔ ∀ row ∈ rows, f row = none := List.filterMap_eq_nil_iff
  have hsum : (rows.filterMap f).sum = amountOf f rows := by
    unfold amountOf
    clear hempty
    induction rows with
    | nil => rfl
    | cons row rest ih =>
      rw [total_cons, ← ih]
      cases hrow : f row with
      | none => rw [List.filterMap_cons_none hrow, Option.getD_none, zero_add]
      | some value => rw [List.filterMap_cons_some hrow, List.sum_cons, Option.getD_some]
  unfold sumOf
  dsimp only
  by_cases hnone : ∀ row ∈ rows, f row = none
  · rw [if_pos (hempty.mpr hnone), if_pos hnone]
  · rw [if_neg fun h => hnone (hempty.mp h), if_neg hnone, hsum]

theorem sumOf_eq_none_iff {rows : List α} : sumOf f rows = none ↔ ∀ row ∈ rows, f row = none := by
  rw [sumOf_eq, ite_eq_left_iff]
  simp only [reduceCtorEq, imp_false, not_not]

theorem sumOf_congr {rows : List α} (h : ∀ row ∈ rows, f row = g row) :
    sumOf f rows = sumOf g rows := by
  unfold sumOf
  rw [List.filterMap_congr h]

theorem sumOf_perm {rows rows' : List α} (h : rows.Perm rows') : sumOf f rows = sumOf f rows' := by
  have hvalues := h.filterMap f
  have hnil : rows.filterMap f = [] ↔ rows'.filterMap f = [] := by
    rw [← List.length_eq_zero_iff, hvalues.length_eq, List.length_eq_zero_iff]
  unfold sumOf
  dsimp only
  rw [hvalues.sum_eq]
  exact if_congr hnil rfl rfl

theorem sumOf_map {β : Type*} (f : β → Option ℤ) (into : α → β) (rows : List α) :
    sumOf f (rows.map into) = sumOf (fun row => f (into row)) rows := by
  unfold sumOf
  rw [List.filterMap_map]
  rfl

theorem amountOf_of_none {rows : List α} (h : ∀ row ∈ rows, f row = none) :
    amountOf f rows = 0 := by
  unfold amountOf
  rw [total_congr fun row hrow => congrArg (Option.getD · 0) (h row hrow)]
  exact total_zero rows

theorem getD_sumOf (rows : List α) : (sumOf f rows).getD 0 = amountOf f rows := by
  rw [sumOf_eq]
  split
  · next hnone => exact (amountOf_of_none hnone).symm
  · rfl

/-- The rows of a figure carry the other one too, or do not. -/
theorem amountOf_eq (f g : α → Option ℤ) (rows : List α) :
    amountOf f rows = amountOf f (carryBoth f g rows) + amountAlone f g rows := by
  unfold amountAlone amountOf carryBoth
  induction rows with
  | nil => rfl
  | cons row rest ih =>
    rw [total_cons, ih]
    cases hf : f row with
    | none =>
      rw [List.filter_cons_of_neg (by simp [hf]), List.filter_cons_of_neg (by simp [hf]),
        Option.getD_none, zero_add]
    | some value =>
      cases hg : g row with
      | none =>
        rw [List.filter_cons_of_neg (by simp [hg]), List.filter_cons_of_pos (by simp [hf, hg]),
          total_cons, hf]
        ring
      | some other =>
        rw [List.filter_cons_of_pos (by simp [hf, hg]), List.filter_cons_of_neg (by simp [hg]),
          total_cons, hf]
        ring

theorem amountOf_nonneg {rows : List α}
    (h : ∀ row ∈ rows, ∀ value, f row = some value → 0 ≤ value) :
    0 ≤ amountOf f rows := by
  unfold amountOf
  induction rows with
  | nil => exact le_refl 0
  | cons row rest ih =>
    rw [total_cons]
    refine add_nonneg ?_ (ih fun row hrow => h row (List.mem_cons_of_mem _ hrow))
    cases hrow : f row with
    | none => exact le_refl 0
    | some value => exact h row List.mem_cons_self value hrow

theorem amountAlone_nonneg {rows : List α}
    (h : ∀ row ∈ rows, ∀ value, f row = some value → 0 ≤ value) :
    0 ≤ amountAlone f g rows :=
  amountOf_nonneg fun row hrow => h row (List.mem_of_mem_filter hrow)

theorem ratio_none_right (numerator : Option ℤ) : ratio numerator none = none := by
  cases numerator <;> rfl

theorem ratio_zero (numerator : Option ℤ) : ratio numerator (some 0) = none := by
  cases numerator <;> rfl

/-- The rows that carry both are none where the denominator is not zero. -/
theorem matchedRatio_eq (f g : α → Option ℤ) (rows : List α) : matchedRatio f g rows =
    if amountOf g (carryBoth f g rows) = 0 then none
    else some ((amountOf f (carryBoth f g rows) : ℚ) / amountOf g (carryBoth f g rows)) := by
  unfold matchedRatio
  rw [sumOf_eq (f := g)]
  by_cases hnone : ∀ row ∈ carryBoth f g rows, g row = none
  · rw [if_pos hnone, ratio_none_right, amountOf_of_none hnone, if_pos rfl]
  · rw [if_neg hnone]
    by_cases hzero : amountOf g (carryBoth f g rows) = 0
    · rw [hzero, ratio_zero, if_pos rfl]
    · have hcarry : ¬∀ row ∈ carryBoth f g rows, f row = none := by
        intro hall
        refine hnone fun row hrow => ?_
        have hboth := (List.mem_filter.mp hrow).2
        rw [decide_eq_true_eq, hall row hrow] at hboth
        exact absurd hboth.1 Bool.false_ne_true
      rw [sumOf_eq (f := f), if_neg hcarry, if_neg hzero]
      exact if_neg hzero

/-- The plain quotient is the matched one exactly where it is unbiased. -/
theorem ratio_eq_matched_iff {rows : List α}
    (hg : ∀ row ∈ rows, ∀ value, g row = some value → 0 ≤ value) :
    ratio (sumOf f rows) (sumOf g rows) = matchedRatio f g rows ↔ Unbiased f g rows := by
  have hboth : 0 ≤ amountOf g (carryBoth f g rows) :=
    amountOf_nonneg fun row hrow => hg row (List.mem_of_mem_filter hrow)
  have halone : 0 ≤ amountAlone g f rows := amountAlone_nonneg hg
  have hcomm : carryBoth g f rows = carryBoth f g rows := by
    unfold carryBoth
    exact List.filter_congr fun row _ => decide_eq_decide.mpr and_comm
  have hdenominator : amountOf g rows = amountOf g (carryBoth f g rows) + amountAlone g f rows :=
    hcomm ▸ amountOf_eq g f rows
  have hnumerator := amountOf_eq f g rows
  rw [matchedRatio_eq, sumOf_eq (f := f), sumOf_eq (f := g)]
  unfold Unbiased
  by_cases hzero : amountOf g (carryBoth f g rows) = 0
  · rw [if_pos hzero, if_pos hzero]
    rw [hzero, zero_add] at hdenominator
    by_cases hnone : ∀ row ∈ rows, f row = none
    · rw [if_pos hnone]
      exact iff_of_true rfl (Or.inr hnone)
    · rw [if_neg hnone, or_iff_left hnone, ← hdenominator]
      by_cases hnone' : ∀ row ∈ rows, g row = none
      · rw [if_pos hnone']
        exact iff_of_true rfl (amountOf_of_none hnone')
      · rw [if_neg hnone']
        unfold ratio
        dsimp only
        by_cases hsum : amountOf g rows = 0
        · rw [if_pos hsum]
          exact iff_of_true rfl hsum
        · rw [if_neg hsum]
          exact iff_of_false (by simp) hsum
  · rw [if_neg hzero, if_neg hzero]
    have hpos : 0 < amountOf g (carryBoth f g rows) := lt_of_le_of_ne hboth (Ne.symm hzero)
    have hcarried : ¬∀ row ∈ rows, g row = none := by
      intro hall
      exact hzero (amountOf_of_none fun row hrow => hall row (List.mem_of_mem_filter hrow))
    have hcarried' : ¬∀ row ∈ rows, f row = none := by
      intro hall
      refine hzero (amountOf_of_none fun row hrow => ?_)
      have hrow' := (List.mem_filter.mp hrow)
      have hboth' := hrow'.2
      rw [decide_eq_true_eq, hall row hrow'.1] at hboth'
      exact absurd hboth'.1 Bool.false_ne_true
    rw [if_neg hcarried, if_neg hcarried']
    unfold ratio
    dsimp only
    rw [if_neg (by omega), Option.some.injEq]
    have hsum : (0 : ℚ) < amountOf g rows := by
      have hlt : 0 < amountOf g rows := by omega
      exact_mod_cast hlt
    have hmatched : (0 : ℚ) < amountOf g (carryBoth f g rows) := by exact_mod_cast hpos
    rw [div_eq_div_iff hsum.ne' hmatched.ne']
    rw [hnumerator, hdenominator]
    constructor
    · intro h
      have hint : (amountOf f (carryBoth f g rows) + amountAlone f g rows) * amountOf g
          (carryBoth f g rows) =
          amountOf f (carryBoth f g rows) *
            (amountOf g (carryBoth f g rows) + amountAlone g f rows) := by exact_mod_cast h
      linarith
    · intro h
      have hint : (amountOf f (carryBoth f g rows) + amountAlone f g rows) * amountOf g
          (carryBoth f g rows) =
          amountOf f (carryBoth f g rows) *
            (amountOf g (carryBoth f g rows) + amountAlone g f rows) := by linarith
      exact_mod_cast hint

/-- A quotient whose denominator is summed where there is a numerator. -/
theorem filtered_eq_matched_iff (rows : List α) :
    ratio (sumOf f rows) (sumOf g (rows.filter fun row => (f row).isSome)) = matchedRatio f g rows ↔
      NothingAlone f g rows := by
  have hdenominator : amountOf g (rows.filter fun row => (f row).isSome) =
      amountOf g (carryBoth f g rows) := by
    have hnone : amountAlone g f (rows.filter fun row => (f row).isSome) = 0 := by
      refine amountOf_of_none fun row hrow => ?_
      obtain ⟨hrow, halone⟩ := List.mem_filter.mp hrow
      have hsome := (List.mem_filter.mp hrow).2
      rw [decide_eq_true_eq] at halone
      rw [halone.2] at hsome
      exact absurd hsome Bool.false_ne_true
    have hsame : carryBoth g f (rows.filter fun row => (f row).isSome) = carryBoth f g rows := by
      unfold carryBoth
      rw [List.filter_filter]
      refine List.filter_congr fun row _ => ?_
      cases f row <;> cases g row <;> rfl
    rw [amountOf_eq g f, hnone, hsame, add_zero]
  have hnumerator := amountOf_eq f g rows
  rw [matchedRatio_eq, sumOf_eq (f := f), sumOf_eq (f := g), hdenominator]
  unfold NothingAlone
  by_cases hzero : amountOf g (carryBoth f g rows) = 0
  · rw [if_pos hzero]
    refine iff_of_true ?_ (Or.inl hzero)
    by_cases hnone : ∀ row ∈ rows.filter fun row => (f row).isSome, g row = none
    · rw [if_pos hnone]
      exact ratio_none_right _
    · rw [if_neg hnone, hzero]
      exact ratio_zero _
  · rw [if_neg hzero, or_iff_right hzero]
    have hcarried : ¬∀ row ∈ rows.filter fun row => (f row).isSome, g row = none := by
      intro hall
      exact hzero (hdenominator ▸ amountOf_of_none hall)
    have hcarried' : ¬∀ row ∈ rows, f row = none := by
      intro hall
      refine hcarried fun row hrow => ?_
      obtain ⟨hrow, hsome⟩ := List.mem_filter.mp hrow
      rw [hall row hrow] at hsome
      exact absurd hsome Bool.false_ne_true
    rw [if_neg hcarried, if_neg hcarried']
    unfold ratio
    dsimp only
    rw [if_neg hzero, Option.some.injEq]
    have hmatched : (amountOf g (carryBoth f g rows) : ℚ) ≠ 0 := by exact_mod_cast hzero
    rw [div_left_inj' hmatched, hnumerator]
    constructor
    · intro h
      have hint : amountOf f (carryBoth f g rows) + amountAlone f g rows =
          amountOf f (carryBoth f g rows) := by
        exact_mod_cast h
      omega
    · intro h
      rw [h, add_zero]

/-! ## Groups -/

variable {κ : Type*} [DecidableEq κ] {key : α → κ} {keys : List κ} {rows : List α}

/-- The sums of the groups add up to the sum of all. -/
theorem sumOf_groups (hkeys : keys.Nodup) (hall : ∀ row ∈ rows, key row ∈ keys) :
    sumOf (fun k => sumOf f (rows.filter fun row => key row = k)) keys = sumOf f rows := by
  have hnone : (∀ k ∈ keys, sumOf f (rows.filter fun row => key row = k) = none) ↔
      ∀ row ∈ rows, f row = none := by
    constructor
    · intro h row hrow
      exact sumOf_eq_none_iff.mp (h _ (hall row hrow)) row
        (List.mem_filter.mpr ⟨hrow, decide_eq_true rfl⟩)
    · intro h k _
      exact sumOf_eq_none_iff.mpr fun row hrow => h row (List.mem_of_mem_filter hrow)
  have hamount : amountOf (fun k => sumOf f (rows.filter fun row => key row = k)) keys =
      amountOf f rows := by
    have hgroup : ∀ k ∈ keys, (sumOf f (rows.filter fun row => key row = k)).getD 0 =
        totalAt key (fun row => (f row).getD 0) rows k := fun k _ => getD_sumOf _
    unfold amountOf
    rw [total_congr hgroup]
    exact total_totalAt_of_mem key _ hkeys hall
  rw [sumOf_eq, sumOf_eq, hamount]
  exact if_congr hnone rfl rfl

theorem maxOf_eq_none_iff : maxOf f rows = none ↔ ∀ row ∈ rows, f row = none := by
  unfold maxOf
  rw [List.max?_eq_none_iff, List.filterMap_eq_nil_iff]

theorem maxOf_eq_some_iff {top : ℤ} :
    maxOf f rows = some top ↔ (∃ row ∈ rows, f row = some top) ∧ ∀ row ∈ rows, ∀ n, f row = some n →
    n ≤ top := by
  unfold maxOf
  rw [List.max?_eq_some_iff, List.mem_filterMap]
  refine and_congr Iff.rfl ?_
  simp only [List.mem_filterMap]
  constructor
  · exact fun h row hrow n hn => h n ⟨row, hrow, hn⟩
  · exact fun h n ⟨row, hrow, hn⟩ => h row hrow n hn

theorem maxOf_perm {rows' : List α} (h : rows.Perm rows') : maxOf f rows = maxOf f rows' := by
  cases htop : maxOf f rows' with
  | none =>
    exact maxOf_eq_none_iff.mpr fun row hrow => maxOf_eq_none_iff.mp htop row (h.mem_iff.mp hrow)
  | some top =>
    obtain ⟨⟨row, hrow, heq⟩, hle⟩ := maxOf_eq_some_iff.mp htop
    exact maxOf_eq_some_iff.mpr ⟨⟨row, h.mem_iff.mpr hrow, heq⟩, fun row hrow =>
      hle row (h.mem_iff.mp hrow)⟩

theorem maxOf_map {β : Type*} (f : β → Option ℤ) (into : α → β) (rows : List α) :
    maxOf f (rows.map into) = maxOf (fun row => f (into row)) rows := by
  unfold maxOf
  rw [List.filterMap_map]
  rfl

/-- The greatest of the groups' greatest is the greatest of all. -/
theorem maxOf_groups (hall : ∀ row ∈ rows, key row ∈ keys) :
    maxOf (fun k => maxOf f (rows.filter fun row => key row = k)) keys = maxOf f rows := by
  have hgroup : ∀ row ∈ rows, row ∈ rows.filter fun other => key other = key row := fun row hrow =>
    List.mem_filter.mpr ⟨hrow, decide_eq_true rfl⟩
  cases htop : maxOf f rows with
  | none =>
    rw [maxOf_eq_none_iff] at htop ⊢
    exact fun k _ => maxOf_eq_none_iff.mpr fun row hrow => htop row (List.mem_of_mem_filter hrow)
  | some top =>
    obtain ⟨⟨row, hrow, heq⟩, hle⟩ := maxOf_eq_some_iff.mp htop
    refine maxOf_eq_some_iff.mpr
      ⟨⟨key row, hall row hrow, maxOf_eq_some_iff.mpr ⟨⟨row, hgroup row hrow, heq⟩, ?_⟩⟩, ?_⟩
    · exact fun other hother => hle other (List.mem_of_mem_filter hother)
    · intro k _ n hn
      obtain ⟨other, hother, heq'⟩ := (maxOf_eq_some_iff.mp hn).1
      exact hle other (List.mem_of_mem_filter hother) n heq'

end Sums

end Lib
