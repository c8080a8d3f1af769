import Dashkoda.Lib.Days
import Mathlib.Order.Cover

/-!
# Counting days

Ordinals number the dates of the calendar without a gap, so what `timedelta` does to a date is
addition and subtraction of ordinals, as far as the calendar goes.
-/

namespace Lib

namespace Date

/-- `date.min` -/
def first : Date := .of 1 1 1

/-- `date.max` -/
def last : Date := .of 9999 12 31

/-- `date.max.toordinal()` -/
def maxOrdinal : Nat := 3652059

theorem daysBeforeMonth_succ (year : Nat) {month : Nat} (h : 1 ≤ month) :
    daysBeforeMonth year (month + 1) = daysBeforeMonth year month + daysInMonth year month := by
  unfold daysBeforeMonth
  rw [show month + 1 - 1 =
    month - 1 + 1 by omega, List.range'_concat, List.map_append, List.sum_append]
  show _ + (daysInMonth year (1 + 1 * (month - 1)) + 0) = _
  rw [show 1 + 1 * (month - 1) = month by omega]
  omega

theorem isLeapYear_iff {year : Nat} :
    isLeapYear year = true ↔ year % 4 = 0 ∧ (year % 100 ≠ 0 ∨ year % 400 = 0) := by
  unfold isLeapYear
  rw [Bool.and_eq_true, Bool.or_eq_true, decide_eq_true_eq, decide_eq_true_eq, decide_eq_true_eq]

def yearLength (year : Nat) : Nat := if isLeapYear year then 366 else 365

theorem daysBeforeMonth_december (year : Nat) : daysBeforeMonth year 12 + 31 = yearLength year := by
  unfold yearLength daysBeforeMonth
  simp only [List.range', daysInMonth, List.map_cons, List.sum_cons]
  cases isLeapYear year <;> rfl

theorem daysBeforeYear_succ (y : Nat) : daysBeforeYear (y + 2) = daysBeforeYear (y + 1) + yearLength
    (y + 1) := by
  have hfour : (y + 1) / 4 = y / 4 + if (y + 1) % 4 = 0 then 1 else 0 := by split <;> omega
  have hhundred : (y + 1) / 100 = y / 100 + if (y + 1) % 100 = 0 then 1 else 0 := by split <;> omega
  have hfourHundred : (y + 1) / 400 = y / 400 + if (y + 1) % 400 = 0 then 1 else 0 := by
    split <;> omega
  have hfewer : y / 100 ≤ y / 4 := by omega
  have hleap := @isLeapYear_iff (y + 1)
  show (y + 1) * 365 + (y + 1) / 4 - (y + 1) / 100 + (y + 1) / 400 =
    y * 365 + y / 4 - y / 100 + y / 400 + yearLength (y + 1)
  rw [hfour, hhundred, hfourHundred]
  unfold yearLength
  by_cases hyear : isLeapYear (y + 1) = true
  · have hrule := hleap.mp hyear
    rw [if_pos hyear, if_pos hrule.1]
    by_cases hcentury : (y + 1) % 100 = 0
    · rw [if_pos hcentury, if_pos (hrule.2.resolve_left fun hne => hne hcentury)]
      omega
    · rw [if_neg hcentury, if_neg (by omega)]
      omega
  · have hrule := fun h => hyear (hleap.mpr h)
    rw [if_neg hyear]
    by_cases hfourth : (y + 1) % 4 = 0
    · have hcentury : (y + 1) % 100 = 0 := by
        by_contra hne
        exact hrule ⟨hfourth, Or.inl hne⟩
      have hnot : (y + 1) % 400 ≠ 0 := fun heq => hrule ⟨hfourth, Or.inr heq⟩
      rw [if_pos hfourth, if_pos hcentury, if_neg hnot]
      omega
    · rw [if_neg hfourth, if_neg (show (y + 1) % 100 ≠ 0 by omega),
        if_neg (show (y + 1) % 400 ≠ 0 by omega)]
      omega

theorem toOrdinal_next? {date day : Date} (h : date.next? = some day) :
    day.toOrdinal = date.toOrdinal + 1 := by
  have hmonths := date.month_range
  have hyears := date.year_range
  have hdays := date.day_range
  unfold next? at h
  split at h
  · cases h
    unfold toOrdinal
    dsimp only
    omega
  · rename_i hday
    have hlast : date.day = daysInMonth date.year date.month := by omega
    split at h
    · cases h
      unfold toOrdinal
      dsimp only
      rw [daysBeforeMonth_succ date.year hmonths.1]
      omega
    · rename_i hmonth
      have hdecember : date.month = 12 := by omega
      split at h
      · cases h
        -- the 31st of December, the last of the days before the next year
        have hyear := daysBeforeYear_succ (date.year - 1)
        have hlength := daysBeforeMonth_december date.year
        rw [show date.year - 1 + 2 =
          date.year + 1 by omega, show date.year - 1 + 1 = date.year by omega] at hyear
        rw [hdecember] at hlast
        have hdays : date.day = 31 := hlast
        unfold toOrdinal
        dsimp only
        rw [hyear, hdecember, hdays]
        show _ + 0 + 1 = _
        omega
      · cases h

theorem exists_next? {a b : Date} (h : a < b) : ∃ next, a.next? = some next ∧ next ≤ b := by
  cases hnext : a.next? with
  | none => exact absurd (le_of_next?_eq_none hnext b) (not_le.mpr h)
  | some next => exact ⟨next, rfl, (covBy_next? hnext).ge_of_gt h⟩

theorem toOrdinal_strictMono : StrictMono toOrdinal := by
  intro a b h
  -- one day at a time towards the later date
  induction hn : a.remaining using Nat.strong_induction_on generalizing a with
  | _ n ih =>
    obtain ⟨next, hnext, hle⟩ := exists_next? h
    have hstep := toOrdinal_next? hnext
    have hcloser := remaining_lt (covBy_next? hnext).lt
    cases hle.eq_or_lt with
    | inl heq =>
      subst heq
      omega
    | inr hlt =>
      have hrest := ih next.remaining (hn ▸ hcloser) hlt rfl
      omega

theorem toOrdinal_le_iff {a b : Date} : a.toOrdinal ≤ b.toOrdinal ↔ a ≤ b :=
  toOrdinal_strictMono.le_iff_le

theorem toOrdinal_lt_iff {a b : Date} : a.toOrdinal < b.toOrdinal ↔ a < b :=
  toOrdinal_strictMono.lt_iff_lt

theorem toOrdinal_inj {a b : Date} : a.toOrdinal = b.toOrdinal ↔ a = b :=
  toOrdinal_strictMono.injective.eq_iff

theorem first_le (date : Date) : first ≤ date := by
  have hyear := date.year_range
  have hmonth := date.month_range
  have hday := date.day_range
  rw [← not_lt, lt_iff]
  show ¬ (date.year < 1 ∨ date.year = 1 ∧ (date.month < 1 ∨ date.month = 1 ∧ date.day < 1))
  omega

theorem le_last (date : Date) : date ≤ last := le_of_next?_eq_none (by decide +kernel) date

theorem one_le_toOrdinal (date : Date) : 1 ≤ date.toOrdinal := by
  have hle := toOrdinal_le_iff.mpr (first_le date)
  rwa [show first.toOrdinal = 1 by decide +kernel] at hle

theorem toOrdinal_last : last.toOrdinal = maxOrdinal := by decide +kernel

theorem toOrdinal_le (date : Date) : date.toOrdinal ≤ maxOrdinal := by
  have hle := toOrdinal_le_iff.mpr (le_last date)
  rwa [toOrdinal_last] at hle

/-- The day before is the one whose ordinal is one less. -/
theorem toOrdinal_prev? {date day : Date} (h : date.prev? = some day) :
    day.toOrdinal + 1 = date.toOrdinal := by
  have hcov := prev?_covBy h
  obtain ⟨next, hnext, -⟩ := exists_next? hcov.lt
  have hsame : next = date := (covBy_next? hnext).unique_right hcov
  rw [← hsame, toOrdinal_next? hnext]

theorem prev?_eq_none {date : Date} (h : date.prev? = none) : date = first := by
  have hyear := date.year_range
  have hmonth := date.month_range
  have hday := date.day_range
  unfold prev? at h
  split at h
  · cases h
  · split at h
    · cases h
    · split at h
      · cases h
      · apply le_antisymm _ (first_le date)
        rw [← not_lt, lt_iff]
        show ¬ (1 < date.year ∨ 1 = date.year ∧ (1 < date.month ∨ 1 = date.month ∧ 1 < date.day))
        omega

/-! ## Days added and taken away -/

theorem addDays?_eq_some_iff {n : Nat} {date day : Date} :
    addDays? n date = some day ↔ day.toOrdinal = date.toOrdinal + n := by
  induction n generalizing date with
  | zero =>
    show some date = some day ↔ day.toOrdinal = date.toOrdinal
    rw [Option.some.injEq, toOrdinal_inj, eq_comm]
  | succ n ih =>
    show date.next?.bind (addDays? n) = some day ↔ _
    cases hnext : date.next? with
    | none =>
      have hlast := toOrdinal_le_iff.mpr (le_of_next?_eq_none hnext day)
      refine ⟨fun h => (by cases h), fun h => ?_⟩
      omega
    | some next =>
      show addDays? n next = some day ↔ _
      rw [ih, toOrdinal_next? hnext]
      omega

theorem subDays?_eq_some_iff {n : Nat} {date day : Date} :
    subDays? n date = some day ↔ day.toOrdinal + n = date.toOrdinal := by
  induction n generalizing date with
  | zero =>
    show some date = some day ↔ day.toOrdinal = date.toOrdinal
    rw [Option.some.injEq, toOrdinal_inj, eq_comm]
  | succ n ih =>
    show date.prev?.bind (subDays? n) = some day ↔ _
    cases hprev : date.prev? with
    | none =>
      have hfirst := toOrdinal_le_iff.mpr (first_le day)
      rw [← prev?_eq_none hprev] at hfirst
      refine ⟨fun h => (by cases h), fun h => ?_⟩
      omega
    | some prev =>
      have hstep := toOrdinal_prev? hprev
      show subDays? n prev = some day ↔ _
      rw [ih]
      omega

/-- Every ordinal of the calendar is a date's. -/
theorem exists_toOrdinal {n : Nat} (hlow : 1 ≤ n) (hhigh : n ≤ maxOrdinal) :
    ∃ date : Date, date.toOrdinal = n := by
  induction n, hlow using Nat.le_induction with
  | base => exact ⟨first, by decide +kernel⟩
  | succ n hn ih =>
    obtain ⟨date, hdate⟩ := ih (by omega)
    have hlt : date < last := by
      rw [← toOrdinal_lt_iff, toOrdinal_last]
      omega
    obtain ⟨next, hnext, -⟩ := exists_next? hlt
    exact ⟨next, by rw [toOrdinal_next? hnext, hdate]⟩

theorem addDays?_isSome {n : Nat} {date : Date} :
    (∃ day, addDays? n date = some day) ↔ date.toOrdinal + n ≤ maxOrdinal := by
  have hone := one_le_toOrdinal date
  constructor
  · rintro ⟨day, hday⟩
    rw [← addDays?_eq_some_iff.mp hday]
    exact toOrdinal_le day
  · intro hle
    obtain ⟨day, hday⟩ := exists_toOrdinal (by omega) hle
    exact ⟨day, addDays?_eq_some_iff.mpr hday⟩

theorem subDays?_isSome {n : Nat} {date : Date} : (∃ day, subDays? n date = some day) ↔
    n < date.toOrdinal := by
  constructor
  · rintro ⟨day, hday⟩
    have hone := one_le_toOrdinal day
    have hsum := subDays?_eq_some_iff.mp hday
    omega
  · intro hlt
    have hmax := toOrdinal_le date
    obtain ⟨day, hday⟩ := exists_toOrdinal (show 1 ≤ date.toOrdinal - n by omega) (by omega)
    exact ⟨day, subDays?_eq_some_iff.mpr (by omega)⟩

/-- `date + timedelta(days=n)` for a number of either sign. -/
def shift? (n : Int) (date : Date) : Option Date :=
  match n with
  | .ofNat n => addDays? n date
  | .negSucc n => subDays? (n + 1) date

theorem shift?_eq_some_iff {n : Int} {date day : Date} :
    shift? n date = some day ↔ (day.toOrdinal : Int) = date.toOrdinal + n := by
  cases n with
  | ofNat n =>
    show addDays? n date = some day ↔ _
    rw [addDays?_eq_some_iff, Int.ofNat_eq_natCast]
    omega
  | negSucc n =>
    show subDays? (n + 1) date = some day ↔ _
    rw [subDays?_eq_some_iff, Int.negSucc_eq]
    omega

theorem shift?_isSome {n : Int} {date : Date} : (∃ day, shift? n date = some day) ↔
    1 ≤ (date.toOrdinal : Int) + n ∧ (date.toOrdinal : Int) + n ≤ maxOrdinal := by
  constructor
  · rintro ⟨day, hday⟩
    rw [← shift?_eq_some_iff.mp hday]
    have hone := one_le_toOrdinal day
    have hmax := toOrdinal_le day
    omega
  · rintro ⟨hlow, hhigh⟩
    obtain ⟨day, hday⟩ := exists_toOrdinal (n := ((date.toOrdinal : Int) + n).toNat)
      (by omega) (by omega)
    exact ⟨day, shift?_eq_some_iff.mpr (by omega)⟩

/-! ## Counting the days of a period -/

theorem length_upTo {stop : Date} {n : Nat} {date : Date} (h : date.remaining < n) :
    (upTo stop n date).length = stop.toOrdinal + 1 - date.toOrdinal := by
  induction n generalizing date with
  | zero => cases h
  | succ n ih =>
    unfold upTo
    by_cases hle : date ≤ stop
    · have hordinal := toOrdinal_le_iff.mpr hle
      rw [if_pos hle, List.length_cons]
      cases hnext : date.next? with
      | none =>
        have hsame := toOrdinal_le_iff.mpr (le_of_next?_eq_none hnext stop)
        show 0 + 1 = _
        omega
      | some next =>
        have hstep := toOrdinal_next? hnext
        have hcloser := remaining_lt (covBy_next? hnext).lt
        show (upTo stop n next).length + 1 = _
        rw [ih (by omega)]
        omega
    · have hordinal := toOrdinal_lt_iff.mpr (not_le.mp hle)
      rw [if_neg hle, List.length_nil]
      omega

theorem length_eachDay (start stop : Date) :
    (eachDay start stop).length = stop.toOrdinal + 1 - start.toOrdinal :=
      length_upTo (Nat.lt_succ_self _)

end Date

end Lib
