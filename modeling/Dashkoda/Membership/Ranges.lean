import Dashkoda.Lib.Except
import Dashkoda.Lib.IsoDate

/-!
# The window of a membership trend

Whatever the query string says, the window lies inside the history, unless the start that has to be
counted back from its end leaves the calendar.
-/

open Lib

namespace Dashkoda.Membership

/-- What each key of the retired control meant, in months; `none` is the whole history. -/
def LEGACY_WINDOW_MONTHS : List (String × Option Int) :=
  [("6", some 6), ("12", some 12), ("24", some 24), ("36", some 36), ("60", some 60),
    ("koik", none)]

def PAGE_DEFAULT_MONTHS : Int := 12

structure DateWindow where
  start : Date
  «end» : Date
  deriving DecidableEq

/-- The arguments of `date` are out of range. -/
inductive ValueError
  | outOfRange
  deriving DecidableEq

/-- `date(year, month, day)` -/
def makeDate (year month day : Int) : Except ValueError Date :=
  match Date.ofNumbers? year.toNat month.toNat day.toNat with
  | some date => .ok date
  | none => .error .outOfRange

/-- The months of the calendar before the one of a date. -/
def monthsBefore (date : Date) : Int := date.year * 12 + date.month - 1

/-- `window_start` -/
def windowStart («end» : Date) (months : Int) : Except ValueError Date :=
  let total := monthsBefore «end» - (months - 1)
  makeDate (total / 12) (total % 12 + 1) 1

/-- `parse_iso_date` -/
def parseIsoDate (raw : Option String) : Option Date :=
  match raw with
  | none => none
  | some raw => if raw = "" then none else Date.fromisoformat raw

/-- `min(max(date, earliest), latest)` -/
def clampDate (earliest latest date : Date) : Date := min (max date earliest) latest

/-- The two ends before they are folded inside the history. -/
def askedWindow (rawFrom rawTo : Option String) (earliest latest : Date) (legacyKey : Option String)
    (defaultMonths : Int) : Except ValueError (Date × Date) :=
  match parseIsoDate rawFrom, parseIsoDate rawTo with
  | none, none => do
    let months :=
      ((legacyKey.bind fun key => LEGACY_WINDOW_MONTHS.lookup key).getD (some defaultMonths))
    let start ← match months with
      | none => .ok earliest
      | some months => windowStart latest months
    return (start, latest)
  | start, «end» => do
    let «end» := «end».getD latest
    let start ← match start with
      | some start => .ok start
      | none => windowStart «end» defaultMonths
    return if «end» < start then («end», start) else (start, «end»)

/-- `resolve_window` -/
def resolveWindow (rawFrom rawTo : Option String) (earliest latest : Option Date)
    (legacyKey : Option String) (defaultMonths : Int) : Except ValueError (Option DateWindow) :=
  match earliest, latest with
  | some earliest, some latest => do
    let (start, «end») ← askedWindow rawFrom rawTo earliest latest legacyKey defaultMonths
    return some ⟨clampDate earliest latest start, clampDate earliest latest «end»⟩
  | _, _ => .ok none

/-! ## When a start can be counted back -/

/-- The end and the months a start is counted back from, if the request leaves the start open. -/
def countedBack (rawFrom rawTo : Option String) (latest : Date) (legacyKey : Option String)
    (defaultMonths : Int) : Option (Date × Int) :=
  match parseIsoDate rawFrom, parseIsoDate rawTo with
  | none, none =>
    ((legacyKey.bind fun key => LEGACY_WINDOW_MONTHS.lookup key).getD (some defaultMonths)).map
      fun months => (latest, months)
  | none, some «end» => some («end», defaultMonths)
  | some _, _ => none

/-- The month in which the window starts is one of the years 1 to 9999. -/
def StartsInCalendar («end» : Date) (months : Int) : Prop :=
  12 ≤ monthsBefore «end» - (months - 1) ∧ monthsBefore «end» - (months - 1) < 120000

instance («end» : Date) (months : Int) : Decidable (StartsInCalendar «end» months) :=
  inferInstanceAs (Decidable (_ ∧ _))

section Resolve

variable {«end» earliest latest start : Date} {months : Int}

theorem ofNumbers?_first {year month : Nat} (hyear : 1 ≤ year ∧ year ≤ 9999)
    (hmonth : 1 ≤ month ∧ month ≤ 12) : ∃ date, Date.ofNumbers? year month 1 = some date :=
  ⟨_, dif_pos ⟨hyear, hmonth, le_refl 1, one_le_daysInMonth year month⟩⟩

/-- A start is counted back exactly if it stays in the calendar. -/
theorem windowStart_iff : (∃ start, windowStart «end» months = .ok start) ↔
    StartsInCalendar «end» months := by
  unfold windowStart StartsInCalendar makeDate
  dsimp only
  generalize monthsBefore «end» - (months - 1) = total
  constructor
  · rintro ⟨start, hok⟩
    split at hok
    · rename_i date hdate
      unfold Date.ofNumbers? at hdate
      split at hdate
      · rename_i hnumbers
        omega
      · cases hdate
    · cases hok
  · rintro ⟨hlow, hhigh⟩
    obtain ⟨date, hdate⟩ :=
      @ofNumbers?_first (total / 12).toNat (total % 12 + 1).toNat (by omega) (by omega)
    exact ⟨date, by rw [show (1 : Int).toNat = 1 from rfl, hdate]⟩

theorem clampDate_mem (h : earliest ≤ latest) (date : Date) :
    earliest ≤ clampDate earliest latest date ∧ clampDate earliest latest date ≤ latest :=
  ⟨le_min (le_max_right _ _) h, min_le_right _ _⟩

theorem clampDate_mono {a b : Date} (h : a ≤ b) :
    clampDate earliest latest a ≤ clampDate earliest latest b :=
  min_le_min_right _ (max_le_max_right _ h)

/-- Folding two ordered ends inside the history gives a window. -/
theorem resolveWindow_of_asked {rawFrom rawTo legacyKey : Option String} {defaultMonths : Int}
    (h : earliest ≤ latest)
    (hasked : askedWindow rawFrom rawTo earliest latest legacyKey defaultMonths =
      .ok (start, «end»)) (horder : start ≤ «end» ∨ «end» = latest) :
    ∃ window, resolveWindow rawFrom rawTo (some earliest) (some latest) legacyKey defaultMonths =
      .ok (some window) ∧ earliest ≤ window.start ∧ window.start ≤ window.end ∧
      window.end ≤ latest := by
  refine ⟨⟨clampDate earliest latest start, clampDate earliest latest «end»⟩, ?_,
    (clampDate_mem h start).1, ?_, (clampDate_mem h «end»).2⟩
  · unfold resolveWindow
    dsimp only
    rw [hasked]
    rfl
  · cases horder with
    | inl hle => exact clampDate_mono hle
    | inr hlatest =>
      -- a start later than the history is folded to its last date
      have hlast : clampDate earliest latest latest = latest := by
        unfold clampDate
        rw [max_eq_left h, min_self]
      dsimp only
      rw [hlatest, hlast]
      exact (clampDate_mem h start).2

end Resolve

/-- The request is answered with a window inside the history exactly if the start that has to be
counted back, if one has to, stays in the calendar. -/
theorem resolveWindow_iff (rawFrom rawTo : Option String) (earliest latest : Date)
    (legacyKey : Option String) (defaultMonths : Int) (h : earliest ≤ latest) :
    (∃ window, resolveWindow rawFrom rawTo (some earliest) (some latest) legacyKey defaultMonths =
        .ok (some window) ∧ earliest ≤ window.start ∧ window.start ≤ window.end ∧
        window.end ≤ latest) ↔
      ∀ back ∈ countedBack rawFrom rawTo latest legacyKey defaultMonths,
        StartsInCalendar back.1 back.2 := by
  constructor
  · -- what was counted back for the window could be
    rintro ⟨window, hok, -⟩ ⟨«end», months⟩ hback
    rw [← windowStart_iff]
    unfold resolveWindow at hok
    dsimp only at hok
    obtain ⟨asked, hasked, -⟩ := bind_eq_ok_iff.mp hok
    unfold askedWindow at hasked
    unfold countedBack at hback
    cases hfrom : parseIsoDate rawFrom with
    | some start =>
      rw [hfrom] at hback
      cases hback
    | none =>
      cases hto : parseIsoDate rawTo with
      | none =>
        rw [hfrom, hto] at hback hasked
        obtain ⟨m, hmonths, heq⟩ := Option.map_eq_some_iff.mp hback
        cases heq
        dsimp only at hasked
        rw [hmonths] at hasked
        obtain ⟨start, hstart, -⟩ := bind_eq_ok_iff.mp hasked
        exact ⟨start, hstart⟩
      | some last =>
        rw [hfrom, hto] at hback hasked
        cases hback
        obtain ⟨start, hstart, -⟩ := bind_eq_ok_iff.mp hasked
        exact ⟨start, hstart⟩
  · intro hback
    unfold countedBack at hback
    cases hfrom : parseIsoDate rawFrom with
    | some start =>
      have hasked : askedWindow rawFrom rawTo earliest latest legacyKey defaultMonths =
          .ok (if (parseIsoDate rawTo).getD latest < start then
            ((parseIsoDate rawTo).getD latest, start)
            else (start, (parseIsoDate rawTo).getD latest)) := by
        unfold askedWindow
        rw [hfrom]
        rfl
      by_cases hswap : (parseIsoDate rawTo).getD latest < start
      · rw [if_pos hswap] at hasked
        exact resolveWindow_of_asked h hasked (Or.inl hswap.le)
      · rw [if_neg hswap] at hasked
        exact resolveWindow_of_asked h hasked (Or.inl (not_lt.mp hswap))
    | none =>
      cases hto : parseIsoDate rawTo with
      | none =>
        rw [hfrom, hto] at hback
        dsimp only at hback
        cases hmonths : (legacyKey.bind fun key => LEGACY_WINDOW_MONTHS.lookup key).getD
            (some defaultMonths) with
        | none =>
          have hasked : askedWindow rawFrom rawTo earliest latest legacyKey defaultMonths =
              .ok (earliest, latest) := by
            unfold askedWindow
            rw [hfrom, hto]
            dsimp only
            rw [hmonths]
            rfl
          exact resolveWindow_of_asked h hasked (Or.inr rfl)
        | some months =>
          rw [hmonths] at hback
          obtain ⟨start, hstart⟩ := windowStart_iff.mpr (hback _ rfl)
          have hasked : askedWindow rawFrom rawTo earliest latest legacyKey defaultMonths =
              .ok (start, latest) := by
            unfold askedWindow
            rw [hfrom, hto]
            dsimp only
            rw [hmonths]
            exact bind_eq_ok_iff.mpr ⟨start, hstart, rfl⟩
          exact resolveWindow_of_asked h hasked (Or.inr rfl)
      | some last =>
        rw [hfrom, hto] at hback
        obtain ⟨start, hstart⟩ := windowStart_iff.mpr (hback _ rfl)
        have hasked : askedWindow rawFrom rawTo earliest latest legacyKey defaultMonths =
            .ok (if last < start then (last, start) else (start, last)) := by
          unfold askedWindow
          rw [hfrom, hto]
          exact bind_eq_ok_iff.mpr ⟨start, hstart, rfl⟩
        by_cases hswap : last < start
        · rw [if_pos hswap] at hasked
          exact resolveWindow_of_asked h hasked (Or.inl hswap.le)
        · rw [if_neg hswap] at hasked
          exact resolveWindow_of_asked h hasked (Or.inl (not_lt.mp hswap))

def firstReport : Date := .of 2015 1 31

def latestReport : Date := .of 2026 6 30

/-- A request that says nothing is answered with the last twelve months. -/
theorem resolveWindow_iff_default : ∃ window, resolveWindow none none (some firstReport)
    (some latestReport) none PAGE_DEFAULT_MONTHS = .ok (some window) ∧ firstReport ≤ window.start ∧
      window.start ≤ window.end ∧ window.end ≤ latestReport := by
  refine (resolveWindow_iff none none firstReport latestReport none PAGE_DEFAULT_MONTHS
    (by decide +kernel)).mpr fun back hback => ?_
  cases hback
  decide +kernel

/-- A window that ends in the first year begins before the calendar. -/
theorem firstYear_raises : firstReport ≤ latestReport ∧ resolveWindow none (some "0001-01-01")
    (some firstReport) (some latestReport) none PAGE_DEFAULT_MONTHS = .error .outOfRange := by
  decide +kernel

end Dashkoda.Membership
