import Mathlib.Algebra.GroupWithZero.Nat
import Mathlib.Data.Prod.Lex
import Mathlib.Order.Basic

/-!
# Calendar dates

Dates of the proleptic Gregorian calendar, years 1 to 9999, in their natural order, and the day
count that turns a pair of dates into a number of days.
-/

namespace Lib

def isLeapYear (year : Nat) : Bool := year % 4 = 0 && (year % 100 ≠ 0 || year % 400 = 0)

def daysInMonth (year : Nat) : Nat → Nat
  | 2 => if isLeapYear year then 29 else 28
  | 4 | 6 | 9 | 11 => 30
  | _ => 31

structure Date where
  year : Nat
  month : Nat
  day : Nat
  year_range : 1 ≤ year ∧ year ≤ 9999
  month_range : 1 ≤ month ∧ month ≤ 12
  day_range : 1 ≤ day ∧ day ≤ daysInMonth year month
  deriving DecidableEq

namespace Date

def inCalendar (year month day : Nat) : Bool :=
  1 ≤ year && year ≤ 9999 && 1 ≤ month && month ≤ 12 && 1 ≤ day && day ≤ daysInMonth year month

theorem of_inCalendar {year month day : Nat} (h : inCalendar year month day = true) :
    (1 ≤ year ∧ year ≤ 9999) ∧ (1 ≤ month ∧ month ≤ 12) ∧ 1 ≤ day ∧
    day ≤ daysInMonth year month := by
  unfold inCalendar at h
  simpa [and_assoc] using h

/-- `date(year, month, day)` of numbers that are seen to be in range. -/
def of (year month day : Nat)
    (h : inCalendar year month day = true := by exact Eq.refl true) : Date :=
  ⟨year, month, day, (of_inCalendar h).1, (of_inCalendar h).2.1, (of_inCalendar h).2.2⟩

def daysBeforeYear (year : Nat) : Nat :=
  let y := year - 1
  y * 365 + y / 4 - y / 100 + y / 400

/-- Days before the first of a month within its year. -/
def daysBeforeMonth (year month : Nat) : Nat :=
  ((List.range' 1 (month - 1)).map (daysInMonth year)).sum

/-- `date.toordinal()`: January 1 of year 1 is day 1. -/
def toOrdinal (date : Date) : Nat :=
  daysBeforeYear date.year + daysBeforeMonth date.year date.month + date.day

/-- `f"{n:0{width}d}"` -/
def zeroPadded (width n : Nat) : String := String.ofList ((toString n).toList.leftpad width '0')

def isoformat (date : Date) : String :=
  zeroPadded 4 date.year ++ "-" ++ zeroPadded 2 date.month ++ "-" ++ zeroPadded 2 date.day

/-- Year, month, day: the order dates compare in. -/
def key (date : Date) : Nat ×ₗ Nat ×ₗ Nat := toLex (date.year, toLex (date.month, date.day))

theorem key_injective : Function.Injective key := by
  rintro ⟨y, m, d, _, _, _⟩ ⟨y', m', d', _, _, _⟩ h
  simp only [key, EmbeddingLike.apply_eq_iff_eq, Prod.mk.injEq] at h
  obtain ⟨rfl, rfl, rfl⟩ := h
  rfl

instance : LinearOrder Date := LinearOrder.lift' key key_injective

/-- `(a - b).days` without its sign. -/
def daysBetween (a b : Date) : Nat :=
  if b.toOrdinal ≤ a.toOrdinal then a.toOrdinal - b.toOrdinal else b.toOrdinal - a.toOrdinal

end Date

end Lib
