import Dashkoda.Lib.Except
import Dashkoda.Lib.IsoText
import Dashkoda.Lib.Ordinal
import Dashkoda.Lib.PyText
import Dashkoda.Lib.QueryString

/-!
# Reading the query string a reader arrived with

Whatever a parameter holds, it resolves to something a page can be asked for.
-/

open Lib

namespace Dashkoda.Core

/-- `parse_iso_date` -/
def parseIsoDate (raw : Option String) : Option Date :=
  match raw with
  | none => none
  | some raw => if raw = "" then none else Date.fromisoformat (PyText.strip raw)

/-- `(raw or "").strip()` -/
def stripped (raw : Option String) : String := PyText.strip (raw.getD "")

/-- `parse_search` -/
def parseSearch (raw : Option String) (limit : Nat) : String := PyText.take limit (stripped raw)

theorem not_isSpace_of_isSafe {c : Char} (h : QueryString.isSafe c = true) :
    PyText.isSpace c = false := by
  have hascii : ∀ n < 128, QueryString.isSafe (Char.ofNat n) = true →
      PyText.isSpace (Char.ofNat n) = false := by
    decide
  have hc := hascii c.toNat (QueryString.isSafe_toNat_lt h)
  rw [Char.ofNat_toNat] at hc
  exact hc h

theorem isSafe_isoformat {date : Date} {c : Char} (h : c ∈ date.isoformat.toList) :
    QueryString.isSafe c = true := by
  cases Date.mem_isoformat h with
  | inl hdigit =>
    unfold QueryString.isSafe Char.isAlphanum
    rw [hdigit]
    simp
  | inr hdash =>
    rw [hdash]
    decide

/-- A date that is written into a link is read back from it. -/
theorem parseIsoDate_isoformat (date : Date) : parseIsoDate (some date.isoformat) = some date := by
  unfold parseIsoDate
  dsimp only
  rw [if_neg (Date.isoformat_ne_empty date),
    PyText.strip_of_not_isSpace fun c hc => not_isSpace_of_isSafe (isSafe_isoformat hc),
    Date.fromisoformat_isoformat]

/-! ## Date ranges -/

/-- A date beyond the calendar. -/
inductive OverflowError
  | outOfRange
  deriving DecidableEq

/-- What `timedelta` leaves of a date. -/
def inCalendar : Option Date → Except OverflowError Date
  | some date => .ok date
  | none => .error .outOfRange

theorem inCalendar_eq_ok_iff {date : Option Date} {day : Date} : inCalendar date = .ok day ↔
    date = some day := by
  cases date with
  | none => exact ⟨fun h => (by cases h), fun h => (by cases h)⟩
  | some value =>
    exact ⟨fun h => congrArg some (Except.ok.inj h), fun h =>
      congrArg Except.ok (Option.some.inj h)⟩

/-- A date range of which both ends may be open. -/
abbrev DateRange := Option Date × Option Date

/-- `start, end = end, start` where they are reversed. -/
def inOrder : DateRange → DateRange
  | (some start, some «end») =>
    if «end» < start then (some «end», some start) else (some start, some «end»)
  | range => range

theorem inOrder_spec (start «end» : Date) :
    inOrder (some start, some «end») = (some (min start «end»), some (max start «end»)) := by
  unfold inOrder
  dsimp only
  by_cases hreversed : «end» < start
  · rw [if_pos hreversed, min_eq_right hreversed.le, max_eq_left hreversed.le]
  · rw [if_neg hreversed, min_eq_left (not_lt.mp hreversed), max_eq_right (not_lt.mp hreversed)]

end Dashkoda.Core
