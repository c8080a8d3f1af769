import Dashkoda.Lib.Days

/-!
# Dates in ISO 8601

`date.fromisoformat` reads a whole date: year, month and day, or year, week and day of the week,
with a separator between all of them or none.
-/

namespace Lib

namespace Date

def ofNumbers? (year month day : Nat) : Option Date :=
  if h : (1 ≤ year ∧ year ≤ 9999) ∧ (1 ≤ month ∧ month ≤ 12) ∧ 1 ≤ day ∧
      day ≤ daysInMonth year month then
    some ⟨year, month, day, h.1, h.2.1, h.2.2⟩
  else none

/-- `date.weekday()`: Monday is 0. -/
def weekday (date : Date) : Nat := (date.toOrdinal + 6) % 7

def isoWeeks (year : Nat) : Nat :=
  let firstWeekday := (daysBeforeYear year + 7) % 7
  if firstWeekday = 3 ∨ firstWeekday = 2 ∧ isLeapYear year = true then 53 else 52

/-- `date.fromisocalendar`: the first week is the one of January 4. -/
def fromIsocalendar? (year week day : Nat) : Option Date := do
  if ¬ ((1 ≤ week ∧ week ≤ isoWeeks year) ∧ 1 ≤ day ∧ day ≤ 7) then none
  let fourth ← ofNumbers? year 1 4
  let monday ← subDays? fourth.weekday fourth
  addDays? ((week - 1) * 7 + (day - 1)) monday

/-- So many ASCII digits, and what follows them. -/
def readDigits : Nat → Nat → List Char → Option (Nat × List Char)
  | 0, number, rest => some (number, rest)
  | n + 1, number, c :: rest =>
    if c.isDigit then readDigits n (number * 10 + (c.toNat - '0'.toNat)) rest else none
  | _ + 1, _, [] => none

def readSeparator : Bool → List Char → Option (List Char)
  | false, rest => some rest
  | true, '-' :: rest => some rest
  | true, _ => none

/-- What follows the year. -/
def readRest (year : Nat) (separated : Bool) : List Char → Option Date
  | 'W' :: rest => do
    let (week, rest) ← readDigits 2 0 rest
    if rest = [] then fromIsocalendar? year week 1
    else
      let (day, rest) ← readDigits 1 0 (← readSeparator separated rest)
      if rest = [] then fromIsocalendar? year week day else none
  | rest => do
    let (month, rest) ← readDigits 2 0 rest
    let (day, rest) ← readDigits 2 0 (← readSeparator separated rest)
    if rest = [] then ofNumbers? year month day else none

/-- `date.fromisoformat`; `none` is the `ValueError`. -/
def fromisoformat (text : String) : Option Date := do
  let (year, rest) ← readDigits 4 0 text.toList
  match rest with
  | '-' :: rest => readRest year true rest
  | rest => readRest year false rest

end Date

example : (Date.fromisoformat "2021-W01-1").map Date.isoformat = some "2021-01-04" := by
  decide +kernel

end Lib
