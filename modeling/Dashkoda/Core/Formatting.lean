import Dashkoda.Lib.Calendar
import Dashkoda.Lib.Decimal

/-!
# How figures and dates are written
-/

open Lib

namespace Dashkoda.Core

/-- A space that does not break. -/
def GROUP_SEPARATOR : Char := '\u00a0'

/-- A separator after every third digit, from the last digit on. -/
def separated : List Char → List Char
  | a :: b :: c :: d :: rest => a :: b :: c :: GROUP_SEPARATOR :: separated (d :: rest)
  | digits => digits

/-- `group_thousands` -/
def groupThousands (value : Int) : String :=
  (if value < 0 then "-" else "") ++ String.ofList
    (separated (Nat.toDigits 10 value.natAbs).reverse).reverse

/-- `short_date` -/
def shortDate (day : Date) : String :=
  toString day.day ++ "." ++ Date.zeroPadded 2 day.month ++ "." ++ Date.zeroPadded 2
    (day.year % 100)

/-- The whole part and the digits after the point of `f"{value:.{places}f}"`, without the sign. -/
def fixedParts (places : Nat) (value : ℚ) : Nat × String :=
  let scaled := (Decimal.roundHalfEven (|value| * 10 ^ places)).toNat
  (scaled / 10 ^ places, Date.zeroPadded places (scaled % 10 ^ places))

/-- `f"{value:.{places}f}"` -/
def fixed (places : Nat) (value : ℚ) : String :=
  (if value < 0 then "-" else "") ++ toString (fixedParts places value).1 ++ "." ++
    (fixedParts places value).2

/-! ## The display vocabulary of the charts -/

namespace Formatting

def DECIMAL_SEPARATOR : String := ","

/-- U+2212, not the hyphen. -/
def MINUS_SIGN : String := "\u2212"

/-- `_decimals`: fixed decimals, grouped; halves are rounded away from zero. -/
def decimals (value : ℚ) (places : Nat) : String :=
  let quantised := Decimal.roundHalfUp (value * 10 ^ places)
  let grouped := groupThousands (quantised.natAbs / 10 ^ places : Nat)
  let body := if places = 0 then grouped
    else grouped ++ DECIMAL_SEPARATOR ++ Date.zeroPadded places (quantised.natAbs % 10 ^ places)
  if quantised < 0 then MINUS_SIGN ++ body else body

/-- `integer` -/
def integer : Option ℚ → String
  | none => ""
  | some value => decimals value 0

/-- `whole_euros` -/
def wholeEuros : Option ℚ → String
  | none => ""
  | some amount => groupThousands (Decimal.roundHalfUp amount)

/-- `euros` -/
def euros : Option ℚ → String
  | none => ""
  | some amount => wholeEuros (some amount) ++ String.singleton GROUP_SEPARATOR ++ "€"

/-- `percent`, with one decimal. -/
def percent : Option ℚ → String
  | none => ""
  | some value => decimals value 1 ++ "%"

/-- `_signed`: zero carries no sign. -/
def signed (body : String) (value : ℚ) : String :=
  if value = 0 ∨ value < 0 then body else "+" ++ body

/-- `signed_integer` -/
def signedInteger : Option ℚ → String
  | none => ""
  | some value => signed (decimals value 0) value

/-- `signed_percent`, with one decimal. -/
def signedPercent : Option ℚ → String
  | none => ""
  | some value => signed (decimals value 1 ++ "%") value

/-- `percentage_points`, with one decimal. -/
def percentagePoints : Option ℚ → String
  | none => ""
  | some value => signed (decimals value 1) value ++ String.singleton GROUP_SEPARATOR ++ "pp"

/-- `long_date` -/
def longDate (day : Date) : String :=
  Date.zeroPadded 2 day.day ++ "." ++ Date.zeroPadded 2 day.month ++ "." ++ toString day.year

end Formatting

end Dashkoda.Core
