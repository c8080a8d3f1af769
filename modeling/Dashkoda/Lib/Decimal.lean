import Mathlib.Data.Nat.Log
import Mathlib.Data.Rat.Floor

/-!
# Decimal arithmetic with 28 significant digits

Finite decimals as Python's default context computes with them: every operation rounds its exact
result half to even to 28 significant digits, and `quantize` refuses a result that needs more.
Values are compared as rationals; the coefficient and exponent matter only to the text.
-/

namespace Lib

structure Decimal where
  coefficient : Int
  exponent : Int
  deriving DecidableEq, Repr

namespace Decimal

def precision : Nat := 28

def pow10 (e : Int) : ℚ :=
  if 0 ≤ e then ((10 ^ e.toNat : Nat) : ℚ) else 1 / ((10 ^ (-e).toNat : Nat) : ℚ)

def toRat (d : Decimal) : ℚ := d.coefficient * pow10 d.exponent

def roundHalfEven (q : ℚ) : Int :=
  let below := ⌊q⌋
  let rest := q - below
  if rest < 1 / 2 then below
  else if 1 / 2 < rest then below + 1
  else if below % 2 = 0 then below else below + 1

/-- Halves away from zero. -/
def roundHalfUp (q : ℚ) : Int := if 0 ≤ q then ⌊q + 1 / 2⌋ else -⌊-q + 1 / 2⌋

/-- The exponent of the leading digit of a nonzero rational. -/
def adjusted (q : ℚ) : Int :=
  let e := (Nat.log 10 q.num.natAbs : Int) - Nat.log 10 q.den
  if pow10 e ≤ |q| then e else e - 1

/-- An exact result rounded to the context's precision. -/
def fix (q : ℚ) : ℚ :=
  if q = 0 then 0
  else
    let unit := pow10 (adjusted q - (precision - 1))
    roundHalfEven (q / unit) * unit

def div (a b : ℚ) : ℚ := fix (a / b)

def mul (a b : ℚ) : ℚ := fix (a * b)

def sub (a b : ℚ) : ℚ := fix (a - b)

/-- `value.quantize(Decimal("0.01"))`; `none` is `InvalidOperation`. -/
def quantizeCents (q : ℚ) : Option ℚ :=
  let coefficient := roundHalfEven (q * 100)
  if coefficient.natAbs < 10 ^ precision then some (coefficient / 100) else none

/-- Trailing zeros moved from the coefficient to the exponent, at most `fuel` of them. -/
def stripZeros : Nat → Int → Int → Decimal
  | 0, c, e => ⟨c, e⟩
  | fuel + 1, c, e => if c ≠ 0 ∧ c % 10 = 0 then stripZeros fuel (c / 10) (e + 1) else ⟨c, e⟩

/-- `value.normalize()` -/
def normalize (d : Decimal) : Decimal :=
  let digits := Nat.log 10 d.coefficient.natAbs + 1
  let surplus := digits - precision
  let rounded : Decimal :=
    if surplus = 0 then d
    else ⟨roundHalfEven (d.coefficient * pow10 (-surplus)), d.exponent + surplus⟩
  if rounded.coefficient = 0 then ⟨0, 0⟩
  else stripZeros (digits + 1) rounded.coefficient rounded.exponent

/-- `str(value)` -/
def str (d : Decimal) : String :=
  let digits := (toString d.coefficient.natAbs).toList
  let left := d.exponent + digits.length
  let dot : Int := if d.exponent ≤ 0 ∧ -6 < left then left else 1
  let whole := if dot ≤ 0 then ['0'] else
    digits.take dot.toNat ++ List.replicate (dot.toNat - digits.length) '0'
  let fraction := if dot ≤ 0 then '.' :: List.replicate (-dot).toNat '0' ++ digits else
    if dot.toNat < digits.length then '.' :: digits.drop dot.toNat else []
  let scale := left - dot
  let suffix := if scale = 0 then "" else
    "E" ++ (if 0 < scale then "+" else "-") ++ toString scale.natAbs
  (if d.coefficient < 0 then "-" else "") ++ String.ofList (whole ++ fraction) ++ suffix

end Decimal

end Lib
