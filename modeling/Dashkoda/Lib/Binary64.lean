import Dashkoda.Lib.Rounding
import Mathlib.Data.Nat.Cast.Order.Field

/-!
# Floats of double precision

A finite float is the rational it stands for, and an operation rounds its exact result to the
nearest float, halves to the even one.  Numbers too large for a float are left out: a result is
rounded as if exponents had no upper bound.
-/

namespace Lib

namespace Binary64

def pow2 (e : Int) : ℚ :=
  if 0 ≤ e then ((2 ^ e.toNat : Nat) : ℚ) else 1 / ((2 ^ (-e).toNat : Nat) : ℚ)

/-- The exponent of the leading bit of a nonzero rational. -/
def exponent (q : ℚ) : Int :=
  let e := (Nat.log2 q.num.natAbs : Int) - Nat.log2 q.den
  if pow2 e ≤ |q| then e else e - 1

/-- The exponent of the last place of a float near a number: 52 below the leading bit, or that of a
subnormal number. -/
def lastPlace (q : ℚ) : Int := max (exponent q - 52) (-1074)

def nearest (q : ℚ) : ℚ := Decimal.roundHalfEven (q / pow2 (lastPlace q)) * pow2 (lastPlace q)

/-- A number of 53 bits, at a place a float has. -/
def OnGrid (q : ℚ) : Prop := ∃ (n e : Int), q = n * pow2 e ∧ n.natAbs ≤ 2 ^ 53 ∧ -1074 ≤ e

theorem pow2_eq_zpow (e : Int) : pow2 e = (2 : ℚ) ^ e := by
  unfold pow2
  by_cases he : 0 ≤ e
  · rw [if_pos he]
    obtain ⟨n, rfl⟩ := Int.eq_ofNat_of_zero_le he
    simp
  · rw [if_neg he]
    obtain ⟨n, hn⟩ := Int.eq_ofNat_of_zero_le (show 0 ≤ -e by omega)
    rw [hn, show e = -(n : Int) by omega]
    simp

theorem pow2_pos (e : Int) : 0 < pow2 e := by
  rw [pow2_eq_zpow]
  exact zpow_pos two_pos e

theorem abs_eq_natAbs_div_den (q : ℚ) : |q| = q.num.natAbs / q.den := by
  calc |q| = |(q.num : ℚ) / q.den| := by rw [Rat.num_div_den]
    _ = q.num.natAbs / q.den := by rw [abs_div, Nat.abs_cast, Nat.cast_natAbs, Int.cast_abs]

/-- The leading bit of a number is no higher than its exponent. -/
theorem abs_lt_pow2_exponent (q : ℚ) : |q| < pow2 (exponent q + 1) := by
  unfold exponent
  dsimp only
  split
  · have hnum : (q.num.natAbs : ℚ) < 2 ^ (Nat.log2 q.num.natAbs + 1) := by
      exact_mod_cast Nat.lt_log2_self
    have hden : (2 : ℚ) ^ Nat.log2 q.den ≤ q.den := by exact_mod_cast Nat.log2_self_le q.den_nz
    have hpos : (0 : ℚ) < 2 ^ Nat.log2 q.den := by positivity
    calc |q| = q.num.natAbs / q.den := abs_eq_natAbs_div_den q
      _ ≤ q.num.natAbs / 2 ^ Nat.log2 q.den := div_le_div_of_nonneg_left (by positivity) hpos hden
      _ < 2 ^ (Nat.log2 q.num.natAbs + 1) / 2 ^ Nat.log2 q.den := div_lt_div_of_pos_right hnum hpos
      _ = pow2 ((Nat.log2 q.num.natAbs : Int) - Nat.log2 q.den + 1) := by
        rw [pow2_eq_zpow, sub_add_eq_add_sub, zpow_sub₀ two_ne_zero]
        norm_cast
  · rename_i hlow
    rw [sub_add_cancel]
    exact not_le.mp hlow

/-- Counted in its last place, a number has no more than 53 bits. -/
theorem abs_div_lastPlace_le (q : ℚ) : |q / pow2 (lastPlace q)| ≤ 2 ^ 53 := by
  have hplace : exponent q + 1 ≤ 53 + lastPlace q := by
    have := le_max_left (exponent q - 52) (-1074)
    unfold lastPlace
    omega
  rw [abs_div, abs_of_pos (pow2_pos _), div_le_iff₀ (pow2_pos _)]
  calc |q| ≤ pow2 (exponent q + 1) := (abs_lt_pow2_exponent q).le
    _ ≤ pow2 (53 + lastPlace q) := by
      rw [pow2_eq_zpow, pow2_eq_zpow]
      exact zpow_le_zpow_right₀ one_le_two hplace
    _ = 2 ^ 53 * pow2 (lastPlace q) := by
      rw [pow2_eq_zpow, pow2_eq_zpow, zpow_add₀ two_ne_zero]
      norm_cast

theorem nearest_onGrid (q : ℚ) : OnGrid (nearest q) := by
  obtain ⟨hlow, hhigh⟩ := abs_le.mp (abs_div_lastPlace_le q)
  have habove : Decimal.roundHalfEven (q / pow2 (lastPlace q)) ≤ 2 ^ 53 :=
    Decimal.roundHalfEven_le (by exact_mod_cast hhigh)
  have hbelow : -2 ^ 53 ≤ Decimal.roundHalfEven (q / pow2 (lastPlace q)) :=
    Decimal.le_roundHalfEven (by exact_mod_cast hlow)
  refine ⟨_, lastPlace q, rfl, ?_, le_max_right _ _⟩
  omega

example : nearest (1 / 10) = 3602879701896397 / 36028797018963968 := by decide +kernel

end Binary64

structure Binary64 where
  toRat : ℚ
  onGrid : Binary64.OnGrid toRat
  deriving DecidableEq

namespace Binary64

def ofRat (q : ℚ) : Binary64 := ⟨nearest q, nearest_onGrid q⟩

instance : Zero Binary64 := ⟨ofRat 0⟩

instance : One Binary64 := ⟨ofRat 1⟩

instance : Add Binary64 := ⟨fun a b => ofRat (a.toRat + b.toRat)⟩

instance : Sub Binary64 := ⟨fun a b => ofRat (a.toRat - b.toRat)⟩

instance : Mul Binary64 := ⟨fun a b => ofRat (a.toRat * b.toRat)⟩

instance : Div Binary64 := ⟨fun a b => ofRat (a.toRat / b.toRat)⟩

instance : LT Binary64 := ⟨fun a b => a.toRat < b.toRat⟩

instance (a b : Binary64) : Decidable (a < b) := inferInstanceAs (Decidable (a.toRat < b.toRat))

instance : Max Binary64 := ⟨fun a b => if a < b then b else a⟩

instance : Min Binary64 := ⟨fun a b => if b < a then b else a⟩

/-! ## Sums -/

/-- A running sum and what rounding has taken from it. -/
structure CompensatedSum where
  hi : Binary64
  lo : Binary64

/-- One more float, compensated as Neumaier does: what the smaller number loses is kept apart. -/
def CompensatedSum.add (total : CompensatedSum) (x : Binary64) : CompensatedSum :=
  let t := total.hi + x
  if |total.hi.toRat| < |x.toRat| then ⟨t, total.lo + ((x - t) + total.hi)⟩
  else ⟨t, total.lo + ((total.hi - t) + x)⟩

def CompensatedSum.value (total : CompensatedSum) : Binary64 :=
  if total.lo = 0 then total.hi else total.hi + total.lo

/-- `sum`, of floats -/
def sum : List Binary64 → Binary64
  | [] => 0
  | first :: rest => (rest.foldl CompensatedSum.add ⟨first, 0⟩).value

/-- Ten tenths make one, although each addition is rounded. -/
example : sum (List.replicate 10 (ofRat (1 / 10))) = 1 := by decide +kernel

end Binary64

end Lib
