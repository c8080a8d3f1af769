import Dashkoda.Lib.DecimalText

/-!
# Decimals as they are read

A decimal that was read from a text keeps the sign of a zero and the zeros at its end.
-/

namespace Lib

structure SignedDecimal where
  negative : Bool
  digits : Nat
  exponent : Int
  deriving DecidableEq, Repr

namespace SignedDecimal

/-- The decimal without its sign. -/
def magnitude (d : SignedDecimal) : Decimal := ⟨d.digits, d.exponent⟩

def toRat (d : SignedDecimal) : ℚ := if d.negative then -d.magnitude.toRat else d.magnitude.toRat

/-- `str(value)` -/
def str (d : SignedDecimal) : String := (if d.negative then "-" else "") ++ d.magnitude.str

/-- What the text of a value depends on besides the value: the sign of a zero, and the places. -/
def writing (d : SignedDecimal) : Bool × Int := (d.negative, d.exponent)

variable {a b d : SignedDecimal}

theorem head?_magnitude_str (d : SignedDecimal) : d.magnitude.str.toList.head? ≠ some '-' := by
  have hpositive : ¬ d.magnitude.coefficient < 0 := not_lt.mpr (Int.natCast_nonneg d.digits)
  rw [Decimal.str_toList, decide_eq_false hpositive]
  show (d.magnitude.wholeDigits ++ _ ++ _).head? ≠ some '-'
  have hpos := d.magnitude.coefficientDigits_pos
  unfold Decimal.wholeDigits
  split
  · exact fun h => absurd (Option.some.inj h) (by decide)
  · rename_i hplace
    cases hdigits : d.magnitude.coefficientDigits with
    | nil =>
      rw [hdigits] at hpos
      cases hpos
    | cons c rest =>
      obtain ⟨n, hn⟩ : ∃ n, d.magnitude.pointPlace.toNat = n + 1 :=
        ⟨d.magnitude.pointPlace.toNat - 1, by omega⟩
      rw [hn, List.take_succ_cons]
      have hc : c ∈ d.magnitude.coefficientDigits := hdigits ▸ List.mem_cons_self
      exact fun h => Decimal.ne_of_isDigit
        (d.magnitude.isDigit_of_mem_coefficientDigits hc) (by decide)
        (Option.some.inj h)

/-- Sign, digits and exponent can be read back from the text. -/
theorem str_injective : Function.Injective str := by
  intro a b heq
  have hchars : (if a.negative then ['-'] else []) ++ a.magnitude.str.toList =
      (if b.negative then ['-'] else []) ++ b.magnitude.str.toList := by
    have htext (d : SignedDecimal) :
        d.str.toList = (if d.negative then ['-'] else []) ++ d.magnitude.str.toList := by
      unfold str
      rw [String.toList_append]
      cases d.negative with
      | false => rfl
      | true => rfl
    rw [← htext, ← htext, heq]
  have hsign : a.negative = b.negative := by
    cases ha : a.negative with
    | false =>
      cases hb : b.negative with
      | false => rfl
      | true =>
        rw [ha, hb] at hchars
        exact absurd (congrArg List.head? hchars) (head?_magnitude_str a)
    | true =>
      cases hb : b.negative with
      | true => rfl
      | false =>
        rw [ha, hb] at hchars
        exact absurd (congrArg List.head? hchars).symm (head?_magnitude_str b)
  rw [hsign] at hchars
  have hmagnitude : a.magnitude = b.magnitude :=
    Decimal.str_injective (String.toList_injective (List.append_cancel_left hchars))
  unfold magnitude at hmagnitude
  rw [Decimal.mk.injEq] at hmagnitude
  cases a
  cases b
  dsimp only at hsign hmagnitude
  rw [hsign, Int.ofNat_inj.mp hmagnitude.1, hmagnitude.2]

/-- The same value in the same writing is the same decimal. -/
theorem eq_of_writing_eq (hwriting : a.writing = b.writing)
    (hvalue : a.toRat = b.toRat) : a = b := by
  obtain ⟨hsign, hexponent⟩ := Prod.mk.inj hwriting
  have hmagnitude : a.magnitude.toRat = b.magnitude.toRat := by
    unfold toRat at hvalue
    rw [hsign] at hvalue
    cases hb : b.negative with
    | false =>
      rw [hb] at hvalue
      exact hvalue
    | true =>
      rw [hb] at hvalue
      exact neg_injective hvalue
  have hdigits : (a.digits : ℚ) * Decimal.pow10 b.exponent =
      b.digits * Decimal.pow10 b.exponent := by
    rw [← hexponent]
    unfold Decimal.toRat magnitude at hmagnitude
    rw [hexponent] at hmagnitude ⊢
    exact_mod_cast hmagnitude
  have hsame : a.digits = b.digits := by
    exact_mod_cast mul_right_cancel₀ (ne_of_gt (Decimal.pow10_pos b.exponent)) hdigits
  cases a
  cases b
  dsimp only at hsign hexponent hsame
  rw [hsign, hexponent, hsame]

end SignedDecimal

end Lib
