import Dashkoda.Lib.Decimal
import Mathlib.Algebra.Order.Field.Power
import Mathlib.Tactic.Linarith
import Mathlib.Tactic.Ring

/-!
# What the text of a decimal determines

The text shows the coefficient and the exponent, so it can be read back.  Normalizing forgets the
scale and nothing else: two decimals within the precision have the same normalized text exactly when
they have the same value.
-/

namespace Lib

namespace Decimal

/-! ## The value under a change of scale -/

section Scale

variable {c c' e e' : Int} {fuel : Nat}

theorem pow10_eq_zpow (e : Int) : pow10 e = (10 : ℚ) ^ e := by
  unfold pow10
  by_cases hsign : 0 ≤ e
  · rw [if_pos hsign]
    conv_rhs => rw [← Int.toNat_of_nonneg hsign]
    rw [zpow_natCast]
    exact Nat.cast_pow 10 e.toNat
  · rw [if_neg hsign]
    have hneg : e = -((-e).toNat : Int) := by omega
    conv_rhs => rw [hneg]
    rw [zpow_neg, zpow_natCast, one_div]
    exact congrArg _ (Nat.cast_pow 10 (-e).toNat)

theorem pow10_pos (e : Int) : 0 < pow10 e := by
  rw [pow10_eq_zpow]
  exact zpow_pos (by norm_num) e

theorem pow10_succ (e : Int) : pow10 (e + 1) = 10 * pow10 e := by
  rw [pow10_eq_zpow, pow10_eq_zpow, zpow_add_one₀ (by norm_num), mul_comm]

/-- Moving zeros to the exponent keeps the value. -/
theorem stripZeros_toRat (fuel : Nat) (c e : Int) : (stripZeros fuel c e).toRat = c * pow10 e := by
  induction fuel generalizing c e with
  | zero => rfl
  | succ fuel ih =>
    unfold stripZeros
    split
    · rename_i hzero
      have hten : c = 10 * (c / 10) := by omega
      rw [ih, pow10_succ]
      conv_rhs => rw [hten]
      rw [Int.cast_mul]
      show ((c / 10 : Int) : ℚ) * (10 * pow10 e) = 10 * ((c / 10 : Int) : ℚ) * pow10 e
      ring
    · rfl

/-- With enough fuel no zero is left at the end. -/
theorem stripZeros_coefficient (hc : c ≠ 0) (hfuel : c.natAbs < 10 ^ fuel) :
    (stripZeros fuel c e).coefficient % 10 ≠ 0 := by
  induction fuel generalizing c e with
  | zero => omega
  | succ fuel ih =>
    unfold stripZeros
    split
    · rename_i hzero
      refine ih (by omega) ?_
      have hbound : c.natAbs < 10 * 10 ^ fuel := by rwa [pow_succ, Nat.mul_comm] at hfuel
      omega
    · rename_i hlast
      exact fun h => hlast ⟨hc, h⟩

/-- A coefficient with no zero at its end has one exponent. -/
theorem exponent_le_of_toRat_eq (hc : c % 10 ≠ 0) (heq : c * pow10 e = (c' : ℚ) * pow10 e') :
    e' ≤ e := by
  by_contra hlt
  obtain ⟨k, hk⟩ : ∃ k : Nat, e' = e + (k + 1 : Nat) := ⟨(e' - e - 1).toNat, by omega⟩
  have hscale : pow10 e' = (10 : ℚ) ^ (k + 1) * pow10 e := by
    rw [hk, pow10_eq_zpow, pow10_eq_zpow, zpow_add₀ (by norm_num), zpow_natCast, mul_comm]
  have hvalue : (c : ℚ) = c' * 10 ^ (k + 1) := by
    have hpos := pow10_pos e
    rw [hscale, ← mul_assoc] at heq
    exact mul_right_cancel₀ (ne_of_gt hpos) heq
  have hint : c = c' * 10 ^ (k + 1) := by exact_mod_cast hvalue
  rw [pow_succ, ← mul_assoc] at hint
  omega

theorem eq_of_toRat_eq (hc : c % 10 ≠ 0) (hc' : c' % 10 ≠ 0)
    (heq : c * pow10 e = (c' : ℚ) * pow10 e') :
    c = c' ∧ e = e' := by
  have hexponent : e = e' :=
    Int.le_antisymm (exponent_le_of_toRat_eq hc' heq.symm) (exponent_le_of_toRat_eq hc heq)
  rw [hexponent] at heq
  have hvalue : (c : ℚ) = c' := mul_right_cancel₀ (ne_of_gt (pow10_pos e')) heq
  exact ⟨by exact_mod_cast hvalue, hexponent⟩

end Scale

/-! ## Normalizing -/

section Normalize

variable {a b d : Decimal}

/-- At most as many digits as the context keeps. -/
def WithinPrecision (d : Decimal) : Prop := d.coefficient.natAbs < 10 ^ precision

instance (d : Decimal) : Decidable d.WithinPrecision := inferInstanceAs (Decidable (_ < _))

/-- Within the precision nothing is rounded. -/
theorem normalize_of_withinPrecision (h : d.WithinPrecision) :
    d.normalize = if d.coefficient = 0 then ⟨0, 0⟩
      else stripZeros (Nat.log 10 d.coefficient.natAbs + 1 + 1) d.coefficient d.exponent := by
  have hsurplus : Nat.log 10 d.coefficient.natAbs + 1 - precision = 0 := by
    have hlog : Nat.log 10 d.coefficient.natAbs < precision := Nat.log_lt_of_lt_pow' (by decide) h
    omega
  unfold normalize
  dsimp only
  rw [hsurplus]
  rfl

theorem toRat_normalize (h : d.WithinPrecision) : d.normalize.toRat = d.toRat := by
  rw [normalize_of_withinPrecision h]
  by_cases hzero : d.coefficient = 0
  · rw [if_pos hzero]
    unfold toRat
    rw [hzero, Int.cast_zero, zero_mul, zero_mul]
  · rw [if_neg hzero, stripZeros_toRat]
    rfl

theorem normalize_coefficient (h : d.WithinPrecision) (hzero : d.coefficient ≠ 0) :
    d.normalize.coefficient % 10 ≠ 0 := by
  rw [normalize_of_withinPrecision h, if_neg hzero]
  refine stripZeros_coefficient hzero ?_
  calc d.coefficient.natAbs < 10 ^ (Nat.log 10 d.coefficient.natAbs + 1) :=
    Nat.lt_pow_succ_log_self (by decide) _
    _ ≤ 10 ^ (Nat.log 10 d.coefficient.natAbs + 1 + 1) :=
      Nat.pow_le_pow_right (by decide) (by omega)

theorem toRat_eq_zero_iff : d.toRat = 0 ↔ d.coefficient = 0 := by
  unfold toRat
  rw [mul_eq_zero, Int.cast_eq_zero]
  constructor
  · intro h
    exact h.resolve_right (ne_of_gt (pow10_pos d.exponent))
  · exact Or.inl

/-- Normalizing forgets the scale and keeps the value. -/
theorem normalize_eq_iff (ha : a.WithinPrecision) (hb : b.WithinPrecision) :
    a.normalize = b.normalize ↔ a.toRat = b.toRat := by
  constructor
  · intro heq
    rw [← toRat_normalize ha, heq, toRat_normalize hb]
  · intro heq
    by_cases hzero : a.coefficient = 0
    · have hother : b.coefficient = 0 := toRat_eq_zero_iff.mp (heq ▸ toRat_eq_zero_iff.mpr hzero)
      rw [normalize_of_withinPrecision ha, normalize_of_withinPrecision hb, if_pos hzero,
        if_pos hother]
    · have hother : b.coefficient ≠ 0 :=
        fun h => hzero (toRat_eq_zero_iff.mp (heq ▸ toRat_eq_zero_iff.mpr h))
      have hvalue : a.normalize.toRat = b.normalize.toRat := by
        rw [toRat_normalize ha, heq, toRat_normalize hb]
      obtain ⟨hcoefficient, hexponent⟩ :=
        eq_of_toRat_eq (normalize_coefficient ha hzero) (normalize_coefficient hb hother) hvalue
      cases hna : a.normalize with
      | mk c e =>
        cases hnb : b.normalize with
        | mk c' e' =>
          rw [hna, hnb] at hcoefficient hexponent
          exact congrArg₂ mk hcoefficient hexponent

end Normalize

/-! ## Reading a text back -/

section Text

variable {negative : Bool} {whole fraction : List Char} {scale : Int}

/-- The power of ten after the letter of a text. -/
def readScale : List Char → Int
  | '+' :: digits => Nat.ofDigitChars 10 digits 0
  | '-' :: digits => -(Nat.ofDigitChars 10 digits 0 : Int)
  | _ => 0

def readBack (text : List Char) : Decimal :=
  let negative := text.head? = some '-'
  let unsigned := if negative then text.tail else text
  let mantissa := unsigned.takeWhile (· ≠ 'E')
  let whole := mantissa.takeWhile (· ≠ '.')
  let fraction := (mantissa.dropWhile (· ≠ '.')).tail
  let magnitude : Int := Nat.ofDigitChars 10 (whole ++ fraction) 0
  ⟨if negative then -magnitude else magnitude,
    readScale (unsigned.dropWhile (· ≠ 'E')).tail - fraction.length⟩

def pointed (fraction : List Char) : List Char := if fraction = [] then [] else '.' :: fraction

def scaleText (scale : Int) : List Char :=
  if scale = 0 then [] else 'E' :: (if 0 < scale then '+' else '-') :: Nat.toDigits 10 scale.natAbs

/-- A text of these parts. -/
def written (negative : Bool) (whole fraction : List Char) (scale : Int) : List Char :=
  (if negative then ['-'] else []) ++ (whole ++ pointed fraction ++ scaleText scale)

theorem readScale_scaleText (scale : Int) : readScale (scaleText scale).tail = scale := by
  unfold scaleText
  by_cases hzero : scale = 0
  · rw [if_pos hzero, hzero]
    rfl
  · rw [if_neg hzero]
    by_cases hpositive : 0 < scale
    · rw [if_pos hpositive]
      show (Nat.ofDigitChars 10 (Nat.toDigits 10 scale.natAbs) 0 : Int) = scale
      rw [Nat.ofDigitChars_ten_toDigits]
      omega
    · rw [if_neg hpositive]
      show -(Nat.ofDigitChars 10 (Nat.toDigits 10 scale.natAbs) 0 : Int) = scale
      rw [Nat.ofDigitChars_ten_toDigits]
      omega

theorem takeWhile_append_stop {p : Char → Bool} {text rest : List Char}
    (htext : ∀ c ∈ text, p c = true)
    (hrest : rest = [] ∨ ∃ c more, rest = c :: more ∧ p c = false) :
    (text ++ rest).takeWhile p = text ∧ (text ++ rest).dropWhile p = rest := by
  rw [List.takeWhile_append_of_pos htext, List.dropWhile_append_of_pos htext]
  cases hrest with
  | inl hnil => rw [hnil, List.takeWhile_nil, List.dropWhile_nil, List.append_nil]; exact ⟨rfl, rfl⟩
  | inr hstop =>
    obtain ⟨c, more, rfl, hc⟩ := hstop
    rw [List.takeWhile_cons_of_neg (by rw [hc]; exact Bool.false_ne_true),
      List.dropWhile_cons_of_neg (by rw [hc]; exact Bool.false_ne_true), List.append_nil]
    exact ⟨rfl, rfl⟩

theorem ne_of_isDigit {c other : Char} (hdigit : c.isDigit = true)
    (hother : other.isDigit = false) :
    c ≠ other := by
  intro heq
  rw [heq, hother] at hdigit
  cases hdigit

theorem readBack_written (hne : whole ≠ []) (hwhole : ∀ c ∈ whole, c.isDigit = true)
    (hfraction : ∀ c ∈ fraction, c.isDigit = true) :
    readBack (written negative whole fraction scale) =
      ⟨if negative then -(Nat.ofDigitChars 10 (whole ++ fraction) 0 : Int)
        else (Nat.ofDigitChars 10 (whole ++ fraction) 0 : Int), scale - fraction.length⟩ := by
  have hpointed (c : Char) (hc : c ∈ pointed fraction) : c = '.' ∨ c.isDigit = true := by
    unfold pointed at hc
    split at hc
    · cases hc
    · cases List.mem_cons.mp hc with
      | inl hpoint => exact Or.inl hpoint
      | inr hin => exact Or.inr (hfraction c hin)
  -- the sign
  have hhead : (whole ++ pointed fraction ++ scaleText scale).head? ≠ some '-' := by
    cases hfirst : whole with
    | nil => exact absurd hfirst hne
    | cons c rest =>
      intro hsign
      have hdigit := hwhole c (hfirst ▸ List.mem_cons_self)
      exact ne_of_isDigit hdigit (by decide) (Option.some.inj hsign)
  have hsign : (written negative whole fraction scale).head? = some '-' ↔ negative = true := by
    unfold written
    cases negative with
    | true => exact ⟨fun _ => rfl, fun _ => rfl⟩
    | false =>
      constructor
      · exact fun h => absurd h hhead
      · exact fun h => (by cases h)
  have hunsigned : (if (written negative whole fraction scale).head? = some '-'
      then (written negative whole fraction scale).tail else
        written negative whole fraction scale) =
        whole ++ pointed fraction ++ scaleText scale := by
    cases hnegative : negative with
    | true =>
      rw [if_pos ((hnegative ▸ hsign).mpr rfl)]
      rfl
    | false =>
      rw [if_neg (fun h => absurd ((hnegative ▸ hsign).mp h) Bool.false_ne_true)]
      rfl
  -- the power of ten
  obtain ⟨hmantissa, hpower⟩ :=
    @takeWhile_append_stop (· ≠ 'E') (whole ++ pointed fraction) (scaleText scale)
    (by
      intro c hc
      refine decide_eq_true ?_
      cases List.mem_append.mp hc with
      | inl hin => exact ne_of_isDigit (hwhole c hin) (by decide)
      | inr hin =>
        cases hpointed c hin with
        | inl hpoint => rw [hpoint]; decide
        | inr hdigit => exact ne_of_isDigit hdigit (by decide))
    (by
      unfold scaleText
      split
      · exact Or.inl rfl
      · exact Or.inr ⟨_, _, rfl, by decide⟩)
  -- the point
  obtain ⟨hbefore, hafter⟩ := @takeWhile_append_stop (· ≠ '.') whole (pointed fraction)
    (fun c hc => decide_eq_true (ne_of_isDigit (hwhole c hc) (by decide)))
    (by
      unfold pointed
      split
      · exact Or.inl rfl
      · exact Or.inr ⟨_, _, rfl, by decide⟩)
  have htail : (pointed fraction).tail = fraction := by
    unfold pointed
    split
    · rename_i hnil
      rw [hnil]
      rfl
    · rfl
  unfold readBack
  dsimp only
  rw [hunsigned, hmantissa, hpower, hbefore, hafter, htail, readScale_scaleText]
  cases hnegative : negative with
  | true =>
    rw [if_pos ((hnegative ▸ hsign).mpr rfl)]
    rfl
  | false =>
    rw [if_neg (fun h => absurd ((hnegative ▸ hsign).mp h) Bool.false_ne_true)]
    rfl

end Text

/-! ## The parts of `str` -/

section Str

variable (d : Decimal)

def coefficientDigits : List Char := Nat.toDigits 10 d.coefficient.natAbs

/-- Where the point stands among the digits. -/
def pointPlace : Int :=
  if d.exponent ≤ 0 ∧ -6 < d.exponent + d.coefficientDigits.length then
    d.exponent + d.coefficientDigits.length
  else 1

def wholeDigits : List Char :=
  if d.pointPlace ≤ 0 then ['0'] else d.coefficientDigits.take d.pointPlace.toNat

def fractionDigits : List Char :=
  if d.pointPlace ≤ 0 then List.replicate (-d.pointPlace).toNat '0' ++ d.coefficientDigits
  else d.coefficientDigits.drop d.pointPlace.toNat

theorem coefficientDigits_pos : 0 < d.coefficientDigits.length := Nat.length_toDigits_pos

theorem pointPlace_le : d.pointPlace ≤ d.coefficientDigits.length := by
  have hpos := d.coefficientDigits_pos
  unfold pointPlace
  split <;> omega

theorem isDigit_of_mem_coefficientDigits {c : Char} (h : c ∈ d.coefficientDigits) :
    c.isDigit = true :=
  Nat.isDigit_of_mem_toDigits (by decide) (by decide) h

theorem ofDigitChars_parts :
    Nat.ofDigitChars 10 (d.wholeDigits ++ d.fractionDigits) 0 = d.coefficient.natAbs := by
  have hdigits : Nat.ofDigitChars 10 d.coefficientDigits 0 = d.coefficient.natAbs :=
    Nat.ofDigitChars_ten_toDigits
  unfold wholeDigits fractionDigits
  by_cases hplace : d.pointPlace ≤ 0
  · rw [if_pos hplace, if_pos hplace, Nat.ofDigitChars_append, Nat.ofDigitChars_append,
      show Nat.ofDigitChars 10 ['0'] 0 = 0 from rfl, Nat.ofDigitChars_replicate_zero,
      Nat.mul_zero, hdigits]
  · rw [if_neg hplace, if_neg hplace, List.take_append_drop, hdigits]

/-- The point and the power of ten give the exponent back. -/
theorem scale_parts : d.exponent + d.coefficientDigits.length - d.pointPlace -
    d.fractionDigits.length =
    d.exponent := by
  have hle := d.pointPlace_le
  unfold fractionDigits
  by_cases hplace : d.pointPlace ≤ 0
  · rw [if_pos hplace, List.length_append, List.length_replicate]
    omega
  · rw [if_neg hplace, List.length_drop]
    omega

theorem str_toList : d.str.toList = written (decide (d.coefficient < 0)) d.wholeDigits
    d.fractionDigits
    (d.exponent + d.coefficientDigits.length - d.pointPlace) := by
  have hpos := d.coefficientDigits_pos
  have hle := d.pointPlace_le
  have hdigits : (toString d.coefficient.natAbs).toList = d.coefficientDigits := Nat.toList_repr
  have hscale (scale : Int) : (if scale = 0 then "" else
      "E" ++ (if 0 < scale then "+" else "-") ++ toString scale.natAbs).toList =
          scaleText scale := by
    unfold scaleText
    by_cases hzero : scale = 0
    · rw [if_pos hzero, if_pos hzero]
      rfl
    · rw [if_neg hzero, if_neg hzero, String.toList_append, String.toList_append]
      have htext : (toString scale.natAbs).toList = Nat.toDigits 10 scale.natAbs := Nat.toList_repr
      rw [htext]
      by_cases hpositive : 0 < scale
      · rw [if_pos hpositive, if_pos hpositive]
        rfl
      · rw [if_neg hpositive, if_neg hpositive]
        rfl
  have hsign : (if d.coefficient < 0 then "-" else "").toList =
      if decide (d.coefficient < 0) then ['-'] else [] := by
    by_cases hneg : d.coefficient < 0
    · rw [if_pos hneg, if_pos (decide_eq_true hneg)]
      rfl
    · rw [if_neg hneg, if_neg (mt of_decide_eq_true hneg)]
      rfl
  unfold str
  dsimp only
  rw [String.toList_append, String.toList_append, String.toList_ofList, hdigits, hsign, hscale]
  change _ ++ ((if d.pointPlace ≤ 0 then ['0'] else d.coefficientDigits.take d.pointPlace.toNat ++
      List.replicate (d.pointPlace.toNat - d.coefficientDigits.length) '0') ++
    (if d.pointPlace ≤ 0 then '.' :: List.replicate (-d.pointPlace).toNat '0' ++ d.coefficientDigits
      else if d.pointPlace.toNat < d.coefficientDigits.length then
        '.' :: d.coefficientDigits.drop d.pointPlace.toNat
      else [])) ++ scaleText (d.exponent + d.coefficientDigits.length - d.pointPlace) = _
  unfold written
  rw [List.append_assoc]
  refine congrArg _ (congrArg (· ++ _) ?_)
  unfold wholeDigits fractionDigits pointed
  by_cases hplace : d.pointPlace ≤ 0
  · rw [if_pos hplace, if_pos hplace, if_pos hplace, if_pos hplace, if_neg]
    · rfl
    · intro hnil
      have hlength := congrArg List.length hnil
      rw [List.length_append, List.length_nil] at hlength
      omega
  · rw [if_neg hplace, if_neg hplace, if_neg hplace, if_neg hplace]
    have hpad : d.pointPlace.toNat - d.coefficientDigits.length = 0 := by omega
    rw [hpad, List.replicate_zero, List.append_nil]
    by_cases hmore : d.pointPlace.toNat < d.coefficientDigits.length
    · rw [if_pos hmore, if_neg]
      intro hnil
      have hlength := congrArg List.length hnil
      rw [List.length_drop, List.length_nil] at hlength
      omega
    · rw [if_neg hmore, if_pos (List.drop_eq_nil_of_le (by omega))]

/-- Coefficient and exponent can be read back from the text. -/
theorem readBack_str : readBack d.str.toList = d := by
  have hpos := d.coefficientDigits_pos
  have hne : d.wholeDigits ≠ [] := by
    unfold wholeDigits
    split
    · exact List.cons_ne_nil _ _
    · intro hnil
      have hlength := congrArg List.length hnil
      rw [List.length_take, List.length_nil] at hlength
      omega
  have hwhole (c : Char) (hc : c ∈ d.wholeDigits) : c.isDigit = true := by
    unfold wholeDigits at hc
    split at hc
    · rw [List.mem_singleton.mp hc]
      rfl
    · exact d.isDigit_of_mem_coefficientDigits (List.mem_of_mem_take hc)
  have hfraction (c : Char) (hc : c ∈ d.fractionDigits) : c.isDigit = true := by
    unfold fractionDigits at hc
    split at hc
    · cases List.mem_append.mp hc with
      | inl hzero => rw [List.eq_of_mem_replicate hzero]; rfl
      | inr hin => exact d.isDigit_of_mem_coefficientDigits hin
    · exact d.isDigit_of_mem_coefficientDigits (List.mem_of_mem_drop hc)
  rw [str_toList, readBack_written hne hwhole hfraction, ofDigitChars_parts, scale_parts]
  refine congrArg (mk · d.exponent) ?_
  by_cases hneg : d.coefficient < 0
  · rw [if_pos (decide_eq_true hneg)]
    omega
  · rw [if_neg (mt of_decide_eq_true hneg)]
    omega

theorem str_injective : Function.Injective str := by
  intro a b heq
  rw [← a.readBack_str, heq, b.readBack_str]

end Str

end Decimal

end Lib
