import Dashkoda.Lib.Calendar
import Dashkoda.Lib.DecimalText
import Dashkoda.Lib.IsoDate
import Mathlib.Data.Nat.Digits.Defs

/-!
# The text of a date

Year, month and day are read back from the digits between the dashes.
-/

namespace Lib

section Padded

/-- Digits with zeros before them. -/
def padded (zeros n : Nat) : List Char := List.replicate zeros '0' ++ Nat.toDigits 10 n

theorem isDigit_of_mem_padded {zeros n : Nat} {c : Char} (h : c ∈ padded zeros n) :
    c.isDigit = true := by
  cases List.mem_append.mp h with
  | inl hzero => rw [List.eq_of_mem_replicate hzero]; rfl
  | inr hdigit => exact Nat.isDigit_of_mem_toDigits (by decide) (by decide) hdigit

theorem ofDigitChars_padded (zeros n : Nat) : Nat.ofDigitChars 10 (padded zeros n) 0 = n := by
  unfold padded
  rw [Nat.ofDigitChars_append, Nat.ofDigitChars_replicate_zero, Nat.mul_zero,
    Nat.ofDigitChars_ten_toDigits]

/-- The numbers before a dash, and what comes after it. -/
theorem padded_dash_inj {z z' n n' : Nat} {rest rest' : List Char}
    (heq : padded z n ++ '-' :: rest = padded z' n' ++ '-' :: rest') : n = n' ∧ rest = rest' := by
  have hsplit (z n : Nat) (rest : List Char) :=
    @Decimal.takeWhile_append_stop (· ≠ '-') (padded z n) ('-' :: rest)
    (fun c hc => decide_eq_true (Decimal.ne_of_isDigit (isDigit_of_mem_padded hc) (by decide)))
    (Or.inr ⟨'-', rest, rfl, by decide⟩)
  have hnumber : padded z n = padded z' n' := by
    rw [← (hsplit z n rest).1, ← (hsplit z' n' rest').1, heq]
  have hafter : '-' :: rest = '-' :: rest' := by
    rw [← (hsplit z n rest).2, ← (hsplit z' n' rest').2, heq]
  refine ⟨?_, (List.cons.inj hafter).2⟩
  rw [← ofDigitChars_padded z n, hnumber, ofDigitChars_padded]

end Padded

namespace Date

theorem zeroPadded_toList (width n : Nat) :
    (zeroPadded width n).toList = padded (width - (Nat.toDigits 10 n).length) n := by
  have hdigits : (toString n).toList = Nat.toDigits 10 n := Nat.toList_repr
  unfold zeroPadded
  rw [String.toList_ofList, hdigits]
  rfl

/-- Whatever zeros stand before its numbers, a text has one date. -/
theorem eq_of_padded_eq {a b : Date} {y m d y' m' d' : Nat}
    (h : padded y a.year ++ '-' :: (padded m a.month ++ '-' :: padded d a.day) =
      padded y' b.year ++ '-' :: (padded m' b.month ++ '-' :: padded d' b.day)) : a = b := by
  obtain ⟨hyear, hrest⟩ := padded_dash_inj h
  obtain ⟨hmonth, hrest⟩ := padded_dash_inj hrest
  have hday : a.day = b.day := by
    rw [← ofDigitChars_padded d a.day, hrest, ofDigitChars_padded]
  cases a
  cases b
  dsimp only at hyear hmonth hday
  subst hyear hmonth hday
  rfl

theorem isoformat_injective : Function.Injective isoformat := by
  let zeros (width n : Nat) : Nat := width - (Nat.toDigits 10 n).length
  have htext (date : Date) : date.isoformat.toList = padded (zeros 4 date.year) date.year ++
      '-' ::
        (padded (zeros 2 date.month) date.month ++ '-' :: padded (zeros 2 date.day) date.day) := by
    unfold isoformat
    rw [String.toList_append, String.toList_append, String.toList_append, String.toList_append,
      zeroPadded_toList, zeroPadded_toList, zeroPadded_toList]
    show (padded _ _ ++ ['-'] ++ padded _ _ ++ ['-']) ++ padded _ _ = _
    simp [zeros]
  intro a b heq
  have hchars := congrArg String.toList heq
  rw [htext a, htext b] at hchars
  exact eq_of_padded_eq hchars

/-! ## Reading the text -/

section Read

theorem readDigits_append {digits rest : List Char} {number : Nat}
    (h : ∀ c ∈ digits, c.isDigit = true) :
    readDigits digits.length number (digits ++ rest) =
      some (Nat.ofDigitChars 10 digits number, rest) := by
  induction digits generalizing number with
  | nil => rfl
  | cons c digits ih =>
    rw [List.length_cons, List.cons_append, readDigits, if_pos (h c List.mem_cons_self),
      ih fun d hd => h d (List.mem_cons_of_mem _ hd), Nat.ofDigitChars_cons, Nat.mul_comm]

/-- So many digits with the zeros before them. -/
theorem readDigits_zeroPadded {width n : Nat} (h : n < 10 ^ width) (hwidth : 0 < width)
    (rest : List Char) :
    readDigits width 0 ((zeroPadded width n).toList ++ rest) = some (n, rest) := by
  have hshort : (Nat.toDigits 10 n).length ≤ width := Nat.toDigits_length 10 n width hwidth h
  have hlength : (padded (width - (Nat.toDigits 10 n).length) n).length = width := by
    unfold padded
    rw [List.length_append, List.length_replicate]
    omega
  have hread := @readDigits_append (padded (width - (Nat.toDigits 10 n).length) n) rest 0
    fun c hc => isDigit_of_mem_padded hc
  rwa [hlength, ofDigitChars_padded, ← zeroPadded_toList] at hread

theorem isoformat_toList (date : Date) : date.isoformat.toList = (zeroPadded 4 date.year).toList ++
    '-' :: ((zeroPadded 2 date.month).toList ++ '-' :: (zeroPadded 2 date.day).toList) := by
  unfold isoformat
  rw [String.toList_append, String.toList_append, String.toList_append, String.toList_append]
  show (((_ ++ ['-']) ++ _) ++ ['-']) ++ _ = _
  simp only [List.append_assoc, List.cons_append, List.nil_append]

theorem isDigit_of_mem_zeroPadded {width n : Nat} {c : Char} (h : c ∈ (zeroPadded width n).toList) :
    c.isDigit = true := by
  rw [zeroPadded_toList] at h
  exact isDigit_of_mem_padded h

theorem mem_isoformat {date : Date} {c : Char} (h : c ∈ date.isoformat.toList) : c.isDigit = true ∨
    c = '-' := by
  rw [isoformat_toList, List.mem_append, List.mem_cons, List.mem_append, List.mem_cons] at h
  rcases h with hyear | hdash | hmonth | hdash | hday
  · exact Or.inl (isDigit_of_mem_zeroPadded hyear)
  · exact Or.inr hdash
  · exact Or.inl (isDigit_of_mem_zeroPadded hmonth)
  · exact Or.inr hdash
  · exact Or.inl (isDigit_of_mem_zeroPadded hday)

theorem isoformat_ne_empty (date : Date) : date.isoformat ≠ "" := by
  intro h
  have hchars := congrArg String.toList h
  rw [isoformat_toList] at hchars
  exact List.append_ne_nil_of_right_ne_nil _ (List.cons_ne_nil _ _) hchars

theorem ofNumbers?_self (date : Date) : ofNumbers? date.year date.month date.day = some date :=
  dif_pos ⟨date.year_range, date.month_range, date.day_range⟩

/-- `date.fromisoformat(day.isoformat())` -/
theorem fromisoformat_isoformat (date : Date) : fromisoformat date.isoformat = some date := by
  have hyear := date.year_range.2
  have hmonth := date.month_range.2
  have hday := date.day_range.2.trans (daysInMonth_le date.year date.month)
  have hreadMonth : readRest date.year true ((zeroPadded 2 date.month).toList ++ '-' ::
      (zeroPadded 2 date.day).toList) = some date := by
    have hdigits := readDigits_zeroPadded (show date.month < 10 ^ 2 by omega) (by decide)
      ('-' :: (zeroPadded 2 date.day).toList)
    have hrest := readDigits_zeroPadded (show date.day < 10 ^ 2 by omega) (by decide) []
    rw [List.append_nil] at hrest
    unfold readRest
    split
    · rename_i heq
      -- a month does not start with the letter of a week
      have hne : (zeroPadded 2 date.month).toList ≠ [] := by
        intro hnil
        rw [hnil] at hdigits
        cases hdigits
      obtain ⟨c, more, hcons⟩ := List.exists_cons_of_ne_nil hne
      rw [hcons] at heq
      have hc : c = 'W' := (List.cons.inj heq).1
      have hdigit := @isDigit_of_mem_zeroPadded 2 date.month c (hcons ▸ List.mem_cons_self)
      rw [hc] at hdigit
      exact absurd hdigit (by decide)
    · simp only [Option.bind_eq_bind, hdigits, Option.bind_some, readSeparator, hrest, ↓reduceIte]
      exact ofNumbers?_self date
  unfold fromisoformat
  rw [isoformat_toList]
  simp only [readDigits_zeroPadded (show date.year < 10 ^ 4 by omega) (by decide),
    Option.bind_eq_bind,
    Option.bind_some]
  exact hreadMonth

end Read

end Date

end Lib
