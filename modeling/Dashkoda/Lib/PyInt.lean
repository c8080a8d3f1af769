import Dashkoda.Lib.PyText
import Dashkoda.Lib.Regex
import Mathlib.Data.Nat.Digits.Defs

/-!
# Whole numbers in a text

`int(text)` reads decimal digits of any script, with single underscores between them, a sign before
them and blanks around them.
-/

namespace Lib

namespace PyInt

/-- The blanks `int` passes over, which the ASCII separators are not. -/
def isBlank (c : Char) : Bool :=
  let n := c.toNat
  (9 ≤ n && n ≤ 13) || n = 32 || (128 ≤ n && PyText.isSpace c)

/-- More digits than that are refused. -/
def maxDigits : Nat := 4300

/-- The values of the digits of a number without its sign. -/
def digits (digit? : Char → Option Nat) : List Char → Option (List Nat)
  | [] => none
  | [c] => (digit? c).map ([·])
  | c :: '_' :: rest => do
    let d ← digit? c
    return d :: (← digits digit? rest)
  | c :: rest => do
    let d ← digit? c
    return d :: (← digits digit? rest)

def ofDigits (values : List Nat) : Nat := values.foldl (fun number d => number * 10 + d) 0

def natural (digit? : Char → Option Nat) (text : List Char) : Option Nat := do
  let values ← digits digit? text
  if maxDigits < values.length then none else return ofDigits values

/-- `int(text)`; `none` is the `ValueError`. -/
def parse (classes : CharClasses) (text : List Char) : Option Int :=
  let body := ((text.dropWhile isBlank).reverse.dropWhile isBlank).reverse
  match body with
  | '-' :: rest => (natural classes.digit? rest).map fun number => -(number : Int)
  | '+' :: rest => (natural classes.digit? rest).map fun number => (number : Int)
  | rest => (natural classes.digit? rest).map fun number => (number : Int)

example : parse asciiClasses [' ', '-', '1', '_', '2', '\n'] = some (-12) := by decide +kernel

/-! ## Reading a number back -/

/-- The digits of ASCII have their values, and no digit has more than nine. -/
structure ReadsDecimals (classes : CharClasses) : Prop where
  ascii : ∀ c, c.isDigit = true → classes.digit? c = some (c.toNat - '0'.toNat)
  lt_ten : ∀ c d, classes.digit? c = some d → d < 10

theorem readsDecimals_ascii : ReadsDecimals asciiClasses where
  ascii c hc := if_pos hc
  lt_ten c d h := by
    by_cases hc : c.isDigit = true
    · have hvalue : some (c.toNat - '0'.toNat) = some d := (if_pos hc).symm.trans h
      have hnine : c.toNat ≤ 57 := by
        unfold Char.isDigit at hc
        simp only [Bool.and_eq_true, decide_eq_true_eq, UInt32.le_iff_toNat_le] at hc
        exact hc.2
      have hzero : '0'.toNat = 48 := rfl
      have heq := Option.some.inj hvalue
      omega
    · cases (if_neg hc).symm.trans h

section ReadBack

variable {classes : CharClasses}

theorem digits_of_isDigit (h : ReadsDecimals classes) {text : List Char} (hne : text ≠ [])
    (htext : ∀ c ∈ text, c.isDigit = true) :
    digits classes.digit? text = some (text.map fun c => c.toNat - '0'.toNat) := by
  induction text with
  | nil => exact absurd rfl hne
  | cons c rest ih =>
    have hc := h.ascii c (htext c List.mem_cons_self)
    cases rest with
    | nil =>
      rw [digits, hc]
      rfl
    | cons d rest =>
      have hd : d ≠ '_' := by
        intro heq
        have hdigit := htext d (List.mem_cons_of_mem _ List.mem_cons_self)
        rw [heq] at hdigit
        exact absurd hdigit (by decide)
      have hrest := ih (List.cons_ne_nil _ _) fun x hx => htext x (List.mem_cons_of_mem _ hx)
      rw [digits, hc, hrest]
      · rfl
      · exact fun heq => absurd heq (List.cons_ne_nil _ _)
      · exact fun rest' heq => hd (List.cons.inj heq).1

theorem ofDigits_map (text : List Char) (start : Nat) :
    (text.map fun c => c.toNat - '0'.toNat).foldl (fun number d => number * 10 + d) start =
      Nat.ofDigitChars 10 text start := by
  induction text generalizing start with
  | nil => rfl
  | cons c rest ih =>
    rw [List.map_cons, List.foldl_cons, ih, Nat.ofDigitChars_cons, Nat.mul_comm]

theorem natural_toDigits (h : ReadsDecimals classes) {n : Nat} (hn : n < 10 ^ maxDigits) :
    natural classes.digit? (Nat.toDigits 10 n) = some n := by
  have hdigit (c : Char) (hc : c ∈ Nat.toDigits 10 n) : c.isDigit = true :=
    Nat.isDigit_of_mem_toDigits (by decide) (by decide) hc
  have hne : Nat.toDigits 10 n ≠ [] := List.ne_nil_of_length_pos Nat.length_toDigits_pos
  have hlength : (Nat.toDigits 10 n).length ≤ maxDigits :=
    Nat.toDigits_length 10 n maxDigits (by decide) hn
  unfold natural ofDigits
  rw [digits_of_isDigit h hne hdigit]
  show (if maxDigits < (List.map _ (Nat.toDigits 10 n)).length then none else
    some (List.foldl _ 0 _)) = some n
  rw [List.length_map, if_neg (not_lt.mpr hlength), ofDigits_map, Nat.ofDigitChars_ten_toDigits]

theorem ofDigits_lt {values : List Nat} (h : ∀ d ∈ values, d < 10) :
    ofDigits values < 10 ^ values.length := by
  have hfold (values : List Nat) (start : Nat) (h : ∀ d ∈ values, d < 10) :
      values.foldl (fun number d => number * 10 + d) start < (start + 1) * 10 ^ values.length := by
    induction values generalizing start with
    | nil => simp
    | cons d rest ih =>
      have hd := h d List.mem_cons_self
      have hrest := ih (start * 10 + d) fun x hx => h x (List.mem_cons_of_mem _ hx)
      have hle : (start * 10 + d + 1) * 10 ^ rest.length ≤ (start + 1) * 10 * 10 ^ rest.length :=
        Nat.mul_le_mul_right _ (by omega)
      rw [List.foldl_cons, List.length_cons, pow_succ, Nat.mul_comm (10 ^ rest.length),
        ← Nat.mul_assoc]
      omega
  have hall := hfold values 0 h
  rwa [Nat.zero_add, Nat.one_mul] at hall

theorem lt_ten_of_digits (h : ReadsDecimals classes) {text : List Char} {values : List Nat}
    (hvalues : digits classes.digit? text = some values) : ∀ d ∈ values, d < 10 := by
  fun_induction digits classes.digit? text generalizing values with
  | case1 => cases hvalues
  | case2 c =>
    obtain ⟨d, hd, rfl⟩ := Option.map_eq_some_iff.mp hvalues
    intro x hx
    rw [List.mem_singleton.mp hx]
    exact h.lt_ten c d hd
  | case3 c rest ih =>
    obtain ⟨d, hd, hmore⟩ := Option.bind_eq_some_iff.mp hvalues
    obtain ⟨more, hrest, hout⟩ := Option.bind_eq_some_iff.mp hmore
    cases hout
    exact List.forall_mem_cons.mpr ⟨h.lt_ten c d hd, ih hrest⟩
  | case4 c rest _ _ ih =>
    obtain ⟨d, hd, hmore⟩ := Option.bind_eq_some_iff.mp hvalues
    obtain ⟨more, hrest, hout⟩ := Option.bind_eq_some_iff.mp hmore
    cases hout
    exact List.forall_mem_cons.mpr ⟨h.lt_ten c d hd, ih hrest⟩

theorem lt_of_natural (h : ReadsDecimals classes) {text : List Char} {n : Nat}
    (hn : natural classes.digit? text = some n) : n < 10 ^ maxDigits := by
  obtain ⟨values, hvalues, hout⟩ := Option.bind_eq_some_iff.mp hn
  by_cases hlong : maxDigits < values.length
  · rw [if_pos hlong] at hout
    cases hout
  · rw [if_neg hlong] at hout
    cases hout
    exact Nat.lt_of_lt_of_le (ofDigits_lt (lt_ten_of_digits h hvalues))
      (Nat.pow_le_pow_right (by decide) (not_lt.mp hlong))

/-- What was read can be written and read again. -/
theorem natAbs_lt_of_parse (h : ReadsDecimals classes) {text : List Char} {n : Int}
    (hn : parse classes text = some n) : n.natAbs < 10 ^ maxDigits := by
  unfold parse at hn
  dsimp only at hn
  split at hn
  all_goals
    simp only [Option.map_eq_some_iff, Option.bind_eq_bind, Option.bind_eq_some_iff,
      Option.pure_def,
      Option.some.injEq] at hn
    obtain ⟨_, ⟨m, hm, rfl⟩, rfl⟩ := hn
    have hlt := lt_of_natural h hm
    omega

theorem dropWhile_isBlank {text : List Char} (h : ∀ c ∈ text.head?, isBlank c = false) :
    text.dropWhile isBlank = text := by
  cases text with
  | nil => rfl
  | cons c rest => rw [List.dropWhile_cons_of_neg (by rw [h c rfl]; exact Bool.false_ne_true)]

theorem isBlank_of_isDigit {c : Char} (h : c.isDigit = true) : isBlank c = false := by
  unfold Char.isDigit at h
  simp only [Bool.and_eq_true, decide_eq_true_eq, UInt32.le_iff_toNat_le] at h
  have hlow : 48 ≤ c.toNat := h.1
  have hhigh : c.toNat ≤ 57 := h.2
  have h2 : c.toNat ≠ 32 := by omega
  have h3 : ¬ 128 ≤ c.toNat := by omega
  simp [isBlank, h2, h3]
  omega

/-- A text without blanks at its ends is not cut. -/
theorem cut_of_trimmed {text : List Char} (hhead : ∀ c ∈ text.head?, isBlank c = false)
    (hlast : ∀ c ∈ text.getLast?, isBlank c = false) :
    ((text.dropWhile isBlank).reverse.dropWhile isBlank).reverse = text := by
  rw [dropWhile_isBlank hhead, dropWhile_isBlank, List.reverse_reverse]
  rw [List.head?_reverse]
  exact hlast

/-- `int(str(n))` -/
theorem parse_toString (h : ReadsDecimals classes) {n : Int} (hn : n.natAbs < 10 ^ maxDigits) :
    parse classes (toString n).toList = some n := by
  have hdigit {m : Nat} {c : Char} (hc : c ∈ Nat.toDigits 10 m) : c.isDigit = true :=
    Nat.isDigit_of_mem_toDigits (by decide) (by decide) hc
  have hlast {m : Nat} {before : List Char} : ∀ c ∈ (before ++ Nat.toDigits 10 m).getLast?,
      isBlank c = false := by
    intro c hc
    have hne : Nat.toDigits 10 m ≠ [] := List.ne_nil_of_length_pos Nat.length_toDigits_pos
    rw [List.getLast?_append_of_ne_nil _ hne] at hc
    exact isBlank_of_isDigit (hdigit (List.mem_of_getLast? hc))
  cases n with
  | ofNat m =>
    have htext : (toString (Int.ofNat m)).toList = Nat.toDigits 10 m := Nat.toList_repr
    rw [htext, parse, cut_of_trimmed]
    · have hread := natural_toDigits h hn
      split
      · rename_i rest heq
        exact absurd (hdigit (heq ▸ List.mem_cons_self : '-' ∈ Nat.toDigits 10 m)) (by decide)
      · rename_i rest heq
        exact absurd (hdigit (heq ▸ List.mem_cons_self : '+' ∈ Nat.toDigits 10 m)) (by decide)
      · rw [show (Int.ofNat m).natAbs = m from rfl] at hread
        rw [hread]
        rfl
    · intro c hc
      exact isBlank_of_isDigit (hdigit (List.mem_of_head? hc))
    · exact @hlast m []
  | negSucc m =>
    have htext : (toString (Int.negSucc m)).toList = '-' :: Nat.toDigits 10 (m + 1) := by
      show ("-" ++ toString (m + 1)).toList = _
      rw [String.toList_append]
      exact congrArg _ Nat.toList_repr
    rw [htext, parse, cut_of_trimmed]
    · split
      · rename_i rest heq
        cases heq
        have hread : natural classes.digit? (Nat.toDigits 10 (m + 1)) = some (m + 1) :=
          natural_toDigits h hn
        rw [hread]
        rfl
      · rename_i heq
        exact absurd (List.cons.inj heq).1 (by decide)
      · rename_i hminus _
        exact absurd rfl (hminus _)
    · intro c hc
      cases hc
      decide
    · exact @hlast (m + 1) ['-']

end ReadBack

end PyInt

end Lib
