import Dashkoda.Lib.Json

/-!
# Reading a value back from its text

What a value is can be told from the start of a text, and so can where it ends.  Values written one
after the other are then told apart as well.
-/

namespace Lib

universe u

/-- What may follow a value in a text. -/
def Ends : List Char → Prop
  | [] => True
  | c :: _ => c = ',' ∨ c = ']' ∨ c = '\x7d'

theorem ends_comma (rest : List Char) : Ends (',' :: rest) := Or.inl rfl

theorem ends_bracket (rest : List Char) : Ends (']' :: rest) := Or.inr (Or.inl rfl)

theorem ends_brace (rest : List Char) : Ends ('\x7d' :: rest) := Or.inr (Or.inr rfl)

/-- No two values can start the same text. -/
def Readable {α : Type u} (text : α → List Char) : Prop :=
  ∀ ⦃a b : α⦄ ⦃rest rest' : List Char⦄, Ends rest → Ends rest' →
    text a ++ rest = text b ++ rest' → a = b ∧ rest = rest'

theorem Readable.injective {α : Type u} {text : α → List Char} (h : Readable text) :
    Function.Injective text := by
  intro a b heq
  exact (@h a b [] [] trivial trivial (by rw [heq])).1

/-! ## Numbers -/

def isIntChar (c : Char) : Bool := c = '-' || c.isDigit

theorem isIntChar_of_mem {n : Int} {c : Char} (h : c ∈ (toString n).toList) :
    isIntChar c = true := by
  have hdigit (m : Nat) (hm : c ∈ m.repr.toList) : isIntChar c = true := by
    rw [Nat.toList_repr] at hm
    unfold isIntChar
    rw [Nat.isDigit_of_mem_toDigits (by decide) (by decide) hm, Bool.or_true]
  rw [Int.toString_eq_repr, Int.repr_eq_if] at h
  split at h
  · exact hdigit _ h
  · rw [String.toList_append] at h
    cases List.mem_append.mp h with
    | inl hsign =>
      rw [show "-".toList = ['-'] from rfl, List.mem_singleton] at hsign
      rw [hsign]
      rfl
    | inr hrest => exact hdigit _ hrest

theorem takeWhile_isIntChar {n : Int} {rest : List Char} (h : Ends rest) :
    ((toString n).toList ++ rest).takeWhile isIntChar = (toString n).toList := by
  rw [List.takeWhile_append_of_pos fun c hc => isIntChar_of_mem hc]
  cases rest with
  | nil => rw [List.takeWhile_nil, List.append_nil]
  | cons c rest =>
    have hstop : isIntChar c = false := by
      obtain rfl | rfl | rfl := h <;> rfl
    rw [List.takeWhile_cons_of_neg (by rw [hstop]; exact Bool.false_ne_true), List.append_nil]

/-- The number that a text of digits, with or without a sign, is of. -/
def intOf (text : List Char) : Int :=
  if text.head? = some '-' then -(Nat.ofDigitChars 10 text.tail 0 : Int)
  else (Nat.ofDigitChars 10 text 0 : Int)

theorem intOf_toString (n : Int) : intOf (toString n).toList = n := by
  have hdigits (m : Nat) : Nat.ofDigitChars 10 m.repr.toList 0 = m := by
    rw [Nat.toList_repr, Nat.ofDigitChars_ten_toDigits]
  have hunsigned (m : Nat) : m.repr.toList.head? ≠ some '-' := by
    intro hsign
    have hmem := List.mem_of_mem_head? hsign
    rw [Nat.toList_repr] at hmem
    exact absurd (Nat.isDigit_of_mem_toDigits (by decide) (by decide) hmem) (by decide)
  rw [Int.toString_eq_repr, Int.repr_eq_if]
  split
  · rename_i hpositive
    unfold intOf
    rw [if_neg (hunsigned _), hdigits]
    exact Int.toNat_of_nonneg hpositive
  · rename_i hnegative
    rw [String.toList_append]
    show -(Nat.ofDigitChars 10 (-n).toNat.repr.toList 0 : Int) = n
    rw [hdigits]
    omega

theorem readable_int : Readable fun n : Int => (toString n).toList := by
  intro a b rest rest' hrest hrest' heq
  beta_reduce at heq
  have htext : (toString a).toList = (toString b).toList := by
    rw [← takeWhile_isIntChar (n := a) hrest, ← takeWhile_isIntChar (n := b) hrest', heq]
  refine ⟨?_, ?_⟩
  · rw [← intOf_toString a, ← intOf_toString b, htext]
  · rw [htext] at heq
    exact List.append_cancel_left heq

/-! ## Strings -/

namespace Json

def hexValue (c : Char) : Nat := if c.isDigit then c.toNat - 48 else c.toNat - 87

/-- The first character of an escaped text, and what comes after it. -/
def unescape : List Char → Option (Char × List Char)
  | '\\' :: 'u' :: '0' :: '0' :: high :: low :: rest =>
    some (Char.ofNat (hexValue high * 16 + hexValue low), rest)
  | '\\' :: 'n' :: rest => some (Char.ofNat 10, rest)
  | '\\' :: 'r' :: rest => some (Char.ofNat 13, rest)
  | '\\' :: 't' :: rest => some (Char.ofNat 9, rest)
  | '\\' :: 'f' :: rest => some (Char.ofNat 12, rest)
  | '\\' :: 'b' :: rest => some (Char.ofNat 8, rest)
  | '\\' :: c :: rest => some (c, rest)
  | '"' :: _ => none
  | c :: rest => some (c, rest)
  | [] => none

theorem hexValue_hexDigit : ∀ n < 32,
    hexValue (hexDigit (n / 16)) * 16 + hexValue (hexDigit (n % 16)) = n := by decide

theorem unescape_escapeChar (c : Char) (rest : List Char) :
    unescape (escapeChar c ++ rest) = some (c, rest) := by
  have hchar {n : Nat} (hn : c.toNat = n) : Char.ofNat n = c := by rw [← hn, Char.ofNat_toNat]
  unfold escapeChar
  split
  · rename_i hquote
    rw [hquote]
    rfl
  split
  · rename_i hslash
    rw [hslash]
    rfl
  split
  · rename_i hcode
    exact congrArg (fun c => some (c, rest)) (hchar hcode)
  split
  · rename_i hcode
    exact congrArg (fun c => some (c, rest)) (hchar hcode)
  split
  · rename_i hcode
    exact congrArg (fun c => some (c, rest)) (hchar hcode)
  split
  · rename_i hcode
    exact congrArg (fun c => some (c, rest)) (hchar hcode)
  split
  · rename_i hcode
    exact congrArg (fun c => some (c, rest)) (hchar hcode)
  split
  · rename_i hcontrol
    show some (Char.ofNat _, rest) = _
    rw [hexValue_hexDigit c.toNat hcontrol, Char.ofNat_toNat]
  · rename_i hquote hslash _ _ _ _ _ _
    show unescape (c :: rest) = _
    unfold unescape
    split <;> simp_all

theorem unescape_quote (rest : List Char) : unescape ('"' :: rest) = none := rfl

/-- A quoted text ends at its quote, whatever comes after it. -/
theorem quote_append_inj {a b : String} {rest rest' : List Char}
    (heq : quote a ++ rest = quote b ++ rest') : a = b ∧ rest = rest' := by
  have hchars (a b rest rest' : List Char)
      (heq : a.flatMap escapeChar ++ '"' :: rest = b.flatMap escapeChar ++ '"' :: rest') :
      a = b ∧ rest = rest' := by
    induction a generalizing b with
    | nil =>
      cases b with
      | nil => exact ⟨rfl, (List.cons.inj heq).2⟩
      | cons d b =>
        have hread := congrArg unescape heq
        rw [List.flatMap_nil, List.nil_append, unescape_quote, List.flatMap_cons, List.append_assoc,
          unescape_escapeChar] at hread
        cases hread
    | cons c a ih =>
      cases b with
      | nil =>
        have hread := congrArg unescape heq
        rw [List.flatMap_nil, List.nil_append, unescape_quote, List.flatMap_cons, List.append_assoc,
          unescape_escapeChar] at hread
        cases hread
      | cons d b =>
        have hread := congrArg unescape heq
        rw [List.flatMap_cons, List.append_assoc, unescape_escapeChar, List.flatMap_cons,
          List.append_assoc, unescape_escapeChar] at hread
        obtain ⟨hfirst, hrest⟩ := Prod.mk.inj (Option.some.inj hread)
        obtain ⟨htail, hend⟩ := ih b hrest
        exact ⟨by rw [hfirst, htail], hend⟩
  unfold quote at heq
  rw [List.cons_append, List.cons_append, List.append_assoc, List.append_assoc] at heq
  obtain ⟨htext, hend⟩ := hchars _ _ _ _ (List.cons.inj heq).2
  exact ⟨String.toList_inj.mp htext, hend⟩

theorem readable_quote : Readable quote := fun _ _ _ _ _ _ heq => quote_append_inj heq

end Json

/-! ## Arrays -/

def arrayText {α : Type u} (text : α → List Char) (items : List α) : List Char :=
  '[' :: [','].intercalate (items.map text) ++ [']']

theorem intercalate_eq_flatMap (first : List Char) (rest : List (List Char)) :
    [','].intercalate (first :: rest) = first ++ rest.flatMap (',' :: ·) := by
  induction rest generalizing first with
  | nil => simp [List.intercalate, List.intersperse]
  | cons second rest ih =>
    rw [List.intercalate_cons_cons, ih second, List.flatMap_cons, List.append_assoc]
    rfl

@[simp] theorem arrayText_nil {α : Type u} {text : α → List Char} (rest : List Char) :
    arrayText text [] ++ rest = '[' :: ']' :: rest := rfl

/-- The first item of an array, the others and what comes after the array. -/
@[simp] theorem arrayText_cons {α : Type u} {text : α → List Char} (item : α) (items : List α)
    (rest : List Char) : arrayText text (item :: items) ++ rest =
      '[' :: (text item ++ ((items.map text).flatMap (',' :: ·) ++ ']' :: rest)) := by
  unfold arrayText
  rw [List.map_cons, intercalate_eq_flatMap]
  simp

/-- An array can be read if its items can, and none of them starts like its end. -/
theorem Readable.array {α : Type u} {text : α → List Char} (h : Readable text)
    (hstart : ∀ a, ∃ c rest, text a = c :: rest ∧ c ≠ ']') : Readable (arrayText text) := by
  have htail (items : List α) (rest : List Char) :
      Ends ((items.map text).flatMap (',' :: ·) ++ ']' :: rest) := by
    cases items with
    | nil => exact ends_bracket rest
    | cons item items => exact ends_comma _
  have hnot (a : α) (more rest : List Char) : text a ++ more ≠ ']' :: rest := by
    obtain ⟨c, others, htext, hother⟩ := hstart a
    rw [htext]
    exact fun heq => hother (List.cons.inj heq).1
  -- after the first item, a comma or the bracket says whether there is another one
  have hrests (a b : List α) (rest rest' : List Char)
      (heq : (a.map text).flatMap (',' :: ·) ++ ']' :: rest =
        (b.map text).flatMap (',' :: ·) ++ ']' :: rest') : a = b ∧ rest = rest' := by
    induction a generalizing b with
    | nil =>
      cases b with
      | nil => exact ⟨rfl, (List.cons.inj heq).2⟩
      | cons y b => exact absurd (List.cons.inj heq).1 (by decide)
    | cons x a ih =>
      cases b with
      | nil => exact absurd (List.cons.inj heq).1 (by decide)
      | cons y b =>
        rw [List.map_cons, List.flatMap_cons, List.append_assoc, List.map_cons, List.flatMap_cons,
          List.append_assoc] at heq
        obtain ⟨hfirst, hmore⟩ := h (htail a rest) (htail b rest') (List.cons.inj heq).2
        obtain ⟨htails, hend⟩ := ih b hmore
        exact ⟨by rw [hfirst, htails], hend⟩
  intro a b rest rest' _ _ heq
  cases a with
  | nil =>
    cases b with
    | nil =>
      rw [arrayText_nil, arrayText_nil] at heq
      exact ⟨rfl, (List.cons.inj (List.cons.inj heq).2).2⟩
    | cons y b =>
      rw [arrayText_nil, arrayText_cons] at heq
      exact absurd (List.cons.inj heq).2.symm (hnot y _ _)
  | cons x a =>
    cases b with
    | nil =>
      rw [arrayText_cons, arrayText_nil] at heq
      exact absurd (List.cons.inj heq).2 (hnot x _ _)
    | cons y b =>
      rw [arrayText_cons, arrayText_cons] at heq
      obtain ⟨hfirst, hmore⟩ := h (htail a rest) (htail b rest') (List.cons.inj heq).2
      obtain ⟨htails, hend⟩ := hrests a b rest rest' hmore
      exact ⟨by rw [hfirst, htails], hend⟩

namespace Json

theorem chars_arr_map {α : Type u} (f : α → Json) (items : List α) :
    (arr (items.map f)).chars = arrayText (fun a => (f a).chars) items := by
  have hitems : itemsChars (items.map f) = items.map fun a => (f a).chars := by
    induction items with
    | nil => rfl
    | cons item items ih => rw [List.map_cons, itemsChars, ih, List.map_cons]
  rw [chars, hitems]
  rfl

end Json

/-! ## Bytes -/

/-- A text can be read back from its bytes. -/
theorem flatMap_utf8EncodeChar_injective :
    Function.Injective fun text : List Char => text.flatMap String.utf8EncodeChar := by
  intro a b heq
  have hbytes : a.utf8Encode = b.utf8Encode := congrArg List.toByteArray heq
  rw [← String.toByteArray_ofList, ← String.toByteArray_ofList, String.toByteArray_inj] at hbytes
  exact String.ofList_injective hbytes

/-- A hash function without collisions: one character for each byte. -/
def spelledOut (bytes : List UInt8) : String :=
  String.ofList (bytes.map fun b => Char.ofNat b.toNat)

theorem spelledOut_injective : Function.Injective spelledOut := by
  intro a b h
  have hchars := String.ofList_injective h
  refine List.map_injective_iff.mpr (fun x y heq => ?_) hchars
  have hbyte (z : UInt8) : (Char.ofNat z.toNat).toNat = z.toNat := by
    have hvalid : z.toNat.isValidChar := Or.inl (z.toNat_lt.trans (by decide))
    unfold Char.ofNat
    rw [dif_pos hvalid]
    rfl
  rw [← UInt8.toNat_inj, ← hbyte x, ← hbyte y]
  exact congrArg Char.toNat heq

end Lib
