import Mathlib.Data.List.Basic

/-!
# Text as Python's `str` methods treat it

Strings are lists of code points here.
-/

namespace Lib

namespace PyText

/-- `str.isspace` of one character. -/
def isSpace (c : Char) : Bool :=
  let n := c.toNat
  (9 ≤ n && n ≤ 13) || (28 ≤ n && n ≤ 32) || n = 0x85 || n = 0xa0 || n = 0x1680 ||
    (0x2000 ≤ n && n ≤ 0x200a) || n = 0x2028 || n = 0x2029 || n = 0x202f || n = 0x205f ||
    n = 0x3000

def stripChars (text : List Char) : List Char :=
  ((text.dropWhile isSpace).reverse.dropWhile isSpace).reverse

/-- `text.strip()` -/
def strip (text : String) : String := String.ofList (stripChars text.toList)

theorem stripChars_of_not_isSpace {text : List Char} (h : ∀ c ∈ text, isSpace c = false) :
    stripChars text = text := by
  have hkept (l : List Char) (hl : ∀ c ∈ l, isSpace c = false) : l.dropWhile isSpace = l := by
    cases l with
    | nil => rfl
    | cons c rest => rw [List.dropWhile_cons_of_neg (by rw [hl c List.mem_cons_self]; decide)]
  unfold stripChars
  rw [hkept text h, hkept text.reverse fun c hc =>
    h c (List.mem_reverse.mp hc), List.reverse_reverse]

theorem strip_of_not_isSpace {text : String} (h : ∀ c ∈ text.toList, isSpace c = false) :
    strip text = text := by
  rw [strip, stripChars_of_not_isSpace h, String.ofList_toList]

/-- `text[:n]` -/
def take (n : Nat) (text : String) : String := String.ofList (text.toList.take n)

/-- `text.split()` -/
def split (text : String) : List String :=
  ((text.toList.splitOnP isSpace).filter (· ≠ [])).map String.ofList

/-- Replaces what starts here or later; `skip` characters still belong to the last occurrence. -/
def replaceChars (old new : List Char) : Nat → List Char → List Char
  | _, [] => []
  | skip + 1, _ :: rest => replaceChars old new skip rest
  | 0, c :: rest =>
    if old.isPrefixOf (c :: rest) then new ++ replaceChars old new (old.length - 1) rest
    else c :: replaceChars old new 0 rest

/-- `text.replace(old, new)` for a nonempty `old` -/
def replace (text old new : String) : String :=
  String.ofList (replaceChars old.toList new.toList 0 text.toList)

/-- `separator.join(items)` -/
def join (separator : String) (items : List String) : String := separator.intercalate items

/-! ## What stripping leaves -/

def EndsInBlank (text : String) : Prop := text.toList.getLast?.any isSpace = true

instance (text : String) : Decidable (EndsInBlank text) := inferInstanceAs (Decidable (_ = true))

theorem dropWhile_eq_self_iff {p : Char → Bool} {text : List Char} :
    text.dropWhile p = text ↔ text.head?.any p = false := by
  cases text with
  | nil => exact iff_of_true rfl rfl
  | cons c rest =>
    cases hc : p c with
    | true =>
      rw [List.dropWhile_cons_of_pos hc]
      refine iff_of_false (fun h => ?_) (by simp [hc])
      have hlength := congrArg List.length h
      have hle := (List.dropWhile_sublist (l := rest) p).length_le
      rw [List.length_cons] at hlength
      omega
    | false =>
      rw [List.dropWhile_cons_of_neg (by rw [hc]; exact Bool.false_ne_true)]
      exact iff_of_true rfl (by simp [hc])

theorem stripChars_eq_self_iff {text : List Char} :
    stripChars text = text ↔ text.head?.any isSpace = false ∧
    text.getLast?.any isSpace = false := by
  have hreverse (a : List Char) : a.reverse.dropWhile isSpace = a.reverse ↔
      a.getLast?.any isSpace = false := by
    rw [dropWhile_eq_self_iff, List.head?_reverse]
  unfold stripChars
  constructor
  · intro h
    have hlength := congrArg List.length h
    have hfront := (List.dropWhile_sublist (l := text) isSpace).length_le
    have hback := (List.dropWhile_sublist (l := (text.dropWhile isSpace).reverse) isSpace).length_le
    rw [List.length_reverse] at hlength hback
    have hkept : text.dropWhile isSpace = text :=
      (List.dropWhile_sublist (l := text) isSpace).eq_of_length (by omega)
    rw [hkept] at h
    exact ⟨dropWhile_eq_self_iff.mp hkept, (hreverse text).mp (List.reverse_eq_iff.mp h)⟩
  · rintro ⟨hhead, hlast⟩
    rw [dropWhile_eq_self_iff.mpr hhead, (hreverse text).mpr hlast, List.reverse_reverse]

theorem head?_dropWhile {p : Char → Bool} (text : List Char) :
    (text.dropWhile p).head?.any p = false := by
  have h := List.head?_dropWhile_not p text
  cases hhead : (text.dropWhile p).head? with
  | none => rfl
  | some c =>
    rw [hhead] at h
    simpa using h

/-- Stripping leaves no blank at either end. -/
theorem stripChars_stripChars (text : List Char) :
    stripChars (stripChars text) = stripChars text := by
  rw [stripChars_eq_self_iff]
  unfold stripChars
  rw [List.head?_reverse, List.getLast?_reverse]
  refine ⟨?_, head?_dropWhile _⟩
  -- what is left of the end is a suffix of the reversed text, whose last character stands first in
  -- the text
  obtain ⟨front, hfront⟩ := List.dropWhile_suffix (l := (text.dropWhile isSpace).reverse) isSpace
  cases hlast : ((text.dropWhile isSpace).reverse.dropWhile isSpace).getLast? with
  | none => rfl
  | some c =>
    have hhead : (text.dropWhile isSpace).head? = some c := by
      rw [← List.getLast?_reverse, ← hfront, List.getLast?_append, hlast]
      rfl
    have h := head?_dropWhile (p := isSpace) text
    rwa [hhead] at h

theorem strip_strip (text : String) : strip (strip text) = strip text := by
  unfold strip
  rw [String.toList_ofList, stripChars_stripChars]

/-- A stripped text that is cut only ends in a blank where it was cut there. -/
theorem strip_take_strip_iff (n : Nat) (text : String) :
    strip (take n (strip text)) = take n (strip text) ↔ ¬ EndsInBlank (take n (strip text)) := by
  have hhead : (take n (strip text)).toList.head?.any isSpace = false := by
    have hstripped : (stripChars text.toList).head?.any isSpace = false :=
      (stripChars_eq_self_iff.mp (stripChars_stripChars text.toList)).1
    unfold take strip
    rw [String.toList_ofList, String.toList_ofList]
    cases n with
    | zero => rfl
    | succ n =>
      cases hchars : stripChars text.toList with
      | nil => rfl
      | cons c rest =>
        rw [hchars] at hstripped
        exact hstripped
  have hstrip (kept : String) : strip kept = kept ↔ stripChars kept.toList = kept.toList := by
    unfold strip
    constructor
    · intro h
      have h' := congrArg String.toList h
      rwa [String.toList_ofList] at h'
    · intro h
      rw [h, String.ofList_toList]
  rw [hstrip, stripChars_eq_self_iff]
  unfold EndsInBlank
  rw [hhead]
  simp

theorem length_stripChars_le (text : List Char) : (stripChars text).length ≤ text.length := by
  unfold stripChars
  rw [List.length_reverse]
  have hback := (List.dropWhile_sublist (l := (text.dropWhile isSpace).reverse) isSpace).length_le
  rw [List.length_reverse] at hback
  exact Nat.le_trans hback (List.dropWhile_sublist _).length_le

end PyText

end Lib
