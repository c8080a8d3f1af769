import Dashkoda.Lib.Dict
import Dashkoda.Lib.JsonText
import Mathlib.Data.List.Perm.Basic

/-!
# What compact JSON text with sorted keys determines

Two values have the same text exactly when they are equal up to the order of the fields of their
objects.
-/

namespace Lib

universe u v

/-! ## Separated items -/

section Items

variable {α : Type u} {β : Type v} {text : α → List Char} {meaning : α → β} {x : α} {a b : List α}
  {opening closing : Char} {rest rest' : List Char}

/-- The start of a text that starts with this value says what the value means. -/
def Reads (text : α → List Char) (meaning : α → β) (x : α) : Prop :=
  ∀ ⦃y : α⦄ ⦃rest rest' : List Char⦄, Ends rest → Ends rest' →
    text x ++ rest = text y ++ rest' → meaning x = meaning y ∧ rest = rest'

/-- Items between two brackets, separated by commas. -/
def bracketed (opening closing : Char) (items : List (List Char)) : List Char :=
  opening :: [','].intercalate items ++ [closing]

theorem bracketed_nil (rest : List Char) :
    bracketed opening closing [] ++ rest = opening :: closing :: rest := rfl

theorem bracketed_cons (first : List Char) (items : List (List Char)) (rest : List Char) :
    bracketed opening closing (first :: items) ++ rest =
      opening :: (first ++ (items.flatMap (',' :: ·) ++ closing :: rest)) := by
  unfold bracketed
  rw [intercalate_eq_flatMap]
  simp

/-- After an item, a comma or the bracket says whether there is another one. -/
theorem reads_rest (hcomma : closing ≠ ',') (hends : ∀ rest, Ends (closing :: rest))
    (h : ∀ x ∈ a, Reads text meaning x)
    (heq : (a.map text).flatMap (',' :: ·) ++ closing :: rest =
      (b.map text).flatMap (',' :: ·) ++ closing :: rest') :
    a.map meaning = b.map meaning ∧ rest = rest' := by
  have htail (items : List α) (rest : List Char) :
      Ends ((items.map text).flatMap (',' :: ·) ++ closing :: rest) := by
    cases items with
    | nil => exact hends rest
    | cons item items => exact ends_comma _
  induction a generalizing b with
  | nil =>
    cases b with
    | nil => exact ⟨rfl, (List.cons.inj heq).2⟩
    | cons y b => exact absurd (List.cons.inj heq).1 hcomma
  | cons x a ih =>
    cases b with
    | nil => exact absurd (List.cons.inj heq).1.symm hcomma
    | cons y b =>
      rw [List.map_cons, List.flatMap_cons, List.append_assoc, List.map_cons, List.flatMap_cons,
        List.append_assoc] at heq
      obtain ⟨hfirst, hmore⟩ :=
        h x List.mem_cons_self (htail a rest) (htail b rest') (List.cons.inj heq).2
      obtain ⟨htails, hend⟩ := ih (fun z hz => h z (List.mem_cons_of_mem _ hz)) hmore
      exact ⟨by rw [List.map_cons, List.map_cons, hfirst, htails], hend⟩

/-- A bracketed list of items says what its items mean. -/
theorem reads_bracketed (hcomma : closing ≠ ',') (hends : ∀ rest, Ends (closing :: rest))
    (hstart : ∀ x, ∃ c more, text x = c :: more ∧ c ≠ closing) (h : ∀ x ∈ a, Reads text meaning x)
    (heq : bracketed opening closing (a.map text) ++ rest =
      bracketed opening closing (b.map text) ++ rest') :
    a.map meaning = b.map meaning ∧ rest = rest' := by
  have htail (items : List α) (rest : List Char) :
      Ends ((items.map text).flatMap (',' :: ·) ++ closing :: rest) := by
    cases items with
    | nil => exact hends rest
    | cons item items => exact ends_comma _
  have hnot (x : α) (more rest : List Char) : text x ++ more ≠ closing :: rest := by
    obtain ⟨c, others, htext, hother⟩ := hstart x
    rw [htext]
    exact fun heq => hother (List.cons.inj heq).1
  cases a with
  | nil =>
    cases b with
    | nil =>
      rw [List.map_nil, bracketed_nil, bracketed_nil] at heq
      exact ⟨rfl, (List.cons.inj (List.cons.inj heq).2).2⟩
    | cons y b =>
      rw [List.map_nil, bracketed_nil, List.map_cons, bracketed_cons] at heq
      exact absurd (List.cons.inj heq).2.symm (hnot y _ _)
  | cons x a =>
    cases b with
    | nil =>
      rw [List.map_nil, bracketed_nil, List.map_cons, bracketed_cons] at heq
      exact absurd (List.cons.inj heq).2 (hnot x _ _)
    | cons y b =>
      rw [List.map_cons, bracketed_cons, List.map_cons, bracketed_cons] at heq
      obtain ⟨hfirst, hmore⟩ :=
        h x List.mem_cons_self (htail a rest) (htail b rest') (List.cons.inj heq).2
      obtain ⟨htails, hend⟩ :=
        reads_rest hcomma hends (fun z hz => h z (List.mem_cons_of_mem _ hz)) hmore
      exact ⟨by rw [List.map_cons, List.map_cons, hfirst, htails], hend⟩

end Items

namespace Json

/-! ## Values up to the order of fields -/

mutual

/-- The value with the fields of every object in the order of their names. -/
def canon : Json → Json
  | null => null
  | bool b => bool b
  | int n => int n
  | str s => str s
  | arr items => arr (canonItems items)
  | obj fields => obj (sortOn (·.1) (canonFields fields))

def canonItems : List Json → List Json
  | [] => []
  | item :: items => canon item :: canonItems items

def canonFields : List (String × Json) → List (String × Json)
  | [] => []
  | (name, value) :: fields => (name, canon value) :: canonFields fields

end

/-- The field in the order of its value's own fields. -/
def canonField (field : String × Json) : String × Json := (field.1, field.2.canon)

def fieldText (field : String × Json) : List Char := quote field.1 ++ ':' :: field.2.chars

theorem canonItems_eq_map (items : List Json) : canonItems items = items.map canon := by
  induction items with
  | nil => rfl
  | cons item items ih => rw [canonItems, ih, List.map_cons]

theorem canonFields_eq_map (fields : List (String × Json)) :
    canonFields fields = fields.map canonField := by
  induction fields with
  | nil => rfl
  | cons field fields ih =>
    cases field with
    | mk name value => rw [canonFields, ih, List.map_cons]; rfl

theorem canon_arr (items : List Json) : (arr items).canon = arr (items.map canon) := by
  rw [canon, canonItems_eq_map]

theorem canon_obj (fields : List (String × Json)) :
    (obj fields).canon = obj ((sortOn (·.1) fields).map canonField) := by
  rw [canon, canonFields_eq_map, sortOn_map]
  rfl

theorem chars_arr (items : List Json) : (arr items).chars =
    bracketed '[' ']' (items.map chars) := by
  have hitems : itemsChars items = items.map chars := by
    induction items with
    | nil => rfl
    | cons item items ih => rw [itemsChars, ih, List.map_cons]
  rw [chars, hitems]
  rfl

theorem chars_obj (fields : List (String × Json)) :
    (obj fields).chars = bracketed '\x7b' '\x7d' ((sortOn (·.1) fields).map fieldText) := by
  have hfields : fieldsChars fields = fields.map fun field => (field.1, field.2.chars) := by
    induction fields with
    | nil => rfl
    | cons field fields ih =>
      cases field with
      | mk name value => rw [fieldsChars, ih, List.map_cons]
  rw [chars, hfields, sortOn_map, List.map_map]
  rfl

/-- A property of values holds of all if it passes from the parts of a value to the value. -/
theorem inductionOn {motive : Json → Prop} (null : motive null) (bool : ∀ b, motive (bool b))
    (int : ∀ n, motive (int n)) (str : ∀ s, motive (str s))
    (arr : ∀ items, (∀ item ∈ items, motive item) → motive (arr items))
    (obj : ∀ fields, (∀ field ∈ fields, motive field.2) → motive (obj fields)) (value : Json) :
    motive value := by
  refine @Json.rec motive (fun items => ∀ item ∈ items, motive item)
    (fun fields => ∀ field ∈ fields, motive field.2) (fun field => motive field.2) null bool
      int str arr obj
    ?_ ?_ ?_ ?_ (fun _ _ h => h) value
  · exact fun item h => (by cases h)
  · intro item items hitem hitems other hother
    cases List.mem_cons.mp hother with
    | inl heq => exact heq ▸ hitem
    | inr hin => exact hitems other hin
  · exact fun field h => (by cases h)
  · intro field fields hfield hfields other hother
    cases List.mem_cons.mp hother with
    | inl heq => exact heq ▸ hfield
    | inr hin => exact hfields other hin

/-! ## The kind of a value -/

/-- What the first character of a value's text tells. -/
def startOf (c : Char) : Char := if isIntChar c then '0' else c

def start : Json → Char
  | null => 'n'
  | bool true => 't'
  | bool false => 'f'
  | int _ => '0'
  | str _ => '"'
  | arr _ => '['
  | obj _ => '\x7b'

theorem chars_start (value : Json) : ∃ c rest, value.chars = c :: rest ∧
    startOf c = value.start := by
  cases value with
  | null => exact ⟨_, _, rfl, rfl⟩
  | bool b =>
    cases b with
    | true => exact ⟨_, _, rfl, rfl⟩
    | false => exact ⟨_, _, rfl, rfl⟩
  | int n =>
    rw [chars]
    cases htext : (toString n).toList with
    | nil =>
      have hlength : (toString n).toList.length = 0 := by rw [htext]; rfl
      rw [Int.toString_eq_repr, Int.repr_eq_if] at hlength
      split at hlength
      · rw [Nat.toList_repr] at hlength
        exact absurd (List.length_eq_zero_iff.mp hlength) Nat.toDigits_ne_nil
      · rw [String.toList_append, List.length_append] at hlength
        have hsign : "-".toList.length = 1 := rfl
        omega
    | cons c rest =>
      refine ⟨c, rest, rfl, ?_⟩
      unfold startOf
      rw [if_pos (isIntChar_of_mem (htext ▸ List.mem_cons_self))]
      rfl
  | str s => exact ⟨_, _, rfl, rfl⟩
  | arr items => exact ⟨_, _, chars_arr items, rfl⟩
  | obj fields => exact ⟨_, _, chars_obj fields, rfl⟩

/-- Two values of one kind; two truth values are of one kind if they are the same. -/
inductive SameKind : Json → Json → Prop
  | null : SameKind null null
  | bool (b : Bool) : SameKind (bool b) (bool b)
  | int (n m : Int) : SameKind (int n) (int m)
  | str (s t : String) : SameKind (str s) (str t)
  | arr (items items' : List Json) : SameKind (arr items) (arr items')
  | obj (fields fields' : List (String × Json)) : SameKind (obj fields) (obj fields')

theorem sameKind_of_start_eq {a b : Json} (h : a.start = b.start) : SameKind a b := by
  have htruth (value : Bool) : (bool value).start = 't' ∨ (bool value).start = 'f' := by
    cases value with
    | true => exact Or.inl rfl
    | false => exact Or.inr rfl
  cases a with
  | bool x =>
    cases b with
    | bool y => cases x <;> cases y <;> first | exact .bool _ | exact absurd h (by decide)
    | _ => cases htruth x with
      | inl ht => exact absurd (ht.symm.trans h) (by simp [start])
      | inr hf => exact absurd (hf.symm.trans h) (by simp [start])
  | _ =>
    cases b with
    | bool y => cases htruth y with
      | inl ht => exact absurd (h.trans ht) (by simp [start])
      | inr hf => exact absurd (h.trans hf) (by simp [start])
    | _ => first | constructor | exact absurd h (by simp [start])

/-- Values that start the same text are of one kind. -/
theorem sameKind_of_append {a b : Json} {rest rest' : List Char}
    (heq : a.chars ++ rest = b.chars ++ rest') : SameKind a b := by
  obtain ⟨c, more, ha, hc⟩ := chars_start a
  obtain ⟨d, more', hb, hd⟩ := chars_start b
  rw [ha, hb] at heq
  exact sameKind_of_start_eq (by rw [← hc, ← hd, (List.cons.inj heq).1])

theorem chars_start_ne (value : Json) : ∃ c rest, value.chars = c :: rest ∧ c ≠ ']' := by
  obtain ⟨c, rest, hchars, hstart⟩ := chars_start value
  refine ⟨c, rest, hchars, fun hbracket => ?_⟩
  rw [hbracket] at hstart
  cases value with
  | bool b => cases b <;> exact absurd hstart (by decide)
  | _ => exact absurd hstart (by simp [start, startOf, isIntChar])

/-! ## Reading a value -/

theorem reads_fieldText {field : String × Json} (h : Reads chars canon field.2) :
    Reads fieldText canonField field := by
  intro other rest rest' hrest hrest' heq
  unfold fieldText at heq
  rw [List.append_assoc, List.append_assoc] at heq
  obtain ⟨hname, hmore⟩ := quote_append_inj heq
  obtain ⟨hvalue, hend⟩ := h hrest hrest' (List.cons.inj hmore).2
  exact ⟨by rw [canonField, canonField, hname, hvalue], hend⟩

/-- The text of a value says what the value is, up to the order of fields. -/
theorem reads_chars (value : Json) : Reads chars canon value := by
  induction value using inductionOn with
  | null =>
    intro other rest rest' _ _ heq
    cases sameKind_of_append heq
    exact ⟨rfl, List.append_cancel_left heq⟩
  | bool b =>
    intro other rest rest' _ _ heq
    cases sameKind_of_append heq
    exact ⟨rfl, List.append_cancel_left heq⟩
  | int n =>
    intro other rest rest' hrest hrest' heq
    cases sameKind_of_append heq with
    | int n m =>
      rw [chars, chars] at heq
      obtain ⟨hnumber, hend⟩ := readable_int hrest hrest' heq
      exact ⟨by rw [hnumber], hend⟩
  | str s =>
    intro other rest rest' _ _ heq
    cases sameKind_of_append heq with
    | str s t =>
      rw [chars, chars] at heq
      obtain ⟨htext, hend⟩ := quote_append_inj heq
      exact ⟨by rw [htext], hend⟩
  | arr items ih =>
    intro other rest rest' _ _ heq
    cases sameKind_of_append heq with
    | arr items items' =>
      rw [chars_arr, chars_arr] at heq
      obtain ⟨hitems, hend⟩ := reads_bracketed (by decide) ends_bracket chars_start_ne ih heq
      exact ⟨by rw [canon_arr, canon_arr, hitems], hend⟩
  | obj fields ih =>
    intro other rest rest' _ _ heq
    cases sameKind_of_append heq with
    | obj fields fields' =>
      rw [chars_obj, chars_obj] at heq
      have hfields (field : String × Json) (hfield : field ∈ sortOn (·.1) fields) :
          Reads fieldText canonField field := reads_fieldText (ih field (mem_sortOn.mp hfield))
      obtain ⟨hsame, hend⟩ := reads_bracketed (by decide) ends_brace
        (fun field => ⟨'"', _, rfl, by decide⟩) hfields heq
      exact ⟨by rw [canon_obj, canon_obj, hsame], hend⟩

/-- The order of fields does not show in the text. -/
theorem chars_canon (value : Json) : value.canon.chars = value.chars := by
  induction value using inductionOn with
  | null => rfl
  | bool b => rfl
  | int n => rfl
  | str s => rfl
  | arr items ih =>
    rw [canon_arr, chars_arr, chars_arr, List.map_map]
    exact congrArg _ (List.map_congr_left ih)
  | obj fields ih =>
    have hsorted : sortOn (·.1) ((sortOn (·.1) fields).map canonField) =
        (sortOn (·.1) fields).map canonField := by
      rw [sortOn_map]
      exact congrArg _ (sortOn_eq_self (pairwise_sortOn _ fields))
    rw [canon_obj, chars_obj, chars_obj, hsorted, List.map_map]
    refine congrArg _ (List.map_congr_left fun field hfield => ?_)
    show fieldText (canonField field) = fieldText field
    unfold fieldText canonField
    rw [ih field (mem_sortOn.mp hfield)]

/-- Two values have the same text exactly when they agree up to the order of fields. -/
theorem chars_eq_iff {a b : Json} : a.chars = b.chars ↔ a.canon = b.canon := by
  constructor
  · intro heq
    exact (@reads_chars a b [] [] trivial trivial (by rw [heq])).1
  · intro heq
    rw [← chars_canon a, heq, chars_canon]

/-! ## Values without parts -/

section Atoms

theorem canon_int_eq_iff {m n : Int} : (int m).canon = (int n).canon ↔ m = n :=
  ⟨fun h => Json.int.inj h, fun h => h ▸ rfl⟩

theorem canon_str_eq_iff {s t : String} : (str s).canon = (str t).canon ↔ s = t :=
  ⟨fun h => Json.str.inj h, fun h => h ▸ rfl⟩

theorem canon_bool_eq_iff {x y : Bool} : (bool x).canon = (bool y).canon ↔ x = y :=
  ⟨fun h => Json.bool.inj h, fun h => h ▸ rfl⟩

/-- A value that may be missing is told from `null`. -/
theorem canon_ofOption_eq_iff {α : Type} {write : α → Json}
    (hwrite : ∀ x y, (write x).canon = (write y).canon ↔ x = y)
    (hnull : ∀ x, (write x).canon ≠ null)
    {x y : Option α} : (ofOption write x).canon = (ofOption write y).canon ↔ x = y := by
  cases x with
  | none =>
    cases y with
    | none => exact ⟨fun _ => rfl, fun _ => rfl⟩
    | some y => exact ⟨fun h => absurd h.symm (hnull y), fun h => (by cases h)⟩
  | some x =>
    cases y with
    | none => exact ⟨fun h => absurd h (hnull x), fun h => (by cases h)⟩
    | some y => exact (hwrite x y).trans (Option.some.injEq x y).to_iff.symm

theorem canon_ofOption_int_eq_iff {x y : Option Int} :
    (ofOption int x).canon = (ofOption int y).canon ↔ x = y :=
  canon_ofOption_eq_iff (fun _ _ => canon_int_eq_iff) fun _ h => (by cases h)

theorem canon_ofOption_bool_eq_iff {x y : Option Bool} :
    (ofOption bool x).canon = (ofOption bool y).canon ↔ x = y :=
  canon_ofOption_eq_iff (fun _ _ => canon_bool_eq_iff) fun _ h => (by cases h)

theorem canon_arr_eq_iff {items items' : List Json} :
    (arr items).canon = (arr items').canon ↔ items.map canon = items'.map canon := by
  rw [canon_arr, canon_arr, Json.arr.injEq]

end Atoms

/-! ## Objects -/

section Objects

variable {fields fields' : List (String × Json)}

theorem eq_of_perm_of_map_fst_eq {α : Type u} {β : Type v} {a b : List (α × β)} (hperm : a.Perm b)
    (hkeys : a.map Prod.fst = b.map Prod.fst) (hnodup : (a.map Prod.fst).Nodup) : a = b := by
  induction a generalizing b with
  | nil => exact hperm.nil_eq
  | cons x a ih =>
    cases b with
    | nil => cases hkeys
    | cons y b =>
      rw [List.map_cons, List.map_cons] at hkeys
      obtain ⟨hfirst, hrest⟩ := List.cons.inj hkeys
      obtain ⟨hfresh, hnodup'⟩ := List.nodup_cons.mp hnodup
      have hsame : y = x := by
        cases List.mem_cons.mp (hperm.mem_iff.mpr List.mem_cons_self) with
        | inl heq => exact heq
        | inr hin => exact absurd (hfirst ▸ List.mem_map_of_mem hin) hfresh
      rw [hsame] at hperm ⊢
      rw [ih (List.perm_cons x |>.mp hperm) hrest hnodup']

theorem map_fst_canonFields (fields : List (String × Json)) :
    (fields.map canonField).map Prod.fst = fields.map Prod.fst := by
  rw [List.map_map]
  rfl

/-- Objects with distinct names agree exactly when they have the same fields in some order. -/
theorem canon_obj_eq_iff_perm (hnodup : (fields.map Prod.fst).Nodup) :
    (obj fields).canon = (obj fields').canon ↔
    (fields.map canonField).Perm (fields'.map canonField) := by
  rw [canon_obj, canon_obj, Json.obj.injEq]
  constructor
  · intro heq
    exact ((perm_sortOn _ fields).map canonField).symm.trans
      (heq ▸ (perm_sortOn _ fields').map canonField)
  · intro hperm
    have hsorted := @sortOn_eq_of_perm _ _ _ Prod.fst _ _ hperm
      ((map_fst_canonFields fields).symm ▸ hnodup)
    rw [sortOn_map, sortOn_map] at hsorted
    exact hsorted

/-- Objects with the same distinct names agree exactly when the values under each name do. -/
theorem canon_obj_eq_iff (names : List String) (hnodup : names.Nodup)
    (hnames : fields.map Prod.fst = names)
    (hnames' : fields'.map Prod.fst = names) :
    (obj fields).canon = (obj fields').canon ↔ fields.map canonField = fields'.map canonField := by
  rw [canon_obj_eq_iff_perm (hnames ▸ hnodup)]
  constructor
  · intro hperm
    refine eq_of_perm_of_map_fst_eq hperm ?_ ?_
    · rw [map_fst_canonFields, map_fst_canonFields, hnames, hnames']
    · rw [map_fst_canonFields, hnames]
      exact hnodup
  · intro heq
    rw [heq]

/-- Dictionaries written as objects agree exactly when they have the same value under every key. -/
theorem canon_obj_dict_eq_iff {κ : Type u} {α : Type v} [DecidableEq κ] {name : κ → String}
    {value : α → Json} (hname : Function.Injective name)
    (hvalue : ∀ a b, (value a).canon = (value b).canon → a = b)
    (d d' : Dict κ α) :
    (obj (d.entries.map fun entry => (name entry.1, value entry.2))).canon =
        (obj (d'.entries.map fun entry => (name entry.1, value entry.2))).canon ↔
      ∀ key, d.get? key = d'.get? key := by
  let write (entry : κ × α) : String × Json := canonField (name entry.1, value entry.2)
  have hwrite : Function.Injective write := by
    intro a b heq
    obtain ⟨hkey, hsame⟩ := Prod.mk.inj heq
    exact Prod.ext (hname hkey) (hvalue _ _ hsame)
  have hnodup :
      ((d.entries.map fun entry => (name entry.1, value entry.2)).map Prod.fst).Nodup := by
    rw [List.map_map]
    show (d.entries.map fun entry => name entry.1).Nodup
    have hkeys := d.keys_nodup.map hname
    rwa [List.map_map] at hkeys
  rw [canon_obj_eq_iff_perm hnodup, List.map_map, List.map_map]
  show (d.entries.map write).Perm (d'.entries.map write) ↔ _
  rw [List.map_perm_map_iff hwrite, Dict.perm_entries_iff]

end Objects

end Json

end Lib
