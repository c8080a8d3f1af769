import Dashkoda.Lib.Table

/-!
# Rows that supersede each other

Rows of one natural key form a line: a new row follows the one that was current, which is retired
and keeps everything else.  Only the last row of each line is current.
-/

namespace Lib

universe u v

class Revised (α : Type u) (κ : outParam (Type v)) extends Row α where
  key : α → κ
  isCurrent : α → Bool
  setCurrent : Bool → α → α
  pk_setCurrent : ∀ flag row, pk (setCurrent flag row) = pk row
  key_setCurrent : ∀ flag row, key (setCurrent flag row) = key row
  isCurrent_setCurrent : ∀ flag row, isCurrent (setCurrent flag row) = flag

namespace Lineage

variable {α : Type u} {κ : Type v} [Revised α κ] [DecidableEq κ]

open Revised (key isCurrent setCurrent)

/-- The rows of one key, the oldest first. -/
def history (k : κ) (rows : List α) : List α := rows.filter (key · = k)

/-- `.filter(key=..., is_current=True).first()` -/
def current? (k : κ) (rows : List α) : Option α :=
  rows.find? fun row => key row = k && isCurrent row

/-- `.filter(pk__in=retired).update(is_current=False)`, and then the new rows. -/
def revise (retired : List Nat) (created rows : List α) : List α :=
  Table.updateWhere (Row.pk · ∈ retired) (setCurrent false) rows ++ created

/-- Each row follows the one before it. -/
def Linked (Follows : Option α → α → Prop) : Option α → List α → Prop
  | _, [] => True
  | previous, row :: rest => Follows previous row ∧ Linked Follows (some row) rest

/-- The relation does not look at the flag of the current row. -/
def Blind (Follows : Option α → α → Prop) : Prop :=
  ∀ f : α → α, (∀ row, f row = row ∨ f row = setCurrent false row) →
    ∀ previous row, Follows previous row → Follows (previous.map f) (f row)

/-- The rows of each key are linked, and the last one is the current one. -/
structure Sound (Follows : Option α → α → Prop) (rows : List α) : Prop where
  keys : Table.UniqueKeys rows
  linked : ∀ k, Linked Follows none (history k rows)
  currents : ∀ k, (history k rows).filter isCurrent = (history k rows).getLast?.toList

variable {Follows : Option α → α → Prop} {rows : List α}

omit [Revised α κ] [DecidableEq κ] in
theorem linked_concat (row : α) (rows : List α) (previous : Option α) :
    Linked Follows previous (rows ++ [row]) ↔
      Linked Follows previous rows ∧ Follows (rows.getLast?.or previous) row := by
  induction rows generalizing previous with
  | nil =>
    simp only [List.nil_append, Linked, List.getLast?_nil, Option.none_or, and_true, true_and]
  | cons r rest ih =>
    -- the last of the longer list is the last of the rest, or its head
    have hlast : (r :: rest).getLast?.or previous = rest.getLast?.or (some r) := by
      cases rest with
      | nil => rfl
      | cons s rest => rw [List.getLast?_cons_cons, List.getLast?_cons]; rfl
    rw [List.cons_append, Linked, ih, hlast, Linked, and_assoc]

omit [DecidableEq κ] in
theorem linked_map (hblind : Blind Follows) {f : α → α}
    (hf : ∀ row, f row = row ∨ f row = setCurrent false row) {previous : Option α}
    (h : Linked Follows previous rows) : Linked Follows (previous.map f) (rows.map f) := by
  induction rows generalizing previous with
  | nil => exact h
  | cons row rest ih => exact ⟨hblind f hf previous row h.1, ih h.2⟩

theorem mem_history {k : κ} {row : α} : row ∈ history k rows ↔ row ∈ rows ∧ key row = k := by
  unfold history
  rw [List.mem_filter, decide_eq_true_iff]

theorem sound_nil : Sound Follows ([] : List α) :=
  ⟨List.nodup_nil, fun _ => trivial, fun _ => rfl⟩

theorem current?_eq_head? (k : κ) (rows : List α) :
    current? k rows = ((history k rows).filter isCurrent).head? := by
  unfold current? history
  rw [List.filter_filter, List.head?_filter]
  congr 1
  funext row
  exact Bool.and_comm _ _

theorem mem_of_current? {k : κ} {row : α} (h : current? k rows = some row) :
    row ∈ rows ∧ key row = k ∧ isCurrent row = true := by
  have hfound := List.find?_some h
  rw [Bool.and_eq_true, decide_eq_true_iff] at hfound
  exact ⟨List.mem_of_find?_eq_some h, hfound⟩

namespace Sound

theorem current?_eq (h : Sound Follows rows) (k : κ) :
    current? k rows = (history k rows).getLast? := by
  rw [current?_eq_head?, h.currents k]
  cases (history k rows).getLast? <;> rfl

/-- A key has at most one current row. -/
theorem eq_of_current (h : Sound Follows rows) {a b : α} (ha : a ∈ rows) (hb : b ∈ rows)
    (hcurrent : isCurrent a = true) (hcurrent' : isCurrent b = true) (hkey : key a = key b) :
    a = b := by
  have hin {row : α} (hrow : row ∈ rows) (hc : isCurrent row = true) (hk : key row = key b) :
      row ∈ (history (key b) rows).getLast?.toList := by
    rw [← h.currents]
    exact List.mem_filter.mpr ⟨mem_history.mpr ⟨hrow, hk⟩, hc⟩
  have ha' := Option.mem_toList.mp (hin ha hcurrent hkey)
  have hb' := Option.mem_toList.mp (hin hb hcurrent' rfl)
  exact Option.some.inj (ha'.symm.trans hb')

theorem current?_of_mem (h : Sound Follows rows) {row : α} (hrow : row ∈ rows)
    (hcurrent : isCurrent row = true) : current? (key row) rows = some row := by
  cases hfound : current? (key row) rows with
  | none =>
    have := List.find?_eq_none.mp hfound row hrow
    rw [hcurrent, Bool.and_true, decide_eq_true rfl] at this
    exact absurd rfl this
  | some found =>
    obtain ⟨hmem, hkey, hcur⟩ := mem_of_current? hfound
    rw [h.eq_of_current hmem hrow hcur hcurrent hkey]

/-- A key with rows has a current one. -/
theorem exists_current (h : Sound Follows rows) {row : α} (hrow : row ∈ rows) :
    ∃ found, current? (key row) rows = some found := by
  rw [h.current?_eq]
  have hne : history (key row) rows ≠ [] := List.ne_nil_of_mem (mem_history.mpr ⟨hrow, rfl⟩)
  exact ⟨_, List.getLast?_eq_some_getLast hne⟩

/-- The current rows of a key with a current row. -/
theorem currents_eq_singleton (h : Sound Follows rows) {row : α} (hrow : row ∈ rows)
    (hcurrent : isCurrent row = true) : (history (key row) rows).filter isCurrent = [row] := by
  have hmem : row ∈ (history (key row) rows).filter isCurrent :=
    List.mem_filter.mpr ⟨mem_history.mpr ⟨hrow, rfl⟩, hcurrent⟩
  rw [h.currents] at hmem ⊢
  rw [Option.mem_toList.mp hmem]
  rfl

/-- No key has two current rows. -/
theorem nodup_currents (h : Sound Follows rows) : ((rows.filter isCurrent).map key).Nodup := by
  have hnodup : rows.Nodup := List.Nodup.of_map Row.pk h.keys
  refine List.Nodup.map_on ?_ (hnodup.filter _)
  intro a ha b hb hkey
  obtain ⟨ha, hcurrent⟩ := List.mem_filter.mp ha
  obtain ⟨hb, hcurrent'⟩ := List.mem_filter.mp hb
  exact h.eq_of_current ha hb hcurrent hcurrent' hkey

end Sound

/-! ## What the lines depend on -/

section Congr

variable {β : Type*} {f : α → β}

omit [Revised α κ] [DecidableEq κ] in
theorem map_filter_congr {p : α → Bool} (hp : ∀ a b, f a = f b → p a = p b) {as bs : List α}
    (h : as.map f = bs.map f) : (as.filter p).map f = (bs.filter p).map f := by
  induction as generalizing bs with
  | nil =>
    cases bs with
    | nil => rfl
    | cons b rest => cases h
  | cons a rest ih =>
    cases bs with
    | nil => cases h
    | cons b rest' =>
      rw [List.map_cons, List.map_cons] at h
      obtain ⟨hhead, htail⟩ := List.cons.inj h
      rw [List.filter_cons, List.filter_cons, hp a b hhead]
      split
      · rw [List.map_cons, List.map_cons, hhead, ih htail]
      · exact ih htail

omit [Revised α κ] [DecidableEq κ] in
theorem eq_of_map_eq {as bs : List α} (hinj : ∀ a ∈ as, ∀ b ∈ bs, f a = f b → a = b)
    (h : as.map f = bs.map f) : as = bs := by
  induction as generalizing bs with
  | nil =>
    cases bs with
    | nil => rfl
    | cons b rest => cases h
  | cons a rest ih =>
    cases bs with
    | nil => cases h
    | cons b rest' =>
      rw [List.map_cons, List.map_cons] at h
      obtain ⟨hhead, htail⟩ := List.cons.inj h
      rw [hinj a List.mem_cons_self b List.mem_cons_self hhead,
        ih (fun x hx y hy => hinj x (List.mem_cons_of_mem a hx) y
          (List.mem_cons_of_mem b hy)) htail]

omit [Revised α κ] [DecidableEq κ] in
theorem linked_congr (hfollows : ∀ previous previous' row row', previous.map f = previous'.map f →
      f row = f row' → Follows previous row → Follows previous' row') {as bs : List α}
    {previous previous' : Option α} (hprevious : previous.map f = previous'.map f)
    (hmap : as.map f = bs.map f) (h : Linked Follows previous as) :
      Linked Follows previous' bs := by
  induction as generalizing bs previous previous' with
  | nil =>
    cases bs with
    | nil => exact h
    | cons b rest => cases hmap
  | cons a rest ih =>
    cases bs with
    | nil => cases hmap
    | cons b rest' =>
      rw [List.map_cons, List.map_cons] at hmap
      obtain ⟨hhead, htail⟩ := List.cons.inj hmap
      have hsome : (some a).map f = (some b).map f := congrArg some hhead
      exact ⟨hfollows _ _ _ _ hprevious hhead h.1, ih hsome htail h.2⟩

/-- Tables that agree on keys, flags and what the relation looks at are alike. -/
theorem Sound.congr (h : Sound Follows rows) {rows' : List α} (hmap : rows'.map f = rows.map f)
    (hpk : ∀ a b, f a = f b → Row.pk a = Row.pk b) (hkey : ∀ a b, f a = f b → key a = key b)
    (hcurrent : ∀ a b, f a = f b → isCurrent a = isCurrent b)
    (hfollows : ∀ previous previous' row row', previous.map f = previous'.map f →
      f row = f row' → Follows previous row → Follows previous' row') : Sound Follows rows' := by
  have hhistory (k : κ) : (history k rows').map f = (history k rows).map f :=
    map_filter_congr (fun a b hab => by rw [hkey a b hab]) hmap
  have hkeys : Table.UniqueKeys rows' := by
    unfold Table.UniqueKeys
    have hpks : rows'.map Row.pk = rows.map Row.pk := by
      apply List.ext_getElem
      · rw [List.length_map, List.length_map, ← List.length_map f, hmap, List.length_map]
      · intro i hi hi'
        rw [List.length_map] at hi hi'
        rw [List.getElem_map, List.getElem_map]
        apply hpk
        have hat := congrArg (·[i]?) hmap
        simp only [List.getElem?_map, List.getElem?_eq_getElem hi, List.getElem?_eq_getElem hi',
          Option.map_some, Option.some.injEq] at hat
        exact hat
    rw [hpks]
    exact h.keys
  refine ⟨hkeys, fun k => ?_, fun k => ?_⟩
  · exact linked_congr hfollows rfl (hhistory k).symm (h.linked k)
  · have hsame : ((history k rows').filter isCurrent).map f =
        (history k rows').getLast?.toList.map f := by
      rw [map_filter_congr hcurrent (hhistory k), h.currents k]
      have hlast := congrArg List.getLast? (hhistory k)
      rw [List.getLast?_map, List.getLast?_map] at hlast
      cases hold : (history k rows).getLast? with
      | none =>
        rw [hold] at hlast
        rw [Option.map_eq_none_iff.mp hlast]
      | some last =>
        rw [hold] at hlast
        obtain ⟨last', hlast', hsame⟩ := Option.map_eq_some_iff.mp hlast
        rw [hlast']
        exact congrArg ([·]) hsame.symm
    refine eq_of_map_eq ?_ hsame
    intro a ha b hb hab
    have ha' := (mem_history.mp (List.mem_filter.mp ha).1).1
    have hb' := (mem_history.mp (List.mem_of_getLast? (Option.mem_toList.mp hb))).1
    exact Table.eq_of_pk_eq hkeys ha' hb' (hpk a b hab)

end Congr

/-! ## A revision -/

section Revise

variable {retired : List Nat} {created : List α}

omit [DecidableEq κ] in
/-- A row of the revised table is an old one, retired or as it was, or a new one. -/
theorem mem_revise {row : α} : row ∈ revise retired created rows ↔
    (∃ r ∈ rows, (if Row.pk r ∈ retired then setCurrent false r else r) = row) ∨ row ∈ created := by
  unfold revise
  rw [List.mem_append, Table.mem_updateWhere]
  simp only [decide_eq_true_eq]

theorem history_revise (k : κ) : history k (revise retired created rows) =
    (history k rows).map (fun row => if Row.pk row ∈ retired then setCurrent false row else row) ++
      history k created := by
  unfold history revise Table.updateWhere
  rw [List.filter_append, List.filter_map]
  simp only [decide_eq_true_eq]
  congr 3
  -- retiring a row does not move it to another key
  funext row
  rw [Function.comp]
  split
  · rw [Revised.key_setCurrent]
  · rfl

theorem history_eq_nil {k : κ} (h : k ∉ created.map key) : history k created = [] := by
  apply List.filter_eq_nil_iff.mpr
  intro row hrow hkey
  exact h (of_decide_eq_true hkey ▸ List.mem_map_of_mem hrow)

theorem history_eq_singleton (hdistinct : (created.map key).Nodup) {row : α}
    (hrow : row ∈ created) : history (key row) created = [row] := by
  induction created with
  | nil => cases hrow
  | cons r rest ih =>
    rw [List.map_cons, List.nodup_cons] at hdistinct
    unfold history at ih ⊢
    cases List.mem_cons.mp hrow with
    | inl heq =>
      subst heq
      have hrest : history (key row) rest = [] := history_eq_nil hdistinct.1
      have hself : decide (key row = key row) = true := decide_eq_true rfl
      rw [List.filter_cons, if_pos hself]
      exact congrArg (row :: ·) hrest
    | inr hmem =>
      have hne : key r ≠ key row := fun heq => hdistinct.1 (heq ▸ List.mem_map_of_mem hmem)
      rw [List.filter_cons_of_neg (by rw [decide_eq_true_iff]; exact hne), ih hdistinct.2 hmem]

/-- New rows of distinct keys that follow the current rows of their keys, which are retired. -/
structure Revision (Follows : Option α → α → Prop) (rows : List α) (retired : List Nat)
    (created : List α) : Prop where
  keys : Table.UniqueKeys (rows ++ created)
  distinct : (created.map key).Nodup
  current : ∀ row ∈ created, isCurrent row = true
  follows : ∀ row ∈ created, Follows (current? (key row) rows) row
  retires : ∀ row ∈ rows, isCurrent row = true →
    (Row.pk row ∈ retired ↔ key row ∈ created.map key)

theorem Revision.follows_retired (hblind : Blind Follows)
    (h : Revision Follows rows retired created) {row : α} (hrow : row ∈ created) :
    Follows ((current? (key row) rows).map fun r =>
      if Row.pk r ∈ retired then setCurrent false r else r) row := by
  -- the map that leaves the new row itself alone
  let f : α → α := fun r =>
    if Row.pk r ∈ retired ∧ Row.pk r ≠ Row.pk row then setCurrent false r else r
  have hf (r : α) : f r = r ∨ f r = setCurrent false r := by
    show (if _ then _ else _) = _ ∨ (if _ then _ else _) = _
    split
    · exact Or.inr rfl
    · exact Or.inl rfl
  have hself : f row = row := if_neg fun hboth => hboth.2 rfl
  have hfollows := hblind f hf _ _ (h.follows row hrow)
  rw [hself] at hfollows
  cases hcurrent : current? (key row) rows with
  | none =>
    rw [hcurrent] at hfollows
    exact hfollows
  | some found =>
    have hne : Row.pk found ≠ Row.pk row := by
      have hkeys := h.keys
      unfold Table.UniqueKeys at hkeys
      rw [List.map_append, List.nodup_append] at hkeys
      exact hkeys.2.2 _ (List.mem_map_of_mem (mem_of_current? hcurrent).1) _
        (List.mem_map_of_mem hrow)
    rw [hcurrent, Option.map_some] at hfollows
    rw [Option.map_some]
    have hsame : f found = if Row.pk found ∈ retired then setCurrent false found else found := by
      by_cases hretired : Row.pk found ∈ retired
      · rw [if_pos hretired]
        exact if_pos ⟨hretired, hne⟩
      · rw [if_neg hretired]
        exact if_neg fun hboth => hretired hboth.1
    rwa [hsame] at hfollows

theorem Sound.revise (hblind : Blind Follows) (h : Sound Follows rows)
    (hrevision : Revision Follows rows retired created) :
    Sound Follows (revise retired created rows) := by
  let f : α → α := fun row => if Row.pk row ∈ retired then setCurrent false row else row
  have hf (row : α) : f row = row ∨ f row = setCurrent false row := by
    show (if _ then _ else _) = _ ∨ (if _ then _ else _) = _
    split
    · exact Or.inr rfl
    · exact Or.inl rfl
  have hlinked (k : κ) : Linked Follows none ((history k rows).map f) :=
    linked_map hblind hf (h.linked k)
  refine ⟨?_, fun k => ?_, fun k => ?_⟩
  · have hkeys := hrevision.keys
    unfold Table.UniqueKeys at hkeys ⊢
    unfold Lineage.revise Table.updateWhere
    rw [List.map_append] at hkeys
    rw [List.map_append, List.map_map]
    rw [show (Row.pk ∘ fun row : α => if decide (Row.pk row ∈ retired) = true then
        setCurrent false row else row) = Row.pk from funext fun row => ?_]
    · exact hkeys
    · show Row.pk (if _ then _ else _) = _
      split
      · exact Revised.pk_setCurrent false row
      · rfl
  · rw [history_revise]
    by_cases hnew : k ∈ created.map key
    · obtain ⟨row, hrow, rfl⟩ := List.mem_map.mp hnew
      rw [history_eq_singleton hrevision.distinct hrow, linked_concat, List.getLast?_map,
        ← h.current?_eq, Option.or_none]
      exact ⟨hlinked _, hrevision.follows_retired hblind hrow⟩
    · rw [history_eq_nil hnew, List.append_nil]
      exact hlinked k
  · rw [history_revise, List.filter_append]
    by_cases hnew : k ∈ created.map key
    · -- every current row of the key is retired
      have hnone : ((history k rows).map f).filter isCurrent = [] := by
        apply List.filter_eq_nil_iff.mpr
        intro x hx
        obtain ⟨row, hrow, rfl⟩ := List.mem_map.mp hx
        obtain ⟨hmem, hkey⟩ := mem_history.mp hrow
        by_cases hretired : Row.pk row ∈ retired
        · show ¬ isCurrent (if _ then _ else _) = true
          rw [if_pos hretired, Revised.isCurrent_setCurrent]
          exact Bool.false_ne_true
        · show ¬ isCurrent (if _ then _ else _) = true
          rw [if_neg hretired]
          exact fun hcurrent => hretired ((hrevision.retires row hmem hcurrent).mpr (hkey ▸ hnew))
      obtain ⟨row, hrow, rfl⟩ := List.mem_map.mp hnew
      have hlast : [row].filter isCurrent = [row] :=
        List.filter_cons_of_pos (hrevision.current row hrow)
      rw [history_eq_singleton hrevision.distinct hrow]
      exact (congrArg₂ (· ++ ·) hnone hlast).trans (by rw [List.getLast?_concat]; rfl)
    · -- no row of the key changes its flag
      have hkept : ∀ row ∈ history k rows, isCurrent (f row) = isCurrent row := by
        intro row hrow
        obtain ⟨hmem, hkey⟩ := mem_history.mp hrow
        show isCurrent (if _ then _ else _) = _
        split
        · rename_i hretired
          rw [Revised.isCurrent_setCurrent]
          cases hcurrent : isCurrent row with
          | false => rfl
          | true => exact absurd (hkey ▸ (hrevision.retires row hmem hcurrent).mp hretired) hnew
        · rfl
      rw [history_eq_nil hnew, List.filter_nil, List.append_nil, List.append_nil, List.filter_map,
        List.getLast?_map]
      have hfilter : (history k rows).filter (isCurrent ∘ f) = (history k rows).filter isCurrent :=
        List.filter_congr hkept
      show ((history k rows).filter (isCurrent ∘ f)).map f = _
      rw [hfilter, h.currents]
      cases (history k rows).getLast? <;> rfl

end Revise

/-! ## One row after another -/

/-- Save a row that is not current yet, retire the row it replaces, and make the new one current. -/
def succeed (previous : Option α) (row : α) (rows : List α) : List α :=
  let saved := rows ++ [setCurrent false row]
  let retired := match previous with
    | none => saved
    | some old => Table.save saved (setCurrent false old)
  Table.save retired (setCurrent true row)

section Succeed

variable {row : α}

/-- What replaces the current row of a key is a revision. -/
theorem Sound.revision_succeed (h : Sound Follows rows) (hfresh : ∀ r ∈ rows, Row.pk r ≠ Row.pk row)
    (hfollows : Follows (current? (key row) rows) (setCurrent true row)) :
    Revision Follows rows ((current? (key row) rows).map Row.pk).toList [setCurrent true row] := by
  have hkey : key (setCurrent true row) = key row := Revised.key_setCurrent true row
  refine ⟨?_, List.nodup_singleton _, ?_, ?_, ?_⟩
  · apply Table.uniqueKeys_append h.keys
    intro r hr
    rw [Revised.pk_setCurrent]
    exact hfresh r hr
  · intro r hr
    rw [List.mem_singleton.mp hr]
    exact Revised.isCurrent_setCurrent true row
  · intro r hr
    rw [List.mem_singleton.mp hr, hkey]
    exact hfollows
  · intro r hr hcurrent
    rw [List.map_singleton, List.mem_singleton, hkey, Option.mem_toList, Option.map_eq_some_iff]
    constructor
    · rintro ⟨found, hfound, hpk⟩
      obtain ⟨hmem, hfoundKey, -⟩ := mem_of_current? hfound
      rw [← Table.eq_of_pk_eq h.keys hmem hr hpk]
      exact hfoundKey
    · intro hsame
      exact ⟨r, hsame ▸ h.current?_of_mem hr hcurrent, rfl⟩

theorem Sound.succeed_eq_revise (h : Sound Follows rows)
    (hfresh : ∀ r ∈ rows, Row.pk r ≠ Row.pk row) :
    Lineage.succeed (current? (key row) rows) row rows =
      Lineage.revise ((current? (key row) rows).map Row.pk).toList [setCurrent true row] rows := by
  have hpk (flag : Bool) (r : α) : Row.pk (setCurrent flag r) = Row.pk r :=
    Revised.pk_setCurrent flag r
  unfold Lineage.succeed Lineage.revise
  cases hfound : current? (key row) rows with
  | none =>
    dsimp only
    rw [Table.save_append_of_fresh (fun r hr => hpk true row ▸ hfresh r hr)
      ((hpk false row).trans (hpk true row).symm)]
    congr 1
    unfold Table.updateWhere
    exact (List.map_id rows).symm
  | some old =>
    obtain ⟨hold, -, -⟩ := mem_of_current? hfound
    have hretired : Table.save (rows ++ [setCurrent false row]) (setCurrent false old) =
        Table.updateWhere (Row.pk · ∈ [Row.pk old]) (setCurrent false) rows ++
          [setCurrent false row] := by
      rw [Table.save_append_of_mem ⟨old, hold, (hpk false old).symm⟩,
        Table.save_eq_updateWhere h.keys hold (hpk false)]
      simp only [List.mem_singleton]
    dsimp only
    rw [hretired]
    apply Table.save_append_of_fresh
    · intro r hr
      obtain ⟨x, hx, rfl⟩ := Table.mem_updateWhere.mp hr
      rw [hpk true row]
      split
      · rw [hpk false x]
        exact hfresh x hx
      · exact hfresh x hx
    · exact (hpk false row).trans (hpk true row).symm

theorem Sound.succeed (hblind : Blind Follows) (h : Sound Follows rows)
    (hfresh : ∀ r ∈ rows, Row.pk r ≠ Row.pk row)
    (hfollows : Follows (current? (key row) rows) (setCurrent true row)) :
    Sound Follows (Lineage.succeed (current? (key row) rows) row rows) := by
  rw [h.succeed_eq_revise hfresh]
  exact h.revise hblind (h.revision_succeed hfresh hfollows)

/-- The row that succeeds is the current one of its key. -/
theorem Sound.current?_succeed_self (h : Sound Follows rows)
    (hfresh : ∀ r ∈ rows, Row.pk r ≠ Row.pk row) (hblind : Blind Follows)
    (hfollows : Follows (current? (key row) rows) (setCurrent true row)) :
    current? (key row) (Lineage.succeed (current? (key row) rows) row rows) =
      some (setCurrent true row) := by
  have hsound := h.succeed hblind hfresh hfollows
  have hmem : setCurrent true row ∈ Lineage.succeed (current? (key row) rows) row rows := by
    rw [h.succeed_eq_revise hfresh]
    exact mem_revise.mpr (Or.inr (List.mem_singleton_self _))
  have hfound := hsound.current?_of_mem hmem (Revised.isCurrent_setCurrent true row)
  rwa [Revised.key_setCurrent] at hfound

/-- The other keys keep their rows. -/
theorem Sound.history_succeed_other (h : Sound Follows rows)
    (hfresh : ∀ r ∈ rows, Row.pk r ≠ Row.pk row) {k : κ} (hk : k ≠ key row) :
    history k (Lineage.succeed (current? (key row) rows) row rows) = history k rows := by
  have hnew : history k [setCurrent true row] = [] := by
    apply history_eq_nil
    rw [List.map_singleton, List.mem_singleton, Revised.key_setCurrent]
    exact hk
  rw [h.succeed_eq_revise hfresh, history_revise, hnew, List.append_nil]
  refine (List.map_congr_left fun r hr => if_neg ?_).trans (List.map_id _)
  obtain ⟨hmem, hkey⟩ := mem_history.mp hr
  rw [Option.mem_toList, Option.map_eq_some_iff]
  rintro ⟨found, hfound, hpk⟩
  obtain ⟨hfoundMem, hfoundKey, -⟩ := mem_of_current? hfound
  rw [Table.eq_of_pk_eq h.keys hfoundMem hmem hpk] at hfoundKey
  exact hk (hkey.symm.trans hfoundKey)

theorem Sound.current?_succeed_other (h : Sound Follows rows)
    (hfresh : ∀ r ∈ rows, Row.pk r ≠ Row.pk row) {k : κ} (hk : k ≠ key row) :
    current? k (Lineage.succeed (current? (key row) rows) row rows) = current? k rows := by
  rw [current?_eq_head? k, h.history_succeed_other hfresh hk, ← current?_eq_head?]

end Succeed

end Lineage

end Lib
