import Dashkoda.Lib.Table
import Mathlib.Data.List.Nodup
import Mathlib.Tactic.Tauto

/-!
# Dictionaries in insertion order

A dictionary is the list of its entries in insertion order, each key once.
-/

namespace Lib

universe u v

structure Dict (κ : Type u) (α : Type v) where
  entries : List (κ × α)
  keys_nodup : (entries.map Prod.fst).Nodup

namespace Dict

variable {κ : Type u} {α : Type v}

def empty : Dict κ α := ⟨[], List.nodup_nil⟩

def keys (d : Dict κ α) : List κ := d.entries.map Prod.fst

def values (d : Dict κ α) : List α := d.entries.map Prod.snd

def isEmpty (d : Dict κ α) : Bool := d.entries.isEmpty

instance [DecidableEq κ] [DecidableEq α] : DecidableEq (Dict κ α)
  | ⟨e, _⟩, ⟨e', _⟩ => if h : e = e' then .isTrue (by subst h; rfl)
    else .isFalse fun heq => h (congrArg Dict.entries heq)

theorem mem_keys {d : Dict κ α} {key : κ} : key ∈ d.keys ↔ ∃ value, (key, value) ∈ d.entries := by
  unfold keys
  rw [List.mem_map]
  constructor
  · rintro ⟨entry, hentry, rfl⟩
    exact ⟨entry.2, hentry⟩
  · rintro ⟨value, hentry⟩
    exact ⟨(key, value), hentry, rfl⟩

theorem mem_values {d : Dict κ α} {value : α} :
    value ∈ d.values ↔ ∃ key, (key, value) ∈ d.entries := by
  unfold values
  rw [List.mem_map]
  constructor
  · rintro ⟨entry, hentry, rfl⟩
    exact ⟨entry.1, hentry⟩
  · rintro ⟨key, hentry⟩
    exact ⟨(key, value), hentry, rfl⟩

section Keys

variable [DecidableEq κ]

/-- A known key keeps its place. -/
def setEntries : List (κ × α) → κ → α → List (κ × α)
  | [], key, value => [(key, value)]
  | entry :: rest, key, value =>
    if entry.1 = key then (key, value) :: rest else entry :: setEntries rest key value

theorem keys_setEntries (entries : List (κ × α)) (key : κ) (value : α) :
    (setEntries entries key value).map Prod.fst =
      if key ∈ entries.map Prod.fst then entries.map Prod.fst
      else entries.map Prod.fst ++ [key] := by
  induction entries with
  | nil => rfl
  | cons entry rest ih =>
    unfold setEntries
    by_cases hkey : entry.1 = key
    · rw [if_pos hkey, List.map_cons, List.map_cons, hkey, if_pos List.mem_cons_self]
    · rw [if_neg hkey, List.map_cons, List.map_cons, ih]
      by_cases hmem : key ∈ rest.map Prod.fst
      · rw [if_pos hmem, if_pos (List.mem_cons_of_mem _ hmem)]
      · have hnew : key ∉ entry.1 :: rest.map Prod.fst := by
          rw [List.mem_cons, not_or]
          exact ⟨fun heq => hkey heq.symm, hmem⟩
        rw [if_neg hmem, if_neg hnew, List.cons_append]

theorem setEntries_of_not_mem {entries : List (κ × α)} {key : κ} {value : α}
    (hnew : key ∉ entries.map Prod.fst) : setEntries entries key value =
      entries ++ [(key, value)] := by
  induction entries with
  | nil => rfl
  | cons entry rest ih =>
    rw [List.map_cons, List.mem_cons, not_or] at hnew
    unfold setEntries
    rw [if_neg fun heq => hnew.1 heq.symm, ih hnew.2, List.cons_append]

theorem mem_setEntries {entries : List (κ × α)} (hkeys : (entries.map Prod.fst).Nodup) {key : κ}
    {value : α} {x : κ × α} :
    x ∈ setEntries entries key value ↔ x = (key, value) ∨ x ∈ entries ∧ x.1 ≠ key := by
  induction entries with
  | nil => simp [setEntries]
  | cons entry rest ih =>
    obtain ⟨hfresh, hrest⟩ := List.nodup_cons.mp hkeys
    unfold setEntries
    by_cases hkey : entry.1 = key
    · rw [if_pos hkey, List.mem_cons, List.mem_cons]
      have hothers : x ∈ rest → x.1 ≠ key := fun hx heq =>
        hfresh ((heq.trans hkey.symm) ▸ List.mem_map_of_mem hx)
      constructor
      · rintro (heq | hx)
        · exact Or.inl heq
        · exact Or.inr ⟨Or.inr hx, hothers hx⟩
      · rintro (heq | ⟨heq | hx, hne⟩)
        · exact Or.inl heq
        · exact absurd (heq ▸ hkey) hne
        · exact Or.inr hx
    · rw [if_neg hkey, List.mem_cons, List.mem_cons, ih hrest]
      constructor
      · rintro (rfl | heq | ⟨hx, hne⟩)
        · exact Or.inr ⟨Or.inl rfl, hkey⟩
        · exact Or.inl heq
        · exact Or.inr ⟨Or.inr hx, hne⟩
      · rintro (heq | ⟨heq | hx, hne⟩)
        · exact Or.inr (Or.inl heq)
        · exact Or.inl heq
        · exact Or.inr (Or.inr ⟨hx, hne⟩)

/-- `d[key] = value` -/
def set (d : Dict κ α) (key : κ) (value : α) : Dict κ α where
  entries := setEntries d.entries key value
  keys_nodup := by
    rw [keys_setEntries]
    split
    · exact d.keys_nodup
    · rename_i hnew
      exact List.nodup_append.mpr ⟨d.keys_nodup, List.nodup_singleton key,
        fun a ha b hb heq => hnew (List.mem_singleton.mp hb ▸ heq ▸ ha)⟩

def get? (d : Dict κ α) (key : κ) : Option α := (d.entries.find? (·.1 = key)).map Prod.snd

/-- `d.setdefault(key, value)`, without its answer. -/
def setDefault (d : Dict κ α) (key : κ) (value : α) : Dict κ α :=
  if key ∈ d.keys then d else d.set key value

/-- A dictionary display over pairs: a repeated key takes the last value. -/
def ofList (pairs : List (κ × α)) : Dict κ α :=
  pairs.foldl (fun d pair => d.set pair.1 pair.2) empty

theorem mem_set {d : Dict κ α} {key : κ} {value : α} {x : κ × α} :
    x ∈ (d.set key value).entries ↔ x = (key, value) ∨ x ∈ d.entries ∧ x.1 ≠ key :=
  mem_setEntries d.keys_nodup

theorem mem_keys_set {d : Dict κ α} {key other : κ} {value : α} :
    other ∈ (d.set key value).keys ↔ other = key ∨ other ∈ d.keys := by
  change other ∈ (setEntries d.entries key value).map Prod.fst ↔ _
  rw [keys_setEntries]
  split
  · rename_i hmem
    constructor
    · exact Or.inr
    · rintro (rfl | h)
      · exact hmem
      · exact h
  · rw [List.mem_append, List.mem_singleton, or_comm]
    rfl

theorem get?_eq_some_iff {d : Dict κ α} {key : κ} {value : α} :
    d.get? key = some value ↔ (key, value) ∈ d.entries := by
  unfold get?
  rw [Option.map_eq_some_iff]
  constructor
  · rintro ⟨entry, hfind, rfl⟩
    have hkey : entry.1 = key := by simpa using List.find?_some hfind
    exact hkey ▸ List.mem_of_find?_eq_some hfind
  · intro hmem
    exact ⟨(key, value), find?_key_of_mem Prod.fst d.keys_nodup hmem, rfl⟩

@[simp]
theorem get?_set_self (d : Dict κ α) (key : κ) (value : α) :
    (d.set key value).get? key = some value :=
  get?_eq_some_iff.mpr (mem_set.mpr (Or.inl rfl))

theorem get?_set_ne (d : Dict κ α) {key other : κ} (value : α) (hne : other ≠ key) :
    (d.set key value).get? other = d.get? other := by
  apply Option.ext
  intro found
  rw [get?_eq_some_iff, get?_eq_some_iff, mem_set]
  constructor
  · intro h
    cases h with
    | inl hnew => exact absurd (congrArg Prod.fst hnew) hne
    | inr hold => exact hold.1
  · intro h
    exact Or.inr ⟨h, hne⟩

theorem mem_keys_setDefault {d : Dict κ α} {key other : κ} {value : α} :
    other ∈ (d.setDefault key value).keys ↔ other = key ∨ other ∈ d.keys := by
  unfold setDefault
  split
  · rename_i hmem
    constructor
    · exact Or.inr
    · rintro (rfl | h)
      · exact hmem
      · exact h
  · exact mem_keys_set

theorem mem_keys_ofList {pairs : List (κ × α)} {key : κ} :
    key ∈ (ofList pairs).keys ↔ key ∈ pairs.map Prod.fst := by
  have hfold (pairs : List (κ × α)) (d : Dict κ α) :
      key ∈ (pairs.foldl (fun d pair => d.set pair.1 pair.2) d).keys ↔
        key ∈ d.keys ∨ key ∈ pairs.map Prod.fst := by
    induction pairs generalizing d with
    | nil => simp
    | cons pair rest ih =>
      rw [List.foldl_cons, ih, mem_keys_set, List.map_cons, List.mem_cons]
      tauto
  unfold ofList
  rw [hfold]
  constructor
  · rintro (h | h)
    · cases h
    · exact h
  · exact Or.inr

/-- A dictionary display has no other entries than its pairs. -/
theorem mem_of_mem_ofList {pairs : List (κ × α)} {x : κ × α} (h : x ∈ (ofList pairs).entries) :
    x ∈ pairs := by
  have hfold (pairs : List (κ × α)) (d : Dict κ α)
      (h : x ∈ (pairs.foldl (fun d pair => d.set pair.1 pair.2) d).entries) :
      x ∈ d.entries ∨ x ∈ pairs := by
    induction pairs generalizing d with
    | nil => exact Or.inl h
    | cons pair rest ih =>
      cases ih _ h with
      | inl hset =>
        cases mem_set.mp hset with
        | inl heq => exact Or.inr (heq ▸ List.mem_cons_self)
        | inr hold => exact Or.inl hold.1
      | inr hrest => exact Or.inr (List.mem_cons_of_mem _ hrest)
  exact (hfold pairs empty h).resolve_left List.not_mem_nil

/-- Distinct keys are kept as they are given. -/
theorem entries_ofList {pairs : List (κ × α)} (hkeys : (pairs.map Prod.fst).Nodup) :
    (ofList pairs).entries = pairs := by
  have hstep : ∀ (pairs : List (κ × α)) (d : Dict κ α), (pairs.map Prod.fst).Nodup →
      (∀ pair ∈ pairs, pair.1 ∉ d.keys) →
      (pairs.foldl (fun d pair => d.set pair.1 pair.2) d).entries = d.entries ++ pairs := by
    intro pairs
    induction pairs with
    | nil => exact fun d _ _ => (List.append_nil _).symm
    | cons pair rest ih =>
      intro d hkeys hfresh
      obtain ⟨hpair, hrest⟩ := List.nodup_cons.mp hkeys
      have hset : (d.set pair.1 pair.2).entries = d.entries ++ [pair] :=
        setEntries_of_not_mem (hfresh pair List.mem_cons_self)
      rw [List.foldl_cons, ih _ hrest, hset, List.append_assoc, List.singleton_append]
      intro other hother hmem
      cases mem_keys_set.mp hmem with
      | inl heq => exact hpair (heq ▸ List.mem_map_of_mem hother)
      | inr hold => exact hfresh other (List.mem_cons_of_mem _ hother) hold
  exact hstep pairs empty hkeys fun _ _ => List.not_mem_nil

theorem mem_keys_iff_get? {d : Dict κ α} {key : κ} : key ∈ d.keys ↔
    ∃ value, d.get? key = some value := by
  rw [mem_keys]
  constructor
  · intro ⟨value, hentry⟩
    exact ⟨value, get?_eq_some_iff.mpr hentry⟩
  · intro ⟨value, hget⟩
    exact ⟨value, get?_eq_some_iff.mp hget⟩

theorem get?_eq_none_of_not_mem_keys {d : Dict κ α} {key : κ} (h : key ∉ d.keys) :
    d.get? key = none := by
  cases hget : d.get? key with
  | none => rfl
  | some value => exact absurd (mem_keys_iff_get?.mpr ⟨value, hget⟩) h

/-- A dictionary that is computed from its keys. -/
theorem get?_ofList_map {keys : List κ} (hkeys : keys.Nodup) (f : κ → α) {key : κ}
    (hkey : key ∈ keys) :
    (ofList (keys.map fun key => (key, f key))).get? key = some (f key) := by
  apply get?_eq_some_iff.mpr
  rw [entries_ofList]
  · exact List.mem_map_of_mem (f := fun key => (key, f key)) hkey
  · rw [List.map_map]
    exact (List.map_id keys).symm ▸ hkeys

/-- Dictionaries with the same value under every key have the same entries in some order. -/
theorem perm_entries_iff {d d' : Dict κ α} :
    d.entries.Perm d'.entries ↔ ∀ key, d.get? key = d'.get? key := by
  rw [List.perm_ext_iff_of_nodup (List.Nodup.of_map _ d.keys_nodup)
    (List.Nodup.of_map _ d'.keys_nodup)]
  constructor
  · intro hmem key
    apply Option.ext
    intro found
    rw [get?_eq_some_iff, get?_eq_some_iff]
    exact hmem (key, found)
  · intro hget entry
    rw [← get?_eq_some_iff, ← get?_eq_some_iff, hget]

end Keys

end Dict

end Lib
