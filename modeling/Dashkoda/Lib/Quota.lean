import Mathlib.Data.List.Dedup
import Mathlib.Data.List.Nodup
import Mathlib.Data.List.Perm.Subperm
import Mathlib.Tactic.ByContra

/-!
# Selecting with a quota

Entries are taken as they come: one of each key, and no more of a group than its quota.
-/

namespace Lib

namespace Quota

universe u v w

variable {α : Type u} {κ : Type v} {γ : Type w} [DecidableEq κ] [DecidableEq γ]

section Select

variable (key : α → κ) (group : α → γ) (limit : Nat)

def inGroup (kept : List α) (g : γ) : List α := kept.filter fun entry => group entry = g

/-- One more entry, unless its key is there already or its group is full. -/
def consider (kept : List α) (entry : α) : List α :=
  if key entry ∈ kept.map key then kept
  else if limit ≤ (inGroup group kept (group entry)).length then kept
  else kept ++ [entry]

def select (entries : List α) : List α := entries.foldl (consider key group limit) []

end Select

variable {key : α → κ} {group : α → γ} {limit : Nat}

theorem consider_eq_or (kept : List α) (entry : α) :
    consider key group limit kept entry = kept ∨
      (consider key group limit kept entry = kept ++ [entry] ∧ key entry ∉ kept.map key ∧
        (inGroup group kept (group entry)).length < limit) := by
  unfold consider
  split
  · exact Or.inl rfl
  · rename_i hkey
    split
    · exact Or.inl rfl
    · rename_i hfull
      exact Or.inr ⟨rfl, hkey, Nat.lt_of_not_le hfull⟩

theorem isPrefix_consider (kept : List α) (entry : α) :
    kept <+: consider key group limit kept entry := by
  cases @consider_eq_or _ _ _ _ _ key group limit kept entry with
  | inl h => exact h.symm ▸ (List.prefix_rfl : kept <+: kept)
  | inr h =>
    rw [h.1]
    exact List.prefix_append kept [entry]

/-- What is kept stays kept. -/
theorem isPrefix_foldl (entries kept : List α) :
    kept <+: entries.foldl (consider key group limit) kept := by
  induction entries generalizing kept with
  | nil => exact List.prefix_rfl
  | cons entry rest ih => exact (isPrefix_consider kept entry).trans (ih _)

theorem select_append (first rest : List α) :
    select key group limit (first ++ rest) = rest.foldl (consider key group limit)
      (select key group limit first) :=
  List.foldl_append

/-- An invariant of one entry is one of the selection. -/
theorem select_invariant {P : List α → Prop} {entries : List α} (hnil : P [])
    (hstep : ∀ kept entry, entry ∈ entries → P kept → P (consider key group limit kept entry)) :
    P (select key group limit entries) := by
  unfold select
  have hfold : ∀ (rest : List α), (∀ entry ∈ rest, entry ∈ entries) → ∀ kept, P kept →
      P (rest.foldl (consider key group limit) kept) := by
    intro rest
    induction rest with
    | nil => exact fun _ _ h => h
    | cons entry rest ih =>
      intro hrest kept hkept
      exact ih (fun x hx => hrest x (List.mem_cons_of_mem _ hx)) _
        (hstep kept entry (hrest entry List.mem_cons_self) hkept)
  exact hfold entries (fun _ h => h) [] hnil

theorem mem_of_mem_select {entries : List α} {x : α} (h : x ∈ select key group limit entries) :
    x ∈ entries := by
  revert x
  refine select_invariant (P := fun kept => ∀ {x}, x ∈ kept → x ∈ entries) (fun h => by cases h) ?_
  intro kept entry hentry hkept x hx
  cases @consider_eq_or _ _ _ _ _ key group limit kept entry with
  | inl h => exact hkept (h ▸ hx)
  | inr h =>
    rw [h.1] at hx
    cases List.mem_append.mp hx with
    | inl hold => exact hkept hold
    | inr hnew => exact List.mem_singleton.mp hnew ▸ hentry

theorem nodup_keys (entries : List α) : ((select key group limit entries).map key).Nodup := by
  refine select_invariant (P := fun kept => (kept.map key).Nodup) List.nodup_nil ?_
  intro kept entry _ hkept
  cases @consider_eq_or _ _ _ _ _ key group limit kept entry with
  | inl h =>
    rw [h]
    exact hkept
  | inr h =>
    rw [h.1, List.map_append, List.map_singleton]
    exact List.nodup_append.mpr ⟨hkept, List.nodup_singleton _,
      fun a ha b hb heq => h.2.1 (List.mem_singleton.mp hb ▸ heq ▸ ha)⟩

/-- No group has more than its quota. -/
theorem length_inGroup_le (entries : List α) (g : γ) :
    (inGroup group (select key group limit entries) g).length ≤ limit := by
  refine select_invariant (P := fun kept => (inGroup group kept g).length ≤ limit)
    (Nat.zero_le _) ?_
  intro kept entry _ hkept
  cases @consider_eq_or _ _ _ _ _ key group limit kept entry with
  | inl h =>
    rw [h]
    exact hkept
  | inr h =>
    rw [h.1]
    unfold inGroup
    rw [List.filter_append, List.length_append]
    by_cases hg : group entry = g
    · have hroom := h.2.2
      rw [hg] at hroom
      unfold inGroup at hroom
      rw [List.filter_cons_of_pos (by simpa using hg), List.filter_nil, List.length_singleton]
      omega
    · rw [List.filter_cons_of_neg (by simpa using hg), List.filter_nil, List.length_nil]
      exact hkept

/-- An entry that is left out finds its key taken or its group full. -/
theorem covered {entries : List α} {x : α} (hx : x ∈ entries) :
    key x ∈ (select key group limit entries).map key ∨
      limit ≤ (inGroup group (select key group limit entries) (group x)).length := by
  obtain ⟨before, after, rfl⟩ := List.append_of_mem hx
  rw [select_append, List.foldl_cons]
  have hkept := @isPrefix_foldl _ _ _ _ _ key group limit after
    (consider key group limit (select key group limit before) x)
  have hlater : key x ∈ (consider key group limit (select key group limit before) x).map key ∨
      limit ≤ (inGroup group (consider key group limit (select key group limit before) x)
        (group x)).length := by
    unfold consider
    split
    · rename_i hkey
      exact Or.inl hkey
    · split
      · rename_i hfull
        exact Or.inr hfull
      · rw [List.map_append]
        exact Or.inl (List.mem_append_right _ (List.mem_singleton_self _))
  cases hlater with
  | inl hkey => exact Or.inl ((hkept.map key).subset hkey)
  | inr hfull => exact Or.inr (Nat.le_trans hfull (hkept.filter _).length_le)

/-- An entry whose key is new and whose group has room is taken. -/
theorem mem_select_of_room {before after : List α} {x : α} (hkey : key x ∉ before.map key)
    (hroom : (inGroup group (select key group limit before) (group x)).length < limit) :
    x ∈ select key group limit (before ++ x :: after) := by
  rw [select_append, List.foldl_cons]
  apply (isPrefix_foldl after _).subset
  unfold consider
  have hnew : key x ∉ (select key group limit before).map key := by
    intro hmem
    obtain ⟨y, hy, heq⟩ := List.mem_map.mp hmem
    exact hkey (heq ▸ List.mem_map_of_mem (mem_of_mem_select hy))
  rw [if_neg hnew, if_neg (Nat.not_le.mpr hroom)]
  exact List.mem_append_right _ (List.mem_singleton_self x)

/-- Once its group is full without it, an entry is not taken any more. -/
theorem not_mem_select_of_full {before after : List α} {x : α}
    (hnot : x ∉ select key group limit before)
    (hfull : limit ≤ (inGroup group (select key group limit before) (group x)).length) :
    x ∉ select key group limit (before ++ after) := by
  rw [select_append]
  generalize select key group limit before = kept at hnot hfull
  induction after generalizing kept with
  | nil => exact hnot
  | cons entry rest ih =>
    rw [List.foldl_cons]
    apply ih
    · cases @consider_eq_or _ _ _ _ _ key group limit kept entry with
      | inl h =>
        rw [h]
        exact hnot
      | inr h =>
        rw [h.1]
        intro hmem
        cases List.mem_append.mp hmem with
        | inl hold => exact hnot hold
        | inr hnew =>
          have hroom := h.2.2
          rw [← List.mem_singleton.mp hnew] at hroom
          omega
    · exact Nat.le_trans hfull ((isPrefix_consider kept entry).filter _).length_le

/-- Entries of one group with at least as many keys as its quota fill it. -/
theorem full_of_keys {entries : List α} {g : γ} (hgroup : ∀ x ∈ entries, group x = g)
    {keys : List κ} (hnodup : keys.Nodup) (hkeys : ∀ k ∈ keys, k ∈ entries.map key)
    (hmany : limit ≤ keys.length) :
    limit ≤ (inGroup group (select key group limit entries) g).length := by
  by_contra hroom
  -- as long as there is room, every key is taken
  have htaken : ∀ k ∈ keys, k ∈ (inGroup group (select key group limit entries) g).map key := by
    intro k hk
    obtain ⟨x, hx, rfl⟩ := List.mem_map.mp (hkeys k hk)
    cases @covered _ _ _ _ _ key group limit _ _ hx with
    | inl hkey =>
      obtain ⟨y, hy, heq⟩ := List.mem_map.mp hkey
      refine List.mem_map.mpr ⟨y, List.mem_filter.mpr ⟨hy, ?_⟩, heq⟩
      exact decide_eq_true (hgroup y (mem_of_mem_select hy))
    | inr hfull =>
      rw [hgroup x hx] at hfull
      exact absurd hfull hroom
  have hlength := (List.subperm_of_subset hnodup htaken).length_le
  rw [List.length_map] at hlength
  exact hroom (Nat.le_trans hmany hlength)

end Quota

end Lib
