import Mathlib.Data.List.Induction
import Mathlib.Data.List.Nodup

/-!
# The first of each

Of items that carry the same key only the first is kept; an item without a key is always kept.
-/

namespace Lib

variable {α κ : Type*} [DecidableEq κ]

/-- An item whose key was there before. -/
def repeats (key : α → Option κ) (before : List α) (item : α) : Bool :=
  (key item).isSome && key item ∈ before.map key

def firstsAfter (key : α → Option κ) : List α → List α → List α
  | _, [] => []
  | before, item :: rest =>
    if repeats key before item then firstsAfter key (before ++ [item]) rest
    else item :: firstsAfter key (before ++ [item]) rest

def firsts (key : α → Option κ) (items : List α) : List α := firstsAfter key [] items

section Firsts

variable {key : α → Option κ} {items : List α} {item : α}

theorem firstsAfter_append (before items rest : List α) :
    firstsAfter key before (items ++ rest) = firstsAfter key before items ++ firstsAfter key
      (before ++ items) rest := by
  induction items generalizing before with
  | nil => rw [List.append_nil]; rfl
  | cons item items ih =>
    have htail := ih (before ++ [item])
    rw [List.append_assoc, List.singleton_append] at htail
    by_cases h : repeats key before item = true
    · have hskip (tail : List α) : firstsAfter key before (item :: tail) =
        firstsAfter key (before ++ [item]) tail := if_pos h
      rw [List.cons_append, hskip, hskip, htail]
    · have hkeep (tail : List α) : firstsAfter key before (item :: tail) =
          item :: firstsAfter key (before ++ [item]) tail :=
        if_neg h
      rw [List.cons_append, hkeep, hkeep, htail, List.cons_append]

theorem firsts_concat (items : List α) (item : α) :
    firsts key (items ++ [item]) = if repeats key items item then firsts key items else
      firsts key items ++ [item] := by
  unfold firsts
  rw [firstsAfter_append, List.nil_append]
  show _ ++ (if repeats key items item then [] else [item]) = _
  by_cases h : repeats key items item = true
  · rw [if_pos h, if_pos h, List.append_nil]
  · rw [if_neg h, if_neg h]

/-- No key is lost. -/
theorem mem_filterMap_firsts (items : List α) (k : κ) : k ∈ (firsts key items).filterMap key ↔
    k ∈ items.filterMap key := by
  induction items using List.reverseRecOn with
  | nil => rfl
  | append_singleton items item ih =>
    rw [firsts_concat, List.filterMap_append, List.mem_append]
    by_cases h : repeats key items item = true
    · rw [if_pos h, ih]
      refine ⟨Or.inl, fun hmem => hmem.elim id fun hlast => ?_⟩
      have hbefore := of_decide_eq_true (Bool.and_eq_true_iff.mp h).2
      obtain ⟨other, hother, hsame⟩ := List.mem_map.mp hbefore
      obtain ⟨x, hx, hk⟩ := List.mem_filterMap.mp hlast
      rw [List.mem_singleton.mp hx] at hk
      exact List.mem_filterMap.mpr ⟨other, hother, hsame.trans hk⟩
    · rw [if_neg h, List.filterMap_append, List.mem_append, ih]

theorem repeats_iff (items : List α) (item : α) : repeats key items item = true ↔
    ∃ k, key item = some k ∧ k ∈ items.filterMap key := by
  unfold repeats
  rw [Bool.and_eq_true, decide_eq_true_eq, Option.isSome_iff_exists, List.mem_map]
  constructor
  · rintro ⟨⟨k, hk⟩, other, hother, hsame⟩
    exact ⟨k, hk, List.mem_filterMap.mpr ⟨other, hother, hsame.trans hk⟩⟩
  · rintro ⟨k, hk, hmem⟩
    obtain ⟨other, hother, hsame⟩ := List.mem_filterMap.mp hmem
    exact ⟨⟨k, hk⟩, other, hother, hsame.trans hk.symm⟩

/-- No key is there twice. -/
theorem nodup_filterMap_firsts (items : List α) : ((firsts key items).filterMap key).Nodup := by
  induction items using List.reverseRecOn with
  | nil => exact List.nodup_nil
  | append_singleton items item ih =>
    rw [firsts_concat]
    by_cases h : repeats key items item = true
    · rw [if_pos h]
      exact ih
    · rw [if_neg h, List.filterMap_append]
      cases hkey : key item with
      | none =>
        rw [List.filterMap_cons_none hkey, List.filterMap_nil, List.append_nil]
        exact ih
      | some k =>
        rw [List.filterMap_cons_some hkey, List.filterMap_nil]
        have hfresh : k ∉ (firsts key items).filterMap key := fun hmem =>
          h ((repeats_iff items item).mpr ⟨k, hkey, (mem_filterMap_firsts items k).mp hmem⟩)
        exact List.nodup_append.mpr ⟨ih, List.nodup_singleton k, fun a ha b hb heq =>
          hfresh (List.mem_singleton.mp hb ▸ heq ▸ ha)⟩

end Firsts

end Lib
