import Dashkoda.Lib.Dict
import Mathlib.Data.List.Induction
import Mathlib.Data.List.Nodup

/-!
# Grouping

`d.setdefault(key, []).append(item)`, for one pair after another.
-/

namespace Lib.Dict

variable {κ α : Type*} [DecidableEq κ]

/-- `d.setdefault(key, []).append(item)` -/
def addTo (d : Dict κ (List α)) (key : κ) (item : α) : Dict κ (List α) :=
  d.set key ((d.get? key).getD [] ++ [item])

def groupBy (pairs : List (κ × α)) : Dict κ (List α) :=
  pairs.foldl (fun d pair => d.addTo pair.1 pair.2) empty

theorem groupBy_concat (pairs : List (κ × α)) (pair : κ × α) :
    groupBy (pairs ++ [pair]) = (groupBy pairs).addTo pair.1 pair.2 := List.foldl_concat ..

theorem mem_keys_groupBy {pairs : List (κ × α)} {key : κ} : key ∈ (groupBy pairs).keys ↔
    key ∈ pairs.map Prod.fst := by
  induction pairs using List.reverseRecOn with
  | nil => exact Iff.rfl
  | append_singleton pairs pair ih =>
    rw [groupBy_concat, List.map_append, List.mem_append, ← ih]
    unfold addTo
    rw [mem_keys_set, or_comm]
    simp

/-- What stands under a key are its items, in their order. -/
theorem get?_groupBy (pairs : List (κ × α)) (key : κ) :
    ((groupBy pairs).get? key).getD [] = (pairs.filter (·.1 = key)).map Prod.snd := by
  induction pairs using List.reverseRecOn with
  | nil => rfl
  | append_singleton pairs pair ih =>
    rw [groupBy_concat, List.filter_append, List.map_append, ← ih]
    unfold addTo
    by_cases h : pair.1 = key
    · rw [h, get?_set_self, List.filter_cons_of_pos (by simpa using h)]
      rfl
    · rw [get?_set_ne _ _ (Ne.symm h), List.filter_cons_of_neg (by simpa using h)]
      exact (List.append_nil _).symm

/-! ## The groups -/

theorem mem_values_groupBy {pairs : List (κ × α)} {items : List α} :
    items ∈ (groupBy pairs).values ↔ ∃ key ∈ pairs.map Prod.fst,
      items = (pairs.filter (·.1 = key)).map Prod.snd := by
  rw [mem_values]
  constructor
  · rintro ⟨key, hentry⟩
    refine ⟨key, mem_keys_groupBy.mp (mem_keys.mpr ⟨items, hentry⟩), ?_⟩
    rw [← get?_groupBy, get?_eq_some_iff.mpr hentry]
    rfl
  · rintro ⟨key, hkey, hitems⟩
    obtain ⟨value, hvalue⟩ := mem_keys.mp (mem_keys_groupBy.mpr hkey)
    refine ⟨key, ?_⟩
    rw [hitems, ← get?_groupBy, get?_eq_some_iff.mpr hvalue]
    exact hvalue

/-- Every item is in one group. -/
theorem perm_flatten_groupBy {pairs : List (κ × α)} (hnodup : (pairs.map Prod.snd).Nodup) :
    (groupBy pairs).values.flatten.Perm (pairs.map Prod.snd) := by
  have hentry : ∀ entry ∈ (groupBy pairs).entries,
      entry.2 = (pairs.filter (·.1 = entry.1)).map Prod.snd := by
    intro entry hentry
    rw [← get?_groupBy, get?_eq_some_iff.mpr (show (entry.1, entry.2) ∈ _ from hentry)]
    rfl
  have hflat : (groupBy pairs).values.flatten.Nodup := by
    rw [List.nodup_flatten]
    constructor
    · intro items hitems
      obtain ⟨key, -, heq⟩ := mem_values_groupBy.mp hitems
      rw [heq]
      exact hnodup.sublist (List.filter_sublist.map _)
    · unfold values
      rw [List.pairwise_map]
      have hkeys := (groupBy pairs).keys_nodup
      rw [List.Nodup, List.pairwise_map] at hkeys
      refine hkeys.imp_of_mem fun {a b} ha hb hne x hxa hxb => ?_
      rw [hentry a ha] at hxa
      rw [hentry b hb] at hxb
      obtain ⟨pa, hpa, hxa⟩ := List.mem_map.mp hxa
      obtain ⟨pb, hpb, hxb⟩ := List.mem_map.mp hxb
      have hsame := List.inj_on_of_nodup_map hnodup (List.mem_filter.mp hpa).1
        (List.mem_filter.mp hpb).1
        (hxa.trans hxb.symm)
      have hka := of_decide_eq_true (List.mem_filter.mp hpa).2
      have hkb := of_decide_eq_true (List.mem_filter.mp hpb).2
      exact hne (hka.symm.trans ((congrArg Prod.fst hsame).trans hkb))
  refine (List.perm_ext_iff_of_nodup hflat hnodup).mpr fun x => ?_
  rw [List.mem_flatten, List.mem_map]
  constructor
  · rintro ⟨items, hitems, hx⟩
    obtain ⟨key, -, heq⟩ := mem_values_groupBy.mp hitems
    obtain ⟨pair, hpair, hfst⟩ := List.mem_map.mp (heq ▸ hx)
    exact ⟨pair, (List.mem_filter.mp hpair).1, hfst⟩
  · rintro ⟨pair, hpair, hsnd⟩
    refine ⟨_, mem_values_groupBy.mpr ⟨pair.1, List.mem_map_of_mem hpair, rfl⟩, ?_⟩
    rw [List.mem_map]
    exact ⟨pair, List.mem_filter.mpr ⟨hpair, decide_eq_true rfl⟩, hsnd⟩

end Lib.Dict

namespace Lib

variable {α β : Type*}

/-! ## Items with their places -/

/-- What is read of the items, each with its index. -/
def indexed (read : α → Option β) (items : List α) : List (Nat × β) :=
  items.zipIdx.filterMap fun item => (read item.1).map fun found => (item.2, found)

theorem mem_indexed {read : α → Option β} {items : List α} {found : Nat × β} :
    found ∈ indexed read items ↔ ∃ item, items[found.1]? = some item ∧
    read item = some found.2 := by
  unfold indexed
  rw [List.mem_filterMap]
  constructor
  · rintro ⟨item, hitem, hread⟩
    obtain ⟨value, hvalue, heq⟩ := Option.map_eq_some_iff.mp hread
    rw [← heq]
    exact ⟨item.1, List.mem_zipIdx_iff_getElem?.mp hitem, hvalue⟩
  · rintro ⟨item, hitem, hread⟩
    exact ⟨(item, found.1), List.mem_zipIdx_iff_getElem?.mpr hitem, by rw [hread]; rfl⟩

/-- No index occurs twice. -/
theorem nodup_indexed (read : α → Option β) (items : List α) :
    ((indexed read items).map Prod.fst).Nodup := by
  have hsub (numbered : List (α × Nat)) :
      ((numbered.filterMap fun item => (read item.1).map fun found => (item.2, found)).map
        Prod.fst).Sublist
        (numbered.map Prod.snd) := by
    induction numbered with
    | nil => exact List.Sublist.refl _
    | cons item rest ih =>
      rw [List.filterMap_cons]
      cases read item.1 with
      | none => exact ih.cons _
      | some found => exact ih.cons_cons _
  refine List.Nodup.sublist (hsub items.zipIdx) ?_
  rw [List.zipIdx_map_snd]
  exact List.nodup_range'

/-! ## Rows under distinct keys -/

theorem filter_key_of_mem {α κ : Type*} [DecidableEq κ] (key : α → κ) {rows : List α}
    (hkeys : (rows.map key).Nodup) {x : α}
    (hx : x ∈ rows) : rows.filter (key · = key x) = [x] := by
  induction rows with
  | nil => cases hx
  | cons row rest ih =>
    obtain ⟨hfresh, hrest⟩ := List.nodup_cons.mp hkeys
    cases List.mem_cons.mp hx with
    | inl heq =>
      rw [heq, List.filter_cons_of_pos (by simp), List.filter_eq_nil_iff.mpr]
      exact fun other hother hkey => hfresh (of_decide_eq_true hkey ▸ List.mem_map_of_mem hother)
    | inr hmem =>
      have hne : key row ≠ key x := fun heq => hfresh (heq ▸ List.mem_map_of_mem hmem)
      rw [List.filter_cons_of_neg (by simpa using hne), ih hrest hmem]

end Lib
