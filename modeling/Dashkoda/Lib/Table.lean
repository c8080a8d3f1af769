import Mathlib.Data.List.Basic
import Mathlib.Data.List.Nodup

/-!
# Tables of keyed rows

A table is the list of its rows in insertion order.  Each row carries its own primary key; a
save replaces the row under its key, or appends it when the key is new.
-/

namespace Lib

universe u

class Row (α : Type u) where
  pk : α → Nat

/-- Distinct keys make a lookup by key find the member it asks for. -/
theorem find?_key_of_mem {α : Type u} {κ : Type*} [DecidableEq κ] (key : α → κ) {t : List α}
    (hkeys : (t.map key).Nodup) {x : α} (hx : x ∈ t) : t.find? (key · = key x) = some x := by
  induction t with
  | nil => cases hx
  | cons r rest ih =>
    obtain ⟨hfresh, hrest⟩ := List.nodup_cons.mp hkeys
    rcases List.mem_cons.mp hx with rfl | hmem
    · exact List.find?_cons_of_pos (by simp)
    · rw [List.find?_cons_of_neg, ih hrest hmem]
      have hne : key r ≠ key x := fun heq => hfresh (heq ▸ List.mem_map_of_mem hmem)
      simpa using hne

namespace Table

variable {α : Type u} [Row α]

def get? (t : List α) (pk : Nat) : Option α := t.find? fun r => Row.pk r == pk

/-- Replace the row under `row`'s key in place, or append it. -/
def save : List α → α → List α
  | [], row => [row]
  | r :: rest, row => if Row.pk r = Row.pk row then row :: rest else r :: save rest row

/-- Change the rows that `p` selects, in place. -/
def updateWhere (p : α → Bool) (f : α → α) (t : List α) : List α :=
  t.map fun r => if p r then f r else r

/-- The next value of the key sequence. -/
def nextPk (t : List α) : Nat := (t.map Row.pk).foldr max 0 + 1

def UniqueKeys (t : List α) : Prop := (t.map Row.pk).Nodup

instance (t : List α) : Decidable (UniqueKeys t) :=
  inferInstanceAs (Decidable (t.map Row.pk).Nodup)

theorem pk_of_get? {t : List α} {pk : Nat} {row : α} (h : get? t pk = some row) :
    Row.pk row = pk := by
  simpa using List.find?_some h

theorem mem_of_get? {t : List α} {pk : Nat} {row : α} (h : get? t pk = some row) :
    row ∈ t :=
  List.mem_of_find?_eq_some h

@[simp] theorem get?_nil (pk : Nat) : get? ([] : List α) pk = none := rfl

theorem get?_cons (r : α) (t : List α) (pk : Nat) :
    get? (r :: t) pk = if Row.pk r = pk then some r else get? t pk := by
  unfold get?
  by_cases hpk : Row.pk r = pk
  · rw [List.find?_cons_of_pos (by simpa using hpk), if_pos hpk]
  · rw [List.find?_cons_of_neg (by simpa using hpk), if_neg hpk]

theorem get?_save_same (t : List α) (row : α) : get? (save t row) (Row.pk row) = some row := by
  induction t with
  | nil => simp [save, get?_cons]
  | cons r rest ih =>
    unfold save
    split
    · simp [get?_cons]
    · rename_i hpk
      rw [get?_cons, if_neg hpk, ih]

theorem get?_save_ne (t : List α) (row : α) {pk : Nat} (hne : Row.pk row ≠ pk) :
    get? (save t row) pk = get? t pk := by
  induction t with
  | nil => simp [save, get?_cons, hne]
  | cons r rest ih =>
    unfold save
    split
    · rename_i hpk
      rw [get?_cons, get?_cons, if_neg hne, if_neg (hpk ▸ hne)]
    · rw [get?_cons, get?_cons, ih]

theorem mem_save {t : List α} {row x : α} (h : x ∈ save t row) : x = row ∨ x ∈ t := by
  induction t with
  | nil => exact .inl (by simpa [save] using h)
  | cons r rest ih =>
    unfold save at h
    split at h
    · rcases List.mem_cons.mp h with hx | hx
      · exact .inl hx
      · exact .inr (List.mem_cons_of_mem _ hx)
    · rcases List.mem_cons.mp h with hx | hx
      · exact .inr (hx ▸ List.mem_cons_self)
      · exact (ih hx).imp id (List.mem_cons_of_mem _)

/-- A row saved over the one just appended. -/
theorem save_append_of_fresh {t : List α} {r row : α} (hfresh : ∀ x ∈ t, Row.pk x ≠ Row.pk row)
    (hpk : Row.pk r = Row.pk row) : save (t ++ [r]) row = t ++ [row] := by
  induction t with
  | nil => rw [List.nil_append, save, if_pos hpk, List.nil_append]
  | cons x rest ih =>
    rw [List.cons_append, save, if_neg (hfresh x List.mem_cons_self),
      ih fun y hy => hfresh y (List.mem_cons_of_mem x hy), List.cons_append]

theorem get?_of_mem {t : List α} (hkeys : UniqueKeys t) {row : α} (h : row ∈ t) :
    get? t (Row.pk row) = some row := by
  simpa [get?, beq_eq_decide] using find?_key_of_mem Row.pk hkeys h

theorem pk_lt_nextPk {t : List α} {row : α} (h : row ∈ t) : Row.pk row < nextPk t := by
  induction t with
  | nil => cases h
  | cons r rest ih =>
    unfold nextPk at ih ⊢
    rw [List.map_cons, List.foldr_cons]
    rcases List.mem_cons.mp h with rfl | hmem
    · omega
    · have := ih hmem
      omega

theorem ne_nextPk {t : List α} {row : α} (h : row ∈ t) : Row.pk row ≠ nextPk t :=
  Nat.ne_of_lt (pk_lt_nextPk h)

theorem uniqueKeys_append {t : List α} {row : α} (h : UniqueKeys t)
    (hfresh : ∀ r ∈ t, Row.pk r ≠ Row.pk row) : UniqueKeys (t ++ [row]) := by
  unfold UniqueKeys
  rw [List.map_append, List.nodup_append]
  refine ⟨h, by simp, fun a ha b hb heq => ?_⟩
  obtain ⟨r, hr, rfl⟩ := List.mem_map.mp ha
  rw [List.map_cons, List.map_nil, List.mem_singleton] at hb
  exact hfresh r hr (heq.trans hb)

theorem uniqueKeys_save {t : List α} (h : UniqueKeys t) (row : α) : UniqueKeys (save t row) := by
  induction t with
  | nil => simp [save, UniqueKeys]
  | cons x rest ih =>
    obtain ⟨hfresh, hrest⟩ := List.nodup_cons.mp h
    unfold save
    split
    · rename_i hpk
      exact List.nodup_cons.mpr ⟨hpk ▸ hfresh, hrest⟩
    · rename_i hpk
      refine List.nodup_cons.mpr ⟨fun hmem => ?_, ih hrest⟩
      obtain ⟨y, hy, hyx⟩ := List.mem_map.mp hmem
      cases mem_save hy with
      | inl heq => exact hpk (heq ▸ hyx).symm
      | inr hold => exact hfresh (hyx ▸ List.mem_map_of_mem hold)

def HasKey (t : List α) (pk : Nat) : Prop := ∃ row ∈ t, Row.pk row = pk

theorem HasKey.ne_nextPk {t : List α} {pk : Nat} (h : HasKey t pk) : pk ≠ nextPk t := by
  obtain ⟨row, hrow, hpk⟩ := h
  have := pk_lt_nextPk hrow
  omega

/-- Two rows of one table under one key are one row. -/
theorem eq_of_pk_eq {t : List α} (hkeys : UniqueKeys t) {a b : α} (ha : a ∈ t) (hb : b ∈ t)
    (hpk : Row.pk a = Row.pk b) : a = b := by
  have hfound := get?_of_mem hkeys ha
  rw [hpk, get?_of_mem hkeys hb] at hfound
  exact (Option.some.inj hfound).symm

theorem uniqueKeys_map {t : List α} (h : UniqueKeys t) {f : α → α}
    (hf : ∀ r, Row.pk (f r) = Row.pk r) : UniqueKeys (t.map f) := by
  unfold UniqueKeys
  rw [List.map_map, show Row.pk ∘ f = Row.pk from funext hf]
  exact h

omit [Row α] in
theorem mem_updateWhere {p : α → Bool} {f : α → α} {t : List α} {x : α} :
    x ∈ updateWhere p f t ↔ ∃ r ∈ t, (if p r then f r else r) = x := List.mem_map

/-- A save over a row of the first table leaves the rows after it alone. -/
theorem save_append_of_mem {t rest : List α} {row : α} (h : ∃ old ∈ t, Row.pk old = Row.pk row) :
    save (t ++ rest) row = save t row ++ rest := by
  induction t with
  | nil =>
    obtain ⟨old, hold, -⟩ := h
    cases hold
  | cons r t ih =>
    rw [List.cons_append, save, save]
    split
    · rfl
    · rename_i hother
      obtain ⟨old, hold, hpk⟩ := h
      have hmem : old ∈ t := by
        cases List.mem_cons.mp hold with
        | inl heq => exact absurd (heq ▸ hpk) hother
        | inr hmem => exact hmem
      rw [ih ⟨old, hmem, hpk⟩, List.cons_append]

/-- Saving a changed row is changing the row under its key. -/
theorem save_eq_updateWhere {t : List α} (h : UniqueKeys t) {old : α} (hold : old ∈ t) {f : α → α}
    (hf : ∀ r, Row.pk (f r) = Row.pk r) :
    save t (f old) = updateWhere (Row.pk · = Row.pk old) f t := by
  induction t with
  | nil => cases hold
  | cons r t ih =>
    obtain ⟨hfresh, hrest⟩ := List.nodup_cons.mp h
    unfold save updateWhere
    rw [List.map_cons, hf]
    by_cases hpk : Row.pk r = Row.pk old
    · have hr : r = old := eq_of_pk_eq h List.mem_cons_self hold hpk
      have hkept :
          t.map (fun x => if decide (Row.pk x = Row.pk old) = true then f x else x) = t := by
        refine (List.map_congr_left fun x hx => if_neg fun hsame => ?_).trans (List.map_id t)
        exact hfresh (hr ▸ of_decide_eq_true hsame ▸ List.mem_map_of_mem hx)
      rw [if_pos hpk, if_pos (decide_eq_true hpk), hkept, hr]
    · have hmem : old ∈ t := by
        cases List.mem_cons.mp hold with
        | inl heq => exact absurd (heq ▸ rfl) hpk
        | inr hmem => exact hmem
      rw [if_neg hpk, if_neg (fun hsame => hpk (of_decide_eq_true hsame)), ih hrest hmem]
      rfl

/-- Saving over a row changes nothing that both versions agree on. -/
theorem map_save {β : Type*} {t : List α} (f : α → β) (h : UniqueKeys t) {old row : α}
    (hold : old ∈ t) (hpk : Row.pk old = Row.pk row) (hf : f row = f old) :
    (save t row).map f = t.map f := by
  induction t with
  | nil => cases hold
  | cons r rest ih =>
    obtain ⟨hfresh, hrest⟩ := List.nodup_cons.mp h
    unfold save
    split
    · rename_i hsame
      have hr : old = r := by
        cases List.mem_cons.mp hold with
        | inl heq => exact heq
        | inr hmem => exact absurd (hpk.trans hsame.symm ▸ List.mem_map_of_mem hmem) hfresh
      rw [List.map_cons, List.map_cons, hf, hr]
    · rename_i hother
      have hmem : old ∈ rest := by
        cases List.mem_cons.mp hold with
        | inl heq => exact absurd (heq ▸ hpk) hother
        | inr hmem => exact hmem
      rw [List.map_cons, List.map_cons, ih hrest hmem]

/-- Every row that has a new version takes it, and the other versions are dropped. -/
def updateAll (updated t : List α) : List α := t.map fun r => (get? updated (Row.pk r)).getD r

/-- Versions that are all made by one function, at least of the rows it changes, are what the
function makes of the table. -/
theorem updateAll_eq_map {t updated : List α} (h : UniqueKeys t) {f : α → α}
    (hpk : ∀ r, Row.pk (f r) = Row.pk r) (hmade : ∀ x ∈ updated, ∃ r ∈ t, x = f r)
    (hall : ∀ r ∈ t, f r ∈ updated ∨ f r = r) : updateAll updated t = t.map f := by
  apply List.map_congr_left
  intro r hr
  cases hfound : get? updated (Row.pk r) with
  | some x =>
    obtain ⟨r', hr', rfl⟩ := hmade x (mem_of_get? hfound)
    have hsame : Row.pk r' = Row.pk r := (hpk r').symm.trans (pk_of_get? hfound)
    rw [eq_of_pk_eq h hr' hr hsame]
    rfl
  | none =>
    -- without a new version the function leaves the row as it is
    have hnot : f r ∉ updated := by
      intro hmem
      have := List.find?_eq_none.mp hfound (f r) hmem
      rw [hpk r] at this
      simp at this
    exact ((hall r hr).resolve_left hnot).symm

/-- Rows numbered on from the next key of the table. -/
theorem uniqueKeys_append_mapIdx {β : Type*} {t : List α} (h : UniqueKeys t) (items : List β)
    (row : Nat → β → α) (hpk : ∀ pk item, Row.pk (row pk item) = pk) {start : Nat}
    (hfresh : ∀ r ∈ t, Row.pk r < start) :
    UniqueKeys (t ++ items.mapIdx fun i item => row (start + i) item) := by
  have hkeys : (items.mapIdx fun i item => row (start + i) item).map Row.pk =
      List.range' start items.length := by
    apply List.ext_getElem
    · rw [List.length_map, List.length_mapIdx, List.length_range']
    · intro i hi hi'
      rw [List.getElem_map, List.getElem_mapIdx, hpk, List.getElem_range', Nat.one_mul]
  unfold UniqueKeys
  rw [List.map_append, hkeys, List.nodup_append]
  refine ⟨h, List.nodup_range', ?_⟩
  intro a ha b hb heq
  obtain ⟨r, hr, rfl⟩ := List.mem_map.mp ha
  have hlt := hfresh r hr
  have hle := (List.mem_range'_1.mp hb).1
  omega

section Numbering

variable {β : Type*} {γ : Type*}

/-- The items of each group under the key of their group, the groups numbered on from `start`. -/
def tagged (start : Nat) (groups : List (List β)) : List (Nat × β) :=
  (groups.mapIdx fun i items => items.map (Prod.mk (start + i))).flatten

theorem tagged_cons (start : Nat) (items : List β) (groups : List (List β)) :
    tagged start (items :: groups) = items.map (Prod.mk start) ++ tagged (start + 1) groups := by
  have hshift : (fun i (items : List β) => items.map (Prod.mk (start + (i + 1)))) =
      fun i items => items.map (Prod.mk (start + 1 + i)) := by
    funext i items
    rw [show start + (i + 1) = start + 1 + i by omega]
  unfold tagged
  rw [List.mapIdx_cons, List.flatten_cons, Nat.add_zero, hshift]

theorem exists_of_mem_tagged {start : Nat} {groups : List (List β)} {x : Nat × β}
    (h : x ∈ tagged start groups) : ∃ (i : Nat) (items : List β), groups[i]? = some items ∧
      x.1 = start + i := by
  obtain ⟨tagging, htagging, hx⟩ := List.mem_flatten.mp h
  obtain ⟨i, hi, rfl⟩ := List.mem_mapIdx.mp htagging
  obtain ⟨item, -, rfl⟩ := List.mem_map.mp hx
  exact ⟨i, groups[i], List.getElem?_eq_getElem hi, rfl⟩

theorem le_of_mem_tagged {start : Nat} {groups : List (List β)} {x : Nat × β}
    (h : x ∈ tagged start groups) : start ≤ x.1 := by
  obtain ⟨i, -, -, hkey⟩ := exists_of_mem_tagged h
  omega

/-- The items tagged with the key of one group are that group. -/
theorem filter_tagged (start i : Nat) (groups : List (List β)) :
    ((tagged start groups).filter (·.1 = start + i)).map Prod.snd = groups[i]?.getD [] := by
  induction groups generalizing start i with
  | nil => rfl
  | cons items rest ih =>
    rw [tagged_cons, List.filter_append, List.map_append]
    cases i with
    | zero =>
      have hhead : (items.map (Prod.mk start)).filter (·.1 = start + 0) =
          items.map (Prod.mk start) := by
        apply List.filter_eq_self.mpr
        intro x hx
        obtain ⟨item, -, rfl⟩ := List.mem_map.mp hx
        exact decide_eq_true rfl
      have htail : (tagged (start + 1) rest).filter (·.1 = start + 0) = [] := by
        apply List.filter_eq_nil_iff.mpr
        intro x hx heq
        have := le_of_mem_tagged hx
        have := of_decide_eq_true heq
        omega
      rw [hhead, htail, List.map_nil, List.append_nil, List.map_map]
      exact List.map_id items
    | succ i =>
      have hhead : (items.map (Prod.mk start)).filter (·.1 = start + (i + 1)) = [] := by
        apply List.filter_eq_nil_iff.mpr
        intro x hx heq
        obtain ⟨item, -, rfl⟩ := List.mem_map.mp hx
        have := of_decide_eq_true heq
        omega
      rw [hhead, List.map_nil, List.nil_append, show start + (i + 1) = start + 1 + i by omega, ih]
      rfl

/-- What rows say of their items alone, they say without their numbers. -/
theorem map_mapIdx {items : List β} {row : Nat → β → γ} {δ : Type*} {f : γ → δ} {g : β → δ}
    (hf : ∀ i x, f (row i x) = g x) : (items.mapIdx row).map f = items.map g := by
  induction items generalizing row with
  | nil => rfl
  | cons x rest ih =>
    have hrest : (rest.mapIdx fun i => row (i + 1)).map f = rest.map g := ih fun i => hf (i + 1)
    rw [List.mapIdx_cons, List.map_cons, List.map_cons, hf, hrest]

/-- Rows made of items one by one, read back by what the items say. -/
theorem map_filter_mapIdx {items : List β} {row : Nat → β → γ} {p : γ → Bool} {q : β → Bool}
    {δ : Type*} {f : γ → δ} {g : β → δ} (hp : ∀ i x, p (row i x) = q x)
    (hf : ∀ i x, f (row i x) = g x) :
    ((items.mapIdx row).filter p).map f = (items.filter q).map g := by
  induction items generalizing row with
  | nil => rfl
  | cons x rest ih =>
    rw [List.mapIdx_cons, List.filter_cons, List.filter_cons, hp]
    have hrest : ((rest.mapIdx fun i => row (i + 1)).filter p).map f = (rest.filter q).map g :=
      ih (fun i => hp (i + 1)) fun i => hf (i + 1)
    split
    · rw [List.map_cons, List.map_cons, hf, hrest]
    · exact hrest

end Numbering

end Table

end Lib
