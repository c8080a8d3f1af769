import Mathlib.Data.List.Perm.Subperm
import Mathlib.Data.List.Sort
import Mathlib.Order.Basic
import Mathlib.Tactic.ByContra

/-!
# Sorting and choosing by a key

`sorted(rows, key=...)` keeps the order of rows with equal keys, and `min(rows, key=...)` returns
the first row with the least key.
-/

namespace Lib

universe u v

variable {α : Type u} {κ : Type v} [LinearOrder κ]

/-- A stable sort, least key first. -/
def sortOn (key : α → κ) (rows : List α) : List α := rows.insertionSort fun a b => key a ≤ key b

def minOn? (key : α → κ) : List α → Option α
  | [] => none
  | row :: rest =>
    match minOn? key rest with
    | none => some row
    | some best => if key best < key row then some best else some row

@[simp] theorem mem_sortOn {key : α → κ} {rows : List α} {x : α} :
    x ∈ sortOn key rows ↔ x ∈ rows := List.mem_insertionSort _

theorem perm_sortOn (key : α → κ) (rows : List α) : (sortOn key rows).Perm rows :=
  List.perm_insertionSort _ rows

theorem pairwise_sortOn (key : α → κ) (rows : List α) :
    (sortOn key rows).Pairwise fun a b => key a ≤ key b := by
  have : Std.Total fun a b : α => key a ≤ key b := ⟨fun a b => le_total (key a) (key b)⟩
  have : IsTrans α fun a b : α => key a ≤ key b := ⟨fun _ _ _ => le_trans⟩
  exact List.pairwise_insertionSort _ rows

/-- Where no two rows have the same key, the order of the rows does not matter. -/
theorem sortOn_eq_of_perm {key : α → κ} {rows rows' : List α} (h : rows.Perm rows')
    (hkeys : (rows.map key).Nodup) : sortOn key rows = sortOn key rows' := by
  refine List.Perm.eq_of_pairwise (fun a b ha hb hab hba => ?_) (pairwise_sortOn key rows)
    (pairwise_sortOn key rows')
      ((perm_sortOn key rows).trans (h.trans (perm_sortOn key rows').symm))
  exact List.inj_on_of_nodup_map hkeys (mem_sortOn.mp ha) (h.mem_iff.mpr (mem_sortOn.mp hb))
    (le_antisymm hab hba)

/-- Sorted under distinct keys, rows are the same exactly when they were in some order. -/
theorem sortOn_eq_iff_perm {key : α → κ} {rows rows' : List α} (hkeys : (rows.map key).Nodup) :
    sortOn key rows = sortOn key rows' ↔ rows.Perm rows' := by
  constructor
  · intro heq
    exact (perm_sortOn key rows).symm.trans (heq ▸ perm_sortOn key rows')
  · exact fun h => sortOn_eq_of_perm h hkeys

/-- A finer key is distinct where a coarser one is. -/
theorem nodup_map_of_finer {β γ : Type*} {key : α → β} {finer : α → γ} {rows : List α}
    (hkeys : (rows.map key).Nodup) (hfiner : ∀ a b, finer a = finer b → key a = key b) :
    (rows.map finer).Nodup :=
  List.pairwise_map.mpr ((List.pairwise_map.mp hkeys).imp fun hne heq => hne (hfiner _ _ heq))

/-- What is sorted stays as it is. -/
theorem sortOn_eq_self {key : α → κ} {rows : List α} (h : rows.Pairwise fun a b => key a ≤ key b) :
    sortOn key rows = rows := List.Pairwise.insertionSort_eq h

theorem filter_orderedInsert {key : α → κ} (p : α → Bool) (x : α) {rows : List α}
    (h : rows.Pairwise fun a b => key a ≤ key b) :
    (rows.orderedInsert (fun a b => key a ≤ key b) x).filter p =
      if p x then (rows.filter p).orderedInsert (fun a b => key a ≤ key b) x else
        rows.filter p := by
  induction rows with
  | nil => cases hp : p x <;> simp [hp]
  | cons y rest ih =>
    obtain ⟨hfirst, hrest⟩ := List.pairwise_cons.mp h
    by_cases hle : key x ≤ key y
    · rw [List.orderedInsert_cons, if_pos hle]
      by_cases hp : p x = true
      · -- everything the filter keeps is at or behind `y`, so `x` stays in front of it
        have hfront : ∀ z ∈ (y :: rest).filter p, key x ≤ key z := by
          intro z hz
          rcases List.mem_cons.mp (List.mem_of_mem_filter hz) with rfl | hz
          · exact hle
          · exact hle.trans (hfirst z hz)
        rw [List.filter_cons_of_pos hp, if_pos hp]
        cases hkept : (y :: rest).filter p with
        | nil => rfl
        | cons z kept =>
          rw [List.orderedInsert_cons, if_pos (hfront z (hkept ▸ List.mem_cons_self))]
      · rw [List.filter_cons_of_neg hp, if_neg hp]
    · rw [List.orderedInsert_cons, if_neg hle]
      by_cases hy : p y = true
      · rw [List.filter_cons_of_pos hy, List.filter_cons_of_pos hy, ih hrest]
        by_cases hp : p x = true
        · rw [if_pos hp, if_pos hp, List.orderedInsert_cons, if_neg hle]
        · rw [if_neg hp, if_neg hp]
      · rw [List.filter_cons_of_neg hy, List.filter_cons_of_neg hy, ih hrest]

/-- A filter leaves the order as it is. -/
theorem filter_sortOn {key : α → κ} (p : α → Bool) (rows : List α) :
    (sortOn key rows).filter p = sortOn key (rows.filter p) := by
  induction rows with
  | nil => rfl
  | cons x rest ih =>
    have hinsert : (sortOn key (x :: rest)).filter p =
        if p x then ((sortOn key rest).filter p).orderedInsert (fun a b => key a ≤ key b) x
        else (sortOn key rest).filter p := filter_orderedInsert p x (pairwise_sortOn key rest)
    rw [hinsert, ih]
    by_cases hp : p x = true
    · rw [if_pos hp, List.filter_cons_of_pos hp]
      rfl
    · rw [if_neg hp, List.filter_cons_of_neg hp]

/-- A row's own key decides, however the row is written. -/
theorem sortOn_map {β : Type*} (key : α → κ) (f : β → α) (rows : List β) :
    sortOn key (rows.map f) = (sortOn (fun row => key (f row)) rows).map f :=
  (@List.map_insertionSort β α (fun a b => key (f a) ≤ key (f b))
    (fun a b => key a ≤ key b) _ _ f rows
    fun _ _ _ _ => Iff.rfl).symm

/-- Whatever the order of the rows, their sorted keys are the same. -/
theorem map_sortOn_of_perm {key : α → κ} {rows rows' : List α} (h : rows.Perm rows') :
    (sortOn key rows).map key = (sortOn key rows').map key := by
  have hsorted (rows : List α) : ((sortOn key rows).map key).Pairwise (· ≤ ·) :=
    List.pairwise_map.mpr (pairwise_sortOn key rows)
  refine List.Perm.eq_of_pairwise (fun _ _ _ _ => le_antisymm) (hsorted rows) (hsorted rows') ?_
  exact ((perm_sortOn key rows).trans (h.trans (perm_sortOn key rows').symm)).map key

/-! ### The first rows -/

/-- A list is split at the first element of a kind. -/
theorem exists_first {p : α → Prop} [DecidablePred p] {l : List α} (h : ∃ x ∈ l, p x) :
    ∃ before x after, l = before ++ x :: after ∧ p x ∧ ∀ y ∈ before, ¬ p y := by
  obtain ⟨x, hx, hp⟩ := h
  have hfind : (l.find? p).isSome = true := List.find?_isSome.mpr ⟨x, hx, decide_eq_true hp⟩
  obtain ⟨y, hy⟩ := Option.isSome_iff_exists.mp hfind
  obtain ⟨hpy, before, after, hsplit, hbefore⟩ := List.find?_eq_some_iff_append.mp hy
  exact ⟨before, y, after, hsplit, of_decide_eq_true hpy,
    fun z hz hpz => by simpa [hpz] using hbefore z hz⟩

def ahead (key : α → κ) (rows : List α) (x : α) : List α := rows.filter fun row => key row < key x

/-- Fewer than `n` rows have a smaller key. -/
def Foremost (key : α → κ) (n : Nat) (rows : List α) (x : α) : Prop :=
  x ∈ rows ∧ (ahead key rows x).length < n

theorem length_ahead_le_of_le {key : α → κ} {rows : List α} {x y : α} (h : key x ≤ key y) :
    (ahead key rows x).length ≤ (ahead key rows y).length := by
  unfold ahead
  rw [← List.countP_eq_length_filter, ← List.countP_eq_length_filter]
  exact List.countP_mono_left fun row _ hrow => decide_eq_true ((of_decide_eq_true hrow).trans_le h)

theorem Foremost.perm {key : α → κ} {n : Nat} {rows rows' : List α} {x : α}
    (hperm : rows.Perm rows')
    (h : Foremost key n rows x) : Foremost key n rows' x := by
  refine ⟨hperm.mem_iff.mp h.1, ?_⟩
  have hahead : (ahead key rows' x).length = (ahead key rows x).length :=
    (hperm.symm.filter _).length_eq
  rw [hahead]
  exact h.2

/-- Fewer than `n` rows stand ahead of the first `n` of the sorted rows. -/
theorem foremost_of_mem_take {key : α → κ} {n : Nat} {rows : List α} {x : α}
    (h : x ∈ (sortOn key rows).take n) :
    Foremost key n rows x := by
  refine ⟨mem_sortOn.mp (List.mem_of_mem_take h), ?_⟩
  have hperm : (ahead key rows x).length = (ahead key (sortOn key rows) x).length :=
    ((perm_sortOn key rows).symm.filter _).length_eq
  rw [hperm]
  have hsplit := List.take_append_drop n (sortOn key rows)
  have hsorted := pairwise_sortOn key rows
  rw [← hsplit, List.pairwise_append] at hsorted
  have hrest : ((sortOn key rows).drop n).filter (fun row => key row < key x) = [] :=
    List.filter_eq_nil_iff.mpr fun row hrow hlt =>
      absurd (of_decide_eq_true hlt) (not_lt.mpr (hsorted.2.2 x h row hrow))
  unfold ahead
  rw [← hsplit, List.filter_append, hrest, List.append_nil]
  -- the row itself is one of the first `n` and not ahead of itself
  have hfewer : (((sortOn key rows).take n).filter fun row => key row < key x).length <
      ((sortOn key rows).take n).length := by
    rw [List.length_filter_lt_length_iff_exists]
    exact ⟨x, h, by simp⟩
  exact hfewer.trans_le (List.length_take_le n _)

/-- Where `n` rows stand ahead of a row, the first `n` do. -/
theorem lt_of_mem_take {key : α → κ} {n : Nat} {rows : List α} {x y : α}
    (hmany : n ≤ (ahead key rows x).length)
    (hy : y ∈ (sortOn key rows).take n) : key y < key x := by
  apply lt_of_not_ge
  intro hle
  have hfew := (foremost_of_mem_take hy).2
  have hmono : (ahead key rows x).length ≤ (ahead key rows y).length := length_ahead_le_of_le hle
  omega

/-- The first rows of a part that holds the foremost rows of the whole are these. -/
theorem mem_take_sortOn_iff {key : α → κ} {n : Nat} {rows part : List α} (hrows : rows.Nodup)
    (hkeys : (part.map key).Nodup) (hsub : ∀ x ∈ part, x ∈ rows)
    (hpart : ∀ x, Foremost key n rows x → x ∈ part) {x : α} :
    x ∈ (sortOn key part).take n ↔ Foremost key n rows x := by
  have hnodup : part.Nodup := List.Nodup.of_map _ hkeys
  have hcount : ∀ y, (ahead key part y).length ≤ (ahead key rows y).length := fun y =>
    (List.subperm_of_subset (hnodup.filter _) fun z hz =>
      List.mem_filter.mpr ⟨hsub z (List.mem_of_mem_filter hz), List.of_mem_filter hz⟩).length_le
  constructor
  · intro hx
    have hfirst := foremost_of_mem_take hx
    refine ⟨hsub x hfirst.1, ?_⟩
    apply lt_of_not_ge
    intro hmany
    -- otherwise the first rows of the whole all stand ahead of `x` in the part
    have hlength : ((sortOn key rows).take n).length = n := by
      rw [List.length_take, (perm_sortOn key rows).length_eq]
      exact Nat.min_eq_left (hmany.trans (List.length_filter_le _ _))
    have hahead : (sortOn key rows).take n ⊆ ahead key part x := fun y hy =>
      List.mem_filter.mpr
        ⟨hpart y (foremost_of_mem_take hy), decide_eq_true (lt_of_mem_take hmany hy)⟩
    have hsorted : ((sortOn key rows).take n).Nodup :=
      ((perm_sortOn key rows).nodup_iff.mpr hrows).sublist (List.take_sublist n _)
    have hle := (List.subperm_of_subset hsorted hahead).length_le
    have hfew := hfirst.2
    omega
  · intro hx
    have hmem := hpart x hx
    by_contra hnot
    -- a row behind the first `n` has all of them ahead of it
    have hdrop : x ∈ (sortOn key part).drop n := by
      have hwhole : x ∈ sortOn key part := mem_sortOn.mpr hmem
      rw [← List.take_append_drop n (sortOn key part)] at hwhole
      exact (List.mem_append.mp hwhole).resolve_left hnot
    have hsorted := pairwise_sortOn key part
    rw [← List.take_append_drop n (sortOn key part), List.pairwise_append] at hsorted
    have hahead : (sortOn key part).take n ⊆ ahead key part x := by
      intro y hy
      have hymem : y ∈ part := mem_sortOn.mp (List.mem_of_mem_take hy)
      refine List.mem_filter.mpr
        ⟨hymem, decide_eq_true (lt_of_le_of_ne (hsorted.2.2 y hy x hdrop) fun heq => hnot ?_)⟩
      exact List.inj_on_of_nodup_map hkeys hymem hmem heq ▸ hy
    have hlength : n ≤ ((sortOn key part).take n).length := by
      rw [List.length_take]
      have hpos : 0 < ((sortOn key part).drop n).length := List.length_pos_of_mem hdrop
      rw [List.length_drop] at hpos
      omega
    have htake : ((sortOn key part).take n).Nodup :=
      ((perm_sortOn key part).nodup_iff.mpr hnodup).sublist (List.take_sublist n _)
    have hle := (List.subperm_of_subset htake hahead).length_le
    have hfew := hx.2
    have hmono := hcount x
    omega

theorem minOn?_eq_none_iff {key : α → κ} {rows : List α} : minOn? key rows = none ↔ rows = [] := by
  cases rows with
  | nil => simp [minOn?]
  | cons row rest =>
    simp only [minOn?, reduceCtorEq, iff_false]
    split
    · simp
    · split <;> simp

theorem minOn?_mem {key : α → κ} {rows : List α} {best : α} (h : minOn? key rows = some best) :
    best ∈ rows := by
  induction rows generalizing best with
  | nil => cases h
  | cons row rest ih =>
    unfold minOn? at h
    split at h
    · cases h
      exact List.mem_cons_self
    · rename_i best' hbest'
      split at h
      · cases h
        exact List.mem_cons_of_mem _ (ih hbest')
      · cases h
        exact List.mem_cons_self

theorem minOn?_le {key : α → κ} {rows : List α} {best : α} (h : minOn? key rows = some best) {x : α}
    (hx : x ∈ rows) : key best ≤ key x := by
  induction rows generalizing best with
  | nil => cases hx
  | cons row rest ih =>
    unfold minOn? at h
    split at h
    · rename_i hnone
      cases h
      have hrest := minOn?_eq_none_iff.mp hnone
      subst hrest
      rw [List.mem_singleton.mp hx]
    · rename_i best' hbest'
      split at h
      · rename_i hlt
        cases h
        rcases List.mem_cons.mp hx with rfl | hmem
        · exact hlt.le
        · exact ih hbest' hmem
      · rename_i hle
        cases h
        rcases List.mem_cons.mp hx with rfl | hmem
        · exact le_rfl
        · exact le_trans (not_lt.mp hle) (ih hbest' hmem)

theorem minOn?_map {β : Type*} (f : β → α) (key : α → κ) (rows : List β) :
    minOn? key (rows.map f) = (minOn? (key ∘ f) rows).map f := by
  induction rows with
  | nil => rfl
  | cons row rest ih =>
    simp only [List.map_cons, minOn?, ih]
    cases minOn? (key ∘ f) rest with
    | none => rfl
    | some best =>
      simp only [Option.map_some, Function.comp_apply]
      split <;> rfl

/-- A least row whose key no other row has is the one chosen. -/
theorem minOn?_eq_some_of_forall_le {key : α → κ} {rows : List α} {best : α} (hmem : best ∈ rows)
    (hle : ∀ x ∈ rows, key best ≤ key x) (hunique : ∀ x ∈ rows, key x = key best → x = best) :
    minOn? key rows = some best := by
  cases h : minOn? key rows with
  | none =>
    rw [minOn?_eq_none_iff.mp h] at hmem
    cases hmem
  | some chosen =>
    have hchosen := minOn?_mem h
    have hkey : key chosen = key best := le_antisymm (minOn?_le h hmem) (hle chosen hchosen)
    rw [hunique chosen hchosen hkey]

end Lib
