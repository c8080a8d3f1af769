import Dashkoda.Lib.Ranking
import Mathlib.Data.Prod.Lex
import Mathlib.Logic.Equiv.Basic

/-!
# The front of a listing

Rows are sorted by one key and then, stably, by another; rows equal in both stay in the order they
came in.  The first `n` of what is kept of a population are the first `n` of a ranking of all of it
exactly where nothing left out and no tie reaches the front.
-/

namespace Lib

variable {α κ ι : Type*} [LinearOrder κ] [LinearOrder ι]

/-! ## Sorting twice -/

theorem orderedInsert_congr {r s : α → α → Prop} [DecidableRel r] [DecidableRel s] {x : α}
    {rows : List α}
    (h : ∀ y ∈ rows, r x y ↔ s x y) : rows.orderedInsert r x = rows.orderedInsert s x := by
  induction rows with
  | nil => rfl
  | cons y rest ih =>
    rw [List.orderedInsert_cons, List.orderedInsert_cons, ih fun z hz =>
      h z (List.mem_cons_of_mem _ hz)]
    exact if_congr (h y List.mem_cons_self) rfl rfl

/-- Two keys that compare each row with the later ones alike sort alike. -/
theorem sortOn_congr {key : α → κ} {key' : α → ι} {rows : List α}
    (h : rows.Pairwise fun a b => key a ≤ key b ↔ key' a ≤ key' b) :
      sortOn key rows = sortOn key' rows := by
  induction rows with
  | nil => rfl
  | cons x rest ih =>
    obtain ⟨hfirst, hrest⟩ := List.pairwise_cons.mp h
    have hsame : sortOn key rest = sortOn key' rest := ih hrest
    show (sortOn key rest).orderedInsert _ x = (sortOn key' rest).orderedInsert _ x
    rw [hsame]
    exact orderedInsert_congr fun y hy => hfirst y (mem_sortOn.mp hy)

variable (key : α → κ) (tie : α → ι)

/-- Sorted by the tie key first and then, stably, by the key. -/
def listing (rows : List α) : List α := sortOn key (sortOn tie rows)

/-- The order both keys sort in. -/
def byBoth (x : α) : κ ×ₗ ι := toLex (key x, tie x)

variable {key tie} {rows rows' : List α} {x y : α} {n : Nat}

theorem byBoth_le_iff : byBoth key tie x ≤ byBoth key tie y ↔ key x < key y ∨ key x = key y ∧
    tie x ≤ tie y :=
  Prod.Lex.toLex_le_toLex

omit [LinearOrder κ] [LinearOrder ι] in
theorem byBoth_eq_iff {key : α → κ} {tie : α → ι} {x y : α} : byBoth key tie x = byBoth key tie y ↔
    key x = key y ∧ tie x = tie y := by
  unfold byBoth
  rw [EmbeddingLike.apply_eq_iff_eq, Prod.mk.injEq]

theorem byBoth_lt_of_lt (h : key x < key y) : byBoth key tie x < byBoth key tie y :=
  Prod.Lex.toLex_lt_toLex.mpr (Or.inl h)

theorem key_le_of_byBoth_le (h : byBoth key tie x ≤ byBoth key tie y) : key x ≤ key y := by
  rcases byBoth_le_iff.mp h with hlt | ⟨heq, _⟩
  · exact hlt.le
  · exact heq.le

theorem listing_eq (rows : List α) : listing key tie rows =
    sortOn (byBoth key tie) (sortOn tie rows) := by
  unfold listing
  refine sortOn_congr ((pairwise_sortOn tie rows).imp fun {a b} hab => ?_)
  constructor
  · intro hle
    rcases hle.lt_or_eq with hlt | heq
    · exact byBoth_le_iff.mpr (Or.inl hlt)
    · exact byBoth_le_iff.mpr (Or.inr ⟨heq, hab⟩)
  · exact key_le_of_byBoth_le

theorem perm_listing (rows : List α) : (listing key tie rows).Perm rows :=
  (perm_sortOn _ _).trans (perm_sortOn _ _)

theorem pairwise_listing (rows : List α) :
    (listing key tie rows).Pairwise fun a b => byBoth key tie a ≤ byBoth key tie b := by
  rw [listing_eq]
  exact pairwise_sortOn _ _

/-! ## Who is in front -/

theorem foremost_of_mem_front (hperm : rows.Perm rows') (h : x ∈ (listing key tie rows).take n) :
    Foremost (byBoth key tie) n rows' x := by
  rw [listing_eq] at h
  exact (foremost_of_mem_take h).perm ((perm_sortOn tie rows).trans hperm)

/-- A row that is not in front, and equal in rank to none that is, has `n` rows ahead of it. -/
theorem le_ahead_of_not_mem_front (hnodup : rows'.Nodup) (hperm : rows.Perm rows') (hx : x ∈ rows')
    (hnot : x ∉ (listing key tie rows).take n)
    (hties : ∀ y ∈ (listing key tie rows).take n, byBoth key tie y ≠ byBoth key tie x) :
    n ≤ (ahead (byBoth key tie) rows' x).length := by
  have hlist : (listing key tie rows).Perm rows := perm_listing rows
  have hwhole : x ∈ (listing key tie rows).take n ++ (listing key tie rows).drop n := by
    rw [List.take_append_drop]
    exact hlist.mem_iff.mpr (hperm.mem_iff.mpr hx)
  have hdrop := (List.mem_append.mp hwhole).resolve_left hnot
  have hsorted := @pairwise_listing _ _ _ _ _ key tie rows
  rw [← List.take_append_drop n (listing key tie rows), List.pairwise_append] at hsorted
  have hahead : (listing key tie rows).take n ⊆ ahead (byBoth key tie) rows' x := by
    intro y hy
    have hmem : y ∈ rows' := hperm.mem_iff.mp (hlist.mem_iff.mp (List.mem_of_mem_take hy))
    exact List.mem_filter.mpr
      ⟨hmem, decide_eq_true (lt_of_le_of_ne (hsorted.2.2 y hy x hdrop) (hties y hy))⟩
  have hfront : ((listing key tie rows).take n).Nodup :=
    ((hlist.trans hperm).nodup_iff.mpr hnodup).sublist (List.take_sublist n _)
  have hle := (List.subperm_of_subset hfront hahead).length_le
  have hlong : n ≤ ((listing key tie rows).take n).length := by
    have hpos := List.length_pos_of_mem hdrop
    rw [List.length_drop] at hpos
    rw [List.length_take]
    omega
  omega

/-! ## Ties -/

variable [DecidableEq α]

/-- A function equal at two places does not see them change places. -/
theorem comp_swap {β : Type*} {f : α → β} (h : f x = f y) :
    (fun z => f (Equiv.swap x y z)) = f := by
  funext z
  by_cases hzx : z = x
  · rw [hzx, Equiv.swap_apply_left, h]
  · by_cases hzy : z = y
    · rw [hzy, Equiv.swap_apply_right, h]
    · rw [Equiv.swap_apply_of_ne_of_ne hzx hzy]

/-- Two rows equal in both keys change places when the rows do. -/
theorem listing_swap (hkey : key x = key y) (htie : tie x = tie y) (rows : List α) :
    listing key tie (rows.map (Equiv.swap x y)) = (listing key tie rows).map (Equiv.swap x y) := by
  unfold listing
  rw [sortOn_map, comp_swap htie, sortOn_map, comp_swap hkey]

theorem perm_map_swap {kept : List α} (hkept : kept.Nodup) (hx : x ∈ kept) (hy : y ∈ kept) :
    (kept.map (Equiv.swap x y)).Perm kept := by
  refine (List.perm_ext_iff_of_nodup (hkept.map (Equiv.injective _)) hkept).mpr fun z => ?_
  have hself : (Equiv.swap x y z ∈ kept) ↔ z ∈ kept := by
    by_cases hzx : z = x
    · rw [hzx, Equiv.swap_apply_left]
      exact iff_of_true hy hx
    · by_cases hzy : z = y
      · rw [hzy, Equiv.swap_apply_right]
        exact iff_of_true hx hy
      · rw [Equiv.swap_apply_of_ne_of_ne hzx hzy]
  rw [List.mem_map, ← hself]
  constructor
  · rintro ⟨w, hw, rfl⟩
    rwa [Equiv.swap_apply_self]
  · exact fun hz => ⟨_, hz, Equiv.swap_apply_self x y z⟩

/-- The front depends on no order exactly where every tie has a full front ahead of it. -/
def TiesBehind (key : α → κ) (tie : α → ι) (n : Nat) (kept : List α) : Prop :=
  ∀ x ∈ kept, ∀ y ∈ kept, x ≠ y → key x = key y → tie x = tie y →
    n ≤ (ahead (byBoth key tie) kept x).length

variable {kept : List α}

/-- A row in front is equal in rank to no other, where the front does not depend on the order of the
rows. -/
theorem not_mem_front_of_tie (hkept : kept.Nodup)
    (h : ∀ rows, rows.Perm kept → (listing key tie rows).take n = (listing key tie kept).take n)
    (hx : x ∈ kept) (hy : y ∈ kept) (hne : x ≠ y) (hkey : key x = key y)
    (htie : tie x = tie y) :
      x ∉ (listing key tie kept).take n := by
  intro hmem
  have hswapped := h _ (perm_map_swap hkept hx hy)
  rw [listing_swap hkey htie, ← List.map_take] at hswapped
  have hfixed := List.map_inj_left.mp (hswapped.trans (List.map_id _).symm) x hmem
  rw [Equiv.swap_apply_left] at hfixed
  exact hne hfixed.symm

theorem tiesBehind_of_front (hkept : kept.Nodup)
    (h : ∀ rows, rows.Perm kept → (listing key tie rows).take n = (listing key tie kept).take n) :
    TiesBehind key tie n kept := by
  intro x hx y hy hne hkey htie
  refine le_ahead_of_not_mem_front hkept (List.Perm.refl kept) hx
    (not_mem_front_of_tie hkept h hx hy hne hkey htie) ?_
  -- what is in front and equal to `x` would itself be tied
  intro z hz hrank
  obtain ⟨hzkey, hztie⟩ := byBoth_eq_iff.mp hrank
  have hzkept : z ∈ kept := (perm_listing kept).mem_iff.mp (List.mem_of_mem_take hz)
  by_cases hzx : z = x
  · exact not_mem_front_of_tie hkept h hx hy hne hkey htie (hzx ▸ hz)
  · exact not_mem_front_of_tie hkept h hzkept hx hzx hzkey hztie hz

theorem front_of_tiesBehind (hkept : kept.Nodup) (h : TiesBehind key tie n kept)
    (hperm : rows.Perm kept) :
    (listing key tie rows).take n = (listing key tie kept).take n := by
  have hfront {rows : List α} (hperm : rows.Perm kept) {x : α} :
      x ∈ (listing key tie rows).take n ↔ Foremost (byBoth key tie) n kept x := by
    constructor
    · exact foremost_of_mem_front hperm
    · intro hforemost
      by_contra hnot
      refine absurd (le_ahead_of_not_mem_front hkept hperm hforemost.1 hnot fun y hy hrank => ?_)
        (not_le.mpr hforemost.2)
      obtain ⟨hkey, htie⟩ := byBoth_eq_iff.mp hrank
      have hykept : y ∈ kept :=
        hperm.mem_iff.mp ((perm_listing rows).mem_iff.mp (List.mem_of_mem_take hy))
      have hne : x ≠ y := fun heq => hnot (heq ▸ hy)
      exact absurd (h x hforemost.1 y hykept hne hkey.symm htie.symm) (not_le.mpr hforemost.2)
  have hnodup {rows : List α} (hperm : rows.Perm kept) : ((listing key tie rows).take n).Nodup :=
    (((perm_listing rows).trans hperm).nodup_iff.mpr hkept).sublist (List.take_sublist n _)
  have hsorted (rows : List α) : ((listing key tie rows).take n).Pairwise fun a b => byBoth key tie
      a ≤ byBoth key tie b :=
    (pairwise_listing rows).sublist (List.take_sublist n _)
  refine List.Perm.eq_of_pairwise (fun a b ha hb hab hba => ?_) (hsorted rows) (hsorted kept)
    ((List.perm_ext_iff_of_nodup (hnodup hperm) (hnodup (List.Perm.refl kept))).mpr fun x => ?_)
  · -- two in front of one rank are the same row
    by_contra hne
    obtain ⟨hkey, htie⟩ := byBoth_eq_iff.mp (le_antisymm hab hba)
    have hforemost := foremost_of_mem_front hperm ha
    have hbkept : b ∈ kept := (perm_listing kept).mem_iff.mp (List.mem_of_mem_take hb)
    exact absurd (h a hforemost.1 b hbkept hne hkey htie) (not_le.mpr hforemost.2)
  · rw [hfront hperm, hfront (List.Perm.refl kept)]

/-! ## What is left out -/

/-- What is left out has a full front at or ahead of it. -/
def LeftBehind (key : α → κ) (n : Nat) (all kept : List α) : Prop :=
  ∀ x ∈ all, x ∉ kept → n ≤ kept.countP fun y => key y ≤ key x

variable {all : List α}

omit [DecidableEq α] in
theorem leftBehind_of_ranking {ranking : List α} (hall : all.Nodup) (hperm : ranking.Perm all)
    (hsorted : ranking.Pairwise fun a b => key a ≤ key b)
    (hfront : (listing key tie kept).take n = ranking.take n) : LeftBehind key n all kept := by
  intro x hx hnot
  have hwhole : x ∈ ranking.take n ++ ranking.drop n := by
    rw [List.take_append_drop]
    exact hperm.mem_iff.mpr hx
  have hsub : ∀ y ∈ ranking.take n, y ∈ kept := fun y hy =>
    (perm_listing kept).mem_iff.mp (List.mem_of_mem_take (hfront ▸ hy))
  have hdrop := (List.mem_append.mp hwhole).resolve_left fun hmem => hnot (hsub x hmem)
  rw [← List.take_append_drop n ranking, List.pairwise_append] at hsorted
  have hahead : ranking.take n ⊆ kept.filter fun y => key y ≤ key x := fun y hy =>
    List.mem_filter.mpr ⟨hsub y hy, decide_eq_true (hsorted.2.2 y hy x hdrop)⟩
  have hnodup : (ranking.take n).Nodup := (hperm.nodup_iff.mpr hall).sublist (List.take_sublist n _)
  have hle := (List.subperm_of_subset hnodup hahead).length_le
  have hlong : n ≤ (ranking.take n).length := by
    have hpos := List.length_pos_of_mem hdrop
    rw [List.length_drop] at hpos
    rw [List.length_take]
    omega
  rw [List.countP_eq_length_filter]
  omega

/-- The front of what is kept, followed by everything else. -/
theorem exists_ranking (hall : all.Nodup) (hkept : kept.Nodup) (hsub : ∀ x ∈ kept, x ∈ all)
    (h : LeftBehind key n all kept) :
    ∃ ranking : List α, ranking.Perm all ∧ ranking.Pairwise (fun a b => key a ≤ key b) ∧
      (listing key tie kept).take n = ranking.take n := by
  have hlist : (listing key tie kept).Perm kept := perm_listing kept
  have hfront : ∀ x ∈ (listing key tie kept).take n, x ∈ kept :=
    fun x hx => hlist.mem_iff.mp (List.mem_of_mem_take hx)
  refine ⟨(listing key tie kept).take n ++ sortOn key
    (all.filter fun x => x ∉ (listing key tie kept).take n), ?_, ?_, ?_⟩
  · have hnodup : ((listing key tie kept).take n ++ all.filter fun x =>
        x ∉ (listing key tie kept).take n).Nodup := by
      refine List.nodup_append.mpr
        ⟨(hlist.nodup_iff.mpr hkept).sublist (List.take_sublist n _), hall.filter _, ?_⟩
      intro x hx y hy heq
      exact of_decide_eq_true (List.mem_filter.mp hy).2 (heq ▸ hx)
    refine ((perm_sortOn key _).append_left _).trans
      ((List.perm_ext_iff_of_nodup hnodup hall).mpr fun x => ?_)
    rw [List.mem_append, List.mem_filter, decide_eq_true_eq]
    constructor
    · intro hx
      exact hx.elim (fun hx => hsub x (hfront x hx)) And.left
    · intro hx
      by_cases hmem : x ∈ (listing key tie kept).take n
      · exact Or.inl hmem
      · exact Or.inr ⟨hx, hmem⟩
  · have hsorted := @pairwise_listing _ _ _ _ _ key tie kept
    rw [← List.take_append_drop n (listing key tie kept), List.pairwise_append] at hsorted
    refine List.pairwise_append.mpr
      ⟨hsorted.1.imp key_le_of_byBoth_le, pairwise_sortOn key _, fun x hx y hy => ?_⟩
    obtain ⟨hyall, hynot⟩ := List.mem_filter.mp (mem_sortOn.mp hy)
    rw [decide_eq_true_eq] at hynot
    by_cases hykept : y ∈ kept
    · -- behind the front of what is kept
      have hywhole : y ∈ (listing key tie kept).take n ++ (listing key tie kept).drop n := by
        rw [List.take_append_drop]
        exact hlist.mem_iff.mpr hykept
      exact key_le_of_byBoth_le
        (hsorted.2.2 x hx y ((List.mem_append.mp hywhole).resolve_left hynot))
    · -- left out, so that the whole front is at or ahead of it
      by_contra hlt
      have hmany := h y hyall hykept
      have hfew := (foremost_of_mem_front (List.Perm.refl kept) hx).2
      have hmono : kept.countP (fun z => key z ≤ key y) ≤
          (ahead (byBoth key tie) kept x).length := by
        unfold ahead
        rw [← List.countP_eq_length_filter]
        exact List.countP_mono_left fun z _ hz =>
          decide_eq_true (byBoth_lt_of_lt ((of_decide_eq_true hz).trans_lt (not_le.mp hlt)))
      omega
  · by_cases hlong : n ≤ kept.length
    · refine (List.take_left' ?_).symm
      rw [List.length_take, hlist.length_eq]
      exact Nat.min_eq_left hlong
    · -- everything is listed, and nothing is left out
      have hwhole : (listing key tie kept).take n = listing key tie kept := by
        refine List.take_of_length_le ?_
        rw [hlist.length_eq]
        omega
      have hrest : all.filter (fun x => x ∉ listing key tie kept) = [] := by
        refine List.filter_eq_nil_iff.mpr fun x hx hnot => ?_
        rw [decide_eq_true_eq, hlist.mem_iff] at hnot
        exact absurd ((h x hx hnot).trans List.countP_le_length) hlong
      rw [hwhole, hrest]
      show _ = (listing key tie kept ++ []).take n
      rw [List.append_nil, hwhole]

/-- The listing of what is kept is the front of a ranking of all, whatever the order, exactly where
nothing left out and no tie reaches the front. -/
theorem exists_ranking_iff (hall : all.Nodup) (hkept : kept.Nodup) (hsub : ∀ x ∈ kept, x ∈ all) :
    (∃ ranking : List α, ranking.Perm all ∧ ranking.Pairwise (fun a b => key a ≤ key b) ∧
        ∀ rows, rows.Perm kept → (listing key tie rows).take n = ranking.take n) ↔
      LeftBehind key n all kept ∧ TiesBehind key tie n kept := by
  constructor
  · intro ⟨ranking, hperm, hsorted, hfront⟩
    have hself := hfront kept (List.Perm.refl kept)
    refine ⟨leftBehind_of_ranking hall hperm hsorted hself,
      tiesBehind_of_front hkept fun rows hrows => ?_⟩
    exact (hfront rows hrows).trans hself.symm
  · intro ⟨hleft, hties⟩
    obtain ⟨ranking, hperm, hsorted, hfront⟩ :=
      @exists_ranking _ _ _ _ _ key tie n _ _ _ hall hkept hsub hleft
    exact ⟨ranking, hperm, hsorted, fun rows hrows =>
      (front_of_tiesBehind hkept hties hrows).trans hfront⟩

end Lib
