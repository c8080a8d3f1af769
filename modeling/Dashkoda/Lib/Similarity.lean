import Mathlib.Algebra.Order.Field.Rat
import Mathlib.Data.Finset.Card
import Mathlib.Tactic.Linarith

/-!
# Likeness of finite sets, and a clear winner

Two shares of what sets have in common, and when the first of a ranking is clear of all the others.
-/

namespace Lib

universe u

namespace Similarity

variable {α : Type u} [DecidableEq α]

def containment (left right : Finset α) : ℚ :=
  if left = ∅ ∨ right = ∅ then 0 else ((left ∩ right).card : ℚ) / (min left.card right.card : ℕ)

def jaccard (left right : Finset α) : ℚ :=
  if left = ∅ ∨ right = ∅ then 0 else ((left ∩ right).card : ℚ) / ((left ∪ right).card : ℚ)

theorem containment_comm (left right : Finset α) :
    containment left right = containment right left := by
  unfold containment
  simp only [or_comm, Finset.inter_comm, Nat.min_comm]

theorem jaccard_comm (left right : Finset α) : jaccard left right = jaccard right left := by
  unfold jaccard
  simp only [or_comm, Finset.inter_comm, Finset.union_comm]

/-- A count over a count that is at least as large. -/
theorem div_mem_unit {part whole : ℕ} (h : part ≤ whole) : 0 ≤ (part : ℚ) / whole ∧
    (part : ℚ) / whole ≤ 1 := by
  refine ⟨div_nonneg (Nat.cast_nonneg part) (Nat.cast_nonneg whole), ?_⟩
  exact div_le_one_of_le₀ (Nat.cast_le.mpr h) (Nat.cast_nonneg whole)

theorem containment_mem_unit (left right : Finset α) :
    0 ≤ containment left right ∧ containment left right ≤ 1 := by
  unfold containment
  split
  · exact ⟨le_refl 0, zero_le_one⟩
  · exact div_mem_unit (le_min (Finset.card_le_card Finset.inter_subset_left)
      (Finset.card_le_card Finset.inter_subset_right))

theorem jaccard_mem_unit (left right : Finset α) : 0 ≤ jaccard left right ∧
    jaccard left right ≤ 1 := by
  unfold jaccard
  split
  · exact ⟨le_refl 0, zero_le_one⟩
  · exact div_mem_unit
      (Finset.card_le_card (Finset.inter_subset_left.trans Finset.subset_union_left))

end Similarity

/-! ## A clear winner -/

section Winner

variable {α : Type u} {score : α → ℚ} {accept margin : ℚ} {best winner : α} {rest : List α}

/-- The score of the second, where there is one. -/
def runnerUp (score : α → ℚ) (rest : List α) : ℚ := (rest.head?.map score).getD 0

theorem score_le_runnerUp (h : (best :: rest).Pairwise fun a b => score b ≤ score a) {other : α}
    (hother : other ∈ rest) : score other ≤ runnerUp score rest := by
  cases rest with
  | nil => cases hother
  | cons second rest =>
    show score other ≤ score second
    rcases List.mem_cons.mp hother with rfl | hother
    · exact le_refl _
    · exact List.rel_of_pairwise_cons (List.pairwise_cons.mp h).2 hother

/-- The first of a ranking is accepted with a margin exactly where it clears every other by that
margin. -/
theorem clear_winner_iff (h : (best :: rest).Pairwise fun a b => score b ≤ score a)
    (hnodup : (best :: rest).Nodup)
    (hmargin : 0 < margin) (haccept : margin ≤ accept) (hwinner : winner ∈ best :: rest) :
    (winner = best ∧ accept ≤ score best ∧ margin ≤ score best - runnerUp score rest) ↔
      accept ≤ score winner ∧ ∀ other ∈ best :: rest, other ≠ winner →
      score other + margin ≤ score winner := by
  constructor
  · rintro ⟨rfl, hscore, hclear⟩
    refine ⟨hscore, fun other hother hne => ?_⟩
    have hle := score_le_runnerUp h ((List.mem_cons.mp hother).resolve_left hne)
    linarith
  · rintro ⟨hscore, hclear⟩
    have heq : winner = best := by
      by_contra hne
      have hbest := hclear best List.mem_cons_self fun heq => hne heq.symm
      have hle : score winner ≤ score best :=
        (List.pairwise_cons.mp h).1 winner ((List.mem_cons.mp hwinner).resolve_left hne)
      linarith
    subst heq
    refine ⟨rfl, hscore, ?_⟩
    cases rest with
    | nil =>
      show margin ≤ score winner - 0
      linarith
    | cons second rest =>
      have hsecond : second ≠ winner := fun heq =>
        (List.nodup_cons.mp hnodup).1 (heq ▸ List.mem_cons_self)
      have hle := hclear second (List.mem_cons_of_mem _ List.mem_cons_self) hsecond
      show margin ≤ score winner - score second
      linarith

end Winner

end Lib
