import Dashkoda.Lib.Listings

/-!
# Contention

Several claim one thing.  The claim that is strictly ahead of all others keeps it; where two are
level at the top, nobody does.
-/

namespace Lib

variable {ι σ : Type*} [LinearOrder σ]

section Claims

variable (strength : ι → σ)

/-- `sorted(claimants, key=strength, reverse=True)` -/
def ranked (claimants : List ι) : List ι :=
  sortOn (fun claimant => OrderDual.toDual (strength claimant)) claimants

/-- Those who give the thing up: all but the first, or all where the first two are level. -/
def losers (claimants : List ι) : List ι :=
  match ranked strength claimants with
  | top :: second :: rest =>
    if strength top = strength second then top :: second :: rest else second :: rest
  | _ => []

/-- The one who keeps it. -/
def winner? (claimants : List ι) : Option ι :=
  match ranked strength claimants with
  | [] => none
  | [only] => some only
  | top :: second :: _ => if strength top = strength second then none else some top

/-- Strictly ahead of all others. -/
def Ahead (claimants : List ι) (x : ι) : Prop :=
  ∀ other ∈ claimants, other ≠ x → strength other < strength x

end Claims

section Rules

variable {strength : ι → σ} {claimants : List ι} {x : ι}

theorem perm_ranked (strength : ι → σ) (claimants : List ι) :
    (ranked strength claimants).Perm claimants := perm_sortOn _ _

theorem ranked_pairwise (strength : ι → σ) (claimants : List ι) :
    (ranked strength claimants).Pairwise fun a b => strength b ≤ strength a :=
  pairwise_sortOn (fun claimant => OrderDual.toDual (strength claimant)) claimants

theorem ahead_perm {claimants' : List ι} (h : claimants.Perm claimants') :
    Ahead strength claimants x ↔ Ahead strength claimants' x :=
  forall_congr' fun _ => imp_congr_left h.mem_iff

/-- Of claims in order, only the first can be ahead, and it is unless the second is level with
it. -/
theorem ahead_cons_iff {top second : ι} {rest : List ι}
    (hsorted : (top :: second :: rest).Pairwise fun a b => strength b ≤ strength a)
    (hnodup : (top :: second :: rest).Nodup) (hx : x ∈ top :: second :: rest) :
    Ahead strength (top :: second :: rest) x ↔ x = top ∧ strength top ≠ strength second := by
  obtain ⟨htop, hrest⟩ := List.pairwise_cons.mp hsorted
  have hfresh : second ≠ top := fun heq => (List.nodup_cons.mp hnodup).1 (heq ▸ List.mem_cons_self)
  constructor
  · intro hahead
    have hfirst : x = top := by
      by_contra hne
      have hlt := hahead top List.mem_cons_self (Ne.symm hne)
      have hle := htop x ((List.mem_cons.mp hx).resolve_left hne)
      exact absurd hlt (not_lt.mpr hle)
    refine ⟨hfirst, fun hlevel => ?_⟩
    have hlt := hahead second (List.mem_cons_of_mem _ List.mem_cons_self) (hfirst ▸ hfresh)
    rw [hfirst] at hlt
    exact hlt.ne hlevel.symm
  · rintro ⟨hfirst, hlevel⟩ other hother hne
    rw [hfirst] at hne ⊢
    have hin := (List.mem_cons.mp hother).resolve_left hne
    have hsecond : strength second < strength top :=
      lt_of_le_of_ne (htop second List.mem_cons_self) (Ne.symm hlevel)
    cases List.mem_cons.mp hin with
    | inl heq => exact heq ▸ hsecond
    | inr hlater => exact ((List.pairwise_cons.mp hrest).1 other hlater).trans_lt hsecond

/-- A claim is given up exactly where it is not strictly ahead. -/
theorem mem_losers_iff (hnodup : claimants.Nodup) :
    x ∈ losers strength claimants ↔ x ∈ claimants ∧ ¬ Ahead strength claimants x := by
  have hperm := perm_ranked strength claimants
  have hsorted := ranked_pairwise strength claimants
  rw [← hperm.mem_iff, ← ahead_perm hperm]
  have hranked := hperm.nodup_iff.mpr hnodup
  unfold losers
  generalize ranked strength claimants = order at hsorted hranked
  match order with
  | [] => exact iff_of_false List.not_mem_nil fun h => List.not_mem_nil h.1
  | [only] =>
    refine iff_of_false List.not_mem_nil fun h => h.2 fun other hother hne => absurd ?_ hne
    rw [List.mem_singleton.mp hother, List.mem_singleton.mp h.1]
  | top :: second :: rest =>
    dsimp only
    rw [and_congr_right fun hx => not_congr (ahead_cons_iff hsorted hranked hx)]
    by_cases hlevel : strength top = strength second
    · rw [if_pos hlevel]
      exact ⟨fun hx => ⟨hx, fun h => h.2 hlevel⟩, fun h => h.1⟩
    · rw [if_neg hlevel]
      constructor
      · intro hx
        exact ⟨List.mem_cons_of_mem _ hx, fun h => (List.nodup_cons.mp hranked).1 (h.1 ▸ hx)⟩
      · rintro ⟨hx, hbehind⟩
        exact (List.mem_cons.mp hx).resolve_left fun heq => hbehind ⟨heq, hlevel⟩

theorem losers_sublist (strength : ι → σ) (claimants : List ι) :
    (losers strength claimants).Sublist (ranked strength claimants) := by
  unfold losers
  generalize ranked strength claimants = order
  match order with
  | [] => exact List.Sublist.refl _
  | [only] => exact List.nil_sublist _
  | top :: second :: rest =>
    dsimp only
    split
    · exact List.Sublist.refl _
    · exact List.sublist_cons_self _ _

theorem nodup_losers (hnodup : claimants.Nodup) : (losers strength claimants).Nodup :=
  ((perm_ranked strength claimants).nodup_iff.mpr hnodup).sublist
    (losers_sublist strength claimants)

theorem mem_of_mem_losers (h : x ∈ losers strength claimants) : x ∈ claimants :=
  (perm_ranked strength claimants).mem_iff.mp ((losers_sublist strength claimants).mem h)

/-- Only the strengths of the claimants decide. -/
theorem losers_congr {strength' : ι → σ} (h : ∀ y ∈ claimants, strength y = strength' y) :
    losers strength claimants = losers strength' claimants := by
  have hranked : ranked strength claimants = ranked strength' claimants := by
    refine sortOn_congr (List.Pairwise.imp_of_mem (R := fun _ _ => True) (fun {a b} ha hb _ => ?_)
      (List.pairwise_of_forall fun _ _ => trivial))
    rw [h a ha, h b hb]
  unfold losers
  rw [hranked]
  have hin : ∀ y ∈ ranked strength' claimants, strength y = strength' y :=
    fun y hy => h y ((perm_ranked strength' claimants).mem_iff.mp hy)
  generalize ranked strength' claimants = order at hin
  match order with
  | [] => rfl
  | [only] => rfl
  | top :: second :: rest =>
    dsimp only
    rw [hin top List.mem_cons_self, hin second (List.mem_cons_of_mem _ List.mem_cons_self)]

theorem winner?_mem (h : winner? strength claimants = some x) : x ∈ claimants := by
  rw [← (perm_ranked strength claimants).mem_iff]
  unfold winner? at h
  split at h
  · cases h
  · rename_i only horder
    cases h
    rw [horder]
    exact List.mem_singleton_self _
  · rename_i top second rest horder
    split at h
    · cases h
    · cases h
      rw [horder]
      exact List.mem_cons_self

end Rules

/-- One item of each list at most is a part of all items. -/
theorem filterMap_sublist_flatten {α : Type*} {pick : List α → Option α}
    (hpick : ∀ items x, pick items = some x → x ∈ items)
    (lists : List (List α)) : (lists.filterMap pick).Sublist lists.flatten := by
  induction lists with
  | nil => exact List.Sublist.refl _
  | cons items rest ih =>
    rw [List.flatten_cons, List.filterMap_cons]
    cases hitems : pick items with
    | none => exact ih.trans (List.sublist_append_right _ _)
    | some x => exact (List.singleton_sublist.mpr (hpick items x hitems)).append ih

end Lib
