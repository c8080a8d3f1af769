import Dashkoda.Membership.Ranges
import Dashkoda.Lib.Rounding
import Mathlib.Data.List.Induction

/-!
# Comparisons between membership observations

A figure is compared with the reading nearest to its anniversary, or not at all.
-/

open Lib

namespace Dashkoda.Membership

/-- How far from the anniversary an observation may sit and still be called a year ago. -/
def YOY_TOLERANCE_DAYS : Nat := 45

namespace Unavailable

def NO_CURRENT : String := "Praegust väärtust ei ole."

def NO_BASELINE : String := "Võrreldavat varasemat vaatlust ei ole."

def OUT_OF_TOLERANCE : String := "Lähim varasem vaatlus on võrdluseks liiga kaugel."

end Unavailable

/-- One current figure set against one earlier figure. -/
structure Comparison where
  current : Option ℚ
  baseline : Option ℚ
  baselineDate : Option Date
  absolute : Option ℚ
  relativePct : Option ℚ
  baselineIsProvisional : Bool
  unavailableReason : String
  deriving DecidableEq

def Comparison.isAvailable (comparison : Comparison) : Bool := comparison.unavailableReason = ""

def Comparison.hasRelative (comparison : Comparison) : Bool := comparison.relativePct.isSome

/-- `_unavailable` -/
def unavailable (reason : String) (current : Option ℚ) : Comparison :=
  ⟨current, none, none, none, none, false, reason⟩

/-- `_quantise` -/
def quantise (places : Nat) (value : ℚ) : ℚ :=
  Decimal.roundHalfUp (value * 10 ^ places) / 10 ^ places

/-- The same day of the year `years` earlier; February 29 becomes February 28. -/
def anniversary (day : Date) (years : Nat) : Except ValueError Date :=
  match makeDate (day.year - years) day.month day.day with
  | .ok date => .ok date
  | .error _ => makeDate (day.year - years) day.month 28

/-- One candidate after another; the nearest stays, and the earlier one of two that are equally
near. -/
def nearer {α : Type} (target : Date) (toleranceDays : Nat) (best : Option (Date × α))
    (candidate : Date × α) :
    Option (Date × α) :=
  let distance := Date.daysBetween candidate.1 target
  if toleranceDays < distance then best
  else
    match best with
    | none => some candidate
    | some found =>
      if distance < Date.daysBetween found.1 target ∨
          distance = Date.daysBetween found.1 target ∧ candidate.1 < found.1 then some candidate
      else some found

/-- `pick_comparable` -/
def pickComparable {α : Type} (candidates : List (Date × α)) (target : Date) (toleranceDays : Nat) :
    Option (Date × α) :=
  candidates.foldl (nearer target toleranceDays) none

/-- `change`: growth from zero has no percentage. -/
def change (current baseline : ℚ) : ℚ × Option ℚ :=
  let absolute := Decimal.sub current baseline
  (absolute, if baseline = 0 then none else
    some (quantise 2 (Decimal.mul (Decimal.div absolute |baseline|) 100)))

/-- `compare_with` -/
def compareWith (currentValue : Option ℚ) (currentDate : Option Date) (history : List (Date × ℚ))
    (years : Nat) (toleranceDays : Nat)
    (provisionalDates : List Date) : Except ValueError Comparison :=
  match currentValue, currentDate with
  | some currentValue, some currentDate =>
    let earlier := history.filter fun entry => entry.1 < currentDate
    if earlier = [] then .ok (unavailable Unavailable.NO_BASELINE (some currentValue))
    else do
      let target ← anniversary currentDate years
      match pickComparable earlier target toleranceDays with
      | none => return unavailable Unavailable.OUT_OF_TOLERANCE (some currentValue)
      | some (baselineDate, baseline) =>
        return ⟨some currentValue, some baseline, some baselineDate,
          some (change currentValue baseline).1,
          (change currentValue baseline).2, baselineDate ∈ provisionalDates, ""⟩
  | _, _ => .ok (unavailable Unavailable.NO_CURRENT none)

/-- `share_change`: the gap between two shares, in percentage points. -/
def shareChange (currentPct baselinePct : Option ℚ) : Option ℚ :=
  match currentPct, baselinePct with
  | some currentPct, some baselinePct => some (quantise 1 (Decimal.sub currentPct baselinePct))
  | _, _ => none

/-! ## Which reading is picked -/

section Pick

variable {α : Type} {target : Date} {toleranceDays : Nat}

/-- A candidate within the tolerance, such that none is nearer and none that is as near is
earlier. -/
structure Picked (candidates : List (Date × α)) (target : Date) (toleranceDays : Nat)
    (found : Date × α) : Prop where
  mem : found ∈ candidates
  within : Date.daysBetween found.1 target ≤ toleranceDays
  nearest : ∀ candidate ∈ candidates, Date.daysBetween found.1 target ≤ Date.daysBetween
    candidate.1 target
  earliest : ∀ candidate ∈ candidates, Date.daysBetween candidate.1 target =
    Date.daysBetween found.1 target →
    found.1 ≤ candidate.1

/-- What one more candidate leaves of the choice. -/
theorem nearer_spec {candidates : List (Date × α)} {best : Option (Date × α)} (candidate : Date × α)
    (hnone : best = none → ∀ other ∈ candidates, toleranceDays < Date.daysBetween other.1 target)
    (hsome : ∀ found, best = some found → Picked candidates target toleranceDays found) :
    (nearer target toleranceDays best candidate = none →
        ∀ other ∈ candidates ++ [candidate], toleranceDays < Date.daysBetween other.1 target) ∧
      ∀ found, nearer target toleranceDays best candidate = some found →
        Picked (candidates ++ [candidate]) target toleranceDays found := by
  unfold nearer
  dsimp only
  by_cases hfar : toleranceDays < Date.daysBetween candidate.1 target
  · rw [if_pos hfar]
    constructor
    · intro hbest other hother
      cases List.mem_append.mp hother with
      | inl hold => exact hnone hbest other hold
      | inr hnew => rw [List.mem_singleton.mp hnew]; exact hfar
    · intro found hfound
      obtain ⟨hmem, hwithin, hnearest, hearliest⟩ := hsome found hfound
      refine ⟨List.mem_append_left _ hmem, hwithin, fun other hother =>
        ?_, fun other hother heq => ?_⟩
      · cases List.mem_append.mp hother with
        | inl hold => exact hnearest other hold
        | inr hnew => rw [List.mem_singleton.mp hnew]; exact hwithin.trans hfar.le
      · cases List.mem_append.mp hother with
        | inl hold => exact hearliest other hold heq
        | inr hnew =>
          rw [List.mem_singleton.mp hnew] at heq
          omega
  · rw [if_neg hfar]
    have hwithin := not_lt.mp hfar
    cases hbest : best with
    | none =>
      have hnone := hnone hbest
      refine ⟨fun h => (by cases h), fun found hfound => ?_⟩
      cases hfound
      refine ⟨List.mem_append_right _ (List.mem_singleton.mpr rfl), hwithin, fun other hother => ?_,
        fun other hother heq => ?_⟩
      · cases List.mem_append.mp hother with
        | inl hold => exact hwithin.trans (hnone other hold).le
        | inr hnew => rw [List.mem_singleton.mp hnew]
      · cases List.mem_append.mp hother with
        | inl hold =>
          have hbeyond := hnone other hold
          omega
        | inr hnew => rw [List.mem_singleton.mp hnew]
    | some kept =>
      obtain ⟨hmem, hkept, hnearest, hearliest⟩ := hsome kept hbest
      dsimp only
      by_cases hbetter : Date.daysBetween candidate.1 target < Date.daysBetween kept.1 target ∨
          Date.daysBetween candidate.1 target = Date.daysBetween kept.1 target ∧
          candidate.1 < kept.1
      · rw [if_pos hbetter]
        refine ⟨fun h => (by cases h), fun found hfound => ?_⟩
        cases hfound
        refine ⟨List.mem_append_right _ (List.mem_singleton.mpr rfl), hwithin,
          fun other hother => ?_,
          fun other hother heq => ?_⟩
        · cases List.mem_append.mp hother with
          | inl hold =>
            have hold := hnearest other hold
            omega
          | inr hnew => rw [List.mem_singleton.mp hnew]
        · cases List.mem_append.mp hother with
          | inl hold =>
            have hnear := hnearest other hold
            cases hbetter with
            | inl hlt => omega
            | inr hearlier =>
              exact hearlier.2.le.trans (hearliest other hold (heq.trans hearlier.1))
          | inr hnew => rw [List.mem_singleton.mp hnew]
      · rw [if_neg hbetter]
        refine ⟨fun h => (by cases h), fun found hfound => ?_⟩
        cases hfound
        rw [not_or, not_and] at hbetter
        refine ⟨List.mem_append_left _ hmem, hkept, fun other hother =>
          ?_, fun other hother heq => ?_⟩
        · cases List.mem_append.mp hother with
          | inl hold => exact hnearest other hold
          | inr hnew => rw [List.mem_singleton.mp hnew]; exact not_lt.mp hbetter.1
        · cases List.mem_append.mp hother with
          | inl hold => exact hearliest other hold heq
          | inr hnew =>
            rw [List.mem_singleton.mp hnew] at heq ⊢
            exact not_lt.mp (hbetter.2 heq)

/-- The nearest candidate within the tolerance is picked, or there is none. -/
theorem pickComparable_spec (candidates : List (Date × α)) (target : Date) (toleranceDays : Nat) :
    (pickComparable candidates target toleranceDays = none →
        ∀ candidate ∈ candidates, toleranceDays < Date.daysBetween candidate.1 target) ∧
      ∀ found, pickComparable candidates target toleranceDays = some found →
        Picked candidates target toleranceDays found := by
  induction candidates using List.reverseRecOn with
  | nil => exact ⟨fun _ candidate h => (by cases h), fun found h => (by cases h)⟩
  | append_singleton candidates candidate ih =>
    have hstep : pickComparable (candidates ++ [candidate]) target toleranceDays =
        nearer target toleranceDays (pickComparable candidates target toleranceDays) candidate :=
          List.foldl_concat ..
    rw [hstep]
    exact nearer_spec candidate ih.1 ih.2

end Pick

end Dashkoda.Membership
