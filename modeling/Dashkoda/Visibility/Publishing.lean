import Dashkoda.Lib.Except
import Dashkoda.Visibility.Models

/-!
# Making an observation the value in use

A new observation names the one it corrects, which is retired under the same lock.
-/

open Lib

namespace Dashkoda.Visibility

open Sources (Time)

/-- `find_current` and `lock_current` -/
def lockCurrent (metric : VisibilityMetric) (observationDate : Date)
    (observations : List VisibilityObservation) : Option VisibilityObservation :=
  Lineage.current? (metric, observationDate) observations

/-- The largest value of a `PositiveIntegerField`. -/
def maxPositiveInteger : Int := 2147483647

def fitsPositiveInteger (value : Int) : Bool := 0 ≤ value && value ≤ maxPositiveInteger

/-- What a row says about the reading, without the rows around it. -/
structure ObservationDraft where
  batch : Option Nat
  source : Nat
  artifact : Nat
  importRun : Nat
  metric : VisibilityMetric
  value : Int
  collectionMethod : CollectionMethod
  observationDate : Date
  deriving DecidableEq

namespace ObservationDraft

/-- `observation.full_clean(exclude=["published_at"])` -/
def fullClean (source : SourceSlug → Nat) (observations : List VisibilityObservation)
    (draft : ObservationDraft) : Except VisibilityExn Unit :=
  if !fitsPositiveInteger draft.value then .error (.validationError "value")
  else if draft.source ≠ source draft.metric.sourceSlug then .error (.validationError "source")
  else if draft.batch.isSome && observations.any fun row =>
      row.batch = draft.batch && row.metric = draft.metric then
    .error (.validationError "visibilityobservation_unique_metric_per_batch")
  else .ok ()

/-- The row `publish_observation` leaves current. -/
def row (draft : ObservationDraft) (pk : Nat) (supersedes : Option Nat) (now : Time) :
    VisibilityObservation :=
  ⟨pk, draft.batch, draft.source, draft.artifact, draft.importRun, draft.metric, draft.value,
    draft.collectionMethod, draft.observationDate, supersedes, true, some now⟩

/-- The row that corrects the one in use, if there is one. -/
def nextRow (draft : ObservationDraft) (now : Time) (observations : List VisibilityObservation) :
    VisibilityObservation :=
  draft.row (Table.nextPk observations)
    ((lockCurrent draft.metric draft.observationDate observations).map (·.pk)) now

/-- `observation.save()` and `publish_observation`: the locked row is retired before the new one
becomes current. -/
def publish (draft : ObservationDraft) (now : Time) (observations : List VisibilityObservation) :
    List VisibilityObservation :=
  Lineage.succeed (lockCurrent draft.metric draft.observationDate observations)
    (draft.nextRow now observations) observations

end ObservationDraft

def writeObservation (source : SourceSlug → Nat) (now : Time) (draft : ObservationDraft)
    (observations : List VisibilityObservation) :
    Except VisibilityExn (List VisibilityObservation) := do
  draft.fullClean source observations
  return draft.publish now observations

/-! ## What a publication leaves -/

/-- A correction names the row before it. -/
def Corrects (previous : Option VisibilityObservation) (row : VisibilityObservation) : Prop :=
  row.supersedes = previous.map (·.pk)

theorem corrects_blind : Lineage.Blind Corrects := by
  intro f hf previous row h
  have hpk (r : VisibilityObservation) : (f r).pk = r.pk := by
    cases hf r with
    | inl heq => rw [heq]
    | inr heq => rw [heq]; rfl
  have hsupersedes : (f row).supersedes = row.supersedes := by
    cases hf row with
    | inl heq => rw [heq]
    | inr heq => rw [heq]; rfl
  unfold Corrects at h ⊢
  rw [hsupersedes, h, Option.map_map]
  exact congrArg (Option.map · previous) (funext fun r => (hpk r).symm)

abbrev ObservationsSound (observations : List VisibilityObservation) : Prop :=
  Lineage.Sound Corrects observations

def currentValue (observations : List VisibilityObservation) (metric : VisibilityMetric)
    (observationDate : Date) : Option Int :=
  (lockCurrent metric observationDate observations).map (·.value)

section Publish

variable {draft : ObservationDraft} {now : Time} {observations : List VisibilityObservation}

theorem nextRow_fresh : ∀ row ∈ observations,
    Row.pk row ≠ Row.pk (draft.nextRow now observations) :=
  fun _ hrow => Table.ne_nextPk hrow

theorem nextRow_corrects : Corrects
    (Lineage.current? (Revised.key (draft.nextRow now observations)) observations)
    (Revised.setCurrent true (draft.nextRow now observations)) := rfl

theorem publish_sound (h : ObservationsSound observations) :
    ObservationsSound (draft.publish now observations) :=
  h.succeed corrects_blind nextRow_fresh nextRow_corrects

theorem lockCurrent_publish_self (h : ObservationsSound observations) :
    lockCurrent draft.metric draft.observationDate (draft.publish now observations) =
      some (draft.nextRow now observations) :=
  h.current?_succeed_self nextRow_fresh corrects_blind nextRow_corrects

theorem lockCurrent_publish_other (h : ObservationsSound observations) {metric : VisibilityMetric}
    {observationDate : Date}
    (hother : (metric, observationDate) ≠ (draft.metric, draft.observationDate)) :
    lockCurrent metric observationDate (draft.publish now observations) =
      lockCurrent metric observationDate observations :=
  h.current?_succeed_other (@nextRow_fresh draft now observations) hother

/-- The figure of the draft is in use, and no other one has changed. -/
theorem currentValue_publish (h : ObservationsSound observations) (metric : VisibilityMetric)
    (observationDate : Date) :
    currentValue (draft.publish now observations) metric observationDate =
      if (metric, observationDate) = (draft.metric, draft.observationDate) then some draft.value
      else currentValue observations metric observationDate := by
  unfold currentValue
  split
  · rename_i hsame
    obtain ⟨rfl, rfl⟩ := Prod.mk.inj hsame
    rw [lockCurrent_publish_self h]
    rfl
  · rename_i hother
    rw [lockCurrent_publish_other h hother]

theorem writeObservation_eq_ok {source : SourceSlug → Nat} {rows : List VisibilityObservation}
    (h : writeObservation source now draft observations = .ok rows) :
    rows = draft.publish now observations := by
  obtain ⟨-, -, heq⟩ := bind_eq_ok_iff.mp h
  exact (Except.ok.inj heq).symm

/-- No metric has two current rows for one date. -/
theorem ObservationsSound.at_most_one (h : ObservationsSound observations)
    (metric : VisibilityMetric) (observationDate : Date) :
    ((Lineage.history (metric, observationDate) observations).filter
      (·.isCurrentForDate)).length ≤ 1 := by
  have hcurrents := h.currents (metric, observationDate)
  rw [show (Lineage.history (metric, observationDate) observations).filter
    (·.isCurrentForDate) = _ from hcurrents]
  cases (Lineage.history (metric, observationDate) observations).getLast? with
  | none => exact Nat.zero_le 1
  | some last => exact le_refl 1

end Publish

/-! ## The figures in use -/

/-- A figure for each metric on each date. -/
abbrev Ledger := VisibilityMetric → Date → Option Int

namespace Ledger

def put (ledger : Ledger) (date : Date) (item : VisibilityMetric × Int) : Ledger :=
  fun metric observationDate =>
    if (metric, observationDate) = (item.1, date) then some item.2 else
      ledger metric observationDate

theorem foldl_put (f : VisibilityMetric → Option Int) (date : Date)
    (items : List (VisibilityMetric × Int)) (hf : ∀ item ∈ items, f item.1 = some item.2)
    (ledger : Ledger) (metric : VisibilityMetric) (observationDate : Date) :
    items.foldl (put · date) ledger metric observationDate =
      if observationDate = date ∧ metric ∈ items.map Prod.fst then f metric
      else ledger metric observationDate := by
  induction items generalizing ledger with
  | nil =>
    rw [if_neg fun h => List.not_mem_nil h.2]
    rfl
  | cons item rest ih =>
    rw [List.foldl_cons, ih (fun other hother => hf other (List.mem_cons_of_mem _ hother))]
    by_cases hdate : observationDate = date
    · by_cases hrest : metric ∈ rest.map Prod.fst
      · rw [if_pos ⟨hdate, hrest⟩, if_pos ⟨hdate, List.mem_cons_of_mem _ hrest⟩]
      · rw [if_neg fun h => hrest h.2]
        unfold put
        by_cases hmetric : metric = item.1
        · rw [if_pos (by rw [hmetric, hdate]), hmetric, hf item List.mem_cons_self,
            if_pos ⟨hdate, List.mem_cons_self⟩]
        · rw [if_neg fun h => hmetric (Prod.mk.inj h).1, if_neg]
          rintro ⟨-, hmem⟩
          cases List.mem_cons.mp hmem with
          | inl heq => exact hmetric heq
          | inr hin => exact hrest hin
    · rw [if_neg fun h => hdate h.1, if_neg fun h => hdate h.1]
      unfold put
      exact if_neg fun h => hdate (Prod.mk.inj h).2

end Ledger

def ledgerOf (db : VisibilityDb) : Ledger := currentValue db.observations

end Dashkoda.Visibility
