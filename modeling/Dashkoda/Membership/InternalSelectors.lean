import Dashkoda.Lib.Dict
import Dashkoda.Membership.Models
import Mathlib.Data.Finset.Card
import Mathlib.Data.Finset.Dedup
import Mathlib.Data.Finset.Lattice.Basic

/-!
# Reading the internal membership history

An observation is read as a point, which keeps some of its figures back.  The importer and the form
ask one function which ones; the read paths put the answer together from two others.
-/

open Lib

namespace Dashkoda.Membership

/-- How exactly the reporting date is known. -/
inductive DatePrecision
  | day
  | month
  | year
  deriving DecidableEq, Repr

structure InternalObservation extends Observation where
  observationDatePrecision : DatePrecision
  deriving DecidableEq

/-- Two board reports disagreeing about one metric on one date. -/
structure MetricConflict where
  source : Nat
  observationDate : Date
  metric : String
  resolved : Bool
  deriving DecidableEq

inductive Figure
  | count (n : Nat)
  | amount (d : Decimal)
  deriving DecidableEq

def Figure.toRat : Figure → ℚ
  | count n => n
  | amount d => d.toRat

def Figure.amount? : Figure → Option Decimal
  | count _ => none
  | amount d => some d

/-- `getattr(observation, field)` -/
def MetricFacts.figure (facts : MetricFacts) : MetricField → Option Figure
  | .totalMembers => facts.totalMembers.map .count
  | .paidMembers => facts.paidMembers.map .count
  | .newMembersYtd => facts.newMembersYtd.map .count
  | .suspendedMembers => facts.suspendedMembers.map .count
  | .removedMembersYtd => facts.removedMembersYtd.map .count
  | .membershipFeesReceivedEur => facts.membershipFeesReceivedEur.map .amount
  | .membershipFeeBudgetEur => facts.membershipFeeBudgetEur.map .amount
  | .membershipFeeCollectionPctReported => facts.membershipFeeCollectionPctReported.map .amount

/-- One observation, with the metrics that may not be drawn removed. -/
structure ObservationPoint where
  observation : InternalObservation
  withheld : Finset MetricField

namespace ObservationPoint

variable (point : ObservationPoint)

def observationDate : Date := point.observation.observationDate

def isYearPrecision : Bool := point.observation.observationDatePrecision = .year

def value (field : MetricField) : Option Figure :=
  if field ∈ point.withheld then none else point.observation.facts.figure field

def amount (field : MetricField) : Option Decimal := (point.value field).bind Figure.amount?

def computedCollectionPct : Option ℚ :=
  Membership.computedCollectionPct (point.amount .membershipFeesReceivedEur)
    (point.amount .membershipFeeBudgetEur)

/-- The columns hold counts of 31 bits, so the result has no more digits than `quantize` allows. -/
def paidMemberSharePct : Option ℚ :=
  match point.value .totalMembers, point.value .paidMembers with
  | some total, some paid =>
    if total.toRat = 0 then none
    else Decimal.quantizeCents (Decimal.mul (Decimal.div paid.toRat total.toRat) 100)
  | _, _ => none

end ObservationPoint

/-! ## The read paths -/

/-- The tables of the internal source, by the primary key that its slug names. -/
structure InternalTables where
  internalSource : Nat
  observations : List InternalObservation
  conflicts : List MetricConflict

namespace InternalTables

variable (tables : InternalTables)

/-- `_preferred_queryset` -/
def preferred : List InternalObservation :=
  tables.observations.filter fun row =>
    row.source = tables.internalSource ∧ row.isPreferredForDate = true ∧
      row.qualityStatus ≠ .superseded

/-- Not before and not after, where there is an end. -/
def InRange (dateFrom dateTo : Option Date) (date : Date) : Prop :=
  (∀ first, dateFrom = some first → first ≤ date) ∧ ∀ last, dateTo = some last → date ≤ last

instance (dateFrom dateTo : Option Date) (date : Date) : Decidable (InRange dateFrom dateTo date) :=
  decidable_of_iff (dateFrom.all (· ≤ date) ∧ dateTo.all (date ≤ ·)) (by
    unfold InRange
    cases dateFrom <;> cases dateTo <;> simp)

def unresolved (dateFrom dateTo : Option Date) : List MetricConflict :=
  tables.conflicts.filter fun conflict =>
    conflict.source = tables.internalSource ∧ conflict.resolved = false ∧
      InRange dateFrom dateTo conflict.observationDate

/-- `_conflicted_fields_by_date` -/
def conflictedFieldsByDate (dateFrom dateTo : Option Date) : Dict Date (Finset MetricField) :=
  (tables.unresolved dateFrom dateTo).foldl (fun conflicted conflict =>
    match List.lookup conflict.metric metricFields with
    | some field => conflicted.set conflict.observationDate
        (insert field ((conflicted.get? conflict.observationDate).getD ∅))
    | none => conflicted) Dict.empty

/-- The fields that are in conflict on the day of an observation, and those that its own figures
rule out. -/
def pointOf (conflicted : Dict Date (Finset MetricField)) (observation : InternalObservation) :
    ObservationPoint where
  observation := observation
  withheld := (conflicted.get? observation.observationDate).getD ∅ ∪
    (impossibleMetrics observation.facts).toFinset

/-- `get_internal_membership_latest` -/
def getInternalMembershipLatest : Option ObservationPoint :=
  (minOn? (fun row : InternalObservation =>
    toLex (OrderDual.toDual row.observationDate, OrderDual.toDual row.pk))
    tables.preferred).map fun observation =>
      pointOf (tables.conflictedFieldsByDate (some observation.observationDate)
        (some observation.observationDate))
        observation

/-- `get_internal_membership_observations` -/
def getInternalMembershipObservations (dateFrom dateTo : Option Date)
    (metric : Option MetricField) :
    List ObservationPoint :=
  let conflicted := tables.conflictedFieldsByDate dateFrom dateTo
  let rows := tables.preferred.filter fun row => InRange dateFrom dateTo row.observationDate
  ((sortOn (fun row : InternalObservation => toLex (row.observationDate, row.pk)) rows).map
    (pointOf conflicted)).filter
    fun point => metric.all fun metric => (point.value metric).isSome

/-- `get_observation_detail` -/
def getObservationDetail (observationId : Nat) : Option ObservationPoint :=
  (tables.observations.find? fun row => row.source = tables.internalSource ∧
      row.pk = observationId).map fun observation =>
    pointOf (tables.conflictedFieldsByDate (some observation.observationDate)
      (some observation.observationDate)) observation

end InternalTables

/-- A bounded series of observation points, plus what was left out. -/
structure InternalTrend where
  points : List ObservationPoint
  dateFrom : Option Date
  dateTo : Option Date
  withheldMetricPoints : Nat
  reviewRequiredPoints : Nat

/-- `InternalTrend.series` -/
def InternalTrend.series (trend : InternalTrend) (field : MetricField) : List (Date × Figure) :=
  trend.points.filterMap fun point => (point.value field).map fun value =>
    (point.observationDate, value)

/-- `get_internal_membership_trend` -/
def InternalTables.getInternalMembershipTrend (tables : InternalTables)
    (dateFrom dateTo : Option Date) : InternalTrend :=
  let points := tables.getInternalMembershipObservations dateFrom dateTo none
  ⟨points, dateFrom, dateTo, (points.map (·.withheld.card)).sum,
    points.countP fun point =>
      point.observation.qualityStatus = .reviewRequired ∨
        point.observation.qualityStatus = .conflicted⟩

structure FeeRow where
  observationDate : Date
  received : Option Figure
  budget : Option Figure
  reportedPct : Option Figure
  computedPct : Option ℚ
  reportedWithheld : Bool
  isYearPrecision : Bool
  deriving DecidableEq

def feeRow (point : ObservationPoint) : Option FeeRow :=
  if point.value .membershipFeesReceivedEur = none ∧
    point.value .membershipFeeBudgetEur = none then none
  else some
    { observationDate := point.observationDate
      received := point.value .membershipFeesReceivedEur
      budget := point.value .membershipFeeBudgetEur
      reportedPct := point.value .membershipFeeCollectionPctReported
      computedPct := point.computedCollectionPct
      reportedWithheld := .membershipFeeCollectionPctReported ∈ point.withheld
      isYearPrecision := point.isYearPrecision }

/-- `get_fee_collection_trend` -/
def InternalTables.getFeeCollectionTrend (tables : InternalTables) (dateFrom dateTo : Option Date) :
    List FeeRow :=
  (tables.getInternalMembershipObservations dateFrom dateTo none).filterMap feeRow

/-! ## What is kept back -/

/-- What a report of the same figures is assessed to keep back, under the conflicts of its day. -/
def InternalTables.assessed (tables : InternalTables) (observation : InternalObservation)
    (isProvisional : Bool)
    (codes : List String) : Finset MetricField :=
  (assess observation.facts
    ((tables.unresolved (some observation.observationDate)
      (some observation.observationDate)).map (·.metric))
    isProvisional codes).withheldMetrics.toFinset

/-- A reported percentage that disagrees with the amounts beside it. -/
def MetricFacts.Mismatched (facts : MetricFacts) : Prop :=
  collectionIsConsistent facts.membershipFeeCollectionPctReported facts.membershipFeesReceivedEur
    facts.membershipFeeBudgetEur = some false

instance (facts : MetricFacts) : Decidable facts.Mismatched := by
  unfold MetricFacts.Mismatched
  infer_instance

/-- A point keeps back what an assessment does, and with it a percentage that disagrees with its
amounts. -/
structure InternalTables.DecidedOnce (tables : InternalTables)
    (point : ObservationPoint) : Prop where
  withheld : ∀ isProvisional codes, point.withheld =
    tables.assessed point.observation isProvisional codes
  mismatched : point.observation.facts.Mismatched →
    point.value .membershipFeeCollectionPctReported = none

inductive ReadPath
  | latest
  | observations (dateFrom dateTo : Option Date) (metric : Option MetricField)
  | detail (observationId : Nat)

def InternalTables.read (tables : InternalTables) : ReadPath → List ObservationPoint
  | .latest => tables.getInternalMembershipLatest.toList
  | .observations dateFrom dateTo metric =>
    tables.getInternalMembershipObservations dateFrom dateTo metric
  | .detail observationId => (tables.getObservationDetail observationId).toList

/-- The reported percentage agrees with the amounts or cannot be checked, or is in conflict
anyway. -/
def InternalTables.Undisputed (tables : InternalTables)
    (observation : InternalObservation) : Prop :=
  observation.facts.Mismatched →
    ∃ conflict ∈ tables.unresolved (some observation.observationDate)
      (some observation.observationDate),
      conflict.metric = "membership_fee_collection_pct"

section Withheld

variable {tables : InternalTables} {dateFrom dateTo : Option Date}

theorem mem_unresolved {conflict : MetricConflict} : conflict ∈ tables.unresolved dateFrom dateTo ↔
    conflict ∈ tables.conflicts ∧ conflict.source = tables.internalSource ∧
    conflict.resolved = false ∧
      InternalTables.InRange dateFrom dateTo conflict.observationDate := by
  unfold InternalTables.unresolved
  rw [List.mem_filter, decide_eq_true_eq]

/-- The conflicted fields of a day are those its conflicts name. -/
theorem mem_conflictedFieldsByDate {date : Date} {field : MetricField} :
    field ∈ ((tables.conflictedFieldsByDate dateFrom dateTo).get? date).getD ∅ ↔
      ∃ conflict ∈ tables.unresolved dateFrom dateTo, conflict.observationDate = date ∧
        List.lookup conflict.metric metricFields = some field := by
  have hfold (conflicts : List MetricConflict) (d : Dict Date (Finset MetricField)) :
      field ∈ ((conflicts.foldl (fun conflicted conflict =>
        match List.lookup conflict.metric metricFields with
        | some field => conflicted.set conflict.observationDate
            (insert field ((conflicted.get? conflict.observationDate).getD ∅))
        | none => conflicted) d).get? date).getD ∅ ↔
        field ∈ (d.get? date).getD ∅ ∨ ∃ conflict ∈ conflicts, conflict.observationDate = date ∧
          List.lookup conflict.metric metricFields = some field := by
    induction conflicts generalizing d with
    | nil => simp
    | cons conflict rest ih =>
      rw [List.foldl_cons, ih]
      cases hlookup : List.lookup conflict.metric metricFields with
      | none => simp [hlookup]
      | some named =>
        dsimp only
        by_cases hdate : conflict.observationDate = date
        · rw [hdate, Dict.get?_set_self, Option.getD_some, Finset.mem_insert]
          simp only [List.mem_cons, exists_eq_or_imp, hlookup, hdate, Option.some.injEq, true_and]
          rw [eq_comm (a := field)]
          tauto
        · rw [Dict.get?_set_ne _ _ (Ne.symm hdate)]
          simp only [List.mem_cons, exists_eq_or_imp, hdate, false_and, false_or]
  unfold InternalTables.conflictedFieldsByDate
  rw [hfold]
  exact or_iff_right (by simp [Dict.get?, Dict.empty])

/-- A point that a read path puts together, from the conflicts of some range of dates around its
own. -/
structure InternalTables.Assembled (tables : InternalTables) (point : ObservationPoint) : Prop where
  of : ∃ dateFrom dateTo, InternalTables.InRange dateFrom dateTo point.observationDate ∧
    point = InternalTables.pointOf (tables.conflictedFieldsByDate dateFrom dateTo) point.observation

theorem inRange_self (date : Date) : InternalTables.InRange (some date) (some date) date :=
  ⟨fun _ h => (Option.some.inj h) ▸ le_refl _, fun _ h => (Option.some.inj h) ▸ le_refl _⟩

/-- Every read path puts its points together in the same way. -/
theorem assembled_of_mem_read {path : ReadPath} {point : ObservationPoint}
    (h : point ∈ tables.read path) :
    tables.Assembled point := by
  cases path with
  | latest =>
    obtain ⟨observation, -, hpoint⟩ := Option.map_eq_some_iff.mp (Option.mem_toList.mp h)
    subst hpoint
    exact ⟨_, _, inRange_self _, rfl⟩
  | observations dateFrom dateTo metric =>
    obtain ⟨row, hrow, hpoint⟩ := List.mem_map.mp (List.mem_of_mem_filter h)
    have hrange := (List.mem_filter.mp (mem_sortOn.mp hrow)).2
    subst hpoint
    exact ⟨_, _, of_decide_eq_true hrange, rfl⟩
  | detail observationId =>
    obtain ⟨observation, -, hpoint⟩ := Option.map_eq_some_iff.mp (Option.mem_toList.mp h)
    subst hpoint
    exact ⟨_, _, inRange_self _, rfl⟩

/-- What a point keeps back. -/
theorem InternalTables.Assembled.mem_withheld {point : ObservationPoint}
    (h : tables.Assembled point)
    {field : MetricField} : field ∈ point.withheld ↔
      (∃ conflict ∈ tables.unresolved (some point.observationDate) (some point.observationDate),
        List.lookup conflict.metric metricFields = some field) ∨
        field ∈ impossibleMetrics point.observation.facts := by
  obtain ⟨dateFrom, dateTo, hrange, hpoint⟩ := h.of
  have hwithheld : point.withheld =
      ((tables.conflictedFieldsByDate dateFrom dateTo).get? point.observationDate).getD ∅ ∪
      (impossibleMetrics point.observation.facts).toFinset :=
        congrArg ObservationPoint.withheld hpoint
  rw [hwithheld, Finset.mem_union, List.mem_toFinset, mem_conflictedFieldsByDate]
  refine or_congr_left ⟨?_, ?_⟩
  · rintro ⟨conflict, hconflict, hdate, hlookup⟩
    obtain ⟨hmem, hsource, hopen, -⟩ := mem_unresolved.mp hconflict
    exact ⟨conflict, mem_unresolved.mpr ⟨hmem, hsource, hopen, hdate ▸ inRange_self _⟩, hlookup⟩
  · rintro ⟨conflict, hconflict, hlookup⟩
    obtain ⟨hmem, hsource, hopen, hfirst, hlast⟩ := mem_unresolved.mp hconflict
    have hdate : conflict.observationDate = point.observationDate :=
      le_antisymm (hlast _ rfl) (hfirst _ rfl)
    exact ⟨conflict, mem_unresolved.mpr ⟨hmem, hsource, hopen, hdate ▸ hrange⟩, hdate, hlookup⟩

/-- What an assessment keeps back. -/
theorem mem_assessed {observation : InternalObservation} {isProvisional : Bool}
    {codes : List String}
    {field : MetricField} : field ∈ tables.assessed observation isProvisional codes ↔
      field ∈ impossibleMetrics observation.facts ∨
        (observation.facts.Mismatched ∧ field = .membershipFeeCollectionPctReported) ∨
        ∃ conflict ∈ tables.unresolved (some observation.observationDate)
          (some observation.observationDate),
          List.lookup conflict.metric metricFields = some field := by
  unfold InternalTables.assessed assess MetricFacts.Mismatched
  dsimp only
  rw [List.mem_toFinset, List.mem_dedup, List.mem_append, List.mem_append, or_assoc,
    List.mem_filterMap]
  refine or_congr_right (or_congr ?_ ?_)
  · cases collectionIsConsistent observation.facts.membershipFeeCollectionPctReported
      observation.facts.membershipFeesReceivedEur observation.facts.membershipFeeBudgetEur with
    | none => simp
    | some consistent => cases consistent <;> simp
  · simp only [List.mem_map, exists_exists_and_eq_and]

/-- Only the reported percentage is ever named by its metric. -/
theorem lookup_collectionPct {metric : String} :
    List.lookup metric metricFields = some .membershipFeeCollectionPctReported ↔
      metric = "membership_fee_collection_pct" := by
  constructor
  · intro h
    obtain ⟨before, rest, hfields, -⟩ := List.lookup_eq_some_iff.mp h
    have hmem : (metric, MetricField.membershipFeeCollectionPctReported) ∈ metricFields :=
      hfields ▸ List.mem_append_right _ List.mem_cons_self
    simpa [metricFields] using hmem
  · rintro rfl
    decide

theorem not_mem_impossibleMetrics (facts : MetricFacts) :
    MetricField.membershipFeeCollectionPctReported ∉ impossibleMetrics facts := by
  unfold impossibleMetrics
  split
  · split <;> decide
  · decide

/-- A read path keeps back what an assessment does exactly where the reported percentage agrees with
the amounts, cannot be checked, or is in conflict anyway. -/
theorem decidedOnce_iff {path : ReadPath} {point : ObservationPoint}
    (h : point ∈ tables.read path) :
    tables.DecidedOnce point ↔ tables.Undisputed point.observation := by
  have hassembled := assembled_of_mem_read h
  constructor
  · intro hdecided hmismatched
    have hassessed : MetricField.membershipFeeCollectionPctReported ∈ tables.assessed
        point.observation false [] :=
      mem_assessed.mpr (Or.inr (Or.inl ⟨hmismatched, rfl⟩))
    rw [← hdecided.withheld] at hassessed
    cases hassembled.mem_withheld.mp hassessed with
    | inl hconflict =>
      obtain ⟨conflict, hmem, hlookup⟩ := hconflict
      exact ⟨conflict, hmem, lookup_collectionPct.mp hlookup⟩
    | inr himpossible => exact absurd himpossible (not_mem_impossibleMetrics _)
  · intro hundisputed
    have hnamed : point.observation.facts.Mismatched →
        ∃ conflict ∈ tables.unresolved (some point.observationDate) (some point.observationDate),
          List.lookup conflict.metric metricFields = some .membershipFeeCollectionPctReported := by
      intro hmismatched
      obtain ⟨conflict, hmem, hmetric⟩ := hundisputed hmismatched
      exact ⟨conflict, hmem, lookup_collectionPct.mpr hmetric⟩
    constructor
    · intro isProvisional codes
      apply Finset.ext
      intro field
      rw [hassembled.mem_withheld, mem_assessed]
      constructor
      · exact fun h => h.elim (fun hconflict => Or.inr (Or.inr hconflict)) Or.inl
      · rintro (himpossible | ⟨hmismatched, rfl⟩ | hconflict)
        · exact Or.inr himpossible
        · exact Or.inl (hnamed hmismatched)
        · exact Or.inl hconflict
    · intro hmismatched
      exact if_pos (hassembled.mem_withheld.mpr (Or.inl (hnamed hmismatched)))

end Withheld

/-- Half of the budget was collected, and eighty percent of it were reported. -/
def julyRow : InternalObservation where
  pk := 1
  source := 1
  artifact := 1
  importRun := 1
  observationDate := .of 2026 7 31
  sourceKind := .mergedSameDocument
  reportedYear := some 2026
  facts :=
    ⟨some 3412, some 3233, some ⟨50000, -2⟩, some ⟨100000, -2⟩, some ⟨800000, -4⟩, none, none, none⟩
  extractionConfidence := .high
  qualityStatus := .reviewRequired
  isPreferredForDate := true
  supersedes := none
  sourceDocument := none
  sourceNote := ""
  warningCodes := ["collection_pct_mismatch"]
  publishedAt := none
  observationDatePrecision := .day

def julyTables : InternalTables := ⟨1, [julyRow], []⟩

theorem julyRow_mismatched : julyRow.facts.Mismatched := by decide +kernel

/-- The percentage that the import withheld is shown. -/
theorem mismatch_shown : ∃ point ∈ julyTables.read .latest, ¬julyTables.DecidedOnce point := by
  refine ⟨InternalTables.pointOf (julyTables.conflictedFieldsByDate (some julyRow.observationDate)
    (some julyRow.observationDate)) julyRow, List.mem_singleton.mpr rfl, fun h => ?_⟩
  exact absurd (h.mismatched julyRow_mismatched) (by decide)

/-- The same report, with its percentage in conflict. -/
def disputedTables : InternalTables :=
  { julyTables with
    conflicts := [⟨1, julyRow.observationDate, "membership_fee_collection_pct", false⟩] }

theorem decidedOnce_disputed : disputedTables.DecidedOnce
    (InternalTables.pointOf (disputedTables.conflictedFieldsByDate (some julyRow.observationDate)
      (some julyRow.observationDate)) julyRow) := by
  refine (@decidedOnce_iff disputedTables .latest _ (List.mem_singleton.mpr rfl)).mpr fun _ => ?_
  exact ⟨_, List.mem_singleton.mpr rfl, rfl⟩

end Dashkoda.Membership
