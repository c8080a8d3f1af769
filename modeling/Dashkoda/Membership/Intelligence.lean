import Dashkoda.Core.Formatting
import Dashkoda.Membership.Comparisons
import Dashkoda.Membership.InternalSelectors

/-!
# The membership headlines

What the page says about an observation and the history behind it.  A figure that is kept back
reaches neither the headlines nor what is derived from them.
-/

open Lib

namespace Dashkoda.Membership

open Core.Formatting (integer signedInteger signedPercent percent percentagePoints euros longDate)

/-- How far from its anniversary a year-to-date baseline may sit. -/
def YTD_TOLERANCE_DAYS : Nat := 15

def TONE_POSITIVE : String := "positive"

def TONE_NEGATIVE : String := "negative"

def TONE_NEUTRAL : String := "neutral"

/-- `_direction` -/
def direction : Option ℚ → String
  | none => "flat"
  | some value => if value = 0 then "flat" else if 0 < value then "up" else "down"

/-- `_tone` -/
def tone (value : Option ℚ) (risingIsGood : Bool) : String :=
  match value with
  | none => TONE_NEUTRAL
  | some value =>
    if value = 0 then TONE_NEUTRAL
    else if (if risingIsGood then 0 < value else value < 0) then TONE_POSITIVE else TONE_NEGATIVE

structure MembershipHeadline where
  key : String
  label : String
  value : String
  detail : String
  change : String
  changeLabel : String
  direction : String
  tone : String
  comparisonLabel : String
  note : String
  meterPct : Option ℚ
  deriving DecidableEq

structure MovementFigure where
  key : String
  value : String
  label : String
  change : String
  changeLabel : String
  direction : String
  tone : String
  comparisonLabel : String
  deriving DecidableEq

structure MembershipMovementSummary where
  observationLabel : String
  figures : List MovementFigure
  joined : String
  removed : String
  difference : String
  differenceDirection : String
  differenceTone : String
  suspended : String
  suspendedNote : String
  deriving DecidableEq

/-- `_series` -/
def series (points : List ObservationPoint) (field : MetricField) : List (Date × ℚ) :=
  points.filterMap fun point => (point.value field).map fun value =>
    (point.observationDate, value.toRat)

/-- `_share_series` -/
def shareSeries (points : List ObservationPoint) : List (Date × ℚ) :=
  points.filterMap fun point => point.paidMemberSharePct.map fun share =>
    (point.observationDate, share)

def collectionSeries (points : List ObservationPoint) : List (Date × ℚ) :=
  points.filterMap fun point => point.computedCollectionPct.map fun share =>
    (point.observationDate, share)

/-- `_comparison_label` -/
def comparisonLabel (comparison : Comparison) : String :=
  match comparison.baselineDate with
  | none => ""
  | some date => "vs " ++ longDate date

/-- `f"aasta tagasi · {_comparison_label(comparison)[3:]}"`, where there is a comparison. -/
def yearAgoLabel (comparison : Comparison) : String :=
  if comparison.isAvailable then
    "aasta tagasi · " ++ String.ofList ((comparisonLabel comparison).toList.drop 3)
  else ""

/-- The movement of a share since the comparison. -/
def pointsMoved (share : Option ℚ) (comparison : Comparison) : Option ℚ :=
  if comparison.isAvailable then shareChange share comparison.baseline else none

/-- What a headline says about the movement of a share. -/
def movedLabel (what : String) (moved : Option ℚ) : String :=
  if moved.isSome then what ++ " " ++ percentagePoints
    moved ++ " võrreldes aastataguse vaatlusega" else ""

def membersHeadline (total : Option ℚ) (comparison : Comparison) : MembershipHeadline where
  key := "total_members"
  label := "Liikmeid kokku"
  value := integer total
  detail := ""
  change := if comparison.isAvailable then
      signedInteger comparison.absolute ++
        (if comparison.hasRelative then " · " ++ signedPercent comparison.relativePct else "")
    else ""
  changeLabel := if comparison.isAvailable then
      signedInteger comparison.absolute ++ " võrreldes aastataguse vaatlusega"
    else ""
  direction := direction comparison.absolute
  tone := tone comparison.absolute true
  comparisonLabel := yearAgoLabel comparison
  note := if comparison.isAvailable then "" else comparison.unavailableReason
  meterPct := none

/-- The headline of the paid share; its change is the share's, and the gap is members who have not
paid. -/
def paidHeadline (total paid share : Option ℚ) (comparison : Comparison) : MembershipHeadline :=
  let moved := pointsMoved share comparison
  let shareLabel := if share.isSome then percent share else ""
  { key := "members_and_paid"
    label := "Tasunud liikmeid"
    value := if paid.isSome then
        (if shareLabel = "" then integer paid else integer paid ++ " · " ++ shareLabel)
      else ""
    detail := match total, paid with
      | some total, some paid => "vahe " ++ integer (some (total - paid))
      | _, _ => "Vahet ei saa arvutada, sest üks pooltest puudub."
    change := if moved.isSome then percentagePoints moved else ""
    changeLabel := movedLabel "tasunute osakaal" moved
    direction := direction moved
    tone := tone moved true
    comparisonLabel := yearAgoLabel comparison
    note := if comparison.isAvailable then "" else comparison.unavailableReason
    meterPct := none }

/-- The value and the note of the fee headline: the percentage the amounts imply, or else the
reported one. -/
def feeValue (computed reported : Option ℚ) (reportedWithheld : Bool) : String × String :=
  match computed, reported with
  | some computed, _ => (percent (some computed),
      if reportedWithheld then
        "Aruandes esitatud protsent ei klapi summadega ja on välja jäetud." else "")
  | none, some reported =>
    (percent (some reported), "Aruandes esitatud protsent; summadest seda arvutada ei saa.")
  | none, none => ("", "Laekumise protsenti ei saa arvutada.")

/-- `_fee_headline` -/
def feeHeadline (latest : ObservationPoint) (history : List ObservationPoint) :
    Except ValueError MembershipHeadline := do
  let received := (latest.value .membershipFeesReceivedEur).map Figure.toRat
  let budget := (latest.value .membershipFeeBudgetEur).map Figure.toRat
  let computed := latest.computedCollectionPct
  let reported := (latest.value .membershipFeeCollectionPctReported).map Figure.toRat
  let reportedWithheld := decide (MetricField.membershipFeeCollectionPctReported ∈ latest.withheld)
  let comparison ← compareWith computed (some latest.observationDate)
    (collectionSeries history) 1 YOY_TOLERANCE_DAYS []
  let moved := pointsMoved computed comparison
  return {
    key := "fee_collection"
    label := "Liikmemaksu laekumine"
    value := (feeValue computed reported reportedWithheld).1
    detail := if received.isSome ∧ budget.isSome then euros received ++ " / " ++ euros budget
      else if received.isSome then euros received else ""
    change := if moved.isSome then percentagePoints moved else ""
    changeLabel := movedLabel "laekumine" moved
    direction := direction moved
    tone := tone moved true
    comparisonLabel := yearAgoLabel comparison
    note := (feeValue computed reported reportedWithheld).2
    meterPct := if received.isSome ∧ budget.isSome then computed.map fun computed =>
      min 100 (max 0 computed) else none }

/-- `build_headlines` -/
def buildHeadlines (latest : Option ObservationPoint) (history : List ObservationPoint) :
    Except ValueError (List MembershipHeadline) :=
  match latest with
  | none => .ok []
  | some latest => do
    let on := some latest.observationDate
    let total := (latest.value .totalMembers).map Figure.toRat
    let paid := (latest.value .paidMembers).map Figure.toRat
    let totalComparison ← compareWith total on (series history .totalMembers) 1
      YOY_TOLERANCE_DAYS []
    let share := latest.paidMemberSharePct
    let shareComparison ← compareWith share on (shareSeries history) 1 YOY_TOLERANCE_DAYS []
    let fee ← feeHeadline latest history
    return [membersHeadline total totalComparison,
      paidHeadline total paid share shareComparison, fee]

/-- `_movement_figure` -/
def movementFigure (key : String) (value : ℚ) (label : String) (risingIsGood : Bool)
    (latest : ObservationPoint)
    (history : List ObservationPoint) : Except ValueError MovementFigure := do
  let field : MetricField := if key = "joined" then .newMembersYtd else .removedMembersYtd
  let comparison ← compareWith (some value) (some latest.observationDate)
    (series history field) 1 YTD_TOLERANCE_DAYS []
  return match comparison.isAvailable, comparison.relativePct, comparison.baselineDate with
    | true, some relative, some baselineDate =>
      { key := key
        value := integer (some value)
        label := label
        change := signedPercent (some relative)
        changeLabel := signedPercent (some relative) ++ " võrreldes " ++ toString
          baselineDate.year ++ ". aasta sama ajaga"
        direction := direction comparison.absolute
        tone := tone comparison.absolute risingIsGood
        comparisonLabel := "vs " ++ toString baselineDate.year }
    | _, _, _ => ⟨key, integer (some value), label, "", "", "", TONE_NEUTRAL, ""⟩

def reportedFigure (key : String) (value : Option ℚ) (label : String) (risingIsGood : Bool)
    (latest : ObservationPoint)
    (history : List ObservationPoint) : Except ValueError (List MovementFigure) :=
  match value with
  | none => .ok []
  | some value => do
    let figure ← movementFigure key value label risingIsGood latest history
    return [figure]

/-- `build_movement_summary` -/
def buildMovementSummary (latest : Option ObservationPoint) (history : List ObservationPoint) :
    Except ValueError (Option MembershipMovementSummary) :=
  match latest with
  | none => .ok none
  | some latest => do
    let joined := (latest.value .newMembersYtd).map Figure.toRat
    let removed := (latest.value .removedMembersYtd).map Figure.toRat
    let suspended := (latest.value .suspendedMembers).map Figure.toRat
    let difference := joined.bind fun joined => removed.map fun removed => joined - removed
    let arrivals ← reportedFigure "joined" joined "liitunud" true latest history
    -- a rise in departures is an increase and bad news
    let departures ← reportedFigure "removed" removed "väljaarvatud" false latest history
    let suspensions := suspended.toList.map fun suspended =>
      (⟨"suspended", integer (some suspended), "peatatud", "", "", "", TONE_NEUTRAL, ""⟩ :
        MovementFigure)
    let figures := arrivals ++ departures ++ suspensions
    return if figures = [] then none
      else some
        { observationLabel := toString latest.observationDate.year ++ ". aasta algusest"
          figures := figures
          joined := integer joined
          removed := integer removed
          difference := if difference.isSome then signedInteger difference else ""
          differenceDirection := direction difference
          differenceTone := tone difference true
          suspended := integer suspended
          suspendedNote := if suspended.isSome then
            "Peatatud liikmeid seisuga " ++ longDate latest.observationDate else "" }

/-! ## What is kept back does not show -/

/-- Two points of one date that keep the same metrics back and agree on every other figure. -/
structure SameShown (p q : ObservationPoint) : Prop where
  date : p.observationDate = q.observationDate
  precision : p.observation.observationDatePrecision = q.observation.observationDatePrecision
  withheld : p.withheld = q.withheld
  figures : ∀ field, field ∉ p.withheld → p.observation.facts.figure field =
    q.observation.facts.figure field

namespace SameShown

variable {p q : ObservationPoint}

theorem value (h : SameShown p q) : p.value = q.value := by
  funext field
  unfold ObservationPoint.value
  rw [← h.withheld]
  by_cases hfield : field ∈ p.withheld
  · rw [if_pos hfield, if_pos hfield]
  · rw [if_neg hfield, if_neg hfield]
    exact h.figures field hfield

theorem amount (h : SameShown p q) : p.amount = q.amount := by
  funext field
  unfold ObservationPoint.amount
  rw [h.value]

theorem computedCollectionPct (h : SameShown p q) :
    p.computedCollectionPct = q.computedCollectionPct := by
  unfold ObservationPoint.computedCollectionPct
  rw [h.amount]

theorem paidMemberSharePct (h : SameShown p q) : p.paidMemberSharePct = q.paidMemberSharePct := by
  unfold ObservationPoint.paidMemberSharePct
  rw [h.value]

theorem feeRow (h : SameShown p q) : feeRow p = feeRow q := by
  unfold Membership.feeRow ObservationPoint.isYearPrecision
  rw [h.value, h.date, h.withheld, h.precision, h.computedCollectionPct]

end SameShown

section Histories

variable {history history' : List ObservationPoint}

/-- What is read from each point of a history is the same where it is the same for points that show
the same. -/
theorem filterMap_sameShown {β : Type} (f : ObservationPoint → Option β)
    (hf : ∀ p q, SameShown p q → f p = f q)
    (h : List.Forall₂ SameShown history history') : history.filterMap f = history'.filterMap f := by
  induction h with
  | nil => rfl
  | cons hpoint _ ih => rw [List.filterMap_cons, List.filterMap_cons, hf _ _ hpoint, ih]

theorem series_sameShown (field : MetricField) (h : List.Forall₂ SameShown history history') :
    series history field = series history' field :=
  filterMap_sameShown _ (fun p q hpoint => by rw [hpoint.value, hpoint.date]) h

theorem shareSeries_sameShown (h : List.Forall₂ SameShown history history') :
    shareSeries history = shareSeries history' :=
  filterMap_sameShown _ (fun p q hpoint => by rw [hpoint.paidMemberSharePct, hpoint.date]) h

theorem collectionSeries_sameShown (h : List.Forall₂ SameShown history history') :
    collectionSeries history = collectionSeries history' :=
  filterMap_sameShown _ (fun p q hpoint => by rw [hpoint.computedCollectionPct, hpoint.date]) h

theorem feeHeadline_sameShown {latest latest' : ObservationPoint}
    (hlatest : SameShown latest latest')
    (h : List.Forall₂ SameShown history history') :
      feeHeadline latest history = feeHeadline latest' history' := by
  unfold feeHeadline
  rw [hlatest.value, hlatest.computedCollectionPct, hlatest.withheld, hlatest.date,
    collectionSeries_sameShown h]

theorem buildHeadlines_sameShown {latest latest' : ObservationPoint}
    (hlatest : SameShown latest latest')
    (h : List.Forall₂ SameShown history history') :
    buildHeadlines (some latest) history = buildHeadlines (some latest') history' := by
  unfold buildHeadlines
  dsimp only
  rw [hlatest.value, hlatest.paidMemberSharePct, hlatest.date, series_sameShown .totalMembers h,
    shareSeries_sameShown h, feeHeadline_sameShown hlatest h]

theorem reportedFigure_sameShown (key : String) (value : Option ℚ) (label : String)
    (risingIsGood : Bool) {latest latest' : ObservationPoint} (hlatest : SameShown latest latest')
    (h : List.Forall₂ SameShown history history') :
    reportedFigure key value label risingIsGood latest history =
      reportedFigure key value label risingIsGood latest' history' := by
  unfold reportedFigure movementFigure
  dsimp only
  rw [hlatest.date, series_sameShown _ h]

theorem buildMovementSummary_sameShown {latest latest' : ObservationPoint}
    (hlatest : SameShown latest latest')
    (h : List.Forall₂ SameShown history history') :
    buildMovementSummary (some latest) history = buildMovementSummary (some latest') history' := by
  unfold buildMovementSummary
  dsimp only
  rw [hlatest.value, hlatest.date, reportedFigure_sameShown "joined" _ _ _ hlatest h,
    reportedFigure_sameShown "removed" _ _ _ hlatest h]

end Histories

/-- Two readings of the page that agree on every figure that is shown: of the latest observation, of
the history behind it, of a trend, and of the fees of some range of dates. -/
structure SameReadings (latest latest' : Option ObservationPoint)
    (history history' : List ObservationPoint) (trend trend' : InternalTrend)
    (tables tables' : InternalTables)
    (dateFrom dateTo : Option Date) : Prop where
  latest : Option.Rel SameShown latest latest'
  history : List.Forall₂ SameShown history history'
  trend : List.Forall₂ SameShown trend.points trend'.points
  fees : List.Forall₂ SameShown (tables.getInternalMembershipObservations dateFrom dateTo none)
    (tables'.getInternalMembershipObservations dateFrom dateTo none)

/-- Everything that is shown of them is the same. -/
theorem withheld_unseen {latest latest' : Option ObservationPoint}
    {history history' : List ObservationPoint} {trend trend' : InternalTrend}
    {tables tables' : InternalTables} {dateFrom dateTo : Option Date}
    (h : SameReadings latest latest' history history' trend trend' tables tables' dateFrom dateTo) :
    buildHeadlines latest history = buildHeadlines latest' history' ∧
      buildMovementSummary latest history = buildMovementSummary latest' history' ∧
      (∀ field, trend.series field = trend'.series field) ∧
      tables.getFeeCollectionTrend dateFrom dateTo =
        tables'.getFeeCollectionTrend dateFrom dateTo := by
  obtain ⟨hlatest, hhistory, htrend, hfees⟩ := h
  refine ⟨?_, ?_, fun field => ?_, ?_⟩
  · cases hlatest with
    | none => rfl
    | some hlatest => exact buildHeadlines_sameShown hlatest hhistory
  · cases hlatest with
    | none => rfl
    | some hlatest => exact buildMovementSummary_sameShown hlatest hhistory
  · unfold InternalTrend.series
    exact filterMap_sameShown _ (fun p q hpoint => by rw [hpoint.value, hpoint.date]) htrend
  · unfold InternalTables.getFeeCollectionTrend
    exact filterMap_sameShown _ (fun p q hpoint => hpoint.feeRow) hfees

def lastJulyRow : InternalObservation :=
  { julyRow with
    pk := 2
    observationDate := .of 2025 7 31
    reportedYear := some 2025
    facts := ⟨some 3300, some 3100, some ⟨40000, -2⟩, some ⟨100000, -2⟩, none, some 12, none,
      some 7⟩ }

/-- Reports of two years, the later with an amount that is in conflict. -/
def contestedTables (received : Decimal) : InternalTables where
  internalSource := 1
  observations := [lastJulyRow, { julyRow with
    facts := ⟨some 3412, some 3233, some received, some ⟨100000, -2⟩, some ⟨800000, -4⟩, some 20,
      none, some 5⟩ }]
  conflicts := [⟨1, julyRow.observationDate, "membership_fees_received_eur", false⟩]

theorem sameReadings_contested (received received' : Decimal) :
    SameReadings (contestedTables received).getInternalMembershipLatest
      (contestedTables received').getInternalMembershipLatest
      ((contestedTables received).getInternalMembershipObservations none none none)
      ((contestedTables received').getInternalMembershipObservations none none none)
      ((contestedTables received).getInternalMembershipTrend none none)
      ((contestedTables received').getInternalMembershipTrend none none)
      (contestedTables received) (contestedTables received') none none := by
  have hpoints : List.Forall₂ SameShown
      ((contestedTables received).getInternalMembershipObservations none none none)
      ((contestedTables received').getInternalMembershipObservations none none none) := by
    refine .cons ⟨rfl, rfl, rfl, fun _ _ => rfl⟩
      (.cons ⟨rfl, rfl, rfl, fun field hfield => ?_⟩ .nil)
    cases field with
    | membershipFeesReceivedEur =>
      exact absurd (Finset.mem_union_left _ (Finset.mem_insert_self _ _)) hfield
    | _ => rfl
  refine ⟨.some ⟨rfl, rfl, rfl, fun field hfield => ?_⟩, hpoints, hpoints, hpoints⟩
  cases field with
  | membershipFeesReceivedEur =>
    exact absurd (Finset.mem_union_left _ (Finset.mem_insert_self _ _)) hfield
  | _ => rfl

/-- The members are compared with those of a year before; how much was received does not show while
it is in conflict. -/
theorem contested_unseen :
    let tables := contestedTables ⟨50000, -2⟩
    let revised := contestedTables ⟨99900, -2⟩
    let headlines (tables : InternalTables) := buildHeadlines tables.getInternalMembershipLatest
      (tables.getInternalMembershipObservations none none none)
    let movement (tables : InternalTables) := buildMovementSummary
      tables.getInternalMembershipLatest
      (tables.getInternalMembershipObservations none none none)
    (compareWith (some 3412) (some julyRow.observationDate)
        (series (tables.getInternalMembershipObservations none none none) .totalMembers) 1
        YOY_TOLERANCE_DAYS []).map (·.baseline) = .ok (some 3300) ∧
      tables.getInternalMembershipLatest.map (·.value .membershipFeesReceivedEur) = some none ∧
      headlines tables = headlines revised ∧ movement tables = movement revised ∧
      (∀ field, (tables.getInternalMembershipTrend none none).series field =
        (revised.getInternalMembershipTrend none none).series field) ∧
      tables.getFeeCollectionTrend none none = revised.getFeeCollectionTrend none none := by
  intro tables revised headlines movement
  exact ⟨by decide +kernel, by decide +kernel, withheld_unseen (sameReadings_contested _ _)⟩

end Dashkoda.Membership
