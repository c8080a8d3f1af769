import Dashkoda.Membership.Models

/-!
# How a record becomes the record in use

Electing the preferred observation of a date, retiring an observation, and publishing one.
Each service is a transaction of its caller: a refused call leaves the tables as they were.
-/

open Lib

namespace Dashkoda.Membership

open Sources (Time)

/-- `_candidate` -/
def candidate (row : Observation) : PreferenceCandidate where
  key := row.pk
  sourceKind := row.sourceKind
  extractionConfidence := row.extractionConfidence
  qualityStatus := row.qualityStatus
  tieBreaker := -row.pk

def competes (source : Nat) (date : Date) (row : Observation) : Bool :=
  row.source = source && row.observationDate = date && row.qualityStatus ≠ .superseded

def competingRows (rows : List Observation) (source : Nat) (date : Date) : List Observation :=
  rows.filter (competes source date)

/-- The row `choose_preferred` picks for one date, by its key. -/
def winnerKey (rows : List Observation) (source : Nat) (date : Date) : Option Nat :=
  (choosePreferred ((competingRows rows source date).map candidate)).map (·.key)

/-- `row.save(update_fields=["is_preferred_for_date"])` with the flag set. -/
def preferRow (rows : List Observation) (row : Observation) :
    Except MembershipError (List Observation) :=
  if rows.any fun r => r.pk ≠ row.pk && r.prefersDate row.source row.observationDate then
    .error (.integrity "internalobservation_one_preferred_per_date")
  else
    .ok (Table.updateWhere (·.pk = row.pk) (fun r => { r with isPreferredForDate := true }) rows)

/-- The previous holders are cleared before the winner is set. -/
def electPreferredForDate (rows : List Observation) (source : Nat) (date : Date) :
    Except MembershipError (List Observation) :=
  match winnerKey rows source date with
  | none => .ok rows
  | some pk =>
    let cleared := Table.updateWhere
      (fun r => competes source date r && r.isPreferredForDate && r.pk ≠ pk)
      (fun r => { r with isPreferredForDate := false }) rows
    match Table.get? rows pk with
    | none => .error .doesNotExist
    | some winner => if winner.isPreferredForDate then .ok cleared else preferRow cleared winner

/-- The two state fields a retired row moves. -/
def retired (row : Observation) : Observation :=
  { row with isPreferredForDate := false, qualityStatus := .superseded }

def supersedeObservation (rows : List Observation) (previous replacement : Nat) :
    Except MembershipError (List Observation) :=
  if previous = replacement then
    .error (.valueError "An observation cannot supersede itself.")
  else
    match Table.get? rows previous with
    | none => .error .doesNotExist
    | some _ => .ok (Table.updateWhere (·.pk = previous) retired rows)

/-- `published_at` is stamped once. -/
def stampPublished (rows : List Observation) (pk : Nat) (now : Time) : List Observation :=
  Table.updateWhere (fun r => r.pk = pk && r.publishedAt.isNone)
    (fun r => { r with publishedAt := some now }) rows

def publishObservation (rows : List Observation) (pk : Nat) (supersedes : Option Nat)
    (now : Time) : Except MembershipError (List Observation) :=
  match Table.get? rows pk with
  | none => .error .doesNotExist
  | some observation =>
    let stamped := stampPublished rows pk now
    match supersedes with
    | none => electPreferredForDate stamped observation.source observation.observationDate
    | some previous =>
      match supersedeObservation stamped previous pk with
      | .error e => .error e
      | .ok rows' => electPreferredForDate rows' observation.source observation.observationDate

/-- The previous current value of the month is retired, then the new one is set: no other row
holds the flag of the month by then. -/
def publishMonthlyValue (values : List MonthlyValue) (value : MonthlyValue) : List MonthlyValue :=
  let retiredValues := Table.updateWhere
    (fun r => r.pk ≠ value.pk &&
      r.currentFor value.source value.calendarYear value.calendarMonth)
    (fun r => { r with isCurrentForMonth := false, valueStatus := .superseded }) values
  Table.updateWhere (·.pk = value.pk) (fun r => { r with isCurrentForMonth := true }) retiredValues

end Dashkoda.Membership
