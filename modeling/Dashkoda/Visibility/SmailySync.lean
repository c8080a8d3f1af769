import Dashkoda.Visibility.DailyFeed
import Dashkoda.Visibility.Publishing
import Dashkoda.Visibility.Revisions
import Dashkoda.Visibility.SmailySegments

/-!
# Reading the lists of the mailing platform

A reading that differs from the current one of its day is published as a new revision of the day,
and the newsletters' figures with it.
-/

open Lib

namespace Dashkoda.Visibility

open Core (ContentIdentity FeedFacts FeedResult)
open Sources (ImportRun SourceArtifact Time)

def SMAILY_IMPORTER_NAME : String := "smaily_audience"

inductive ReadingAction
  | imported
  | revised
  | unchanged
  deriving DecidableEq, Repr

structure SmailyCounts where
  segmentsRead : Nat
  segmentRowsWritten : Nat
  newslettersAvailable : Nat
  newslettersWithheld : Nat
  apiRequests : Nat
  apiRetries : Nat
  deriving DecidableEq, Repr

structure SmailyReport where
  observedOn : Date
  action : ReadingAction
  counts : SmailyCounts
  withheld : List (VisibilityMetric × String)
  deriving DecidableEq

/-- `SyncReport.changed` -/
def SmailyReport.changed (report : SmailyReport) : Bool := report.action ≠ .unchanged

/-! ## The rows of a reading -/

def SegmentRow.store (row : SegmentRow) : Except VisibilityExn SegmentRow := do
  let segmentId ← column "segment_id" (Column.positiveInteger row.segmentId)
  let name ← column "name" (Column.varchar 200 row.name)
  let subscribers ← column "subscribers" (Column.positiveInteger row.subscribers)
  return ⟨segmentId, name, subscribers⟩

namespace SegmentReading

/-- What the rows of the reading hold once they are saved, under a revision. -/
def store (reading : SegmentReading) (revision : Nat) : Except VisibilityExn (List SegmentRow) := do
  let _ ← column "revision" (Column.positiveInteger revision)
  bulkCreate SegmentRow.store (·.segmentId) "smailysegment_unique_per_snapshot" reading.segments

/-- One snapshot and a row for each segment. -/
def rowsAdded (reading : SegmentReading) : Nat := 1 + reading.segments.length

end SegmentReading

/-! ## The newsletters' figures -/

section Figures

variable (source : SourceSlug → Nat) (now : Time)
  (draft : VisibilityMetric → Int → ObservationDraft)

/-- A figure that is in use already is not a correction. -/
def putFigure (observations : List VisibilityObservation) (item : VisibilityMetric × Int) :
    Except VisibilityExn (List VisibilityObservation) :=
  let new := draft item.1 item.2
  if (lockCurrent item.1 new.observationDate observations).any (·.value = item.2) then
    .ok observations
  else writeObservation source now new observations

/-- `_publish_newsletter_metrics` -/
def publishNewsletterMetrics (audiences : List NewsletterAudience)
    (observations : List VisibilityObservation) :
    Except VisibilityExn (List VisibilityObservation) :=
  audiences.foldlM (fun observations audience =>
    match audience.total with
    -- a withheld newsletter publishes nothing, and its last figure stays in use
    | none => .ok observations
    | some total => putFigure source now draft observations (audience.metric, total)) observations

end Figures

/-! ## One reading -/

section Reading

variable (setup : VisibilitySetup) (outage : DayOutage)

def smailyFacts : FeedFacts :=
  ⟨setup.source .smaily, SMAILY_IMPORTER_NAME, SMAILY_SCHEMA_VERSION⟩

/-- `_current_for` -/
def currentReading (db : VisibilityDb) (day : Date) : Option (DailySnapshot (List SegmentRow)) :=
  currentFor (setup.source .smaily) day db.smaily.snapshots

/-- The snapshot of `_publish`, with its rows. -/
def readingDraft (reading : SegmentReading) (opened : SourceArtifact × ImportRun) (now : Time)
    (content : List SegmentRow) : SnapshotDraft (List SegmentRow) :=
  ⟨setup.source .smaily, opened.1.pk, opened.2.pk, reading.observedOn, now,
    (reading.canonicalDigest setup).sha256, content⟩

def newsletterDraft (reading : SegmentReading) (opened : SourceArtifact × ImportRun)
    (metric : VisibilityMetric) (value : Int) : ObservationDraft :=
  ⟨none, setup.source .smaily, opened.1.pk, opened.2.pk, metric, value, .automatic,
    reading.observedOn⟩

/-- The transaction of `_publish`, up to the completion of its run. -/
def writeReading (reading : SegmentReading) (audiences : List NewsletterAudience)
    (opened : SourceArtifact × ImportRun) : VisibilityRun Unit := do
  reach outage .lockCurrent
  let db ← get
  let locked := currentReading setup db reading.observedOn
  reach outage .saveSnapshot
  reach outage .saveRows
  reach outage .moveCurrent
  Proc.service fun db => (reading.store (SnapshotDraft.revision locked)).map fun content =>
    let draft := readingDraft setup reading opened db.clock content
    ({ db with smaily := { db.smaily with snapshots := draft.publish db.smaily.snapshots } }, ())
  Proc.service fun db => (publishNewsletterMetrics setup.source db.clock
    (newsletterDraft setup reading opened) audiences db.observations).map fun observations =>
      ({ db with observations }, ())

/-- `_publish` -/
def publishReading (dryRun : Bool) (reading : SegmentReading) (audiences : List NewsletterAudience)
    (report : SmailyReport) : VisibilityRun SmailyReport := do
  let current := currentReading setup (← get) reading.observedOn
  let identity := reading.canonicalDigest setup
  if current.any (·.checksum = identity.sha256) then return { report with action := .unchanged }
  else
    let report := { report with action := if current.isSome then .revised else .imported }
    if dryRun then return report
    else
      publishDaily setup outage (smailyFacts setup)
        [[("detail", "Smaily lugemise avaldamine ebaõnnestus.")]] identity reading.rowsAdded
        (writeReading setup outage reading audiences)
      return { report with counts := { report.counts with
        segmentRowsWritten := report.counts.segmentRowsWritten + reading.segments.length } }

end Reading

/-! ## A run -/

inductive SmailyCollectFailure
  | notConfigured (message : String)
  | response (message : String)
  | other (typeName : String)
  deriving DecidableEq, Repr

/-- A collector that was built, or why there is none. -/
structure SmailyCollector where
  ready : Except SmailyCollectFailure Unit
  collectSegments : Date → Except SmailyCollectFailure (SegmentReading × CollectionCounts)

structure SmailyRequest where
  dryRun : Bool
  collector : SmailyCollector
  observedOn : Option Date
  today : Date

/-- What is raised in place of the statements of a run. -/
structure SmailyOutage where
  touchChecked : Option VisibilityExn
  reading : DayOutage
  recordOutcome : Option VisibilityExn

def SmailyOutage.calm : SmailyOutage := ⟨none, .calm, none⟩

/-- `SourceOutcome`, whose `extra` is the report. -/
structure SmailyOutcome where
  result : FeedResult
  detail : String
  dryRun : Bool
  extra : Option SmailyReport
  deriving DecidableEq

/-- `_transport_failure` -/
def smailyTransportFailure (typeName : String) : String :=
  "Smaily päring ebaõnnestus (" ++ typeName ++ ")."

def SmailyCollectFailure.message : SmailyCollectFailure → String
  | notConfigured message => message
  | response message => message
  | other typeName => smailyTransportFailure typeName

/-- `_detail` -/
def SmailyReport.detail (report : SmailyReport) (dryRun : Bool) : String :=
  (if dryRun then "Proovikäivitus: " else "") ++
    (match report.action with
      | .unchanged => "Smaily nimekirjad ei ole muutunud."
      | .revised =>
        "Smaily lugemine uuendatud (" ++ toString report.counts.segmentsRead ++ " segmenti)."
      | .imported =>
        "Smaily lugemine imporditud (" ++ toString report.counts.segmentsRead ++ " segmenti).") ++
    if report.counts.newslettersWithheld = 0 then ""
    else " " ++ toString report.counts.newslettersWithheld ++ " uudiskirja jäi avaldamata."

/-- What is known about a reading before it is published. -/
def SegmentReading.report (reading : SegmentReading) (day : Date) (counts : CollectionCounts)
    (audiences : List NewsletterAudience) : SmailyReport where
  observedOn := day
  action := .unchanged
  counts := ⟨reading.segments.length, 0, (audiences.filter (·.isAvailable)).length,
    (audiences.filter (!·.isAvailable)).length, counts.requests, counts.retries⟩
  withheld := (audiences.filter (!·.isAvailable)).map fun audience =>
    (audience.metric, audience.withheldReason)

def SmailyRequest.day (request : SmailyRequest) : Date := request.observedOn.getD request.today

section Sync

variable (setup : VisibilitySetup)

def modifySmailyState (f : DailyFeedState → DailyFeedState) : VisibilityRun Unit := do
  modify fun db => { db with smaily := { db.smaily with state := f db.smaily.state } }

/-- `_fail` -/
def recordSmailyFailure (outage : SmailyOutage) (message : String) :
    VisibilityRun SmailyOutcome := do
  raiseIf outage.recordOutcome
  modifySmailyState fun state => { state with toFeedState := state.toFeedState.failFeed message }
  return ⟨.failed, message, false, none⟩

def recordSmailyOutcome (outage : SmailyOutage) (report : SmailyReport) (day : Date) :
    VisibilityRun Unit := do
  raiseIf outage.recordOutcome
  let db ← get
  modifySmailyState fun state =>
    match report.changed, currentReading setup db day with
    | true, some published =>
      { state with toFeedState := state.toFeedState.markImported db.clock published.pk }
    | _, _ => { state with toFeedState := state.toFeedState.markUnchanged db.clock }
  modifySmailyState fun state => { state with lastPeriodEnd := some day }

/-- What `synchronize_smaily` does with a reading. -/
def synchronizeReading (outage : SmailyOutage) (request : SmailyRequest) (reading : SegmentReading)
    (counts : CollectionCounts) : VisibilityRun SmailyOutcome := do
  let audiences := resolveAll setup.casefold reading
  let published ← tryCatch
    (Except.ok <$> publishReading setup outage.reading request.dryRun reading audiences
      (reading.report request.day counts audiences))
    fun error => return .error error
  match published with
  -- the end of the process is no `Exception`
  | .error .interrupted => throw .interrupted
  | .error error => recordSmailyFailure outage (smailyTransportFailure error.typeName)
  | .ok report =>
    if !request.dryRun then recordSmailyOutcome setup outage report request.day
    return ⟨if report.changed then .imported else .unchanged, report.detail request.dryRun,
      request.dryRun, some report⟩

/-- `synchronize_smaily` -/
def synchronizeSmaily (outage : SmailyOutage) (request : SmailyRequest) :
    VisibilityRun SmailyOutcome := do
  raiseIf outage.touchChecked
  let db ← get
  modifySmailyState fun state =>
    { state with toFeedState := state.toFeedState.touchChecked db.clock }
  match request.collector.ready with
  | .error failure => recordSmailyFailure outage failure.message
  | .ok () =>
    match request.collector.collectSegments request.day with
    | .error failure => recordSmailyFailure outage failure.message
    | .ok (reading, counts) => synchronizeReading setup outage request reading counts

end Sync

end Dashkoda.Visibility
