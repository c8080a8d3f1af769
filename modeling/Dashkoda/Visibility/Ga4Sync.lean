import Dashkoda.Lib.Days
import Dashkoda.Lib.Ranking
import Dashkoda.Visibility.DailyFeed
import Dashkoda.Visibility.Revisions

/-!
# Reconciling a window of reporting days

Each completed day of a window is read again, and a day whose figures have changed is published as a
new revision, unless the new reading carries less detail.
-/

open Lib

namespace Dashkoda.Visibility

open Core (ContentIdentity FeedFacts FeedResult)
open Sources (ImportRun SourceArtifact)

def GA4_IMPORTER_NAME : String := "ga4_daily"

def GA4_SCHEMA_VERSION : String := "2.0"

/-- Yesterday and the seven days before it. -/
def RECONCILIATION_DAYS : Nat := 8

def BACKFILL_CHUNK_DAYS : Int := 31

structure DayReading where
  reportDate : Date
  site : SiteFigures
  pages : List PageRow
  channels : List ChannelRow
  hasPageDetail : Bool
  hasChannelDetail : Bool
  deriving DecidableEq

def PageRow.payload (row : PageRow) : Json :=
  .obj [("path", .str row.path), ("page_views", .int row.pageViews),
    ("active_users", .ofOption .int row.activeUsers),
    ("user_engagement_seconds", .ofOption .int row.userEngagementSeconds)]

def ChannelRow.payload (row : ChannelRow) : Json :=
  .obj [("channel", .str row.channel), ("sessions", .int row.sessions),
    ("engaged_sessions", .ofOption .int row.engagedSessions)]

def SiteFigures.payload (site : SiteFigures) : Json :=
  .obj [("sessions", .ofOption .int site.sessions),
    ("active_users", .ofOption .int site.activeUsers),
    ("new_users", .ofOption .int site.newUsers), ("page_views", .ofOption .int site.pageViews),
    ("engaged_sessions", .ofOption .int site.engagedSessions),
    ("user_engagement_seconds", .ofOption .int site.userEngagementSeconds)]

namespace DayReading

def canonicalPayload (reading : DayReading) : Json :=
  .obj [("schema", .str GA4_SCHEMA_VERSION), ("source", .str SourceSlug.ga4.value),
    ("report_date", .str reading.reportDate.isoformat), ("site", reading.site.payload),
    ("has_page_detail", .bool reading.hasPageDetail),
    ("has_channel_detail", .bool reading.hasChannelDetail),
    ("pages", .arr ((sortOn (·.path) reading.pages).map PageRow.payload)),
    ("channels", .arr ((sortOn (·.channel) reading.channels).map ChannelRow.payload))]

/-- `canonical_digest`, with the length of the canonical form. -/
def canonicalDigest (setup : VisibilitySetup) (reading : DayReading) : ContentIdentity :=
  Core.canonicalChecksum setup.digestBytes reading.canonicalPayload

/-- One snapshot and a row for each page and channel. -/
def rowsAdded (reading : DayReading) : Nat := 1 + reading.pages.length + reading.channels.length

end DayReading

/-! ## Windows -/

/-- A date that arithmetic may leave the calendar for. -/
def orOverflow : Option Date → Except VisibilityExn Date
  | some date => .ok date
  | none => .error .overflowError

def lastCompletedDay (today : Date) : Except VisibilityExn Date := orOverflow today.prev?

/-- `reconciliation_window` of `RECONCILIATION_DAYS` days. -/
def reconciliationWindow (today : Date) : Except VisibilityExn (Date × Date) := do
  let stop ← lastCompletedDay today
  let start ← orOverflow (Date.subDays? (RECONCILIATION_DAYS - 1) stop)
  return (start, stop)

set_option linter.unusedVariables false in
/-- The chunks from a cursor on, and what the generator raises after them. -/
def chunksFrom (size : Nat) (stop cursor : Date) : List (Date × Date) × Option VisibilityExn :=
  if cursor ≤ stop then
    match hreach : Date.addDays? (size - 1) cursor with
    | none => ([], some .overflowError)
    | some reached =>
      match hnext : (min reached stop).next? with
      | none => ([(cursor, min reached stop)], some .overflowError)
      | some next =>
        let rest := chunksFrom size stop next
        ((cursor, min reached stop) :: rest.1, rest.2)
  else ([], none)
termination_by cursor.remaining
decreasing_by
  have hle : cursor ≤ min reached stop := le_min (Date.le_addDays? hreach) (by assumption)
  exact Date.remaining_lt (hle.trans_lt (Date.covBy_next? hnext).lt)

/-- `chunks` -/
def chunks (start stop : Date) (size : Int) : List (Date × Date) × Option VisibilityExn :=
  if size < 1 then ([], some (.valueError "Tüki suurus peab olema vähemalt üks päev."))
  else chunksFrom size.toNat stop start

/-! ## One day -/

def SiteFigures.store (site : SiteFigures) : Except VisibilityExn SiteFigures := do
  let sessions ← storeFigure "sessions" site.sessions
  let activeUsers ← storeFigure "active_users" site.activeUsers
  let newUsers ← storeFigure "new_users" site.newUsers
  let pageViews ← storeFigure "page_views" site.pageViews
  let engagedSessions ← storeFigure "engaged_sessions" site.engagedSessions
  let userEngagementSeconds ← storeFigure "user_engagement_seconds" site.userEngagementSeconds
  return ⟨sessions, activeUsers, newUsers, pageViews, engagedSessions, userEngagementSeconds⟩

def PageRow.store (row : PageRow) : Except VisibilityExn PageRow := do
  let path ← column "path" (Column.varchar 500 row.path)
  let rawPath ← column "raw_path" (Column.varchar 500 (PyText.take 500 row.rawPath))
  let pageViews ← column "page_views" (Column.positiveInteger row.pageViews)
  let activeUsers ← storeFigure "active_users" row.activeUsers
  let userEngagementSeconds ← storeFigure "user_engagement_seconds" row.userEngagementSeconds
  return ⟨path, pageViews, activeUsers, userEngagementSeconds, rawPath⟩

def ChannelRow.store (row : ChannelRow) : Except VisibilityExn ChannelRow := do
  let channel ← column "channel" (Column.varchar 120 (PyText.take 120 row.channel))
  let sessions ← column "sessions" (Column.positiveInteger row.sessions)
  let engagedSessions ← storeFigure "engaged_sessions" row.engagedSessions
  return ⟨channel, sessions, engagedSessions⟩

namespace DayReading

/-- What the rows of the reading hold once they are saved, under a revision. -/
def store (reading : DayReading) (revision : Nat) : Except VisibilityExn Ga4Day := do
  let _ ← column "revision" (Column.positiveInteger revision)
  let site ← reading.site.store
  let pages ← bulkCreate PageRow.store (·.path) "ga4page_unique_path_per_snapshot" reading.pages
  let channels ← bulkCreate ChannelRow.store (·.channel) "ga4channel_unique_channel_per_snapshot"
    reading.channels
  return ⟨site, reading.hasPageDetail, reading.hasChannelDetail, pages, channels⟩

end DayReading

inductive DayAction
  | imported
  | revised
  | unchanged
  | kept
  deriving DecidableEq, Repr

structure SyncCounts where
  daysExamined : Nat
  daysImported : Nat
  daysRevised : Nat
  daysUnchanged : Nat
  daysKept : Nat
  pageRowsWritten : Nat
  channelRowsWritten : Nat
  chunks : Nat
  apiRequests : Nat
  apiRetries : Nat
  deriving DecidableEq, Repr

namespace SyncCounts

def zero : SyncCounts := ⟨0, 0, 0, 0, 0, 0, 0, 0, 0, 0⟩

def count (counts : SyncCounts) : DayAction → SyncCounts
  | .imported => { counts with daysImported := counts.daysImported + 1 }
  | .revised => { counts with daysRevised := counts.daysRevised + 1 }
  | .unchanged => { counts with daysUnchanged := counts.daysUnchanged + 1 }
  | .kept => { counts with daysKept := counts.daysKept + 1 }

def rowsWritten (counts : SyncCounts) (reading : DayReading) : SyncCounts :=
  { counts with
    pageRowsWritten := counts.pageRowsWritten + reading.pages.length
    channelRowsWritten := counts.channelRowsWritten + reading.channels.length }

/-- `SyncReport.changed` -/
def changed (counts : SyncCounts) : Bool := 0 < counts.daysImported || 0 < counts.daysRevised

end SyncCounts

structure DayOutcome where
  reportDate : Date
  action : DayAction
  snapshotId : Option Nat
  reason : String
  deriving DecidableEq

/-- `_would_lose_detail` -/
def wouldLoseDetail (current : Ga4Day) (reading : DayReading) : Bool :=
  (current.hasPageDetail && !reading.hasPageDetail) ||
    (current.hasChannelDetail && !reading.hasChannelDetail)

section Day

variable (setup : VisibilitySetup) (outage : DayOutage)

def ga4Facts : FeedFacts := ⟨setup.source .ga4, GA4_IMPORTER_NAME, GA4_SCHEMA_VERSION⟩

/-- `.filter(source=source, report_date=day, is_current_for_date=True).first()` -/
def currentDay (db : VisibilityDb) (day : Date) : Option (DailySnapshot Ga4Day) :=
  currentFor (setup.source .ga4) day db.ga4.snapshots

/-- The snapshot of `_publish_day`, with its rows. -/
def dayDraft (reading : DayReading) (opened : SourceArtifact × ImportRun) (now : Sources.Time)
    (content : Ga4Day) : SnapshotDraft Ga4Day :=
  ⟨setup.source .ga4, opened.1.pk, opened.2.pk, reading.reportDate, now,
    (reading.canonicalDigest setup).sha256, content⟩

/-- The transaction of `_publish_day`, up to the completion of its run. -/
def writeDay (reading : DayReading) (opened : SourceArtifact × ImportRun) :
    VisibilityRun (DailySnapshot Ga4Day) := do
  reach outage .lockCurrent
  let db ← get
  let locked := currentDay setup db reading.reportDate
  reach outage .saveSnapshot
  reach outage .saveRows
  reach outage .moveCurrent
  Proc.service fun db => (reading.store (SnapshotDraft.revision locked)).map fun content =>
    let draft := dayDraft setup reading opened db.clock content
    ({ db with ga4 := { db.ga4 with snapshots := draft.publish db.ga4.snapshots } },
      draft.next db.ga4.snapshots)

/-- What `_publish_day` does with a day that has changed. -/
def publishChanged (dryRun : Bool) (counts : SyncCounts) (reading : DayReading)
    (action : DayAction) : VisibilityRun (SyncCounts × DayOutcome) := do
  if dryRun then return (counts.count action, ⟨reading.reportDate, action, none, ""⟩)
  else
    let snapshot ← publishDaily setup outage (ga4Facts setup) [[("type", "publish_failed")]]
      (reading.canonicalDigest setup) reading.rowsAdded (writeDay setup outage reading)
    return ((counts.rowsWritten reading).count action,
      ⟨reading.reportDate, action, some snapshot.pk, ""⟩)

/-- `_publish_day` -/
def publishDay (dryRun : Bool) (counts : SyncCounts) (reading : DayReading) :
    VisibilityRun (SyncCounts × DayOutcome) := do
  let db ← get
  match currentDay setup db reading.reportDate with
  | none => publishChanged setup outage dryRun counts reading .imported
  | some current =>
    if current.checksum = (reading.canonicalDigest setup).sha256 then
      return (counts.count .unchanged, ⟨reading.reportDate, .unchanged, some current.pk, ""⟩)
    else if wouldLoseDetail current.content reading then
      return (counts.count .kept, ⟨reading.reportDate, .kept, some current.pk,
        "Uus lugemine on kitsam kui avaldatud päev."⟩)
    else publishChanged setup outage dryRun counts reading .revised

end Day

/-! ## A run over a window -/

inductive Ga4CollectFailure
  | notConfigured (message : String)
  | response (message : String)
  | other (typeName : String)
  deriving DecidableEq, Repr

structure RangeCollection where
  days : Dict Date DayReading
  counts : CollectionCounts

/-- A collector that was built, or why there is none. -/
structure Ga4Collector where
  ready : Except Ga4CollectFailure Unit
  collectRange : Date → Date → Bool → Bool → Except Ga4CollectFailure RangeCollection

structure Ga4Request where
  dryRun : Bool
  collector : Ga4Collector
  start : Option Date
  stop : Option Date
  withPages : Bool
  withChannels : Bool
  chunkDays : Int
  today : Date

/-- What is raised in place of the statements of a run. -/
structure Ga4Outage where
  touchChecked : Option VisibilityExn
  day : Date → DayOutage
  recordOutcome : Option VisibilityExn

def Ga4Outage.calm : Ga4Outage := ⟨none, fun _ => .calm, none⟩

structure SyncReport where
  counts : SyncCounts
  days : List DayOutcome
  deriving DecidableEq

/-- `SourceOutcome`, with the part of `extra` that is there. -/
structure Ga4Outcome where
  result : FeedResult
  detail : String
  dryRun : Bool
  window : Option (Option (Date × Date))
  counts : Option SyncCounts
  deriving DecidableEq

/-- How the loops over the chunks and their days end. -/
inductive SyncEnd
  | done (report : SyncReport)
  | failed (message : String) (report : Option SyncReport)

/-- `_transport_failure` -/
def transportFailure (typeName : String) : String :=
  "Google Analyticsi päring ebaõnnestus (" ++ typeName ++ ")."

def Ga4CollectFailure.message : Ga4CollectFailure → String
  | notConfigured message => message
  | response message => message
  | other typeName => transportFailure typeName

/-- The progress a failure is reported with, which a missing configuration is not. -/
def Ga4CollectFailure.report : Ga4CollectFailure → SyncReport → Option SyncReport
  | notConfigured _, _ => none
  | _, report => some report

/-- `_detail` -/
def syncDetail (counts : SyncCounts) (dryRun : Bool) : String :=
  if dryRun then
    "Kuivkäivitus: " ++ toString counts.daysExamined ++ " päeva vaadatud, " ++
      toString counts.daysImported ++ " uut ja " ++ toString counts.daysRevised ++
      " muutunut, midagi ei avaldatud."
  else if !counts.changed then
    "Google Analyticsi andmed ei ole muutunud (" ++ toString counts.daysExamined ++ " päeva)."
  else toString counts.daysImported ++ " uut päeva ja " ++ toString counts.daysRevised ++
    " parandatud päeva avaldatud."

/-- The window of a request, clamped at the last completed day. -/
def Ga4Request.window (request : Ga4Request) : Except VisibilityExn (Date × Date) := do
  let latestAllowed ← lastCompletedDay request.today
  match request.start, request.stop with
  | none, none => reconciliationWindow request.today
  | start, stop =>
    let stop := min (stop.getD latestAllowed) latestAllowed
    return (start.getD stop, stop)

section Sync

variable (setup : VisibilitySetup)

def modifyGa4State (f : DailyFeedState → DailyFeedState) : VisibilityRun Unit := do
  modify fun db => { db with ga4 := { db.ga4 with state := f db.ga4.state } }

/-- The loop over the days of a chunk; an exception other than the end of the process is a failure
of the run. -/
def publishDays (outage : Ga4Outage) (dryRun : Bool) :
    SyncReport → List DayReading → VisibilityRun SyncEnd
  | report, [] => return .done report
  | report, reading :: rest => do
    let counts := { report.counts with daysExamined := report.counts.daysExamined + 1 }
    let published ← tryCatch
      (Except.ok <$> publishDay setup (outage.day reading.reportDate) dryRun counts reading)
      fun error => return .error error
    match published with
    | .ok (counts, outcome) => publishDays outage dryRun ⟨counts, report.days ++ [outcome]⟩ rest
    | .error .interrupted => throw .interrupted
    | .error error => return .failed (transportFailure error.typeName) (some ⟨counts, report.days⟩)

/-- `sorted(collection.days)` -/
def RangeCollection.readings (collection : RangeCollection) : List DayReading :=
  (sortOn (·.1) collection.days.entries).map (·.2)

def SyncCounts.absorb (counts : SyncCounts) (other : CollectionCounts) : SyncCounts :=
  { counts with
    apiRequests := counts.apiRequests + other.requests
    apiRetries := counts.apiRetries + other.retries }

def publishChunks (outage : Ga4Outage) (request : Ga4Request) :
    SyncReport → List (Date × Date) → VisibilityRun SyncEnd
  | report, [] => return .done report
  | report, chunk :: rest => do
    let report :=
      { report with counts := { report.counts with chunks := report.counts.chunks + 1 } }
    match request.collector.collectRange chunk.1 chunk.2 request.withPages request.withChannels with
    | .error failure => return .failed failure.message (failure.report report)
    | .ok collection =>
      let ended ← publishDays setup outage request.dryRun
        { report with counts := report.counts.absorb collection.counts } collection.readings
      match ended with
      | .done report => publishChunks outage request report rest
      | ended => return ended

/-- `_fail` -/
def recordGa4Failure (outage : Ga4Outage) (message : String) (report : Option SyncReport) :
    VisibilityRun Ga4Outcome := do
  raiseIf outage.recordOutcome
  modifyGa4State fun state => { state with toFeedState := state.toFeedState.failFeed message }
  return ⟨.failed, message, false, none, report.map (·.counts)⟩

/-- `_newest_current` -/
def newestCurrent (db : VisibilityDb) : Option (DailySnapshot Ga4Day) :=
  minOn? (fun row => OrderDual.toDual row.day) (db.ga4.snapshots.filter fun row =>
    row.source = setup.source .ga4 && row.isCurrentForDate)

/-- What a live run that went through records. -/
def recordGa4Outcome (outage : Ga4Outage) (counts : SyncCounts) (stop : Date) :
    VisibilityRun Unit := do
  raiseIf outage.recordOutcome
  let db ← get
  modifyGa4State fun state =>
    match counts.changed, newestCurrent setup db with
    | true, some published =>
      { state with toFeedState := state.toFeedState.markImported db.clock published.pk }
    | _, _ => { state with toFeedState := state.toFeedState.markUnchanged db.clock }
  modifyGa4State fun state => { state with lastPeriodEnd := some stop }

/-- `synchronize_ga4` -/
def synchronizeGa4 (outage : Ga4Outage) (request : Ga4Request) : VisibilityRun Ga4Outcome := do
  match request.window with
  | .error error => throw error
  | .ok (start, stop) =>
    if stop < start then
      return ⟨.unchanged, "Vahemikus ei ole ühtegi lõppenud päeva.", request.dryRun, some none,
        some .zero⟩
    else
      raiseIf outage.touchChecked
      let db ← get
      modifyGa4State fun state =>
        { state with toFeedState := state.toFeedState.touchChecked db.clock }
      match request.collector.ready with
      | .error failure => recordGa4Failure outage failure.message none
      | .ok () =>
        let (yielded, raised) := chunks start stop request.chunkDays
        let ended ← publishChunks setup outage request ⟨.zero, []⟩ yielded
        match ended with
        | .failed message report => recordGa4Failure outage message report
        | .done report =>
          raiseIf raised
          if !request.dryRun then recordGa4Outcome setup outage report.counts stop
          return ⟨if report.counts.changed then .imported else .unchanged,
            syncDetail report.counts request.dryRun, request.dryRun, some (some (start, stop)),
            some report.counts⟩

/-- `backfill_ga4` -/
def backfillGa4 (outage : Ga4Outage) (start : Date) (request : Ga4Request) :
    VisibilityRun Ga4Outcome := do
  match request.stop.elim (lastCompletedDay request.today) .ok with
  | .error error => throw error
  | .ok stop => synchronizeGa4 setup outage { request with start := some start, stop := some stop }

end Sync

end Dashkoda.Visibility
