import Dashkoda.Lib.IsoDate
import Dashkoda.Lib.JsonCanonical
import Dashkoda.Lib.MergeByKey
import Dashkoda.Lib.PyInt
import Dashkoda.Visibility.Ga4Paths
import Dashkoda.Visibility.Ga4Sync

/-!
# Reading days out of a report

The rows of three reports are read one by one.  The pages of a day are merged under their canonical
path, its channels are taken as they come, and of the rows for the whole site the last one of a day
counts.
-/

open Lib

namespace Dashkoda.Visibility

/-! ## Rows -/

/-- A metric of a row, as `int(float(raw))` reads it. -/
inductive MetricValue
  | missing
  | blank
  | number (value : Int)
  | notANumber
  | infinite
  deriving DecidableEq, Repr

/-- One row of a report: the texts of its dimensions and its metrics, where they are there. -/
structure ReportRow where
  dimensionValues : Option (List (Option String))
  metricValues : Option (List MetricValue)
  deriving DecidableEq, Repr

abbrev Collecting := Except Ga4CollectFailure

/-- `_dimension` -/
def dimension (row : ReportRow) (index : Nat) : Collecting String :=
  match row.dimensionValues.bind (·[index]?) with
  | none => .error (.response "Google Analytics tagastas rea ilma nõutud mõõtmeta.")
  | some none => .error (.response "Google Analytics tagastas mõõtme ilma väärtuseta.")
  | some (some value) => .ok value

/-- `date(year, month, day)` -/
def dateOf (year month day : Int) : Option Date :=
  if 0 ≤ year ∧ 0 ≤ month ∧ 0 ≤ day then Date.ofNumbers? year.toNat month.toNat day.toNat else none

def readDate (classes : CharClasses) (raw : List Char) : Option Date := do
  let year ← PyInt.parse classes (raw.take 4)
  let month ← PyInt.parse classes ((raw.drop 4).take 2)
  let day ← PyInt.parse classes ((raw.drop 6).take 2)
  dateOf year month day

/-- `_row_date` -/
def rowDate (classes : CharClasses) (row : ReportRow) (index : Nat) : Collecting Date := do
  let raw ← dimension row index
  match readDate classes raw.toList with
  | none => .error (.response "Google Analytics tagastas kuupäeva, mida ei saa lugeda.")
  | some date => return date

def metricNumber : MetricValue → Collecting (Option Int)
  | .missing => .error (.response "Google Analytics tagastas näitaja ilma väärtuseta.")
  | .blank => .ok none
  | .number value => .ok (some value)
  | .notANumber => .error (.response
    "Google Analytics tagastas veebistatistika väärtuse, mis ei ole arv.")
  | .infinite => .error (.other "OverflowError")

/-- `_metrics` -/
def metrics (row : ReportRow) (count : Nat) : Collecting (List (Option Int)) :=
  match row.metricValues with
  | none => .error (.response "Google Analytics tagastas ootamatu näitajate kuju.")
  | some values =>
    if values.length ≠ count then
      .error (.response "Google Analytics ei tagastanud nõutud näitajaid.")
    else values.mapM metricNumber

def SITE_METRICS : List String :=
  ["sessions", "activeUsers", "newUsers", "screenPageViews", "engagedSessions",
    "userEngagementDuration"]

def PAGE_METRICS : List String := ["screenPageViews", "activeUsers", "userEngagementDuration"]

def CHANNEL_METRICS : List String := ["sessions", "engagedSessions"]

/-! ## One row of each report -/

section Rows

variable (classes : CharClasses) (check : NetlocCheck)

def readSiteRow (row : ReportRow) : Collecting (Date × SiteFigures) := do
  let day ← rowDate classes row 0
  match ← metrics row SITE_METRICS.length with
  | [sessions, activeUsers, newUsers, pageViews, engagedSessions, userEngagementSeconds] =>
    return (day,
      ⟨sessions, activeUsers, newUsers, pageViews, engagedSessions, userEngagementSeconds⟩)
  | _ => .error (.other "ValueError")

/-- A row that cannot be named is left out, whatever its metrics. -/
def readPageRow (row : ReportRow) : Collecting (Option (Date × PageRow)) := do
  let day ← rowDate classes row 0
  let raw ← dimension row 1
  match canonicalPath check raw.toList with
  | none => .error (.other "ValueError")
  | some path =>
    if path = UNKNOWN then return none
    else
      match ← metrics row PAGE_METRICS.length with
      | [views, users, seconds] =>
        return some (day, ⟨String.ofList path, views.getD 0, users, seconds,
          if raw ≠ String.ofList path then raw else ""⟩)
      | _ => .error (.other "ValueError")

def readChannelRow (row : ReportRow) : Collecting (Date × ChannelRow) := do
  let day ← rowDate classes row 0
  let raw ← dimension row 1
  let name := if raw = "" then "Unassigned" else raw
  match ← metrics row CHANNEL_METRICS.length with
  | [sessions, engaged] => return (day, ⟨name, sessions.getD 0, engaged⟩)
  | _ => .error (.other "ValueError")

end Rows

/-! ## Merging the pages of a day -/

/-- `_sum_or_none` -/
def sumOrNone : Option Int → Option Int → Option Int
  | none, right => right
  | left, none => left
  | some left, some right => some (left + right)

/-- `_max_or_none` -/
def maxOrNone : Option Int → Option Int → Option Int
  | none, right => right
  | left, none => left
  | some left, some right => some (max left right)

def mergePage (existing row : PageRow) : PageRow where
  path := row.path
  pageViews := existing.pageViews + row.pageViews
  activeUsers := maxOrNone existing.activeUsers row.activeUsers
  userEngagementSeconds := sumOrNone existing.userEngagementSeconds row.userEngagementSeconds
  rawPath := if existing.rawPath ≠ "" then existing.rawPath else row.rawPath

/-- `_merge_pages` -/
def mergePages (rows : List PageRow) : List PageRow :=
  sortOn (·.path) (mergeByKey (·.path) mergePage rows).values

/-! ## A range -/

namespace DayReading

/-- The figures of `SITE_FIELDS`, under their names. -/
def siteFields (site : SiteFigures) : List (String × Option Int) :=
  [("sessions", site.sessions), ("active_users", site.activeUsers), ("new_users", site.newUsers),
    ("page_views", site.pageViews), ("engaged_sessions", site.engagedSessions),
    ("user_engagement_seconds", site.userEngagementSeconds)]

/-- What `validate` objects to. -/
def objection (reading : DayReading) : Option String :=
  match (siteFields reading.site).find? (·.2.any (· < 0)) with
  | some field => some (field.1 ++ " ei saa olla negatiivne.")
  | none =>
    if reading.pages.any (·.pageViews < 0) then
      some "Lehevaatamiste arv ei saa olla negatiivne."
    else if reading.channels.any (·.sessions < 0) then
      some "Külastuste arv ei saa olla negatiivne."
    else none

def validate (reading : DayReading) : Collecting DayReading :=
  match reading.objection with
  | some message => .error (.response message)
  | none => .ok reading

end DayReading

def ofDay {α : Type} (day : Date) (rows : List (Date × α)) : List α :=
  (rows.filter fun row => row.1 = day).map Prod.snd

def noFigures : SiteFigures := ⟨none, none, none, none, none, none⟩

/-- The rows of the three reports over one range. -/
structure Ga4Reports where
  site : List ReportRow
  pages : List ReportRow
  channels : List ReportRow

def dayReading (withPages withChannels : Bool) (site : List (Date × SiteFigures))
    (pages : List (Date × PageRow)) (channels : List (Date × ChannelRow)) (day : Date) :
      DayReading where
  reportDate := day
  site := (ofDay day site).getLast?.getD noFigures
  pages := mergePages (ofDay day pages)
  channels := ofDay day channels
  hasPageDetail := withPages
  hasChannelDetail := withChannels

/-- Pages are read where they are asked for. -/
def readPages (classes : CharClasses) (check : NetlocCheck) (reports : Ga4Reports)
    (withPages : Bool) :
    Collecting (List (Option (Date × PageRow))) :=
  if withPages then reports.pages.mapM (readPageRow classes check) else return []

def readChannels (classes : CharClasses) (reports : Ga4Reports) (withChannels : Bool) :
    Collecting (List (Date × ChannelRow)) :=
  if withChannels then reports.channels.mapM (readChannelRow classes) else return []

/-- `collect_range`, from the rows that the reports are answered with. -/
def collectRange (classes : CharClasses) (check : NetlocCheck) (reports : Ga4Reports)
    (start stop : Date) (withPages withChannels : Bool) : Collecting (Dict Date DayReading) := do
  if stop < start then throw (.other "ValueError")
  let site ← reports.site.mapM (readSiteRow classes)
  let pages ← readPages classes check reports withPages
  let channels ← readChannels classes reports withChannels
  let readings ← (Date.eachDay start stop).mapM fun day =>
    (dayReading withPages withChannels site pages.reduceOption channels day).validate
  return Dict.ofList (readings.map fun reading => (reading.reportDate, reading))

end Dashkoda.Visibility
