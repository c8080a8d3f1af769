import Dashkoda.Core.WorkbookFeed
import Dashkoda.Lib.Calendar

/-!
# What each public feed collects

The contents of the five public feeds that normalise what they read, the documents their checksums
are taken over, and the constraints of the rows they are written to.
-/

open Lib

namespace Dashkoda

open Sources (Time)

namespace Feeds

/-! ## Columns -/

def maxPositiveSmallInteger : Nat := 32767

def longerThan (column : String) (maxLength : Nat) (value : String) : List String :=
  if maxLength < value.length then [column] else []

def largerThan (column : String) (maximum value : Nat) : List String :=
  if maximum < value then [column] else []

def unlessHolds (constraint : String) (holds : Bool) : List String :=
  if holds then [] else [constraint]

def unlessDistinct {α β : Type} [DecidableEq β] (constraint : String) (key : α → β)
    (items : List α) : List String :=
  unlessHolds constraint (items.map key).Nodup

/-- The canonical document of one dataset. -/
def document (dataset schemaVersion : String) (fields : List (String × Json)) : Json :=
  .obj ([("dataset", .str dataset), ("schema_version", .str schemaVersion)] ++ fields)

def jsonDate : Option Date → Json := Json.ofOption fun date => .str date.isoformat

/-! ## Membership -/

namespace Membership

def KODA_MEMBERS_MAX_CHANGE_RATIO : ℚ := 15 / 100

def KODA_MEMBERS_MAX_CHANGE_ABSOLUTE : Nat := 200

/-- `is_change_plausible`: the reason why a movement is refused. -/
def implausibleChange (previous : Option Nat) (current : Nat) : Option String :=
  match previous with
  | none => none
  | some previous =>
    if previous = 0 then none
    else
      let delta := if previous ≤ current then current - previous else previous - current
      let ratio : ℚ := (delta : ℚ) / previous
      if KODA_MEMBERS_MAX_CHANGE_ABSOLUTE < delta ∧ KODA_MEMBERS_MAX_CHANGE_RATIO < ratio then
        some ("Liikmete arv muutus ebausutavalt palju: " ++ toString previous ++ " -> " ++
          toString current ++ " (" ++ toString delta ++ " liiget, " ++ Core.percent ratio ++
          "). Eelmine vaatlus jäi kehtima.")
      else none

def violations (totalMembers : Nat) : List String :=
  unlessHolds "membershipobservation_total_positive" (0 < totalMembers) ++
  largerThan "total_members" Sources.ImportRun.maxPositiveInteger totalMembers

/-- The count of the published member directory, one observation at a time. -/
def feed (source : Nat) : Core.PublicFeed Nat where
  source
  importerName := "koda_membership_count"
  schemaVersion := "1.0"
  canonical total := document "koda-public-members" "1.0" [("total_members", .int total)]
  refusal := implausibleChange
  violations
  rowsAdded _ := 1
  total := id
  messages :=
    { dryRun := "Kuivkäivitus: liikmete arv on kehtiv, midagi ei avaldatud."
      imported := "Uus liikmete arv avaldatud."
      unchanged := "Liikmete arv ei ole muutunud." }

end Membership

/-! ## News -/

namespace News

structure NewsEntry where
  guid : String
  title : String
  canonicalUrl : String
  publishedAt : Time
  category : String
  summary : String
  sourceOrder : Nat
  deriving DecidableEq

variable (instantText : Time → String)

def itemJson (entry : NewsEntry) : Json :=
  .obj [("guid", .str entry.guid), ("title", .str entry.title), ("url", .str entry.canonicalUrl),
    ("published_at", .str (instantText entry.publishedAt)), ("category", .str entry.category),
    ("summary", .str entry.summary)]

def itemViolations (entry : NewsEntry) : List String :=
  longerThan "guid" 500 entry.guid ++
  longerThan "canonical_url" 500 entry.canonicalUrl ++
  longerThan "category" 120 entry.category ++
  largerThan "source_order" Sources.ImportRun.maxPositiveInteger entry.sourceOrder ++
  unlessHolds "newsitem_title_required" (entry.title ≠ "")

def violations (entries : List NewsEntry) : List String :=
  entries.flatMap itemViolations ++
  unlessDistinct "newsitem_unique_guid_per_snapshot" NewsEntry.guid entries ++
  unlessDistinct "newsitem_unique_url_per_snapshot" NewsEntry.canonicalUrl entries

/-- The news feed, one snapshot of its items at a time. -/
def feed (source : Nat) : Core.PublicFeed (List NewsEntry) where
  source
  importerName := "koda_news_rss"
  schemaVersion := "1.0"
  canonical entries := document "koda-public-news" "1.0"
    [("items", .arr (entries.map (itemJson instantText)))]
  refusal _ _ := none
  violations
  rowsAdded := List.length
  total := List.length
  messages :=
    { dryRun := "Kuivkäivitus: uudisvoog on kehtiv, midagi ei avaldatud."
      imported := "Uus uudiste hetkeseis avaldatud."
      unchanged := "Uudisvoog ei ole muutunud." }

end News

/-! ## Events -/

namespace Events

structure EventEntry where
  stableKey : String
  title : String
  canonicalUrl : String
  category : String
  summary : String
  startsOn : Date
  endsOn : Option Date
  startsAt : Option Time
  endsAt : Option Time
  location : String
  sourceOrder : Nat
  deriving DecidableEq

variable (instantText : Time → String)

def itemJson (entry : EventEntry) : Json :=
  .obj [("key", .str entry.stableKey), ("title", .str entry.title),
    ("url", .str entry.canonicalUrl),
    ("category", .str entry.category), ("starts_on", .str entry.startsOn.isoformat),
    ("ends_on", jsonDate entry.endsOn),
    ("starts_at", Json.ofOption (fun at' => .str (instantText at')) entry.startsAt),
    ("ends_at", Json.ofOption (fun at' => .str (instantText at')) entry.endsAt),
    ("location", .str entry.location)]

/-- An end time needs a start time that is not after it. -/
def endTimeNotBeforeStart (entry : EventEntry) : Bool :=
  entry.endsAt.all fun ends => entry.startsAt.any fun starts => starts ≤ ends

def itemViolations (entry : EventEntry) : List String :=
  longerThan "stable_key" 200 entry.stableKey ++
  longerThan "canonical_url" 500 entry.canonicalUrl ++
  longerThan "category" 120 entry.category ++
  longerThan "location" 200 entry.location ++
  largerThan "source_order" Sources.ImportRun.maxPositiveInteger entry.sourceOrder ++
  unlessHolds "eventitem_title_required" (entry.title ≠ "") ++
  unlessHolds "eventitem_end_date_not_before_start"
    (entry.endsOn.all fun ends => entry.startsOn ≤ ends) ++
  unlessHolds "eventitem_end_time_not_before_start" (endTimeNotBeforeStart entry)

def violations (entries : List EventEntry) : List String :=
  entries.flatMap itemViolations ++
  unlessDistinct "eventitem_unique_url_per_snapshot" EventEntry.canonicalUrl entries ++
  unlessDistinct "eventitem_unique_key_per_snapshot" EventEntry.stableKey entries

/-- The upcoming events, one snapshot of the calendar at a time. -/
def feed (source : Nat) : Core.PublicFeed (List EventEntry) where
  source
  importerName := "koda_events_calendar"
  schemaVersion := "1.0"
  canonical entries := document "koda-public-events" "1.0"
    [("items", .arr (entries.map (itemJson instantText)))]
  refusal _ _ := none
  violations
  rowsAdded := List.length
  total := List.length
  messages :=
    { dryRun := "Kuivkäivitus: sündmused on kehtivad, midagi ei avaldatud."
      imported := "Uus sündmuste hetkeseis avaldatud."
      unchanged := "Sündmuste kalender ei ole muutunud." }

end Events

/-! ## Current topics -/

namespace CurrentTopics

structure CurrentTopicEntry where
  contentKey : String
  canonicalUrl : String
  title : String
  listingSummary : String
  bodyText : String
  publishedDate : Option Date
  feedbackDeadline : Option Date
  namedOrganization : String
  sourceOrder : Nat
  deriving DecidableEq

def itemJson (entry : CurrentTopicEntry) : Json :=
  .obj [("key", .str entry.contentKey), ("url", .str entry.canonicalUrl),
    ("title", .str entry.title),
    ("summary", .str entry.listingSummary), ("body", .str entry.bodyText),
    ("published_date", jsonDate entry.publishedDate),
    ("feedback_deadline", jsonDate entry.feedbackDeadline),
    ("organization", .str entry.namedOrganization)]

def itemViolations (entry : CurrentTopicEntry) : List String :=
  longerThan "content_key" 64 entry.contentKey ++
  longerThan "canonical_url" 500 entry.canonicalUrl ++
  longerThan "title" 500 entry.title ++
  longerThan "named_organization" 200 entry.namedOrganization ++
  largerThan "source_order" maxPositiveSmallInteger entry.sourceOrder ++
  unlessHolds "currenttopicitem_title_required" (entry.title ≠ "") ++
  unlessHolds "currenttopicitem_url_required" (entry.canonicalUrl ≠ "")

def violations (entries : List CurrentTopicEntry) : List String :=
  entries.flatMap itemViolations ++
  unlessDistinct "currenttopicitem_unique_key_per_snapshot" CurrentTopicEntry.contentKey entries ++
  unlessDistinct "currenttopicitem_unique_url_per_snapshot"
    CurrentTopicEntry.canonicalUrl entries ++
  unlessDistinct "currenttopicitem_unique_order_per_snapshot" CurrentTopicEntry.sourceOrder entries

/-- The current topics, one snapshot of the catalogue at a time.  The document is ordered by the
content key: the listing's own order is not part of the content. -/
def feed (source : Nat) : Core.PublicFeed (List CurrentTopicEntry) where
  source
  importerName := "koda_current_topics"
  schemaVersion := "1.0"
  canonical entries := document "koda-public-current-topics" "1.0"
    [("items", .arr ((sortOn CurrentTopicEntry.contentKey entries).map itemJson))]
  refusal _ _ := none
  violations
  rowsAdded := List.length
  total := List.length
  messages :=
    { dryRun := "Kuivkäivitus: teemad on kehtivad, midagi ei avaldatud."
      imported := "Uus hetkel käsil hetkeseis avaldatud."
      unchanged := "Hetkel käsil loend ei ole muutunud." }

end CurrentTopics

/-! ## Archived topics -/

namespace ArchivedTopics

inductive DetailStatus
  | pending
  | hydrated
  | failed
  deriving DecidableEq, Repr

def DetailStatus.value : DetailStatus → String
  | pending => "pending"
  | hydrated => "hydrated"
  | failed => "failed"

/-- One entry of the archive index with what is read of its page. -/
structure ArchivedTopicFields where
  contentKey : String
  canonicalUrl : String
  title : String
  listingSummary : String
  sourcePage : Nat
  sourceOrder : Nat
  detailStatus : DetailStatus
  detailTitle : String
  bodyText : String
  publishedDate : Option Date
  feedbackDeadline : Option Date
  namedOrganization : String
  detailContentHash : String
  detailFailureCode : String
  deriving DecidableEq

/-- A snapshot's items and what it says of the backfill. -/
structure ArchiveContent where
  items : List ArchivedTopicFields
  pagesFetched : Nat
  priorityCandidateCount : Nat
  priorityDetailedCount : Nat
  priorityPendingCount : Nat
  indexComplete : Bool
  backfillComplete : Bool
  deriving DecidableEq

def itemJson (item : ArchivedTopicFields) : Json :=
  .obj [("key", .str item.contentKey), ("url", .str item.canonicalUrl), ("title", .str item.title),
    ("summary", .str item.listingSummary), ("detail_status", .str item.detailStatus.value),
    ("detail_title", .str item.detailTitle), ("body", .str item.bodyText),
    ("published_date", jsonDate item.publishedDate),
    ("feedback_deadline", jsonDate item.feedbackDeadline),
    ("organization", .str item.namedOrganization)]

def itemViolations (item : ArchivedTopicFields) : List String :=
  longerThan "content_key" 64 item.contentKey ++
  longerThan "canonical_url" 500 item.canonicalUrl ++
  longerThan "title" 500 item.title ++
  largerThan "source_page" maxPositiveSmallInteger item.sourcePage ++
  largerThan "source_order" Sources.ImportRun.maxPositiveInteger item.sourceOrder ++
  longerThan "detail_title" 500 item.detailTitle ++
  longerThan "named_organization" 200 item.namedOrganization ++
  longerThan "detail_content_hash" 64 item.detailContentHash ++
  longerThan "detail_failure_code" 32 item.detailFailureCode ++
  unlessHolds "archivedtopicitem_title_required" (item.title ≠ "") ++
  unlessHolds "archivedtopicitem_url_required" (item.canonicalUrl ≠ "") ++
  unlessHolds "archivedtopicitem_hydrated_has_body"
    (item.detailStatus ≠ .hydrated || item.bodyText ≠ "")

def violations (content : ArchiveContent) : List String :=
  largerThan "pages_fetched" maxPositiveSmallInteger content.pagesFetched ++
  largerThan "priority_candidate_count" Sources.ImportRun.maxPositiveInteger
    content.priorityCandidateCount ++
  largerThan "priority_detailed_count" Sources.ImportRun.maxPositiveInteger
    content.priorityDetailedCount ++
  largerThan "priority_pending_count" Sources.ImportRun.maxPositiveInteger
    content.priorityPendingCount ++
  content.items.flatMap itemViolations ++
  unlessDistinct "archivedtopicitem_unique_key_per_snapshot" ArchivedTopicFields.contentKey
    content.items ++
  unlessDistinct "archivedtopicitem_unique_url_per_snapshot" ArchivedTopicFields.canonicalUrl
    content.items

/-- The archive catalogue, one snapshot of the index at a time. -/
def feed (source : Nat) : Core.PublicFeed ArchiveContent where
  source
  importerName := "koda_archived_topics"
  schemaVersion := "1.0"
  canonical content := document "koda-public-archived-topics" "1.0"
    [("items", .arr ((sortOn ArchivedTopicFields.contentKey content.items).map itemJson))]
  refusal _ _ := none
  violations
  rowsAdded content := content.items.length
  total content := content.items.length
  messages :=
    { dryRun := "Kuivkäivitus: arhiiv on kehtiv, midagi ei avaldatud."
      imported := "Uus arhiivi hetkeseis avaldatud."
      unchanged := "Arhiiv ei ole muutunud ja lugemata prioriteetseid lehti ei ole." }

end ArchivedTopics

end Feeds

end Dashkoda
