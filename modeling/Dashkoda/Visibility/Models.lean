import Dashkoda.Core.PublicFeed
import Dashkoda.Lib.Calendar
import Dashkoda.Lib.Dict
import Dashkoda.Lib.Lineage

/-!
# How many people the Chamber reaches

Typed and collected audience figures, and the daily readings of two collectors.  A published row is
never rewritten: a correction is a new row that names the one it replaces, and only the flag of the
current row moves.
-/

open Lib

namespace Dashkoda.Visibility

open Sources (Exn Registry Time)

inductive VisibilityMetric
  | newsletterEteataja
  | newsletterEnews
  | newsletterEvestnik
  | facebookFollowers
  | linkedinFollowers
  | instagramFollowers
  | youtubeSubscribers
  deriving DecidableEq, Repr

inductive SourceSlug
  | smaily
  | facebook
  | linkedin
  | instagram
  | youtube
  | ga4
  deriving DecidableEq, Repr

def VisibilityMetric.value : VisibilityMetric → String
  | newsletterEteataja => "newsletter_eteataja"
  | newsletterEnews => "newsletter_enews"
  | newsletterEvestnik => "newsletter_evestnik"
  | facebookFollowers => "facebook_followers"
  | linkedinFollowers => "linkedin_followers"
  | instagramFollowers => "instagram_followers"
  | youtubeSubscribers => "youtube_subscribers"

def SourceSlug.value : SourceSlug → String
  | smaily => "smaily-newsletter-audience"
  | facebook => "manual-facebook-followers"
  | linkedin => "manual-linkedin-followers"
  | instagram => "manual-instagram-followers"
  | youtube => "manual-youtube-subscribers"
  | ga4 => "ga4-website-traffic"

/-- The registry pins one source to each metric. -/
def VisibilityMetric.sourceSlug : VisibilityMetric → SourceSlug
  | newsletterEteataja => .smaily
  | newsletterEnews => .smaily
  | newsletterEvestnik => .smaily
  | facebookFollowers => .facebook
  | linkedinFollowers => .linkedin
  | instagramFollowers => .instagram
  | youtubeSubscribers => .youtube

/-- The keys of `METRICS`, in display order. -/
def METRICS : List VisibilityMetric :=
  [.newsletterEteataja, .newsletterEnews, .newsletterEvestnik, .facebookFollowers,
    .linkedinFollowers, .instagramFollowers, .youtubeSubscribers]

def SUBMISSION_SOURCE_SLUGS : List SourceSlug :=
  [.smaily, .facebook, .linkedin, .instagram, .youtube]

/-- `spec_for` -/
def specFor (metric : String) : Option VisibilityMetric := METRICS.find? (·.value = metric)

def metricsForSource (slug : SourceSlug) : List VisibilityMetric :=
  METRICS.filter (·.sourceSlug = slug)

theorem mem_METRICS (metric : VisibilityMetric) : metric ∈ METRICS := by
  cases metric <;> decide

theorem sourceSlug_mem (metric : VisibilityMetric) :
    metric.sourceSlug ∈ SUBMISSION_SOURCE_SLUGS := by
  cases metric <;> decide

theorem value_injective {a b : VisibilityMetric} (h : a.value = b.value) : a = b := by
  cases a <;> cases b <;> first | rfl | exact absurd h (by decide)

/-! ## The tables -/

structure VisibilityEntryBatch where
  pk : Nat
  observationDate : Date
  note : String
  contentHash : String
  deriving DecidableEq

instance : Row VisibilityEntryBatch := ⟨VisibilityEntryBatch.pk⟩

inductive CollectionMethod
  | manual
  | automatic
  deriving DecidableEq, Repr

structure VisibilityObservation where
  pk : Nat
  batch : Option Nat
  source : Nat
  artifact : Nat
  importRun : Nat
  metric : VisibilityMetric
  value : Int
  collectionMethod : CollectionMethod
  observationDate : Date
  supersedes : Option Nat
  isCurrentForDate : Bool
  publishedAt : Option Time
  deriving DecidableEq

/-- A metric on a date has one row to read. -/
instance : Revised VisibilityObservation (VisibilityMetric × Date) where
  pk := VisibilityObservation.pk
  key row := (row.metric, row.observationDate)
  isCurrent := VisibilityObservation.isCurrentForDate
  setCurrent flag row := { row with isCurrentForDate := flag }
  pk_setCurrent _ _ := rfl
  key_setCurrent _ _ := rfl
  isCurrent_setCurrent _ _ := rfl

/-- One revision of one day of a source, with what was read. -/
structure DailySnapshot (κ : Type) where
  pk : Nat
  source : Nat
  artifact : Nat
  importRun : Nat
  day : Date
  observedAt : Time
  checksum : String
  revision : Nat
  supersedes : Option Nat
  isCurrentForDate : Bool
  content : κ
  deriving DecidableEq

instance {κ : Type} : Revised (DailySnapshot κ) (Nat × Date) where
  pk := DailySnapshot.pk
  key row := (row.source, row.day)
  isCurrent := DailySnapshot.isCurrentForDate
  setCurrent flag row := { row with isCurrentForDate := flag }
  pk_setCurrent _ _ := rfl
  key_setCurrent _ _ := rfl
  isCurrent_setCurrent _ _ := rfl

/-- The state row of a collector, with the last day it has reached. -/
structure DailyFeedState extends Core.FeedState where
  lastPeriodEnd : Option Date

def DailyFeedState.initial : DailyFeedState := ⟨.initial, none⟩

structure DailyTable (κ : Type) where
  snapshots : List (DailySnapshot κ)
  state : DailyFeedState

/-- One row of `SmailySegmentDaily`, and one segment as the collector reports it. -/
structure SegmentRow where
  segmentId : Int
  name : String
  subscribers : Int
  deriving DecidableEq, Repr

/-- The six figures of a whole day; what the interface left out is not zero. -/
structure SiteFigures where
  sessions : Option Int
  activeUsers : Option Int
  newUsers : Option Int
  pageViews : Option Int
  engagedSessions : Option Int
  userEngagementSeconds : Option Int
  deriving DecidableEq, Repr

structure PageRow where
  path : String
  pageViews : Int
  activeUsers : Option Int
  userEngagementSeconds : Option Int
  rawPath : String
  deriving DecidableEq, Repr

structure ChannelRow where
  channel : String
  sessions : Int
  engagedSessions : Option Int
  deriving DecidableEq, Repr

/-- What a daily snapshot holds, its page and channel rows with it. -/
structure Ga4Day where
  site : SiteFigures
  hasPageDetail : Bool
  hasChannelDetail : Bool
  pages : List PageRow
  channels : List ChannelRow
  deriving DecidableEq

structure VisibilityDb where
  registry : Registry
  clock : Time
  batches : List VisibilityEntryBatch
  observations : List VisibilityObservation
  smaily : DailyTable (List SegmentRow)
  ga4 : DailyTable Ga4Day

def VisibilityDb.empty : VisibilityDb := ⟨⟨[], []⟩, 0, [], [], ⟨[], .initial⟩, ⟨[], .initial⟩⟩

/-! ## Exceptions -/

inductive VisibilityExn
  | entryError (message : String)
  | integrityError (constraint : String)
  | dataError (column : String)
  | validationError (field : String)
  | valueError (message : String)
  | overflowError
  /-- The connection to the database was lost. -/
  | operationalError
  /-- The process was stopped, which no handler of `Exception` sees. -/
  | interrupted
  | registry (error : Exn)
  deriving DecidableEq, Repr

def VisibilityExn.typeName : VisibilityExn → String
  | entryError _ => "VisibilityEntryError"
  | integrityError _ => "IntegrityError"
  | dataError _ => "DataError"
  | validationError _ => "ValidationError"
  | valueError _ => "ValueError"
  | overflowError => "OverflowError"
  | operationalError => "OperationalError"
  | interrupted => "KeyboardInterrupt"
  | registry error => error.typeName

abbrev VisibilityRun := Proc VisibilityExn VisibilityDb

def onRegistry {α : Type} (call : Proc Exn Registry α) : VisibilityRun α :=
  Proc.onPart VisibilityDb.registry (fun registry db => { db with registry }) .registry call

theorem wp_onRegistry {α : Type} {call : Proc Exn Registry α} {post : α → VisibilityDb → Prop}
    {raised : VisibilityExn → VisibilityDb → Prop} : (onRegistry call).wp post raised = fun db =>
      call.wp (fun a registry => post a { db with registry })
        (fun e registry => raised (.registry e) { db with registry }) db.registry := by
  unfold onRegistry
  rw [Proc.wp_onPart]

/-- What is outside the tables: the digest, `str.casefold` and the keys of the sources. -/
structure VisibilitySetup where
  digestBytes : List UInt8 → String
  digest_hex : ∀ bytes, Sources.isSha256Hex (digestBytes bytes) = true
  casefold : String → String
  source : SourceSlug → Nat

/-! ## A setup for the samples -/

/-- A polynomial in the bytes, in place of a digest; the last digit comes first. -/
def sampleDigest (bytes : List UInt8) : String :=
  let hash := bytes.foldl (fun hash byte => (hash * 257 + byte.toNat) % 16 ^ 64) 0
  String.ofList ((List.range 64).map fun i => Json.hexDigit (hash / 16 ^ i % 16))

theorem sampleDigest_hex (bytes : List UInt8) :
    Sources.isSha256Hex (sampleDigest bytes) = true := by
  have halphabet : ((List.range 16).all fun digit =>
      Json.hexDigit digit ∈ Sources.sha256HexAlphabet) = true := by decide
  unfold Sources.isSha256Hex sampleDigest
  rw [String.length_ofList, String.toList_ofList, List.length_map, List.length_range,
    Bool.and_eq_true, List.all_eq_true]
  refine ⟨by decide, fun c hc => ?_⟩
  obtain ⟨i, -, rfl⟩ := List.mem_map.mp hc
  exact List.all_eq_true.mp halphabet _ (List.mem_range.mpr (Nat.mod_lt _ (by decide)))

def sampleSetup : VisibilitySetup where
  digestBytes := sampleDigest
  digest_hex := sampleDigest_hex
  casefold name := name
  source
    | .smaily => 1
    | .facebook => 2
    | .linkedin => 3
    | .instagram => 4
    | .youtube => 5
    | .ga4 => 6

end Dashkoda.Visibility
