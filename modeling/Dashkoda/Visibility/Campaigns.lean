import Dashkoda.Lib.Regex
import Dashkoda.Sources.Retention
import Dashkoda.Visibility.Revisions
import Mathlib.Data.List.Infix

/-!
# The catalogue of the newsletters that were sent

A listing of the mailing platform is written down campaign by campaign.  A campaign is recognised
once, when it is first seen, and keeps its classification from then on.
-/

open Lib

namespace Dashkoda.Visibility

open Sources (Registry Time)

/-! ## The tables -/

structure SmailyCampaign where
  pk : Nat
  campaignId : Int
  name : String
  templateName : String
  templateExternalId : String
  previewUrl : String
  newsletter : String
  audience : String
  status : String
  createdAt : Option Time
  completedAt : Option Time
  lastSeenAt : Time
  deriving DecidableEq

instance : Row SmailyCampaign := ⟨SmailyCampaign.pk⟩

def SmailyCampaign.isNewsletter (campaign : SmailyCampaign) : Bool := campaign.newsletter ≠ ""

/-- `COUNT_FIELDS`, the figures of a send. -/
inductive CountField
  | totalCount
  | deliveredCount
  | bounceCount
  | openedCount
  | clickCount
  | uniqueClickCount
  | viewCount
  | uniqueViewCount
  | unsubscribeCount
  | complaintCount
  | forwardCount
  deriving DecidableEq, Repr

namespace CountField

def name : CountField → String
  | totalCount => "total_count"
  | deliveredCount => "delivered_count"
  | bounceCount => "bounce_count"
  | openedCount => "opened_count"
  | clickCount => "click_count"
  | uniqueClickCount => "unique_click_count"
  | viewCount => "view_count"
  | uniqueViewCount => "unique_view_count"
  | unsubscribeCount => "unsubscribe_count"
  | complaintCount => "complaint_count"
  | forwardCount => "forward_count"

end CountField

def COUNT_FIELDS : List CountField :=
  [.totalCount, .deliveredCount, .bounceCount, .openedCount, .clickCount, .uniqueClickCount,
    .viewCount, .uniqueViewCount, .unsubscribeCount, .complaintCount, .forwardCount]

theorem mem_COUNT_FIELDS (field : CountField) : field ∈ COUNT_FIELDS := by
  cases field <;> decide

/-- The figures of a send; what the platform left out is not zero. -/
abbrev CampaignFigures := CountField → Option Int

structure SmailyCampaignStats where
  pk : Nat
  campaign : Nat
  artifact : Nat
  importRun : Nat
  observedAt : Time
  checksum : String
  revision : Nat
  supersedes : Option Nat
  isCurrent : Bool
  figures : CampaignFigures

instance : Revised SmailyCampaignStats Nat where
  pk := SmailyCampaignStats.pk
  key := SmailyCampaignStats.campaign
  isCurrent := SmailyCampaignStats.isCurrent
  setCurrent flag row := { row with isCurrent := flag }
  pk_setCurrent _ _ := rfl
  key_setCurrent _ _ := rfl
  isCurrent_setCurrent _ _ := rfl

/-- What the collectors own, and the catalogue beside it. -/
structure CampaignDb extends VisibilityDb where
  campaigns : List SmailyCampaign
  statistics : List SmailyCampaignStats

abbrev CampaignRun := Proc VisibilityExn CampaignDb

/-- What is outside the tables, and what the patterns need to know about characters. -/
structure CampaignSetup extends VisibilitySetup where
  classes : CharClasses

/-! ## Which newsletter a send belongs to -/

/-- `FAMILIES`, with the token a template name starts with. -/
def FAMILIES : List (VisibilityMetric × String) :=
  [(.newsletterEteataja, "e-teataja"), (.newsletterEnews, "e-news"),
    (.newsletterEvestnik, "e-vestnik")]

/-- `_AUDIENCE_TOKENS`; the second token is a part of the first. -/
def AUDIENCE_TOKENS : List String := ["mitteliikmed", "liikmed"]

structure Classification where
  metric : String
  audience : String
  deriving DecidableEq, Repr

def Classification.isNewsletter (classification : Classification) : Bool :=
  classification.metric ≠ ""

section Classify

variable (setup : CampaignSetup)

/-- `_family_pattern`, which is anchored at the start. -/
def familyPattern (token : String) : Regex :=
  .sequence [.star PyText.isSpace, setup.classes.literal token, .boundary setup.classes.isWord]

def startsFamily (token candidate : String) : Bool :=
  !((familyPattern setup token).runs ⟨none, candidate.toList, []⟩).isEmpty

/-- `_audience` -/
def audienceOf (templateName : String) : String :=
  (AUDIENCE_TOKENS.find? fun token =>
    decide (token.toList <:+: (setup.casefold templateName).toList)).getD ""

/-- The subject is looked at where the template name says nothing. -/
def classify (templateName subject : String) : Classification :=
  ([templateName, subject].filter (· ≠ "")).findSome? (fun candidate =>
    (FAMILIES.find? fun family => startsFamily setup family.2 candidate).map fun family =>
      ⟨family.1.value, audienceOf setup candidate⟩) |>.getD ⟨"", ""⟩

end Classify

/-! ## Writing a listing down -/

structure CampaignRow where
  campaignId : Int
  name : String
  templateName : String
  templateExternalId : String
  previewUrl : String
  status : String
  createdAt : Option Time
  completedAt : Option Time
  deriving DecidableEq

structure CampaignCounts where
  campaignsListed : Nat
  campaignsCatalogued : Nat
  campaignsUpdated : Nat
  campaignsUnclassified : Nat
  statsExamined : Nat
  statsImported : Nat
  statsRevised : Nat
  statsUnchanged : Nat
  apiRequests : Nat
  apiRetries : Nat
  deriving DecidableEq, Repr

def CampaignCounts.zero : CampaignCounts := ⟨0, 0, 0, 0, 0, 0, 0, 0, 0, 0⟩

/-- A column of 63 bits that takes no negative number. -/
def positiveBigInteger (value : Int) : Except ColumnError Int :=
  if 9223372036854775807 < value then .error .outOfRange
  else if value < 0 then .error .negative
  else .ok value

namespace SmailyCampaign

def store (campaign : SmailyCampaign) : Except VisibilityExn SmailyCampaign := do
  let campaignId ← column "campaign_id" (positiveBigInteger campaign.campaignId)
  let name ← column "name" (Column.varchar 300 campaign.name)
  let templateName ← column "template_name" (Column.varchar 300 campaign.templateName)
  let templateExternalId ←
    column "template_external_id" (Column.varchar 40 campaign.templateExternalId)
  let previewUrl ← column "preview_url" (Column.varchar 500 campaign.previewUrl)
  let newsletter ← column "newsletter" (Column.varchar 48 campaign.newsletter)
  let audience ← column "audience" (Column.varchar 20 campaign.audience)
  let status ← column "status" (Column.varchar 20 campaign.status)
  return { campaign with
    campaignId, name, templateName, templateExternalId, previewUrl, newsletter, audience, status }

end SmailyCampaign

namespace CampaignRow

/-- A campaign seen for the first time. -/
def created (setup : CampaignSetup) (row : CampaignRow) (pk : Nat) (now : Time) : SmailyCampaign :=
  let classification := classify setup row.templateName row.name
  ⟨pk, row.campaignId, row.name, row.templateName, row.templateExternalId, row.previewUrl,
    classification.metric, classification.audience, row.status, row.createdAt, row.completedAt, now⟩

/-- What the listing states about a campaign that is there; an empty text states nothing, except
that the preview has gone. -/
def carriedTo (row : CampaignRow) (existing : SmailyCampaign) : SmailyCampaign :=
  let carried (listed kept : String) : String := if listed = "" then kept else listed
  let gone : Bool := existing.previewUrl ≠ "" && row.previewUrl = ""
  { existing with
    name := carried row.name existing.name
    templateName := carried row.templateName existing.templateName
    templateExternalId :=
      if gone then "" else carried row.templateExternalId existing.templateExternalId
    previewUrl := if gone then "" else carried row.previewUrl existing.previewUrl
    status := carried row.status existing.status
    completedAt := row.completedAt.orElse fun _ => existing.completedAt }

end CampaignRow

section Catalogue

variable (setup : CampaignSetup)

def catalogueRow (counts : CampaignCounts) (row : CampaignRow) : CampaignRun CampaignCounts :=
  Proc.service fun db =>
    match db.campaigns.find? (·.campaignId = row.campaignId) with
    | none => do
      let campaign ← (row.created setup (Table.nextPk db.campaigns) db.clock).store
      return ({ db with campaigns := db.campaigns ++ [campaign] },
        { counts with
          campaignsCatalogued := counts.campaignsCatalogued + 1
          campaignsUnclassified := counts.campaignsUnclassified + (!campaign.isNewsletter).toNat })
    | some existing => do
      let updated := row.carriedTo existing
      let campaign ← { updated with lastSeenAt := db.clock }.store
      return ({ db with campaigns := Table.save db.campaigns campaign },
        { counts with
          campaignsUpdated := counts.campaignsUpdated + (updated ≠ existing : Bool).toNat
          campaignsUnclassified := counts.campaignsUnclassified + (!existing.isNewsletter).toNat })

/-- `_catalogue`; the rows before one that cannot be saved stay. -/
def catalogue (counts : CampaignCounts) (rows : List CampaignRow) : CampaignRun CampaignCounts :=
  rows.foldlM (catalogueRow setup) counts

def countListed (campaigns : List SmailyCampaign) (counts : CampaignCounts)
    (rows : List CampaignRow) : CampaignCounts :=
  rows.foldl (fun counts row =>
    { counts with
      campaignsCatalogued := counts.campaignsCatalogued +
        (campaigns.all (·.campaignId ≠ row.campaignId)).toNat
      campaignsUnclassified := counts.campaignsUnclassified +
        (!(classify setup row.templateName row.name).isNewsletter).toNat }) counts

end Catalogue

/-! ## Which campaigns are asked about -/

def STATS_RECONCILIATION_DAYS : Nat := 14

/-- `-completed_at, -campaign_id`; a campaign without a time comes first. -/
def listedBefore (a b : SmailyCampaign) : Bool :=
  match a.completedAt, b.completedAt with
  | none, none => b.campaignId ≤ a.campaignId
  | none, some _ => true
  | some _, none => false
  | some x, some y => y < x || (x = y && b.campaignId ≤ a.campaignId)

/-- `.filter(campaign=campaign, is_current=True).first()` -/
def currentStats (statistics : List SmailyCampaignStats) (campaign : Nat) :
    Option SmailyCampaignStats := Lineage.current? campaign statistics

/-- Never measured, or sent recently enough that its figures may still move. -/
def wantsStatistics (now : Time) (statistics : List SmailyCampaignStats)
    (campaign : SmailyCampaign) : Bool :=
  !(statistics.any fun row => row.isCurrent && row.campaign = campaign.pk) ||
    campaign.completedAt.any fun completedAt =>
      now - STATS_RECONCILIATION_DAYS * Sources.microsecondsPerDay ≤ completedAt

/-- `_needs_statistics` -/
def needsStatistics (db : CampaignDb) (limit : Int) : List SmailyCampaign :=
  if limit < 1 then []
  else ((db.campaigns.insertionSort (listedBefore · ·)).filter
    (wantsStatistics db.clock db.statistics)).take limit.toNat

/-! ## What stays as it is -/

section Keeps

variable {setup : CampaignSetup}

/-- A listing changes the catalogue and nothing else. -/
def SameButCampaigns (before db : CampaignDb) : Prop :=
  db = { before with campaigns := db.campaigns }

theorem SmailyCampaign.store_pk {campaign stored : SmailyCampaign}
    (h : campaign.store = .ok stored) : stored.pk = campaign.pk := by
  unfold store at h
  obtain ⟨_, -, h⟩ := bind_eq_ok_iff.mp h
  obtain ⟨_, -, h⟩ := bind_eq_ok_iff.mp h
  obtain ⟨_, -, h⟩ := bind_eq_ok_iff.mp h
  obtain ⟨_, -, h⟩ := bind_eq_ok_iff.mp h
  obtain ⟨_, -, h⟩ := bind_eq_ok_iff.mp h
  obtain ⟨_, -, h⟩ := bind_eq_ok_iff.mp h
  obtain ⟨_, -, h⟩ := bind_eq_ok_iff.mp h
  obtain ⟨_, -, h⟩ := bind_eq_ok_iff.mp h
  rw [← Except.ok.inj h]

/-- What a listing leaves of a catalogue with distinct keys. -/
def Catalogued (before db : CampaignDb) : Prop :=
  SameButCampaigns before db ∧ Table.UniqueKeys db.campaigns

theorem keeps_catalogueRow (before : CampaignDb) (counts : CampaignCounts) (row : CampaignRow) :
    Proc.Keeps (Catalogued before) (catalogueRow setup counts row) := by
  intro db ⟨hsame, hkeys⟩
  unfold catalogueRow
  apply Proc.wp_service
  · intro db' counts' hok
    cases hfind : db.campaigns.find? (·.campaignId = row.campaignId) with
    | none =>
      rw [hfind] at hok
      obtain ⟨campaign, hstore, hok⟩ := bind_eq_ok_iff.mp hok
      cases Except.ok.inj hok
      have hpk := SmailyCampaign.store_pk hstore
      refine ⟨by unfold SameButCampaigns at hsame ⊢; rw [hsame], ?_⟩
      apply Table.uniqueKeys_append hkeys
      intro r hr
      show r.pk ≠ campaign.pk
      rw [hpk]
      exact Table.ne_nextPk hr
    | some existing =>
      rw [hfind] at hok
      obtain ⟨campaign, hstore, hok⟩ := bind_eq_ok_iff.mp hok
      cases Except.ok.inj hok
      refine ⟨by unfold SameButCampaigns at hsame ⊢; rw [hsame], ?_⟩
      exact Table.uniqueKeys_save hkeys _
  · exact fun _ _ => ⟨hsame, hkeys⟩

theorem keeps_catalogue (before : CampaignDb) (counts : CampaignCounts) (rows : List CampaignRow) :
    Proc.Keeps (Catalogued before) (catalogue setup counts rows) :=
  Proc.keeps_foldlM rows (fun counts row _ => keeps_catalogueRow before counts row) counts

/-- No campaign is asked about twice. -/
theorem nodup_needsStatistics {db : CampaignDb} (h : Table.UniqueKeys db.campaigns) (limit : Int) :
    ((needsStatistics db limit).map (·.pk)).Nodup := by
  unfold needsStatistics
  split
  · exact List.nodup_nil
  · have hsorted : ((db.campaigns.insertionSort (listedBefore · ·)).map (·.pk)).Nodup :=
      (((List.perm_insertionSort _ db.campaigns).map _).nodup_iff).mpr h
    have hsub := (List.take_sublist limit.toNat _).trans
      (List.filter_sublist (p := wantsStatistics db.clock db.statistics)
        (l := db.campaigns.insertionSort (listedBefore · ·)))
    exact hsorted.sublist (hsub.map _)

end Keeps

end Dashkoda.Visibility
