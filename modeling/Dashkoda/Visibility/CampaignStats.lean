import Dashkoda.Visibility.Campaigns
import Dashkoda.Visibility.DailyFeed
import Dashkoda.Visibility.SmailySegments

/-!
# The statistics of campaigns

A reading that says something new about a campaign is noted first.  What has been noted is published
as one batch, in one import run, as a new current revision for each campaign.
-/

open Lib

namespace Dashkoda.Visibility

open Core (ContentIdentity CountsFit FeedFacts FeedResult ImporterNames NothingPublished Opened
  RunOpened RunPublished identityAccepted importedBefore)
open Sources (Exn ImportRun Registry SourceArtifact Time)

def CAMPAIGN_IMPORTER_NAME : String := "smaily_campaigns"

/-! ## What a reading means -/

structure CampaignStatsRow where
  campaignId : Int
  figures : CampaignFigures

def CampaignStatsRow.hasAnyFigure (stats : CampaignStatsRow) : Bool :=
  COUNT_FIELDS.any fun field => (stats.figures field).isSome

structure PendingStats where
  campaign : SmailyCampaign
  stats : CampaignStatsRow

namespace PendingStats

/-- The payload of `_note_stats`. -/
def payload (pending : PendingStats) : Json :=
  .obj ([("schema", .str SMAILY_SCHEMA_VERSION), ("kind", .str "campaign_stats"),
      ("campaign_id", .int pending.campaign.campaignId)] ++
    COUNT_FIELDS.map fun field => (field.name, Json.ofOption .int (pending.stats.figures field)))

def digest (setup : CampaignSetup) (pending : PendingStats) : String :=
  setup.digestBytes (pending.payload.chars.flatMap String.utf8EncodeChar)

/-- The reading states a figure, and it is not what the current revision of the campaign says. -/
def differs (setup : CampaignSetup) (statistics : List SmailyCampaignStats)
    (pending : PendingStats) : Bool :=
  pending.stats.hasAnyFigure &&
    (currentStats statistics pending.campaign.pk).all (·.checksum ≠ pending.digest setup)

end PendingStats

structure CampaignReport where
  counts : CampaignCounts
  payloads : List PendingStats

/-- `CampaignReport.changed` -/
def CampaignReport.changed (report : CampaignReport) : Bool :=
  report.counts.campaignsCatalogued ≠ 0 || report.counts.statsImported ≠ 0 ||
    report.counts.statsRevised ≠ 0

/-- `_note_stats`, which writes nothing yet. -/
def noteStats (setup : CampaignSetup) (statistics : List SmailyCampaignStats) (dryRun : Bool)
    (report : CampaignReport) (pending : PendingStats) : CampaignReport :=
  if !pending.stats.hasAnyFigure then report
  else
    let counts := report.counts
    match currentStats statistics pending.campaign.pk with
    | none => ⟨{ counts with statsImported := counts.statsImported + 1 },
        if dryRun then report.payloads else report.payloads ++ [pending]⟩
    | some current =>
      if current.checksum = pending.digest setup then
        { report with counts := { counts with statsUnchanged := counts.statsUnchanged + 1 } }
      else ⟨{ counts with statsRevised := counts.statsRevised + 1 },
        if dryRun then report.payloads else report.payloads ++ [pending]⟩

/-! ## Publishing the batch -/

def onCampaignRegistry {α : Type} (call : Proc Exn Registry α) : CampaignRun α :=
  Proc.onPart (fun db => db.registry) (fun registry db => { db with registry }) .registry call

def campaignFacts (setup : CampaignSetup) : FeedFacts :=
  ⟨setup.source .smaily, CAMPAIGN_IMPORTER_NAME, SMAILY_SCHEMA_VERSION⟩

def batchPayload (payloads : List PendingStats) : Json :=
  .obj [("schema", .str SMAILY_SCHEMA_VERSION), ("kind", .str "campaign_stats_batch"),
    ("campaigns", .arr ((sortOn (·.campaign.campaignId) payloads).map PendingStats.payload))]

/-- The digest and the size of the canonical form of a batch. -/
def batchIdentity (setup : CampaignSetup) (payloads : List PendingStats) : ContentIdentity :=
  let body := (batchPayload payloads).chars.flatMap String.utf8EncodeChar
  ⟨setup.digestBytes body, body.length⟩

namespace PendingStats

variable (setup : CampaignSetup) (opened : SourceArtifact × ImportRun) (now : Time)

/-- The number of the revision that comes after the current one of the campaign. -/
def revision (statistics : List SmailyCampaignStats) (pending : PendingStats) : Nat :=
  ((currentStats statistics pending.campaign.pk).map (·.revision)).getD 0 + 1

def row (statistics : List SmailyCampaignStats) (pending : PendingStats) : SmailyCampaignStats :=
  ⟨Table.nextPk statistics, pending.campaign.pk, opened.1.pk, opened.2.pk, now,
    pending.digest setup, pending.revision statistics,
    (currentStats statistics pending.campaign.pk).map (·.pk), true, pending.stats.figures⟩

/-- The row is saved, the one it supersedes is retired, and it becomes current. -/
def publish (statistics : List SmailyCampaignStats) (pending : PendingStats) :
    List SmailyCampaignStats :=
  Lineage.succeed (currentStats statistics pending.campaign.pk)
    (pending.row setup opened now statistics) statistics

/-- The figures and the revision go into their columns. -/
def store (statistics : List SmailyCampaignStats) (pending : PendingStats) :
    Except VisibilityExn Unit := do
  let _ ← column "revision" (Column.positiveInteger (pending.revision statistics))
  let _ ← COUNT_FIELDS.mapM fun field => storeFigure field.name (pending.stats.figures field)
  return ()

end PendingStats

section Publish

variable (setup : CampaignSetup)

def writeRevision (opened : SourceArtifact × ImportRun) (now : Time)
    (statistics : List SmailyCampaignStats) (pending : PendingStats) :
    Except VisibilityExn (List SmailyCampaignStats) := do
  pending.store statistics
  return pending.publish setup opened now statistics

/-- `_publish_statistics` -/
def publishStatistics (payloads : List PendingStats) : CampaignRun Unit := do
  let db ← get
  let facts := campaignFacts setup
  let identity := batchIdentity setup payloads
  let opened ← onCampaignRegistry (Core.startRun (Core.digestText setup.digestBytes) facts.source
    identity (Core.findPublishedArtifact db.registry facts.source identity.sha256
      facts.importerName).1 facts.importerName facts.schemaVersion false db.clock)
  Proc.onError
    (Proc.atomically do
      Proc.service fun db =>
        (payloads.foldlM (writeRevision setup opened db.clock) db.statistics).map
          fun statistics => ({ db with statistics }, ())
      onCampaignRegistry (Core.completeRun opened.2 db.clock ⟨payloads.length, 0, 0, []⟩))
    fun _ => onCampaignRegistry (Core.failPublication opened.2 db.clock
      [[("detail", "Kampaaniate statistika avaldamine ebaõnnestus.")]])

end Publish

/-! ## The revisions of the statistics -/

/-- A revision names the one before it and counts on from it. -/
structure StatsFollow (previous : Option SmailyCampaignStats)
    (row : SmailyCampaignStats) : Prop where
  supersedes : row.supersedes = previous.map (·.pk)
  revision : row.revision = (previous.map (·.revision)).getD 0 + 1

theorem statsFollow_blind : Lineage.Blind StatsFollow := by
  intro f hf previous row h
  have hsame (r : SmailyCampaignStats) :
      (f r).pk = r.pk ∧ (f r).revision = r.revision ∧ (f r).supersedes = r.supersedes := by
    cases hf r with
    | inl heq => rw [heq]; exact ⟨rfl, rfl, rfl⟩
    | inr heq => rw [heq]; exact ⟨rfl, rfl, rfl⟩
  constructor
  · rw [(hsame row).2.2, h.supersedes, Option.map_map]
    exact congrArg (Option.map · previous) (funext fun r => ((hsame r).1).symm)
  · rw [(hsame row).2.1, h.revision, Option.map_map]
    exact congrArg (fun g => (Option.map g previous).getD 0 + 1)
      (funext fun r => ((hsame r).2.1).symm)

abbrev StatsSound (statistics : List SmailyCampaignStats) : Prop :=
  Lineage.Sound StatsFollow statistics

/-- The reading is what the current revision of its campaign says. -/
def PendingStats.IsCurrent (setup : CampaignSetup) (statistics : List SmailyCampaignStats)
    (pending : PendingStats) : Prop :=
  ∃ row, currentStats statistics pending.campaign.pk = some row ∧
    row.checksum = pending.digest setup ∧ row.figures = pending.stats.figures

/-- The figures and the next revision fit their columns. -/
structure PendingStats.Storable (statistics : List SmailyCampaignStats) (pending : PendingStats) :
    Prop where
  figures : ∀ field, ∀ value ∈ pending.stats.figures field,
    0 ≤ value ∧ value ≤ Column.maxPositiveInteger
  revision : (pending.revision statistics : Int) ≤ Column.maxPositiveInteger

section Revisions

variable {setup : CampaignSetup} {opened : SourceArtifact × ImportRun} {now : Time}
  {statistics : List SmailyCampaignStats} {pending : PendingStats}

theorem row_fresh : ∀ row ∈ statistics,
    Row.pk row ≠ Row.pk (pending.row setup opened now statistics) :=
  fun _ hrow => Table.ne_nextPk hrow

theorem row_follows : StatsFollow
    (Lineage.current? (Revised.key (pending.row setup opened now statistics)) statistics)
    (Revised.setCurrent true (pending.row setup opened now statistics)) := ⟨rfl, rfl⟩

theorem publish_statsSound (h : StatsSound statistics) :
    StatsSound (pending.publish setup opened now statistics) :=
  h.succeed statsFollow_blind row_fresh row_follows

theorem isCurrent_publish (h : StatsSound statistics) :
    pending.IsCurrent setup (pending.publish setup opened now statistics) :=
  ⟨_, h.current?_succeed_self row_fresh statsFollow_blind row_follows, rfl, rfl⟩

theorem currentStats_publish_other (h : StatsSound statistics) {campaign : Nat}
    (hother : campaign ≠ pending.campaign.pk) :
    currentStats (pending.publish setup opened now statistics) campaign =
      currentStats statistics campaign :=
  h.current?_succeed_other (@row_fresh setup opened now statistics pending) hother

theorem column_eq_ok_iff {α : Type} {name : String} {value : Except ColumnError α} {stored : α} :
    column name value = .ok stored ↔ value = .ok stored := by
  cases value with
  | ok a => exact ⟨fun h => congrArg _ (Except.ok.inj h), fun h => congrArg _ (Except.ok.inj h)⟩
  | error e => cases e <;> exact ⟨fun h => (by cases h), fun h => (by cases h)⟩

theorem storeFigure_isOk_iff {name : String} {value : Option Int} :
    (∃ stored, storeFigure name value = .ok stored) ↔
      ∀ figure ∈ value, 0 ≤ figure ∧ figure ≤ Column.maxPositiveInteger := by
  unfold storeFigure
  simp only [column_eq_ok_iff]
  cases value with
  | none => exact ⟨fun _ _ hfigure => (by cases hfigure), fun _ => ⟨none, rfl⟩⟩
  | some figure =>
    unfold Column.nullable
    simp only [map_eq_ok_iff, Column.positiveInteger_eq_ok_iff]
    constructor
    · intro ⟨_, _, hfits, _⟩ other hother
      rw [← Option.some.inj hother]
      exact hfits.1
    · exact fun hfits => ⟨_, figure, ⟨hfits figure rfl, rfl⟩, rfl⟩

theorem store_eq_ok_iff : pending.store statistics = .ok () ↔ pending.Storable statistics := by
  unfold PendingStats.store
  constructor
  · intro h
    obtain ⟨revision, hrevision, h⟩ := bind_eq_ok_iff.mp h
    obtain ⟨figures, hfigures, -⟩ := bind_eq_ok_iff.mp h
    rw [column_eq_ok_iff, Column.positiveInteger_eq_ok_iff] at hrevision
    refine ⟨fun field => ?_, hrevision.1.2⟩
    obtain ⟨stored, -, hstored⟩ :=
      exists_of_mem_forall₂_left (forall₂_of_mapM_eq_ok hfigures) (mem_COUNT_FIELDS field)
    exact storeFigure_isOk_iff.mp ⟨stored, hstored⟩
  · intro h
    have hfigures : ∀ field ∈ COUNT_FIELDS,
        ∃ stored, storeFigure field.name (pending.stats.figures field) = .ok stored :=
      fun field _ => storeFigure_isOk_iff.mpr (h.figures field)
    obtain ⟨figures, hfigures⟩ := exists_mapM_eq_ok hfigures
    have hrevision : column "revision" (Column.positiveInteger (pending.revision statistics)) =
        .ok (pending.revision statistics : Int) :=
      column_eq_ok_iff.mpr (Column.positiveInteger_eq_ok_iff.mpr
        ⟨⟨Int.natCast_nonneg _, h.revision⟩, rfl⟩)
    exact bind_eq_ok_iff.mpr ⟨_, hrevision, bind_eq_ok_iff.mpr ⟨figures, hfigures, rfl⟩⟩

/-- Nothing about a reading depends on the statistics of the other campaigns. -/
theorem storable_congr {statistics' : List SmailyCampaignStats}
    (h : currentStats statistics' pending.campaign.pk =
      currentStats statistics pending.campaign.pk) :
    pending.Storable statistics' ↔ pending.Storable statistics := by
  have hrevision : pending.revision statistics' = pending.revision statistics := by
    unfold PendingStats.revision
    rw [h]
  constructor
  · exact fun hstorable => ⟨hstorable.figures, hrevision ▸ hstorable.revision⟩
  · exact fun hstorable => ⟨hstorable.figures, hrevision ▸ hstorable.revision⟩

/-- A batch that was written made every reading of it current, and touched no other campaign. -/
theorem foldlM_writeRevision {payloads : List PendingStats}
    (hdistinct : (payloads.map (·.campaign.pk)).Nodup) (h : StatsSound statistics)
    {statistics' : List SmailyCampaignStats}
    (hok : payloads.foldlM (writeRevision setup opened now) statistics = .ok statistics') :
    StatsSound statistics' ∧
      (∀ pending ∈ payloads, pending.Storable statistics ∧ pending.IsCurrent setup statistics') ∧
      ∀ campaign, campaign ∉ payloads.map (·.campaign.pk) →
        currentStats statistics' campaign = currentStats statistics campaign := by
  induction payloads generalizing statistics with
  | nil =>
    cases Except.ok.inj hok
    exact ⟨h, fun _ hin => (by cases hin), fun _ _ => rfl⟩
  | cons first rest ih =>
    obtain ⟨hfirst, hrest⟩ := List.nodup_cons.mp hdistinct
    rw [List.foldlM_cons] at hok
    obtain ⟨written, hwritten, hok⟩ := bind_eq_ok_iff.mp hok
    obtain ⟨_, hstore, hpublish⟩ := bind_eq_ok_iff.mp hwritten
    cases Except.ok.inj hpublish
    obtain ⟨hsound, hcurrent, hothers⟩ := ih hrest (publish_statsSound h) hok
    refine ⟨hsound, fun pending hin => ?_, fun campaign hnot => ?_⟩
    · cases List.mem_cons.mp hin with
      | inl heq =>
        rw [heq]
        obtain ⟨row, hrow, hsame⟩ := @isCurrent_publish setup opened now statistics first h
        exact ⟨store_eq_ok_iff.mp hstore, row, (hothers _ hfirst).trans hrow, hsame⟩
      | inr hmem =>
        have hother : pending.campaign.pk ≠ first.campaign.pk :=
          fun heq => hfirst (List.mem_map.mpr ⟨pending, hmem, heq⟩)
        obtain ⟨hstorable, hnow⟩ := hcurrent pending hmem
        exact ⟨(storable_congr (currentStats_publish_other h hother)).mp hstorable, hnow⟩
    · rw [List.map_cons, List.mem_cons, not_or] at hnot
      exact (hothers campaign hnot.2).trans (currentStats_publish_other h hnot.1)

theorem exists_foldlM_writeRevision {payloads : List PendingStats}
    (hdistinct : (payloads.map (·.campaign.pk)).Nodup) (h : StatsSound statistics)
    (hstorable : ∀ pending ∈ payloads, pending.Storable statistics) :
    ∃ statistics', payloads.foldlM (writeRevision setup opened now) statistics =
      .ok statistics' := by
  induction payloads generalizing statistics with
  | nil => exact ⟨statistics, rfl⟩
  | cons first rest ih =>
    obtain ⟨hfirst, hrest⟩ := List.nodup_cons.mp hdistinct
    have hwritten : writeRevision setup opened now statistics first =
        .ok (first.publish setup opened now statistics) :=
      bind_eq_ok_iff.mpr ⟨(), store_eq_ok_iff.mpr (hstorable first List.mem_cons_self), rfl⟩
    obtain ⟨statistics', hok⟩ := ih hrest (publish_statsSound h) fun pending hin => by
      have hother : pending.campaign.pk ≠ first.campaign.pk :=
        fun heq => hfirst (List.mem_map.mpr ⟨pending, hin, heq⟩)
      have hsame := @currentStats_publish_other setup opened now statistics first h _ hother
      exact (storable_congr hsame).mpr (hstorable pending (List.mem_cons_of_mem _ hin))
    exact ⟨statistics', List.foldlM_cons.trans (bind_eq_ok_iff.mpr ⟨_, hwritten, hok⟩)⟩

end Revisions

/-! ## When a batch goes through -/

structure CampaignDb.Sound (db : CampaignDb) : Prop where
  registry : db.registry.Sound
  campaigns : Table.UniqueKeys db.campaigns
  statistics : StatsSound db.statistics

/-- Nothing keeps a batch from being published. -/
structure BatchPublishable (setup : CampaignSetup) (db : CampaignDb)
    (payloads : List PendingStats) :
    Prop where
  accepted : identityAccepted db.registry (setup.source .smaily)
    (batchIdentity setup payloads) = true
  storable : ∀ pending ∈ payloads, pending.Storable db.statistics
  fits : CountsFit ⟨payloads.length, 0, 0, []⟩
  new : importedBefore db.registry (importKeyOf setup.toVisibilitySetup (campaignFacts setup)
    (batchIdentity setup payloads)) = false

section Batch

variable {setup : CampaignSetup} {db : CampaignDb} {payloads : List PendingStats}

theorem wp_onCampaignRegistry {α : Type} {call : Proc Exn Registry α} {post : α → CampaignDb → Prop}
    {raised : VisibilityExn → CampaignDb → Prop} :
      (onCampaignRegistry call).wp post raised = fun db =>
      call.wp (fun a registry => post a { db with registry })
        (fun e registry => raised (.registry e) { db with registry }) db.registry := by
  unfold onCampaignRegistry
  rw [Proc.wp_onPart]

theorem campaign_names : ImporterNames CAMPAIGN_IMPORTER_NAME SMAILY_SCHEMA_VERSION :=
  ⟨by decide, by decide, by decide, by decide⟩

/-- A batch makes every reading of it current, or it leaves the statistics as they were. -/
theorem publishStatistics_ends (h : db.Sound) (hdistinct : (payloads.map (·.campaign.pk)).Nodup) :
    (publishStatistics setup payloads).wp
      (fun _ db' => db'.Sound ∧ BatchPublishable setup db payloads ∧
        ∀ pending ∈ payloads, pending.IsCurrent setup db'.statistics)
      (fun _ db' => db'.Sound ∧ db'.statistics = db.statistics) db := by
  have hhex : Sources.isSha256Hex (batchIdentity setup payloads).sha256 = true := setup.digest_hex _
  have haccepts : (Core.startRun (Core.digestText setup.digestBytes) (setup.source .smaily)
      (batchIdentity setup payloads) (Core.findPublishedArtifact db.registry (setup.source .smaily)
        (batchIdentity setup payloads).sha256 CAMPAIGN_IMPORTER_NAME).1 CAMPAIGN_IMPORTER_NAME
        SMAILY_SCHEMA_VERSION false db.clock).wp
      (fun _ _ => identityAccepted db.registry (setup.source .smaily)
        (batchIdentity setup payloads) = true) (fun _ _ => True) db.registry := by
    cases haccepted : identityAccepted db.registry (setup.source .smaily)
        (batchIdentity setup payloads) with
    | true => exact Proc.wp_of_forall (fun _ _ => rfl) fun _ _ => trivial
    | false =>
      exact Proc.wp_mono (Core.startRun_refuses haccepted hhex) (fun _ _ hfalse => hfalse.elim)
        fun _ _ _ => trivial
  unfold publishStatistics
  rw [Proc.wp_bind, Proc.wp_get]
  dsimp only
  rw [Proc.wp_bind, wp_onCampaignRegistry]
  apply Proc.wp_mono (Proc.wp_and (Core.startRun_grows h.registry hhex rfl) haccepts)
  · intro opened r ⟨hopened, haccepted⟩
    -- an exception inside leaves the statistics alone, whether the run could be closed or not
    have hfailed : (onCampaignRegistry (Core.failPublication opened.2 db.clock
        [[("detail", "Kampaaniate statistika avaldamine ebaõnnestus.")]])).wp
        (fun _ db' => db'.Sound ∧ db'.statistics = db.statistics)
        (fun _ db' => db'.Sound ∧ db'.statistics = db.statistics) { db with registry := r } := by
      rw [wp_onCampaignRegistry]
      apply Proc.wp_mono (hopened.fail _)
      · exact fun _ r' hnothing => ⟨⟨hnothing.sound, h.campaigns, h.statistics⟩, rfl⟩
      · exact fun _ r' hnothing => ⟨⟨hnothing.sound, h.campaigns, h.statistics⟩, rfl⟩
    rw [Proc.wp_onError, Proc.wp_atomically]
    beta_reduce
    rw [Proc.wp_bind]
    apply Proc.wp_service
    · intro db₁ _ hok
      obtain ⟨statistics, hwritten, heq⟩ := map_eq_ok_iff.mp hok
      cases heq
      obtain ⟨hsound, hcurrent, -⟩ := foldlM_writeRevision hdistinct h.statistics hwritten
      rw [wp_onCampaignRegistry]
      apply Proc.wp_mono (Proc.wp_and (hopened.complete _)
        (completeRun_registers opened.2 db.clock ⟨payloads.length, 0, 0, []⟩))
      · intro _ r' ⟨hpublished, _, hfits⟩
        refine ⟨⟨hpublished.sound, h.campaigns, hsound⟩, ⟨haccepted, fun pending hin =>
          (hcurrent pending hin).1, hfits, hpublished.new⟩, fun pending hin =>
            (hcurrent pending hin).2⟩
      · exact fun _ _ _ => hfailed
    · exact fun _ _ => hfailed
  · exact fun _ r hraised => ⟨⟨hraised.1.sound, h.campaigns, h.statistics⟩, rfl⟩

theorem publishStatistics_succeeds (h : db.Sound) (hdistinct : (payloads.map (·.campaign.pk)).Nodup)
    (hpublishable : BatchPublishable setup db payloads) :
    (publishStatistics setup payloads).wp (fun _ _ => True) (fun _ _ => False) db := by
  have hhex : Sources.isSha256Hex (batchIdentity setup payloads).sha256 = true := setup.digest_hex _
  have hlength : (importKeyOf setup.toVisibilitySetup (campaignFacts setup)
      (batchIdentity setup payloads)).length = 64 := by
    have hkey := setup.digest_hex (((campaignFacts setup).keyText
      (batchIdentity setup payloads).sha256).toList.flatMap String.utf8EncodeChar)
    unfold Sources.isSha256Hex at hkey
    exact of_decide_eq_true (Bool.and_eq_true_iff.mp hkey).1
  unfold publishStatistics
  rw [Proc.wp_bind, Proc.wp_get]
  dsimp only
  rw [Proc.wp_bind, wp_onCampaignRegistry]
  apply Proc.wp_mono
    (Core.startRun_opens h.registry hpublishable.accepted hhex campaign_names rfl hlength)
  · intro opened r hopened
    rw [Proc.wp_onError, Proc.wp_atomically]
    beta_reduce
    rw [Proc.wp_bind]
    obtain ⟨statistics, hwritten⟩ :=
      @exists_foldlM_writeRevision setup opened db.clock db.statistics
      payloads hdistinct h.statistics hpublishable.storable
    apply Proc.wp_service_ok
    · exact map_eq_ok_iff.mpr ⟨statistics, hwritten, rfl⟩
    · rw [wp_onCampaignRegistry]
      apply Proc.wp_mono (hopened.completes hpublishable.fits hpublishable.new)
      · exact fun _ _ _ => trivial
      · exact fun _ _ hfalse => hfalse.elim
  · exact fun _ _ hfalse => hfalse

end Batch

end Dashkoda.Visibility
