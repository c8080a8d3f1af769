import Dashkoda.Visibility.CampaignStats
import Dashkoda.Visibility.SmailySync

/-!
# A run over the campaigns

A run writes the listing down and asks for the statistics of the campaigns that need them, one
request after another.  What it has noted is published after the last request, so that a request
that fails loses the readings before it.
-/

open Lib

namespace Dashkoda.Visibility

open Core (FeedResult)
open Sources (Time)

/-! ## The requests -/

/-- A collector that was built, or why there is none; its counters depend on the campaigns it was
asked about. -/
structure CampaignCollector where
  ready : Except SmailyCollectFailure Unit
  collectCampaigns : Int → Except SmailyCollectFailure (List CampaignRow)
  collectCampaignStats : Int → Except SmailyCollectFailure CampaignStatsRow
  counts : List Int → Option CollectionCounts

def statsFailure : SmailyCollectFailure → String
  | .notConfigured _ => smailyTransportFailure "SmailyNotConfigured"
  | .response message => message
  | .other typeName => smailyTransportFailure typeName

/-- The message where no collector was built. -/
def readyFailure : SmailyCollectFailure → String
  | .notConfigured message => message
  | .response _ => smailyTransportFailure "SmailyResponseError"
  | .other typeName => smailyTransportFailure typeName

section Requests

variable (setup : CampaignSetup) (collector : CampaignCollector)
  (statistics : List SmailyCampaignStats) (dryRun : Bool)

/-- The loop over the campaigns; it ends at the first request that fails. -/
def readStatistics : CampaignReport → List SmailyCampaign →
    CampaignReport × Option SmailyCollectFailure
  | report, [] => (report, none)
  | report, campaign :: rest =>
    let report := { report with counts :=
      { report.counts with statsExamined := report.counts.statsExamined + 1 } }
    match collector.collectCampaignStats campaign.campaignId with
    | .error failure => (report, some failure)
    | .ok stats => readStatistics (noteStats setup statistics dryRun report ⟨campaign, stats⟩) rest

def readingsTaken : List SmailyCampaign → List PendingStats
  | [] => []
  | campaign :: rest =>
    match collector.collectCampaignStats campaign.campaignId with
    | .error _ => []
    | .ok stats => ⟨campaign, stats⟩ :: readingsTaken rest

/-- No request fails. -/
def allAnswered (campaigns : List SmailyCampaign) : Bool :=
  campaigns.all fun campaign => (collector.collectCampaignStats campaign.campaignId).isOk

/-- `_record_counts` -/
def recordCounts (asked : List SmailyCampaign) (report : CampaignReport) : CampaignReport :=
  match collector.counts (asked.map (·.campaignId)) with
  | none => report
  | some counts => { report with counts :=
      { report.counts with apiRequests := counts.requests, apiRetries := counts.retries } }

end Requests

/-! ## A run -/

structure CampaignRequest where
  dryRun : Bool
  collector : CampaignCollector
  limit : Int
  statsLimit : Int

/-- `SourceOutcome`, whose `extra` is the counts. -/
structure CampaignOutcome where
  result : FeedResult
  detail : String
  dryRun : Bool
  extra : CampaignCounts
  deriving DecidableEq

/-- `_failure`, which leaves the state of the audience readings alone. -/
def campaignFailure (message : String) (counts : CampaignCounts) : CampaignOutcome :=
  ⟨.failed, message, false, counts⟩

/-- `_detail` -/
def CampaignReport.detail (report : CampaignReport) (dryRun : Bool) : String :=
  let counts := report.counts
  (if dryRun then "Proovikäivitus: " else "") ++
    if !report.changed then "Smaily kampaaniates ei ole muutusi."
    else
      let part (count : Nat) (text : String) : List String :=
        if count = 0 then [] else [toString count ++ text]
      PyText.join ", " (part counts.campaignsCatalogued " uut kampaaniat" ++
        part counts.statsImported " statistikat lisatud" ++
        part counts.statsRevised " statistikat uuendatud") ++ "."

section Sync

variable (setup : CampaignSetup)

/-- What a run does once the listing has been gone through. -/
def readAndPublish (request : CampaignRequest) (counts : CampaignCounts) :
    CampaignRun CampaignOutcome := do
  let db ← get
  let wanted := needsStatistics db request.statsLimit
  let (report, failed) :=
    readStatistics setup request.collector db.statistics request.dryRun ⟨counts, []⟩ wanted
  let report := recordCounts request.collector (wanted.take report.counts.statsExamined) report
  match failed with
  | some failure => return campaignFailure (statsFailure failure) report.counts
  | none =>
    let outcome : CampaignOutcome :=
      ⟨if report.changed then .imported else .unchanged, report.detail request.dryRun,
        request.dryRun, report.counts⟩
    if !request.dryRun && !report.payloads.isEmpty then
      tryCatch (do publishStatistics setup report.payloads; return outcome) fun error =>
        return campaignFailure (smailyTransportFailure error.typeName) report.counts
    else return outcome

/-- `touch_checked` on the state of the audience readings. -/
def touchSmaily (db : CampaignDb) : CampaignDb :=
  { db with smaily := { db.smaily with state :=
    { db.smaily.state with toFeedState := db.smaily.state.toFeedState.touchChecked db.clock } } }

/-- `synchronize_campaigns` -/
def synchronizeCampaigns (request : CampaignRequest) : CampaignRun CampaignOutcome := do
  modify touchSmaily
  match request.collector.ready with
  | .error failure => return campaignFailure (readyFailure failure) .zero
  | .ok () =>
    match request.collector.collectCampaigns request.limit with
    | .error failure => return campaignFailure failure.message .zero
    | .ok rows =>
      let counts := { CampaignCounts.zero with campaignsListed := rows.length }
      let counts ←
        if !request.dryRun then catalogue setup counts rows
        else (fun db => countListed setup db.campaigns counts rows) <$> get
      readAndPublish setup request counts

end Sync

/-! ## What a run reads -/

section Readings

variable (setup : CampaignSetup) (request : CampaignRequest) (db : CampaignDb)

/-- The campaigns a live run asks about: the ones that need statistics after the listing. -/
def campaignsAsked : List SmailyCampaign :=
  match request.collector.ready, request.collector.collectCampaigns request.limit with
  | .ok (), .ok rows =>
    match catalogue setup { CampaignCounts.zero with campaignsListed := rows.length } rows
      (touchSmaily db) with
    | (.ok _, listed) => needsStatistics listed request.statsLimit
    | (.error _, _) => []
  | _, _ => []

/-- The readings taken in a live run that say something new. -/
def newReadings : List PendingStats :=
  (readingsTaken request.collector (campaignsAsked setup request db)).filter
    (·.differs setup db.statistics)

end Readings

section Requests

variable {setup : CampaignSetup} {collector : CampaignCollector}
  {statistics : List SmailyCampaignStats}

/-- A live run notes a reading exactly if it says something new. -/
theorem noteStats_payloads (report : CampaignReport) (pending : PendingStats) :
    (noteStats setup statistics false report pending).payloads =
      report.payloads ++ [pending].filter (·.differs setup statistics) := by
  unfold noteStats PendingStats.differs
  cases hfigure : pending.stats.hasAnyFigure with
  | false => simp [hfigure]
  | true =>
    cases hcurrent : currentStats statistics pending.campaign.pk with
    | none => simp [hfigure, hcurrent]
    | some current =>
      by_cases hsame : current.checksum = pending.digest setup
      · simp [hfigure, hcurrent, hsame]
      · simp [hfigure, hcurrent, hsame]

theorem readStatistics_payloads (report : CampaignReport) (campaigns : List SmailyCampaign) :
    (readStatistics setup collector statistics false report campaigns).1.payloads =
      report.payloads ++ (readingsTaken collector campaigns).filter
        (·.differs setup statistics) := by
  induction campaigns generalizing report with
  | nil =>
    show report.payloads = report.payloads ++ []
    rw [List.append_nil]
  | cons campaign rest ih =>
    unfold readStatistics readingsTaken
    cases collector.collectCampaignStats campaign.campaignId with
    | error failure =>
      show report.payloads = report.payloads ++ []
      rw [List.append_nil]
    | ok stats =>
      dsimp only
      rw [ih, noteStats_payloads, List.append_assoc, ← List.filter_append]
      rfl

theorem readStatistics_failed (report : CampaignReport) (campaigns : List SmailyCampaign)
    (dryRun : Bool) :
    (readStatistics setup collector statistics dryRun report campaigns).2 = none ↔
      allAnswered collector campaigns = true := by
  induction campaigns generalizing report with
  | nil => exact ⟨fun _ => rfl, fun _ => rfl⟩
  | cons campaign rest ih =>
    unfold readStatistics allAnswered
    rw [List.all_cons]
    cases collector.collectCampaignStats campaign.campaignId with
    | error failure => simp [Except.isOk, Except.toBool]
    | ok stats =>
      rw [ih]
      simp [allAnswered, Except.isOk, Except.toBool]

theorem mem_readingsTaken {campaigns : List SmailyCampaign} :
    ((readingsTaken collector campaigns).map (·.campaign)).Sublist campaigns := by
  induction campaigns with
  | nil => exact List.Sublist.slnil
  | cons campaign rest ih =>
    unfold readingsTaken
    cases collector.collectCampaignStats campaign.campaignId with
    | error failure => exact List.nil_sublist _
    | ok stats => exact ih.cons_cons campaign

end Requests

/-! ## What a run leaves -/

section Run

variable {setup : CampaignSetup} {request : CampaignRequest} {db : CampaignDb}

/-- What differs from the statistics is not current in them. -/
theorem not_isCurrent_of_differs {pending : PendingStats} {statistics : List SmailyCampaignStats}
    (h : pending.differs setup statistics = true) : ¬ pending.IsCurrent setup statistics := by
  intro ⟨row, hrow, hsame, _⟩
  unfold PendingStats.differs at h
  rw [hrow, Bool.and_eq_true, Option.all_some, decide_eq_true_eq] at h
  exact h.2 hsame

theorem batchPublishable_congr {db' : CampaignDb} (hregistry : db'.registry = db.registry)
    (hstatistics : db'.statistics = db.statistics) {payloads : List PendingStats} :
    BatchPublishable setup db' payloads ↔ BatchPublishable setup db payloads := by
  constructor
  · intro hpublishable
    exact ⟨hregistry ▸ hpublishable.accepted, hstatistics ▸ hpublishable.storable,
      hpublishable.fits, hregistry ▸ hpublishable.new⟩
  · intro hpublishable
    exact ⟨hregistry ▸ hpublishable.accepted, hstatistics ▸ hpublishable.storable,
      hpublishable.fits, hregistry ▸ hpublishable.new⟩

/-- The part of a live run after the listing makes the new readings current if and only if there are
none, or no request fails and the batch can be published. -/
theorem readAndPublish_ends (h : db.Sound) (hlive : request.dryRun = false)
    (counts : CampaignCounts) {news : List PendingStats}
    (hnews : news = (readingsTaken request.collector (needsStatistics db request.statsLimit)).filter
      (·.differs setup db.statistics)) :
    (readAndPublish setup request counts).wp
      (fun _ db' => db'.Sound ∧ ((∀ pending ∈ news, pending.IsCurrent setup db'.statistics) ↔
        news = [] ∨ (allAnswered request.collector (needsStatistics db request.statsLimit) = true ∧
          BatchPublishable setup db news)))
      (fun _ _ => False) db := by
  let wanted := needsStatistics db request.statsLimit
  -- where nothing is published, only an empty batch is as the statistics say
  have hnothing {statistics : List SmailyCampaignStats} (hsame : statistics = db.statistics)
      {P : Prop} (hP : ¬ P) : (∀ pending ∈ news, pending.IsCurrent setup statistics) ↔
      news = [] ∨ P := by
    constructor
    · intro hall
      left
      rw [List.eq_nil_iff_forall_not_mem]
      intro pending hin
      have hdiffers : pending.differs setup db.statistics = true := by
        rw [hnews] at hin
        exact (List.mem_filter.mp hin).2
      exact not_isCurrent_of_differs hdiffers (hsame ▸ hall pending hin)
    · intro hcause pending hin
      rw [hcause.resolve_right hP] at hin
      cases hin
  have hdistinct : (news.map (·.campaign.pk)).Nodup := by
    have hsub : (news.map (·.campaign)).Sublist wanted := by
      rw [hnews]
      exact (List.filter_sublist.map _).trans mem_readingsTaken
    have hpks := hsub.map (·.pk)
    rw [List.map_map] at hpks
    exact (nodup_needsStatistics h.campaigns request.statsLimit).sublist hpks
  have hpayloads : (readStatistics setup request.collector db.statistics request.dryRun ⟨counts, []⟩
      wanted).1.payloads = news := by
    rw [hlive, readStatistics_payloads, hnews]
    rfl
  have hfailed := @readStatistics_failed setup request.collector db.statistics ⟨counts, []⟩ wanted
    request.dryRun
  unfold readAndPublish
  rw [Proc.wp_bind, Proc.wp_get]
  dsimp only
  cases hread : readStatistics setup request.collector db.statistics request.dryRun ⟨counts, []⟩
      wanted with
  | mk report failed =>
    rw [hread] at hpayloads hfailed
    have hkept : (recordCounts request.collector (wanted.take report.counts.statsExamined)
        report).payloads = news := by
      unfold recordCounts
      cases request.collector.counts _ with
      | none => exact hpayloads
      | some _ => exact hpayloads
    cases failed with
    | some failure =>
      refine ⟨h, hnothing rfl fun hboth => ?_⟩
      cases hfailed.mpr hboth.1
    | none =>
      have hanswered := hfailed.mp rfl
      dsimp only
      rw [hlive, hkept]
      cases hempty : news.isEmpty with
      | true =>
        have hnil := List.isEmpty_iff.mp hempty
        refine ⟨h, fun _ => Or.inl hnil, fun _ pending hin => ?_⟩
        rw [hnil] at hin
        cases hin
      | false =>
        have hne : news ≠ [] := fun hnil => by
          rw [hnil] at hempty
          cases hempty
        rw [if_pos (show (!false && !false) = true from rfl), Proc.wp_tryCatch, Proc.wp_bind]
        by_cases hpublishable : BatchPublishable setup db news
        · apply Proc.wp_mono (Proc.wp_and (publishStatistics_ends h hdistinct)
            (publishStatistics_succeeds h hdistinct hpublishable))
          · intro _ db' ⟨⟨hsound, _, hcurrent⟩, _⟩
            exact ⟨hsound, fun _ => Or.inr ⟨hanswered, hpublishable⟩, fun _ => hcurrent⟩
          · exact fun _ _ hfalse => hfalse.2.elim
        · apply Proc.wp_mono (publishStatistics_ends h hdistinct)
          · exact fun _ _ hended => absurd hended.2.1 hpublishable
          · intro _ db' ⟨hsound, hsame⟩
            exact ⟨hsound, hnothing hsame fun hboth => hpublishable hboth.2⟩

/-- What a live run leaves, whichever way it ends. -/
structure RunLeaves (setup : CampaignSetup) (request : CampaignRequest) (db db' : CampaignDb) :
    Prop where
  sound : db'.Sound
  current : (∀ pending ∈ newReadings setup request db, pending.IsCurrent setup db'.statistics) ↔
    newReadings setup request db = [] ∨
      (allAnswered request.collector (campaignsAsked setup request db) = true ∧
        BatchPublishable setup db (newReadings setup request db))

/-- A run that asks about no campaign has nothing to publish. -/
theorem RunLeaves.ofNone {db' : CampaignDb} (hsound : db'.Sound)
    (hnone : campaignsAsked setup request db = []) : RunLeaves setup request db db' := by
  have hnil : newReadings setup request db = [] := by
    unfold newReadings
    rw [hnone]
    rfl
  refine ⟨hsound, fun _ => Or.inl hnil, fun _ pending hin => ?_⟩
  rw [hnil] at hin
  cases hin

theorem synchronizeCampaigns_leaves (h : db.Sound) (hlive : request.dryRun = false) :
    (synchronizeCampaigns setup request).wp (fun _ db' => RunLeaves setup request db db')
      (fun _ db' => RunLeaves setup request db db') db := by
  have htouched : (touchSmaily db).Sound := ⟨h.registry, h.campaigns, h.statistics⟩
  unfold synchronizeCampaigns
  rw [Proc.wp_bind, Proc.wp_modify]
  cases hready : request.collector.ready with
  | error failure =>
    refine RunLeaves.ofNone htouched ?_
    unfold campaignsAsked
    rw [hready]
  | ok _ =>
    cases hlisted : request.collector.collectCampaigns request.limit with
    | error failure =>
      refine RunLeaves.ofNone htouched ?_
      unfold campaignsAsked
      rw [hready, hlisted]
    | ok rows =>
      dsimp only
      rw [hlive, Bool.not_false, if_pos rfl, Proc.wp_bind]
      let counts : CampaignCounts := { CampaignCounts.zero with campaignsListed := rows.length }
      have hkept := @keeps_catalogue setup (touchSmaily db) counts rows (touchSmaily db)
        ⟨rfl, h.campaigns⟩
      unfold Proc.wp at hkept
      cases hrun : catalogue setup counts rows (touchSmaily db) with
      | mk out listed =>
        rw [hrun] at hkept
        have hkept' : Catalogued (touchSmaily db) listed := by
          cases out <;> exact hkept
        have hsame : listed = { touchSmaily db with campaigns := listed.campaigns } := hkept'.1
        have hstatistics : listed.statistics = db.statistics :=
          (congrArg CampaignDb.statistics hsame).trans rfl
        have hregistry : listed.registry = db.registry :=
          (congrArg (fun db : CampaignDb => db.registry) hsame).trans rfl
        have hlistedSound : listed.Sound :=
          ⟨hregistry ▸ h.registry, hkept'.2, hstatistics ▸ h.statistics⟩
        cases out with
        | error e =>
          -- the exception ends the run before anything is asked
          unfold Proc.wp
          rw [hrun]
          refine RunLeaves.ofNone hlistedSound ?_
          unfold campaignsAsked
          rw [hready, hlisted]
          dsimp only
          rw [hrun]
        | ok counts' =>
          have hasked : campaignsAsked setup request db =
              needsStatistics listed request.statsLimit := by
            unfold campaignsAsked
            rw [hready, hlisted]
            dsimp only
            rw [hrun]
          have hnews : newReadings setup request db =
              (readingsTaken request.collector (needsStatistics listed request.statsLimit)).filter
                (·.differs setup listed.statistics) := by
            unfold newReadings
            rw [hasked, hstatistics]
          apply Proc.wp_of_eq hrun
          apply Proc.wp_mono (readAndPublish_ends hlistedSound hlive counts' hnews)
          · intro _ db' ⟨hsound, hcurrent⟩
            rw [batchPublishable_congr hregistry hstatistics, ← hasked] at hcurrent
            exact ⟨hsound, hcurrent⟩
          · exact fun _ _ hfalse => hfalse.elim

/-- A live run publishes every new reading it has taken if and only if there is none, or no request
for statistics fails and the batch can be published. -/
theorem synchronizeCampaigns_publishes_iff (h : db.Sound) (hlive : request.dryRun = false) :
    (∀ pending ∈ newReadings setup request db,
        pending.IsCurrent setup (synchronizeCampaigns setup request db).2.statistics) ↔
      newReadings setup request db = [] ∨
        (allAnswered request.collector (campaignsAsked setup request db) = true ∧
          BatchPublishable setup db (newReadings setup request db)) :=
  (synchronizeCampaigns_leaves h hlive).left.current

end Run

/-! ### One campaign that cannot be read -/

def sampleCampaignSetup : CampaignSetup := ⟨sampleSetup, asciiClasses⟩

def sampleCampaignDb : CampaignDb := ⟨{ VisibilityDb.empty with clock := 10 }, [], []⟩

theorem sampleCampaignDb_sound : sampleCampaignDb.Sound :=
  ⟨⟨List.nodup_nil, List.nodup_nil⟩, List.nodup_nil, Lineage.sound_nil⟩

def sampleRow (campaignId : Int) (completedAt : Time) : CampaignRow :=
  ⟨campaignId, "e-Teataja", "e-Teataja liikmed", "", "", "COMPLETED", none, some completedAt⟩

def sampleCollector (earlier : Except SmailyCollectFailure CampaignStatsRow) :
    CampaignCollector where
  ready := .ok ()
  collectCampaigns _ := .ok [sampleRow 1 1, sampleRow 2 2]
  collectCampaignStats campaignId :=
    if campaignId = 2 then .ok ⟨2, fun field => if field = .openedCount then some 3 else none⟩
    else earlier
  counts _ := none

def sampleCampaignRequest (earlier : Except SmailyCollectFailure CampaignStatsRow) :
    CampaignRequest :=
  ⟨false, sampleCollector earlier, 5000, 40⟩

def timedOut : CampaignRequest := sampleCampaignRequest (.error (.other "Timeout"))

def bothAnswered : CampaignRequest :=
  sampleCampaignRequest (.ok ⟨1, fun field => if field = .openedCount then some 5 else none⟩)

/-- The request for the earlier campaign fails, and the reading of the later one is lost. -/
theorem timedOut_loses : ¬ ∀ pending ∈ newReadings sampleCampaignSetup timedOut sampleCampaignDb,
    pending.IsCurrent sampleCampaignSetup
      (synchronizeCampaigns sampleCampaignSetup timedOut sampleCampaignDb).2.statistics := by
  intro hcurrent
  have hone : (newReadings sampleCampaignSetup timedOut sampleCampaignDb).length = 1 := by
    decide +kernel
  have hfailed : allAnswered timedOut.collector
      (campaignsAsked sampleCampaignSetup timedOut sampleCampaignDb) = false := by
    decide +kernel
  have hleaves : RunLeaves sampleCampaignSetup timedOut sampleCampaignDb
      (synchronizeCampaigns sampleCampaignSetup timedOut sampleCampaignDb).2 :=
    (synchronizeCampaigns_leaves sampleCampaignDb_sound rfl).left
  cases hleaves.current.mp hcurrent with
  | inl hnone =>
    exact absurd (List.length_eq_zero_iff.mpr hnone) (by rw [hone]; exact Nat.one_ne_zero)
  | inr hboth => exact Bool.false_ne_true (hfailed.symm.trans hboth.1)

theorem bothAnswered_publishable : BatchPublishable sampleCampaignSetup sampleCampaignDb
    (newReadings sampleCampaignSetup bothAnswered sampleCampaignDb) := by
  have hsize : (batchIdentity sampleCampaignSetup
      (newReadings sampleCampaignSetup bothAnswered sampleCampaignDb)).sizeBytes ∈ Set.Icc
        1 1000 := by
    rw [Set.mem_Icc]
    decide +kernel
  have hlength : (newReadings sampleCampaignSetup bothAnswered sampleCampaignDb).length = 2 := by
    decide +kernel
  have hstorable :
      ((newReadings sampleCampaignSetup bothAnswered sampleCampaignDb).all fun pending =>
      (COUNT_FIELDS.all fun field => (pending.stats.figures field).all fun value =>
        0 ≤ value && value ≤ Column.maxPositiveInteger) &&
      (pending.revision sampleCampaignDb.statistics : Int) ≤ Column.maxPositiveInteger) = true := by
    decide +kernel
  have hnew (importKey : String) : Core.importedBefore sampleCampaignDb.registry importKey =
    false := rfl
  have hmax : 1000 ≤ Sources.sourceArtifactMaxBytes := by decide
  refine ⟨?_, fun pending hin => ?_, ?_, hnew _⟩
  · exact Core.identityAccepted_of_size (sampleCampaignSetup.digest_hex _)
      (Nat.one_le_iff_ne_zero.mp hsize.1) (hsize.2.trans hmax)
  · have hfits := List.all_eq_true.mp hstorable pending hin
    rw [Bool.and_eq_true, decide_eq_true_eq] at hfits
    refine ⟨fun field value hvalue => ?_, hfits.2⟩
    have hfigure := List.all_eq_true.mp hfits.1 field (mem_COUNT_FIELDS field)
    rw [Option.mem_def.mp hvalue] at hfigure
    simpa using hfigure
  · rw [hlength]
    exact ⟨by decide, by decide, by decide⟩

/-- Where both requests are answered, both readings are published. -/
theorem bothAnswered_publishes :
    (newReadings sampleCampaignSetup bothAnswered sampleCampaignDb).length = 2 ∧
    ∀ pending ∈ newReadings sampleCampaignSetup bothAnswered sampleCampaignDb,
      pending.IsCurrent sampleCampaignSetup
        (synchronizeCampaigns sampleCampaignSetup bothAnswered sampleCampaignDb).2.statistics :=
  ⟨by decide +kernel, (synchronizeCampaigns_publishes_iff sampleCampaignDb_sound rfl).mpr
    (Or.inr ⟨by decide +kernel, bothAnswered_publishable⟩)⟩

end Dashkoda.Visibility
