import Dashkoda.Feeds.Contents

/-!
# A run of the archive feed

The archive differs from the other feeds in what it calls unchanged: content published before is
unchanged only when no work is left.  With work left the run tries to publish it a second time.
-/

open Lib

namespace Dashkoda.Feeds.ArchivedTopics

open Core

/-- What one walk and its hydration found, over what was carried forward. -/
structure ArchiveReading where
  items : List ArchivedTopicFields
  pagesFetched : Nat
  detailRequests : Nat
  newItems : Nat
  priorityCandidateCount : Nat
  priorityDetailedCount : Nat
  priorityPendingCount : Nat
  recentPendingCount : Nat
  reachedEnd : Bool
  deriving DecidableEq

/-- The walk, the merge with the previous snapshot and the hydration of one run. -/
abbrev ArchiveCollector := Option ArchiveContent → Except CollectFailure ArchiveReading

structure ArchiveSyncReport extends SourceOutcome where
  newItems : Nat
  priorityCandidateCount : Nat
  priorityDetailedCount : Nat
  priorityPendingCount : Nat
  indexComplete : Bool
  backfillComplete : Bool
  pagesFetched : Nat
  detailRequests : Nat

def ArchiveSyncReport.failure (outcome : SourceOutcome) : ArchiveSyncReport :=
  { toSourceOutcome := outcome
    newItems := 0
    priorityCandidateCount := 0
    priorityDetailedCount := 0
    priorityPendingCount := 0
    indexComplete := false
    backfillComplete := false
    pagesFetched := 0
    detailRequests := 0 }

/-- The index stays complete once a walk has reached its end. -/
def indexComplete (previous : Option ArchiveContent) (reading : ArchiveReading) : Bool :=
  reading.reachedEnd || previous.any (·.indexComplete)

/-- No work is left that a link or the recent window depends on. -/
def complete (previous : Option ArchiveContent) (reading : ArchiveReading) : Bool :=
  indexComplete previous reading && reading.priorityPendingCount =
    0 && reading.recentPendingCount = 0

def contentOf (previous : Option ArchiveContent) (reading : ArchiveReading) : ArchiveContent where
  items := reading.items
  pagesFetched := reading.pagesFetched
  priorityCandidateCount := reading.priorityCandidateCount
  priorityDetailedCount := reading.priorityDetailedCount
  priorityPendingCount := reading.priorityPendingCount
  indexComplete := indexComplete previous reading
  backfillComplete := complete previous reading

def reportOf (previous : Option ArchiveContent) (reading : ArchiveReading)
    (outcome : SourceOutcome) :
    ArchiveSyncReport :=
  if outcome.result = .failed then .failure outcome
  else
    { toSourceOutcome := outcome
      newItems := reading.newItems
      priorityCandidateCount := reading.priorityCandidateCount
      priorityDetailedCount := reading.priorityDetailedCount
      priorityPendingCount := reading.priorityPendingCount
      indexComplete := indexComplete previous reading
      backfillComplete := complete previous reading
      pagesFetched := reading.pagesFetched
      detailRequests := reading.detailRequests }

/-- `state.current_snapshot` -/
def previousSnapshot (db : FeedDb ArchiveContent) : Option ArchiveContent :=
  (db.state.currentSnapshot.bind (Table.get? db.published)).map (·.content)

section Run

variable (digestBytes : List UInt8 → String) (source : Nat)

def finishRun (previous : Option ArchiveContent) (reading : ArchiveReading) (dryRun : Bool) :
    FeedRun ArchiveContent SourceOutcome := do
  let db ← get
  let content := contentOf previous reading
  let identity := (feed source).identity digestBytes content
  let found := findPublishedArtifact db.registry source identity.sha256 (feed source).importerName
  if found.2 && complete previous reading then recordUnchanged (feed source) none dryRun
  else
    let opened ← tryStartRun digestBytes (feed source).toFeedFacts identity found.1 dryRun
    match opened with
    | .error error => recordFailure error.describe
    | .ok opened =>
      if dryRun then
        onRegistry (completeRun opened.2 db.clock ⟨0, content.items.length, 0, []⟩)
        return ⟨.imported, (feed source).messages.dryRun, true, content.items.length⟩
      else publishCollected (feed source) opened ⟨content, none⟩

def synchronizeArchivedTopics (collect : ArchiveCollector) (dryRun : Bool) :
    FeedRun ArchiveContent ArchiveSyncReport := do
  let db ← get
  modifyState (·.touchChecked db.clock)
  let previous := previousSnapshot db
  match collect previous with
  | .error failure => ArchiveSyncReport.failure <$> recordFailure failure.describe
  | .ok reading =>
    reportOf previous reading <$> finishRun digestBytes source previous reading dryRun

end Run

theorem reportOf_result (previous : Option ArchiveContent) (reading : ArchiveReading)
    (outcome : SourceOutcome) : (reportOf previous reading outcome).result = outcome.result := by
  unfold reportOf
  split
  · rfl
  · rfl

/-! ## What a live run shows -/

section Shows

variable {digestBytes : List UInt8 → String} {source : Nat} {feeds : List FeedFacts}
  {reading : ArchiveReading} {collect : ArchiveCollector} {previous : Option ArchiveContent}
  {db : FeedDb ArchiveContent} {publishable : Prop}

/-- Content published before is unchanged while no work is left. -/
theorem finishRun_unchanged (hcomplete : complete previous reading = true)
    (hpublished : publishedBefore db.registry (feed source).toFeedFacts
      ((feed source).identity digestBytes (contentOf previous reading)).sha256 = true) :
    (finishRun digestBytes source previous reading false).wp
        ((feed source).Shows (contentOf previous reading) publishable) (fun _ _ => False) db ↔
      (feed source).States (contentOf previous reading) db := by
  have hfound : (findPublishedArtifact db.registry source
      ((feed source).identity digestBytes (contentOf previous reading)).sha256
      (feed source).importerName).2 = true := hpublished
  unfold finishRun
  rw [Proc.wp_bind, Proc.wp_get]
  dsimp only
  rw [hfound, hcomplete, if_pos (show (true && true) = true from rfl)]
  unfold recordUnchanged modifyState
  rw [Proc.wp_bind, Proc.wp_get]
  dsimp only
  rw [if_pos (show (!false) = true from rfl), Proc.wp_bind, Proc.wp_modify, Proc.wp_pure]
  constructor
  · exact fun hshows => hshows.1 fun hfailed => by cases hfailed
  · exact fun hstates => ⟨fun _ => hstates, fun _ hfailed => by cases hfailed⟩

/-- Otherwise the run publishes, and whether it can is decided by the key of the content. -/
theorem finishRun_publishes
    (hguard : publishable → (feed source).Publishable digestBytes (contentOf previous reading) db)
    (hhex : ∀ bytes, Sources.isSha256Hex (digestBytes bytes) = true)
    (hnames : ImporterNames (feed source).importerName (feed source).schemaVersion)
    (h : Attributed (digestText digestBytes) feeds db.registry)
    (hnot : (publishedBefore db.registry (feed source).toFeedFacts
      ((feed source).identity digestBytes (contentOf previous reading)).sha256 &&
        complete previous reading) = false) :
    (finishRun digestBytes source previous reading false).wp
      (fun outcome db' =>
        (outcome.result ≠ .failed → (feed source).States (contentOf previous reading) db' ∧
          importedBefore db.registry (digestText digestBytes ((feed source).keyText
            ((feed source).identity digestBytes (contentOf previous reading)).sha256)) = false) ∧
        (importedBefore db.registry (digestText digestBytes ((feed source).keyText
            ((feed source).identity digestBytes (contentOf previous reading)).sha256)) = false →
          publishable → outcome.result ≠ .failed))
      (fun _ _ => False) db := by
  have hfound : ¬ ((findPublishedArtifact db.registry source
      ((feed source).identity digestBytes (contentOf previous reading)).sha256
      (feed source).importerName).2 && complete previous reading) = true :=
    Bool.eq_false_iff.mp hnot
  unfold finishRun
  rw [Proc.wp_bind, Proc.wp_get]
  dsimp only
  rw [if_neg hfound, Proc.wp_bind]
  have hopens : (tryStartRun digestBytes (feed source).toFeedFacts
      ((feed source).identity digestBytes (contentOf previous reading))
      (findPublishedArtifact db.registry source
        ((feed source).identity digestBytes (contentOf previous reading)).sha256
        (feed source).importerName).1 false).wp _ _ db := tryStartRun_opens h hhex (hhex _) hnames
  apply Proc.wp_mono hopens
  · intro opened db₁ hopened
    obtain ⟨hframe, hcase⟩ := hopened
    cases hcase with
    | inl hok =>
      obtain ⟨pair, rfl, hrun, hgrown⟩ := hok
      have hclock : db₁.clock = db.clock := by rw [hframe]
      exact PublicFeed.publishCollected_publishes hguard (hclock ▸ hrun) hgrown
    | inr hrefused =>
      obtain ⟨⟨error, rfl⟩, haccepted⟩ := hrefused
      unfold recordFailure modifyState
      dsimp only
      rw [Proc.wp_bind, Proc.wp_modify, Proc.wp_pure]
      refine ⟨fun hresult => (hresult rfl).elim, fun _ hpublishable => ?_⟩
      exact (Bool.false_ne_true (haccepted.symm.trans (hguard hpublishable).accepted)).elim
  · exact fun _ _ hfalse => hfalse

/-- A live run of the archive shows what it read unless that was published before: then it must be
what is current, with no work left. -/
theorem synchronizeArchivedTopics_shows_iff
    (hhex : ∀ bytes, Sources.isSha256Hex (digestBytes bytes) = true)
    (hnames : ImporterNames (feed source).importerName (feed source).schemaVersion)
    (htexts : TextsApart feeds)
    (hdistinct : ∀ f ∈ feeds, ∀ g ∈ feeds, f.importerName = g.importerName → f = g)
    (hfacts : (feed source).toFeedFacts ∈ feeds)
    (h : Attributed (digestText digestBytes) feeds db.registry)
    (hapart : KeysApart (digestText digestBytes) feeds db.registry (feed source).toFeedFacts
      ((feed source).identity digestBytes (contentOf (previousSnapshot db) reading)).sha256)
    (hcollect : collect (previousSnapshot db) = .ok reading) :
    (synchronizeArchivedTopics digestBytes source collect false).wp
        (fun report db' => (feed source).Shows (contentOf (previousSnapshot db) reading)
          ((feed source).Publishable digestBytes (contentOf (previousSnapshot db) reading) db)
          report.toSourceOutcome db') (fun _ _ => False) db ↔
      (publishedBefore db.registry (feed source).toFeedFacts
          ((feed source).identity digestBytes (contentOf (previousSnapshot db) reading)).sha256 =
            true →
        if complete (previousSnapshot db) reading then
          (feed source).States (contentOf (previousSnapshot db) reading) db
        else ¬ (feed source).Publishable digestBytes
          (contentOf (previousSnapshot db) reading) db) := by
  let checked : FeedDb ArchiveContent := { db with state := db.state.touchChecked db.clock }
  let previous := previousSnapshot db
  let content := contentOf previous reading
  have hreport : (synchronizeArchivedTopics digestBytes source collect false).wp
        (fun report db' => (feed source).Shows content
          ((feed source).Publishable digestBytes content db) report.toSourceOutcome db')
        (fun _ _ => False) db ↔
      (finishRun digestBytes source previous reading false).wp ((feed source).Shows content
        ((feed source).Publishable digestBytes content db)) (fun _ _ => False) checked := by
    unfold synchronizeArchivedTopics modifyState
    rw [Proc.wp_bind, Proc.wp_get]
    dsimp only
    rw [Proc.wp_bind, Proc.wp_modify, hcollect]
    dsimp only
    rw [Proc.wp_map]
    unfold PublicFeed.Shows
    simp only [reportOf_result]
    exact Iff.rfl
  rw [hreport]
  have hguard (hpublishable : (feed source).Publishable digestBytes content db) :
      (feed source).Publishable digestBytes content checked :=
    ⟨hpublishable.unrefused, hpublishable.accepted, hpublishable.storable, hpublishable.fits⟩
  have hchecked : Attributed (digestText digestBytes) feeds checked.registry := h
  cases hpublished : publishedBefore db.registry (feed source).toFeedFacts
      ((feed source).identity digestBytes content).sha256 with
  | true =>
    cases hcomplete : complete previous reading with
    | true =>
      have hunchanged : (finishRun digestBytes source previous reading false).wp
          ((feed source).Shows content ((feed source).Publishable digestBytes content db))
          (fun _ _ => False) checked ↔ (feed source).States content checked :=
        finishRun_unchanged hcomplete hpublished
      exact ⟨fun hshows _ => hunchanged.mp hshows, fun hstates => hunchanged.mpr (hstates rfl)⟩
    | false =>
      -- the second publication runs into the key the first one holds
      have hbefore : importedBefore db.registry (digestText digestBytes
          ((feed source).keyText ((feed source).identity digestBytes content).sha256)) = true :=
        h.importedBefore hdistinct hfacts hpublished
      have hnot : (publishedBefore checked.registry (feed source).toFeedFacts
          ((feed source).identity digestBytes content).sha256 && complete previous
            reading) = false := by
        rw [hcomplete, Bool.and_false]
      have hruns := finishRun_publishes hguard hhex hnames hchecked hnot
      have hfails : (finishRun digestBytes source previous reading false).wp
          (fun outcome _ => outcome.result = .failed) (fun _ _ => False) checked := by
        apply Proc.wp_mono hruns
        · intro outcome db' hpost
          by_contra hresult
          have hfree := (hpost.1 hresult).2
          exact Bool.false_ne_true (hfree.symm.trans hbefore)
        · exact fun _ _ hfalse => hfalse
      constructor
      · intro hshows _ hpublishable
        obtain ⟨outcome, db', hrun, hfailed⟩ := hfails.returns
        exact (hshows.ok hrun).2 hpublishable hfailed
      · intro hunpublishable
        apply Proc.wp_mono hfails
        · intro outcome db' hfailed
          refine ⟨fun hresult => (hresult hfailed).elim, fun hpublishable => ?_⟩
          exact (hunpublishable rfl hpublishable).elim
        · exact fun _ _ hfalse => hfalse
  | false =>
    have hnew : importedBefore db.registry (digestText digestBytes
        ((feed source).keyText ((feed source).identity digestBytes content).sha256)) = false := by
      rw [Bool.eq_false_iff]
      intro hbefore
      have htaken := h.publishedBefore htexts hfacts (hhex _) hapart hbefore
      exact Bool.false_ne_true (hpublished.symm.trans htaken)
    have hnot : (publishedBefore checked.registry (feed source).toFeedFacts
        ((feed source).identity digestBytes content).sha256 && complete previous
          reading) = false := by
      rw [show publishedBefore checked.registry (feed source).toFeedFacts
        ((feed source).identity digestBytes content).sha256 = false from hpublished, Bool.false_and]
    refine ⟨fun _ hfalse => (by cases hfalse), fun _ => ?_⟩
    apply Proc.wp_mono (finishRun_publishes hguard hhex hnames hchecked hnot)
    · exact fun outcome db' hpost => ⟨fun hresult => (hpost.1 hresult).1, hpost.2 hnew⟩
    · exact fun _ _ hfalse => hfalse

end Shows

/-- A run of the archive leaves the registry with runs of the feeds only. -/
theorem keeps_synchronizeArchivedTopics {digestBytes : List UInt8 → String} {source : Nat}
    {feeds : List FeedFacts} (hhex : ∀ bytes, Sources.isSha256Hex (digestBytes bytes) = true)
    (hfacts : (feed source).toFeedFacts ∈ feeds) (collect : ArchiveCollector) (dryRun : Bool) :
    Proc.Keeps (FeedDb.Attributed digestBytes feeds)
      (synchronizeArchivedTopics digestBytes source collect dryRun) := by
  have hfinish (previous : Option ArchiveContent) (reading : ArchiveReading) :
      Proc.Keeps (FeedDb.Attributed digestBytes feeds)
        (finishRun digestBytes source previous reading dryRun) := by
    intro db h
    unfold finishRun
    rw [Proc.wp_bind, Proc.wp_get]
    dsimp only
    rw [Proc.wp_ite]
    refine ⟨fun _ => keeps_recordUnchanged _ _ _ db h, fun _ => ?_⟩
    rw [Proc.wp_bind]
    have hopens : (tryStartRun digestBytes (feed source).toFeedFacts
        ((feed source).identity digestBytes (contentOf previous reading))
        (findPublishedArtifact db.registry source
          ((feed source).identity digestBytes (contentOf previous reading)).sha256
          (feed source).importerName).1 dryRun).wp _ _ db :=
            tryStartRun_attributed h hfacts (hhex _)
    apply Proc.wp_mono hopens
    · intro opened db₁ hopened
      obtain ⟨hkept, hpair⟩ := hopened
      cases opened with
      | error error => exact keeps_recordFailure error.describe db₁ hkept
      | ok pair =>
        obtain ⟨hartifact, hmade⟩ := hpair pair rfl
        exact keeps_finishOpened hkept hfacts hartifact hmade
    · exact fun _ _ hkept => hkept
  unfold synchronizeArchivedTopics
  refine Proc.keeps_bind Proc.keeps_get fun db => ?_
  refine Proc.keeps_bind (keeps_modifyState _) fun _ => ?_
  dsimp only
  cases collect (previousSnapshot db) with
  | error failure => exact Proc.keeps_map _ (keeps_recordFailure _)
  | ok reading => exact Proc.keeps_map _ (hfinish _ reading)

end Dashkoda.Feeds.ArchivedTopics
