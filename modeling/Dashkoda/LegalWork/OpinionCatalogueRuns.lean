import Dashkoda.LegalWork.OpinionCatalogueBuild

/-!
# Runs of the catalogue build

What a run publishes and what it leaves alone, and how many runs it takes until the catalogue of an
inbox is published.
-/

open Lib

namespace Dashkoda.LegalWork

open Core (NothingPublished RunOpened RunPublished importedBefore)
open Currency (publish current?)
open Sources (Time)

namespace OpinionCatalogue

variable (readers : CatalogueReaders)

/-- The key of the live run that publishes a manifest. -/
def importKey (checksum : String) : String :=
  readers.digestText (Sources.importKeyText IMPORTER_NAME runSchemaVersion checksum)

/-- The digest writes sixty-four hexadecimal digits. -/
def DigestsHex (digestBytes : Bytes → String) : Prop :=
  ∀ payload, Sources.isSha256Hex (digestBytes payload) = true

/-! ## What a run does to the tables -/

/-- The catalogue tables and the public corpus are as they were, and nothing was published. -/
structure LeftAlone (db db' : OpinionDb) : Prop where
  snapshots : db'.catalogueSnapshots = db.catalogueSnapshots
  entries : db'.catalogueEntries = db.catalogueEntries
  publicSnapshots : db'.publicSnapshots = db.publicSnapshots
  clock : db'.clock = db.clock
  registry : NothingPublished db.registry db'.registry

/-- One catalogue was written and made the current one. -/
structure Published (source : Nat) (manifest : List ManifestEntry) (checksum : String)
    (s : BuildState) (snapshot : OpinionCatalogueSnapshot) (db db' : OpinionDb) : Prop where
  pk : snapshot.pk = Table.nextPk db.catalogueSnapshots
  owner : snapshot.source = source
  restates : restates checksum snapshot = true
  snapshots : db'.catalogueSnapshots = publish (·.source = source) snapshot db.catalogueSnapshots
  entries : db'.catalogueEntries = db.catalogueEntries ++
    entryRows readers (Table.nextPk db.catalogueEntries) snapshot.pk s manifest
  written : db'.catalogueEntries.countP (·.snapshot = snapshot.pk) = manifest.length
  publicSnapshots : db'.publicSnapshots = db.publicSnapshots
  clock : db'.clock = db.clock
  registry : RunPublished db.registry (importKey readers checksum) db'.registry

section Publishes

variable {readers : CatalogueReaders} {source : Nat} {manifest : List ManifestEntry}
  {checksum : String} {report : CatalogueReport} {s : BuildState} {db db₀ : OpinionDb}

theorem LeftAlone.refl (h : db.registry.Sound) : LeftAlone db db :=
  ⟨rfl, rfl, rfl, rfl, NothingPublished.refl h⟩

/-- Only the registry is touched by a call on it. -/
theorem wp_onRegistry {α : Type} {x : Proc Sources.Exn Sources.Registry α}
    {P : α → Sources.Registry → Prop} {R : Sources.Registry → Prop}
    (h : x.wp P (fun _ => R) db.registry) :
    (onRegistry x).wp (fun a db' => db' = { db with registry := db'.registry } ∧ P a db'.registry)
      (fun _ db' => db' = { db with registry := db'.registry } ∧ R db'.registry) db := by
  unfold onRegistry
  rw [Proc.wp_onPart]
  exact Proc.wp_mono h (fun _ _ hpost => ⟨rfl, hpost⟩) fun _ _ hraised => ⟨rfl, hraised⟩

theorem writeCatalogue_writes {artifact : Sources.SourceArtifact} {run : Sources.ImportRun}
    (hopened : RunOpened db₀.registry (importKey readers checksum) run db.registry)
    (hsame : db = { db₀ with registry := db.registry }) :
    (writeCatalogue readers source artifact run manifest checksum report s).wp
      (fun snapshot db' => Published readers source manifest checksum s snapshot db₀ db' ∧
        db'.holdings = db₀.holdings)
      (fun _ _ => True) db := by
  unfold writeCatalogue
  rw [Proc.wp_bind, Proc.wp_get]
  dsimp only
  rw [Proc.wp_bind]
  apply wp_raiseViolations _ fun _ => trivial
  intro _
  rw [Proc.wp_ite]
  constructor
  · exact fun _ => trivial
  · intro hcount
    rw [Proc.wp_bind, Proc.wp_modify]
    beta_reduce
    rw [Proc.wp_bind]
    unfold onRegistry
    rw [Proc.wp_onPart]
    apply Proc.wp_mono (hopened.complete _)
    · intro _ registry hpublished
      rw [hsame] at hcount ⊢
      exact ⟨⟨rfl, rfl, by simp [OpinionCatalogue.restates, newSnapshot], rfl, rfl,
        not_not.mp hcount, rfl, rfl, hpublished⟩, rfl⟩
    · exact fun _ _ _ => trivial

theorem publishCatalogue_publishes (hsound : db.registry.Sound)
    (hhex : Sources.isSha256Hex checksum = true) :
    (publishCatalogue readers source manifest checksum report s).wp
      (fun snapshot db' => Published readers source manifest checksum s snapshot db db' ∧
        db'.holdings = db.holdings)
      (fun _ db' => LeftAlone db db' ∧ db'.holdings = db.holdings) db := by
  unfold publishCatalogue
  rw [Proc.wp_bind, Proc.wp_get]
  dsimp only
  have hstart : (Core.startRun readers.digestText source (contentIdentity manifest checksum)
      (Core.findPublishedArtifact db.registry source checksum IMPORTER_NAME).1 IMPORTER_NAME
      runSchemaVersion false db.clock).wp _ _ db.registry := Core.startRun_grows hsound hhex rfl
  rw [Proc.wp_bind]
  apply Proc.wp_mono (wp_onRegistry hstart)
  · rintro opened db₁ ⟨hdb₁, hopened⟩
    rw [Proc.wp_bind, Proc.wp_onError, Proc.wp_atomically]
    apply Proc.wp_mono (writeCatalogue_writes hopened hdb₁)
    · rintro snapshot db₂ ⟨hwritten, hholdings⟩
      unfold markPublished
      rw [Proc.wp_bind, Proc.wp_modify, Proc.wp_pure]
      obtain ⟨hpk, howner, hrestates, hsnapshots, hentries, hcount, hpublic, hclock, hregistry⟩ :=
        hwritten
      exact ⟨⟨hpk, howner, hrestates, hsnapshots, hentries, hcount, hpublic, hclock, hregistry⟩,
        hholdings⟩
    · intro e _ _
      have hclosed {db₂ : OpinionDb} (hdb₂ : db₂ = { db₁ with registry := db₂.registry })
          (hnothing : NothingPublished db.registry db₂.registry) :
          LeftAlone db db₂ ∧ db₂.holdings = db.holdings := by
        rw [hdb₂, hdb₁]
        exact ⟨⟨rfl, rfl, rfl, rfl, hnothing⟩, rfl⟩
      apply Proc.wp_mono (wp_onRegistry (hopened.fail _))
      · exact fun _ _ h => hclosed h.1 h.2
      · exact fun _ _ h => hclosed h.1 h.2
  · rintro e db₁ ⟨hdb₁, hnothing⟩
    rw [hdb₁]
    exact ⟨⟨rfl, rfl, rfl, rfl, hnothing⟩, rfl⟩

end Publishes

/-! ## What a run does to the holdings -/

/-- What a run lists. -/
def manifestOf (visit : SourceVisit) : List ManifestEntry :=
  match visit.manifests with
  | .error _ => []
  | .ok lists => collectManifest lists

def takenUp (visit : SourceVisit) (dryRun : Bool) (maxDocuments : Option Int)
    (holdings : Holdings) :
    List ManifestEntry :=
  nextSlice dryRun (manifestOf visit) holdings (budgetOf maxDocuments)

/-- Blobs and readings were added for documents of a slice, and none was lost. -/
structure Built (visit : SourceVisit) (slice : List ManifestEntry) (h h' : Holdings) : Prop where
  sound : h'.Sound
  extend : Extends h h'
  blobs : ∀ blob ∈ h'.blobs, blob ∈ h.blobs ∨ BlobOf readers visit slice blob
  readings : ∀ extraction ∈ h'.extractions, extraction ∈ h.extractions ∨
    ReadingOf readers visit slice h'.blobs extraction

/-! ## What a run does, and what it reports -/

/-- How a run may end: it published nothing, or it published the manifest and says so. -/
inductive Ends (source : Nat) (dryRun : Bool) (manifest : List ManifestEntry)
    (report : CatalogueReport)
    (db db' : OpinionDb) : Prop
  | kept : LeftAlone db db' → (dryRun = false → report.result ≠ .imported) →
      Ends source dryRun manifest report db db'
  | published (s : BuildState) (snapshot : OpinionCatalogueSnapshot) : dryRun = false →
      report.result = .imported →
      (∀ entry ∈ manifest, ∃ blob ∈ db'.holdings.blobs, blob.sha256 = entry.sha256) →
      Published readers source manifest (manifestChecksum readers.digestBytes manifest) s snapshot
        db db' →
      Ends source dryRun manifest report db db'

/-- The counts of a report are about the manifest, unless the run failed. -/
structure CountsManifest (manifest : List ManifestEntry) (report : CatalogueReport) : Prop where
  total : report.processedEntries + report.pendingEntries = report.manifestEntries
  entries : report.result ≠ .failed → report.manifestEntries = manifest.length

structure RunOver (source : Nat) (dryRun : Bool) (manifest slice : List ManifestEntry)
    (visit : SourceVisit) (report : CatalogueReport) (db db' : OpinionDb) : Prop where
  ends : Ends readers source dryRun manifest report db db'
  counts : CountsManifest manifest report
  holdings : Built readers visit slice db.holdings db'.holdings

structure Raised (slice : List ManifestEntry) (visit : SourceVisit)
    (db db' : OpinionDb) : Prop where
  tables : LeftAlone db db'
  holdings : Built readers visit slice db.holdings db'.holdings

/-- What a run changed before the step that decides how it ends. -/
structure Prepared (visit : SourceVisit) (slice : List ManifestEntry)
    (db db₁ : OpinionDb) : Prop where
  tables : LeftAlone db db₁
  registry : db₁.registry = db.registry
  holdings : Built readers visit slice db.holdings db₁.holdings

section Spec

variable {readers : CatalogueReaders} {source : Nat} {visit : SourceVisit} {dryRun full : Bool}
  {budget : Nat} {manifest slice : List ManifestEntry} {checksum : String} {s : BuildState}
  {db db₁ db' : OpinionDb}

theorem Built.refl {h : Holdings} (hsound : h.Sound) : Built readers visit slice h h :=
  ⟨hsound, Extends.refl h, fun _ hblob => Or.inl hblob, fun _ hreading => Or.inl hreading⟩

/-- Neither the slice nor the rows depend on the files. -/
theorem Processed.built {holdings : Holdings} {files : Files}
    (h : Processed readers visit manifest (nextSlice dryRun manifest { holdings with files } budget)
      (loadKnown { holdings with files } manifest) s) :
    Built readers visit (nextSlice dryRun manifest holdings budget) holdings s.holdings :=
  ⟨h.sound.holdings, ⟨h.extend.blobs, h.extend.extractions⟩, h.blobs, h.readings⟩

theorem countsManifest_failed (detail : String) (checksum : String) :
    CountsManifest manifest (.initial .failed detail dryRun 0 checksum) :=
  ⟨rfl, fun h => absurd rfl h⟩

theorem countsManifest_outstanding {report : CatalogueReport}
    (hprocessed : report.processedEntries = manifest.length - (outstanding manifest s).length)
    (hpending : report.pendingEntries = (outstanding manifest s).length)
    (hentries : report.manifestEntries = manifest.length) : CountsManifest manifest report := by
  have hle : (outstanding manifest s).length ≤ manifest.length := List.length_filter_le _ _
  refine ⟨?_, fun _ => hentries⟩
  omega

/-- A document with a terminal state has a blob. -/
theorem blob_of_outstanding_nil (hs : s.Sound manifest) (hdone : outstanding manifest s = []) :
    ∀ entry ∈ manifest, ∃ blob ∈ s.holdings.blobs, blob.sha256 = entry.sha256 := by
  intro entry hentry
  have hsettled := List.filter_eq_nil_iff.mp hdone entry hentry
  unfold BuildState.isPending at hsettled
  cases hknown : s.knownBlobs.get? entry.sha256 with
  | none =>
    rw [hknown] at hsettled
    exact absurd rfl hsettled
  | some blob =>
    obtain ⟨hblob, hsha⟩ := (hs.blobs entry hentry blob).mp hknown
    exact ⟨blob, hblob, hsha⟩

/-- The end of a run, which touches the tables of the catalogue and the registry only. -/
theorem finishRun_finishes (hsound : db.registry.Sound) (hs : s.Sound manifest)
    (hsame : db.holdings = s.holdings)
    (hhex : Sources.isSha256Hex (manifestChecksum readers.digestBytes manifest) = true) :
    (finishRun readers source manifest (manifestChecksum readers.digestBytes manifest) dryRun s).wp
      (fun report db' => Ends readers source dryRun manifest report db db' ∧
        CountsManifest manifest report ∧ db'.holdings = db.holdings)
      (fun _ _ => False) db := by
  have hrefl : LeftAlone db db := LeftAlone.refl hsound
  unfold finishRun
  dsimp only
  rw [Proc.wp_ite]
  constructor
  · intro hdry
    unfold markProgress
    rw [Proc.wp_bind, Proc.wp_modify, Proc.wp_pure]
    refine ⟨.kept ⟨rfl, rfl, rfl, rfl, hrefl.registry⟩ fun hlive => ?_,
      countsManifest_outstanding (s := s) rfl rfl rfl, rfl⟩
    rw [hlive] at hdry
    cases hdry
  · intro hlive
    rw [Bool.not_eq_true] at hlive
    rw [Proc.wp_ite]
    constructor
    · intro _
      unfold markProgress
      rw [Proc.wp_bind, Proc.wp_modify, Proc.wp_pure]
      exact ⟨.kept ⟨rfl, rfl, rfl, rfl, hrefl.registry⟩ fun _ h => (by cases h),
        countsManifest_outstanding (s := s) rfl rfl rfl, rfl⟩
    · intro hdone
      have hsettled := blob_of_outstanding_nil hs (not_not.mp hdone)
      rw [Proc.wp_bind, Proc.wp_tryCatch, Proc.wp_map]
      apply Proc.wp_mono (publishCatalogue_publishes hsound hhex)
      · rintro snapshot db' ⟨hpublished, hholdings⟩
        refine ⟨.published s snapshot hlive rfl ?_ hpublished,
          countsManifest_outstanding (s := s) rfl rfl rfl, hholdings⟩
        rw [hholdings, hsame]
        exact hsettled
      · rintro e db' ⟨hkept, hholdings⟩
        rw [Proc.wp_pure]
        unfold failRun
        dsimp only
        rw [Proc.wp_bind, Proc.wp_modify, Proc.wp_pure]
        exact ⟨.kept ⟨hkept.snapshots, hkept.entries, hkept.publicSnapshots, hkept.clock,
          hkept.registry⟩ fun _ h => (by cases h), countsManifest_failed _ _, hholdings⟩

theorem wp_catching {α : Type} {ends : OpinionExn → Bool} {x : Syncing α}
    {post : Except OpinionExn α → OpinionDb → Prop} {raised : OpinionExn → OpinionDb → Prop}
    {P : α → OpinionDb → Prop} {R : OpinionExn → OpinionDb → Prop} (hx : x.wp P R db)
    (hok : ∀ a db', P a db' → post (.ok a) db') (hended : ∀ e db', R e db' → post (.error e) db')
    (hraised : ∀ e db', R e db' → raised e db') : (catching ends x).wp post raised db := by
  unfold catching
  rw [Proc.wp_tryCatch, Proc.wp_map]
  apply Proc.wp_mono hx hok
  intro e db' he
  rw [Proc.wp_ite]
  exact ⟨fun _ => hended e db' he, fun _ => hraised e db' he⟩

theorem wp_prepareStore :
    (prepareStore visit).wp
      (fun _ db' => ∃ files, db' = { db with holdings := { db.holdings with files } })
      (fun _ db' => ∃ files, db' = { db with holdings := { db.holdings with files } }) db := by
  unfold prepareStore onFiles
  rw [Proc.wp_onPart]
  beta_reduce
  rw [Proc.wp_onPart]
  exact Proc.wp_of_forall (fun _ files => ⟨files, rfl⟩) fun _ files => ⟨files, rfl⟩

theorem LeftAlone.trans {db₂ : OpinionDb} (h : LeftAlone db db₁)
    (hregistry : db₁.registry = db.registry)
    (h' : LeftAlone db₁ db₂) : LeftAlone db db₂ :=
  ⟨h'.snapshots.trans h.snapshots, h'.entries.trans h.entries,
    h'.publicSnapshots.trans h.publicSnapshots, h'.clock.trans h.clock, hregistry ▸ h'.registry⟩

theorem Published.of_leftAlone {snapshot : OpinionCatalogueSnapshot} (h : LeftAlone db db₁)
    (hregistry : db₁.registry = db.registry)
    (h' : Published readers source manifest checksum s snapshot db₁ db') :
    Published readers source manifest checksum s snapshot db db' := by
  obtain ⟨hpk, howner, hrestates, hsnapshots, hentries, hcount, hpublic, hclock, hpublished⟩ := h'
  rw [h.snapshots] at hpk hsnapshots
  rw [h.entries] at hentries
  rw [hregistry] at hpublished
  exact ⟨hpk, howner, hrestates, hsnapshots, hentries, hcount, hpublic.trans h.publicSnapshots,
    hclock.trans h.clock, hpublished⟩

theorem Ends.of_prepared {report : CatalogueReport} (h : Prepared readers visit slice db db₁)
    (h' : Ends readers source dryRun manifest report db₁ db') :
    Ends readers source dryRun manifest report db db' := by
  cases h' with
  | kept hkept hresult => exact .kept (h.tables.trans h.registry hkept) hresult
  | published s snapshot hlive hresult hsettled hpublished =>
    exact .published s snapshot hlive hresult hsettled
      (hpublished.of_leftAlone h.tables h.registry)

/-- A failure is recorded in the feed state. -/
theorem failRun_fails {error : OpinionExn} (h : Prepared readers visit slice db db₁) :
    (failRun error).wp
      (fun report db' => RunOver readers source dryRun manifest slice visit report db db')
      (fun _ _ => False) db₁ := by
  unfold failRun
  dsimp only
  rw [Proc.wp_bind, Proc.wp_modify, Proc.wp_pure]
  obtain ⟨hsnapshots, hentries, hpublic, hclock, hregistry⟩ := h.tables
  exact ⟨.kept ⟨hsnapshots, hentries, hpublic, hclock, hregistry⟩ fun _ hresult =>
    (by cases hresult),
    countsManifest_failed _ _, h.holdings⟩

theorem prepared_of_built (hsound : db.registry.Sound) {holdings : Holdings}
    (h : Built readers visit slice db.holdings holdings) :
    Prepared readers visit slice db { db with holdings } :=
  ⟨⟨rfl, rfl, rfl, rfl, NothingPublished.refl hsound⟩, rfl, h⟩

theorem built_files {holdings : Holdings} (h : holdings.Sound) (files : Files) :
    Built readers visit slice holdings { holdings with files } :=
  ⟨h.of_same rfl rfl, ⟨List.prefix_refl _, List.prefix_refl _⟩,
    fun _ hblob => Or.inl hblob, fun _ hreading => Or.inl hreading⟩

theorem buildCatalogue_leaves (hsound : db.registry.Sound) (hholdings : db.holdings.Sound)
    (hhex : Sources.isSha256Hex (manifestChecksum readers.digestBytes manifest) = true) :
    (buildCatalogue readers source visit dryRun budget manifest
        (manifestChecksum readers.digestBytes manifest)).wp
      (fun report db' => RunOver readers source dryRun manifest
        (nextSlice dryRun manifest db.holdings budget) visit report db db')
      (fun _ db' => Raised readers (nextSlice dryRun manifest db.holdings budget) visit db
        db') db := by
  have hfiles (files : Files) : Prepared readers visit
      (nextSlice dryRun manifest db.holdings budget) db
      { db with holdings := { db.holdings with files } } :=
    prepared_of_built hsound (built_files hholdings files)
  unfold buildCatalogue
  rw [Proc.wp_bind]
  apply wp_catching wp_prepareStore
  · rintro _ _ ⟨files, rfl⟩
    dsimp only
    rw [Proc.wp_bind]
    apply wp_catching (buildSlice_builds (hfiles files).holdings.sound budget)
    · rintro s _ ⟨rfl, hprocessed, -⟩
      have hbuilt : Prepared readers visit (nextSlice dryRun manifest db.holdings budget) db
          { db with holdings := s.holdings } := prepared_of_built hsound hprocessed.built
      dsimp only
      apply Proc.wp_mono (finishRun_finishes hbuilt.tables.registry.sound hprocessed.sound rfl hhex)
      · rintro report db' ⟨hends, hcounts, hsame⟩
        refine ⟨hends.of_prepared hbuilt, hcounts, ?_⟩
        rw [hsame]
        exact hbuilt.holdings
      · exact fun _ _ hfalse => hfalse.elim
    · rintro e _ ⟨s, rfl, hprocessed⟩
      dsimp only
      apply Proc.wp_mono (failRun_fails (prepared_of_built hsound hprocessed.built))
      · exact fun _ _ h => h
      · exact fun _ _ hfalse => hfalse.elim
    · rintro e _ ⟨s, rfl, hprocessed⟩
      have hbuilt : Prepared readers visit (nextSlice dryRun manifest db.holdings budget) db
          { db with holdings := s.holdings } := prepared_of_built hsound hprocessed.built
      exact ⟨hbuilt.tables, hbuilt.holdings⟩
  · rintro e _ ⟨files, rfl⟩
    dsimp only
    apply Proc.wp_mono (failRun_fails (hfiles files))
    · exact fun _ _ h => h
    · exact fun _ _ hfalse => hfalse.elim
  · rintro e _ ⟨files, rfl⟩
    exact ⟨(hfiles files).tables, (hfiles files).holdings⟩

theorem synchronizeManifest_leaves (hsound : db.registry.Sound) (hholdings : db.holdings.Sound)
    (hhex : Sources.isSha256Hex (manifestChecksum readers.digestBytes manifest) = true) :
    (synchronizeManifest readers source visit dryRun full budget manifest).wp
      (fun report db' => RunOver readers source dryRun manifest
        (nextSlice dryRun manifest db.holdings budget) visit report db db')
      (fun _ db' => Raised readers (nextSlice dryRun manifest db.holdings budget) visit db
        db') db := by
  have hrefl : LeftAlone db db := LeftAlone.refl hsound
  unfold synchronizeManifest
  dsimp only
  rw [Proc.wp_ite]
  constructor
  · intro hempty
    unfold markUnchanged
    rw [Proc.wp_bind, Proc.wp_modify, Proc.wp_pure]
    refine ⟨.kept ⟨rfl, rfl, rfl, rfl, hrefl.registry⟩ fun _ h => (by cases h), ⟨rfl, fun _ => ?_⟩,
      Built.refl hholdings⟩
    rw [hempty]
    rfl
  · intro _
    rw [Proc.wp_bind, Proc.wp_get]
    dsimp only
    cases (currentCatalogue? db source).filter fun snapshot =>
        restates (manifestChecksum readers.digestBytes manifest) snapshot && !full with
    | some published =>
      dsimp only
      unfold markUnchanged
      rw [Proc.wp_bind, Proc.wp_modify, Proc.wp_pure]
      exact ⟨.kept ⟨rfl, rfl, rfl, rfl, hrefl.registry⟩ fun _ h => (by cases h),
        ⟨rfl, fun _ => rfl⟩, Built.refl hholdings⟩
    | none => exact buildCatalogue_leaves hsound hholdings hhex

theorem synchronize_leaves (hsound : db.registry.Sound) (hholdings : db.holdings.Sound)
    (hhex : DigestsHex readers.digestBytes) (maxDocuments : Option Int) :
    (synchronizeOpinionDocuments readers source visit dryRun full maxDocuments).wp
      (fun report db' => RunOver readers source dryRun (manifestOf visit)
        (takenUp visit dryRun maxDocuments db.holdings) visit report db db')
      (fun _ db' => Raised readers (takenUp visit dryRun maxDocuments db.holdings) visit db
        db') db := by
  let checked : OpinionDb := { db with catalogueState := { db.catalogueState with
    toFeedState := db.catalogueState.toFeedState.touchChecked db.clock } }
  have hchecked (slice : List ManifestEntry) : Prepared readers visit slice db checked :=
    ⟨⟨rfl, rfl, rfl, rfl, NothingPublished.refl hsound⟩, rfl, Built.refl hholdings⟩
  unfold synchronizeOpinionDocuments takenUp manifestOf
  rw [Proc.wp_bind, Proc.wp_modify]
  change Proc.wp _ _ _ checked
  cases visit.manifests with
  | error e =>
    dsimp only
    rw [Proc.wp_ite]
    constructor
    · intro _
      have hfailed : (failRun e).wp (fun report db' => RunOver readers source dryRun []
          (nextSlice dryRun [] db.holdings (budgetOf maxDocuments)) visit report db db')
            _ checked :=
        failRun_fails (hchecked _)
      exact Proc.wp_mono hfailed (fun _ _ h => h) fun _ _ hfalse => hfalse.elim
    · exact fun _ => ⟨(hchecked []).tables, (hchecked _).holdings⟩
  | ok lists =>
    dsimp only
    have hrun : (synchronizeManifest readers source visit dryRun full (budgetOf maxDocuments)
        (collectManifest lists)).wp _ _ checked :=
      synchronizeManifest_leaves hsound hholdings (hhex _)
    apply Proc.wp_mono hrun
    · rintro report db' ⟨hends, hcounts, hbuilt⟩
      exact ⟨hends.of_prepared (hchecked []), hcounts, hbuilt⟩
    · rintro e db' ⟨htables, hbuilt⟩
      exact ⟨(hchecked []).tables.trans (hchecked []).registry htables, hbuilt⟩

end Spec

/-! ## Runs one after the other -/

/-- A published catalogue rests on a successful import, and its entries on its snapshot. -/
structure CatalogueSound (db : OpinionDb) : Prop where
  registry : db.registry.Sound
  holdings : db.holdings.Sound
  owners : ∀ entry ∈ db.catalogueEntries, Table.HasKey db.catalogueSnapshots entry.snapshot
  imported : ∀ snapshot ∈ db.catalogueSnapshots,
    restates snapshot.sourceManifestChecksum snapshot = true ∧
      importedBefore db.registry (importKey readers snapshot.sourceManifestChecksum) = true

section Runs

variable {readers : CatalogueReaders} {source : Nat} {visit : SourceVisit} {dryRun full : Bool}
  {manifest slice : List ManifestEntry} {checksum : String} {s : BuildState}
  {snapshot : OpinionCatalogueSnapshot} {report : CatalogueReport} {db db' : OpinionDb}

theorem catalogueSound_empty (files : Files) : CatalogueSound readers (OpinionDb.empty files) where
  registry := ⟨List.nodup_nil, List.nodup_nil⟩
  holdings := ⟨List.nodup_nil, List.nodup_nil, fun _ h => (by cases h)⟩
  owners _ h := by cases h
  imported _ h := by cases h

theorem CatalogueSound.keeps (h : CatalogueSound readers db) (hkept : LeftAlone db db')
    (hholdings : db'.holdings.Sound) : CatalogueSound readers db' where
  registry := hkept.registry.sound
  holdings := hholdings
  owners := by
    rw [hkept.entries, hkept.snapshots]
    exact h.owners
  imported snapshot hsnapshot := by
    rw [hkept.snapshots] at hsnapshot
    rw [hkept.registry.importedBefore]
    exact h.imported snapshot hsnapshot

theorem Published.fresh (h : Published readers source manifest checksum s snapshot db db') :
    ∀ row ∈ db.catalogueSnapshots, Row.pk row < Row.pk snapshot := by
  intro row hrow
  change row.pk < snapshot.pk
  rw [h.pk]
  exact Table.pk_lt_nextPk hrow

theorem checksum_of_restates (h : restates checksum snapshot = true) :
    snapshot.sourceManifestChecksum = checksum := by
  unfold restates at h
  rw [Bool.and_eq_true, Bool.and_eq_true, decide_eq_true_iff] at h
  exact h.1.1

/-- A row after a publication is the new one or an old one, but for the flag. -/
theorem Published.mem_snapshots (h : Published readers source manifest checksum s snapshot db db')
    {row : OpinionCatalogueSnapshot} (hrow : row ∈ db'.catalogueSnapshots) :
    ∃ flag old, row = { old with isCurrent := flag } ∧
      (old = snapshot ∨ old ∈ db.catalogueSnapshots) := by
  rw [h.snapshots, Currency.mem_publish h.fresh] at hrow
  rcases hrow with rfl | ⟨old, hold, rfl⟩
  · exact ⟨true, snapshot, rfl, Or.inl rfl⟩
  · split
    · exact ⟨false, old, rfl, Or.inr hold⟩
    · exact ⟨old.isCurrent, old, rfl, Or.inr hold⟩

theorem Published.hasKey
    (h : Published readers source manifest checksum s snapshot db db') {pk : Nat}
    (hpk : pk = snapshot.pk ∨ Table.HasKey db.catalogueSnapshots pk) :
    Table.HasKey db'.catalogueSnapshots pk := by
  rw [h.snapshots]
  rcases hpk with rfl | ⟨old, hold, rfl⟩
  · exact ⟨{ snapshot with isCurrent := true },
      (Currency.mem_publish h.fresh).mpr (Or.inl rfl), rfl⟩
  · refine ⟨_, (Currency.mem_publish h.fresh).mpr (Or.inr ⟨old, hold, rfl⟩), ?_⟩
    split <;> rfl

theorem CatalogueSound.published (h : CatalogueSound readers db)
    (hpublished : Published readers source manifest checksum s snapshot db db')
    (hholdings : db'.holdings.Sound) : CatalogueSound readers db' where
  registry := hpublished.registry.sound
  holdings := hholdings
  owners entry hentry := by
    rw [hpublished.entries, List.mem_append] at hentry
    cases hentry with
    | inl hold => exact hpublished.hasKey (Or.inr (h.owners entry hold))
    | inr hnew =>
      obtain ⟨i, hi, rfl⟩ := List.mem_mapIdx.mp hnew
      exact hpublished.hasKey (Or.inl rfl)
  imported row hrow := by
    obtain ⟨flag, old, rfl, hold⟩ := hpublished.mem_snapshots hrow
    rw [hpublished.registry.importedBefore, Bool.or_eq_true, decide_eq_true_iff]
    cases hold with
    | inl hnew =>
      have hchecksum := checksum_of_restates hpublished.restates
      rw [hnew]
      refine ⟨?_, Or.inr (congrArg (importKey readers) hchecksum.symm)⟩
      change restates snapshot.sourceManifestChecksum snapshot = true
      rw [hchecksum]
      exact hpublished.restates
    | inr hmem =>
      obtain ⟨hrestates, himported⟩ := h.imported old hmem
      exact ⟨hrestates, Or.inl himported⟩

/-- After a publication the new snapshot is the current one of the source. -/
theorem Published.current (h : Published readers source manifest checksum s snapshot db db') :
    currentCatalogue? db' source = some { snapshot with isCurrent := true } := by
  unfold currentCatalogue?
  rw [h.snapshots]
  exact Currency.current?_publish_scope h.fresh (fun _ _ => rfl) (decide_eq_true h.owner)

theorem LeftAlone.current (h : LeftAlone db db') :
    currentCatalogue? db' source = currentCatalogue? db source := by
  unfold currentCatalogue?
  rw [h.snapshots]

theorem RunOver.sound (h : RunOver readers source dryRun manifest slice visit report db db')
    (hsound : CatalogueSound readers db) : CatalogueSound readers db' := by
  cases h.ends with
  | kept hkept _ => exact hsound.keeps hkept h.holdings.sound
  | published s snapshot _ _ _ hpublished => exact hsound.published hpublished h.holdings.sound

theorem catalogueStep_sound (hhex : DigestsHex readers.digestBytes) (h : CatalogueSound readers db)
    (act : CatalogueAction) : CatalogueSound readers (catalogueStep readers source db act) := by
  cases act with
  | wait elapsed => exact ⟨h.registry, h.holdings, h.owners, h.imported⟩
  | synchronize visit dryRun full maxDocuments =>
    have hrun :
        (synchronizeOpinionDocuments readers source visit dryRun full maxDocuments).wp _ _ db :=
      synchronize_leaves h.registry h.holdings hhex maxDocuments
    have hsound := Proc.wp_mono hrun (fun _ _ hleft => hleft.sound h)
      fun _ _ hraised => h.keeps hraised.tables hraised.holdings.sound
    exact hsound.left

theorem catalogueSound_run (hhex : DigestsHex readers.digestBytes) (files : Files)
    (acts : List CatalogueAction) :
    CatalogueSound readers (run (catalogueStep readers source) (OpinionDb.empty files) acts) := by
  have hstep (db : OpinionDb) (act : CatalogueAction) (h : CatalogueSound readers db) :
      CatalogueSound readers (catalogueStep readers source db act) := catalogueStep_sound hhex h act
  exact run_keeps hstep acts (catalogueSound_empty files)

end Runs

end OpinionCatalogue

end Dashkoda.LegalWork
