import Dashkoda.LegalWork.OpinionCatalogueFinishes
import Dashkoda.LegalWork.OpinionRepublication

/-!
# The two opinion feeds side by side

The catalogue build and the public corpus share one registry and one set of stored documents.  In
whatever order their runs come, a run that collected its content shows it under the conditions of
its own feed.
-/

open Lib

namespace Dashkoda.LegalWork

open Core (NothingPublished RunPublished importedBefore)
open Sources (Time)

inductive OpinionAction where
  | wait (elapsed : Time)
  | catalogue (visit : OpinionCatalogue.SourceVisit) (dryRun full : Bool)
    (maxDocuments : Option Int)
  | corpus (visit : PublicOpinions.Visit) (dryRun full : Bool)

/-- The readers and the sources of the two feeds. -/
structure OpinionSetup where
  catalogue : OpinionCatalogue.CatalogueReaders
  corpus : PublicOpinions.PublicReaders
  catalogueSource : Nat
  corpusSource : Nat

def opinionStep (setup : OpinionSetup) (db : OpinionDb) : OpinionAction → OpinionDb
  | .wait elapsed => { db with clock := db.clock + elapsed }
  | .catalogue visit dryRun full maxDocuments =>
    (OpinionCatalogue.synchronizeOpinionDocuments setup.catalogue setup.catalogueSource
      visit dryRun full
      maxDocuments db).2
  | .corpus visit dryRun full =>
    (PublicOpinions.synchronizePublicOpinions setup.corpus setup.corpusSource visit
      dryRun full db).2

namespace PublicOpinions

/-- What the other feed relies on is kept: its tables, sound holdings, and what was ever
imported. -/
structure LeavesCatalogue (db db' : OpinionDb) : Prop where
  snapshots : db'.catalogueSnapshots = db.catalogueSnapshots
  entries : db'.catalogueEntries = db.catalogueEntries
  holdings : db'.holdings.Sound
  registry : db'.registry.Sound
  imported : ∀ key, importedBefore db.registry key = true → importedBefore db'.registry key = true

section Leaves

variable {readers : PublicReaders} {source : Nat} {visit : Visit} {drafts : List PageDraft}
  {report : PublicOpinionReport} {full dryRun : Bool} {db : OpinionDb}

theorem keeps_onRegistry {α : Type} {Inv : OpinionDb → Prop}
    (x : Proc Sources.Exn Sources.Registry α)
    (h : ∀ registry db, Inv db → Inv { db with registry }) : Proc.Keeps Inv (onRegistry x) :=
  Proc.keeps_onPart x h

/-- A publication writes to the registry and the corpus tables only. -/
theorem publishCorpus_frame (identity : Core.ContentIdentity) :
    (publishCorpus readers source drafts identity report full).wp
      (fun _ db' => db'.catalogueSnapshots = db.catalogueSnapshots ∧
        db'.catalogueEntries = db.catalogueEntries ∧ db'.holdings = db.holdings)
      (fun _ db' => db'.catalogueSnapshots = db.catalogueSnapshots ∧
        db'.catalogueEntries = db.catalogueEntries ∧ db'.holdings = db.holdings) db := by
  have hkeeps : Proc.Keeps (fun db' : OpinionDb => db'.catalogueSnapshots = db.catalogueSnapshots ∧
      db'.catalogueEntries = db.catalogueEntries ∧ db'.holdings = db.holdings)
      (publishCorpus readers source drafts identity report full) := by
    unfold publishCorpus writeCorpus
    refine Proc.keeps_bind Proc.keeps_get fun db₀ => ?_
    refine Proc.keeps_bind (keeps_onRegistry _ fun _ _ h => h) fun opened => ?_
    refine Proc.keeps_bind (Proc.keeps_onError (Proc.keeps_atomically ?_)
      fun _ => keeps_onRegistry _ fun _ _ h => h) fun snapshot => ?_
    · refine Proc.keeps_bind Proc.keeps_get fun db₁ => ?_
      refine Proc.keeps_bind (fun _ h => wp_raiseOverflows (fun _ => h) fun _ => h) fun _ => ?_
      refine Proc.keeps_bind (fun _ h => wp_raiseViolations (fun _ => h) fun _ => h) fun _ => ?_
      refine Proc.keeps_bind (Proc.keeps_modify fun _ h => h) fun _ => ?_
      refine Proc.keeps_bind (keeps_onRegistry _ fun _ _ h => h) fun _ => ?_
      exact Proc.keeps_bind (Proc.keeps_modify fun _ h => h) fun _ => Proc.keeps_pure _
    · exact Proc.keeps_bind (Proc.keeps_modify fun _ h => h) fun _ => Proc.keeps_pure _
  exact hkeeps db ⟨rfl, rfl, rfl⟩

theorem finishRun_leaves (hsound : db.registry.Sound) (hholdings : db.holdings.Sound)
    (hhex : OpinionCatalogue.DigestsHex readers.digestBytes)
    (previous : Option PublicOpinionSnapshot) :
    (finishRun readers source previous drafts report dryRun full).wp (fun _ => LeavesCatalogue db)
      (fun _ => LeavesCatalogue db) db := by
  have hrefl : LeavesCatalogue db db := ⟨rfl, rfl, hholdings, hsound, fun _ h => h⟩
  unfold finishRun
  rw [Proc.wp_bind, Proc.wp_get]
  dsimp only
  cases previous.filter
      (·.corpusChecksum = (corpusChecksum readers db.holdings.blobs drafts).sha256) with
  | some same =>
    cases dryRun with
    | true => exact hrefl
    | false => exact ⟨rfl, rfl, hholdings, hsound, fun _ h => h⟩
  | none =>
    dsimp only
    rw [Proc.wp_ite]
    constructor
    · exact fun _ => hrefl
    · intro _
      have hchecksum : Sources.isSha256Hex
          (corpusChecksum readers db.holdings.blobs drafts).sha256 = true := hhex _
      rw [Proc.wp_bind, Proc.wp_tryCatch, Proc.wp_map]
      apply Proc.wp_mono (Proc.wp_and (publishCorpus_registry hsound hchecksum)
        (publishCorpus_frame _))
      · rintro snapshot db' ⟨hpublished, hsnapshots, hentries, hsame⟩
        refine ⟨hsnapshots, hentries, hsame ▸ hholdings, hpublished.sound, fun key hkey => ?_⟩
        rw [hpublished.importedBefore, hkey, Bool.true_or]
      · rintro e db' ⟨hnothing, hsnapshots, hentries, hsame⟩
        refine ⟨hsnapshots, hentries, ?_, hnothing.sound, fun key hkey => ?_⟩
        · change db'.holdings.Sound
          rw [hsame]
          exact hholdings
        · change importedBefore db'.registry key = true
          rw [hnothing.importedBefore, hkey]

theorem LeavesCatalogue.trans {db₁ db₂ : OpinionDb} (h : LeavesCatalogue db db₁)
    (h' : LeavesCatalogue db₁ db₂) : LeavesCatalogue db db₂ :=
  ⟨h'.snapshots.trans h.snapshots, h'.entries.trans h.entries, h'.holdings, h'.registry,
    fun key hkey => h'.imported key (h.imported key hkey)⟩

theorem synchronize_leaves (hsound : db.registry.Sound) (hholdings : db.holdings.Sound)
    (hhex : OpinionCatalogue.DigestsHex readers.digestBytes) :
    (synchronizePublicOpinions readers source visit dryRun full).wp (fun _ => LeavesCatalogue db)
      (fun _ => LeavesCatalogue db) db := by
  have hholdings' {db' : OpinionDb} (hkept : db'.holdings.Sound)
      (hsame : db' = { checked db with holdings := db'.holdings }) : LeavesCatalogue db db' := by
    rw [hsame]
    exact ⟨rfl, rfl, hkept, hsound, fun _ h => h⟩
  have hchecked : (checked db).holdings.Sound := hholdings
  unfold synchronizePublicOpinions
  rw [Proc.wp_bind, Proc.wp_modify]
  beta_reduce
  rw [Proc.wp_bind, Proc.wp_get]
  dsimp only
  rw [Proc.wp_ite]
  constructor
  · exact fun _ => ⟨rfl, rfl, hholdings, hsound, fun _ h => h⟩
  · intro _
    have hcollect : (collectCorpus readers visit (currentCorpus? db source) full dryRun).wp _ _
        (checked db) := collectCorpus_keeps hchecked _ _
    rw [Proc.wp_bind, Proc.wp_tryCatch, Proc.wp_map]
    apply Proc.wp_mono hcollect
    · rintro corpus db₁ ⟨hkept, hsame, -, -⟩
      have hleft := hholdings' hkept hsame
      apply Proc.wp_mono (finishRun_leaves hleft.registry hleft.holdings hhex _)
      · exact fun _ _ h => hleft.trans h
      · exact fun _ _ h => hleft.trans h
    · rintro e db₁ ⟨hkept, hsame⟩
      have hleft := hholdings' hkept hsame
      rw [Proc.wp_ite]
      constructor
      · intro _
        exact hleft.trans ⟨rfl, rfl, hleft.holdings, hleft.registry, fun _ h => h⟩
      · exact fun _ => hleft

end Leaves

end PublicOpinions

/-! ## Any history of the two feeds -/

section History

variable {setup : OpinionSetup} {db : OpinionDb}

open OpinionCatalogue (CatalogueSound DigestsHex)

theorem opinionStep_sound (hcatalogue : DigestsHex setup.catalogue.digestBytes)
    (hcorpus : DigestsHex setup.corpus.digestBytes) (h : CatalogueSound setup.catalogue db)
    (act : OpinionAction) : CatalogueSound setup.catalogue (opinionStep setup db act) := by
  cases act with
  | wait elapsed => exact ⟨h.registry, h.holdings, h.owners, h.imported⟩
  | catalogue visit dryRun full maxDocuments =>
    exact OpinionCatalogue.catalogueStep_sound hcatalogue h
      (.synchronize visit dryRun full maxDocuments)
  | corpus visit dryRun full =>
    have hrun :
        (PublicOpinions.synchronizePublicOpinions setup.corpus setup.corpusSource visit dryRun
        full).wp _ _ db := PublicOpinions.synchronize_leaves h.registry h.holdings hcorpus
    obtain ⟨hsnapshots, hentries, hholdings, hregistry, himported⟩ := hrun.left
    refine ⟨hregistry, hholdings, ?_, fun snapshot hsnapshot => ?_⟩
    · unfold opinionStep
      dsimp only
      rw [hsnapshots, hentries]
      exact h.owners
    · unfold opinionStep at hsnapshot
      dsimp only at hsnapshot
      rw [hsnapshots] at hsnapshot
      exact ⟨(h.imported snapshot hsnapshot).1, himported _ (h.imported snapshot hsnapshot).2⟩

/-- After any history of both feeds, a guarded live run shows what it collected exactly when that is
still the current content (and, for the catalogue, the run is not forced) or was never published. -/
theorem opinionFeeds_show_iff (hcatalogue : DigestsHex setup.catalogue.digestBytes)
    (hcorpus : DigestsHex setup.corpus.digestBytes) (files : Files) (history : List OpinionAction) :
    (∀ visit full maxDocuments manifest,
      OpinionCatalogue.Collects setup.catalogue setup.catalogueSource visit full
        maxDocuments manifest
        (run (opinionStep setup) (OpinionDb.empty files) history) →
      ((OpinionCatalogue.synchronizeOpinionDocuments setup.catalogue
        setup.catalogueSource visit false
          full maxDocuments).wp
        (fun report db => OpinionCatalogue.Shows setup.catalogueSource
          (manifestChecksum setup.catalogue.digestBytes manifest) report db) (fun _ _ => False)
        (run (opinionStep setup) (OpinionDb.empty files) history) ↔
      OpinionCatalogue.Showable setup.catalogue setup.catalogueSource full
        (manifestChecksum setup.catalogue.digestBytes manifest)
        (run (opinionStep setup) (OpinionDb.empty files) history))) ∧
    ∀ visit full drafts checksum,
      PublicOpinions.Collects setup.corpus setup.corpusSource visit full drafts checksum
        (run (opinionStep setup) (OpinionDb.empty files) history) →
      ((PublicOpinions.synchronizePublicOpinions setup.corpus setup.corpusSource visit
        false full).wp
        (fun report db => PublicOpinions.Shows setup.corpusSource checksum report db)
        (fun _ _ => False) (run (opinionStep setup) (OpinionDb.empty files) history) ↔
      PublicOpinions.Showable setup.corpus setup.corpusSource checksum
        (run (opinionStep setup) (OpinionDb.empty files) history)) := by
  have hstep (db : OpinionDb) (act : OpinionAction) (h : CatalogueSound setup.catalogue db) :
      CatalogueSound setup.catalogue (opinionStep setup db act) :=
    opinionStep_sound hcatalogue hcorpus h act
  have hsound := run_keeps hstep history (OpinionCatalogue.catalogueSound_empty files)
  exact ⟨fun visit full maxDocuments manifest h =>
      OpinionCatalogue.synchronize_shows_iff hsound hcatalogue h,
    fun visit full drafts checksum h =>
      PublicOpinions.synchronize_shows_iff hsound.registry hsound.holdings hcorpus h⟩

end History

/-! ## Runs that show, and one that does not -/

namespace OpinionCatalogue

section Inbox

variable {readers : CatalogueReaders} {library : PdfLibrary} {source : Nat} {inbox : Inbox}
  {visit : SourceVisit} {lists : List (List ManifestEntry)} {full : Bool}
  {maxDocuments : Option Int} {db : OpinionDb} {healthy : Files → Prop}

/-- A run over an inbox whose pending documents fit one budget settles all of them. -/
theorem collects_of_overInbox (hpdf : ReadsPdf library readers)
    (hhex : DigestsHex readers.digestBytes) (hover : OverInbox readers healthy inbox visit)
    (hlists : inbox.manifests readers.digestBytes = .ok lists) (hsound : CatalogueSound readers db)
    (hhealthy : healthy db.holdings.files) (hnonempty : collectManifest lists ≠ [])
    (hstorable : Storable (collectManifest lists))
    (haccepted : Core.identityAccepted db.registry source (contentIdentity (collectManifest lists)
      (manifestChecksum readers.digestBytes (collectManifest lists))) = true)
    (hdocuments : ∀ entry ∈ outstanding (collectManifest lists)
        (loadKnown db.holdings (collectManifest lists)), Settleable readers inbox db.holdings entry)
    (hfits : pendingCount (collectManifest lists) db.holdings ≤ budgetOf maxDocuments) :
    Collects readers source visit full maxDocuments (collectManifest lists) db := by
  refine ⟨⟨lists, hover.manifests.trans hlists, rfl⟩, hnonempty, fun _ => ?_, hstorable, haccepted⟩
  have hchecked : healthy (checked db).holdings.files := hhealthy
  obtain ⟨_, _, hprepared, files, hfiles, rfl⟩ := (prepareStore_succeeds hover hchecked).returns
  have hholdings : ({ checked db with holdings := { db.holdings with files } } :
      OpinionDb).holdings.Sound := hsound.holdings.of_same rfl rfl
  obtain ⟨hhandles, hreadable⟩ := handles_of_settleable hpdf hhex hover (Inbox.reads hlists).2
    hdocuments (budgetOf maxDocuments)
  have hsucceeds : (buildSlice readers visit false (budgetOf maxDocuments)
      (collectManifest lists)).wp _ _ { checked db with holdings := { db.holdings with files } } :=
    buildSlice_succeeds hholdings (collectedFrom_collectManifest lists).nodup hhandles
      hreadable hfiles
  obtain ⟨s, db₂, hbuilt, -, -, -, hprogress⟩ :=
    (Proc.wp_mono (Proc.wp_and hsucceeds (buildSlice_builds hholdings (budgetOf maxDocuments)))
      (fun _ _ h => h) fun _ _ h => h.1).returns
  have hleft : (outstanding (collectManifest lists) s).length ≤
      pendingCount (collectManifest lists) db.holdings - budgetOf maxDocuments := hprogress rfl
  exact ⟨_, db₂, s, hprepared, hbuilt, List.length_eq_zero_iff.mp (by omega)⟩

end Inbox

end OpinionCatalogue

/-- Blank documents on one side, a site without pages on the other. -/
def blankSetup : OpinionSetup where
  catalogue := OpinionCatalogue.blankReaders
  corpus := { PublicOpinions.sampleReaders with
    toOpinionReaders := OpinionCatalogue.byteReaders.toOpinionReaders }
  catalogueSource := 1
  corpusSource := 2

def emptySite : PublicOpinions.Visit where
  html _ := .ok ""
  pdf _ _ := .error ⟨"", .notFound⟩
  machine := PublicOpinions.sampleMachine

theorem emptySite_collects :
    PublicOpinions.Collects blankSetup.corpus 2 emptySite true []
      (PublicOpinions.corpusChecksum blankSetup.corpus [] []).sha256
        (OpinionDb.empty fun _ => none) := by
  refine ⟨Or.inl rfl, ⟨_, _, rfl, rfl, ?_⟩, ⟨rfl, rfl⟩, Nat.zero_le _⟩
  refine Core.identityAccepted_of_size (OpinionCatalogue.byteReaders_digestsHex _) ?_ ?_
  · decide +kernel
  · decide +kernel

namespace OpinionCatalogue

theorem oneFile_collects {full : Bool} {db : OpinionDb} (hsound : CatalogueSound blankReaders db) :
    Collects blankReaders 1 (inboxVisit oneFile) full none [oneFileEntry] db := by
  have hcollected := collectManifest_singleton oneFileEntry rfl
  have hdocuments : ∀ entry ∈ outstanding [oneFileEntry] (loadKnown db.holdings [oneFileEntry]),
      Settleable blankReaders oneFile db.holdings entry := by
    intro entry hentry
    rw [List.mem_singleton.mp (List.mem_of_mem_filter hentry)]
    exact oneFile_settleable _
  have hfew : pendingCount [oneFileEntry] db.holdings ≤ 1 := List.length_filter_le _ _
  have haccepted : Core.identityAccepted db.registry 1 (contentIdentity [oneFileEntry]
      (manifestChecksum blankReaders.digestBytes [oneFileEntry])) = true :=
    Core.identityAccepted_of_size (byteReaders_digestsHex _) (by decide) (by decide)
  rw [← hcollected] at hdocuments hfew haccepted ⊢
  exact collects_of_overInbox blankReaders_readsPdf byteReaders_digestsHex
    (inboxVisit_overInbox oneFile)
    oneFile_manifests hsound trivial (by rw [hcollected]; exact List.cons_ne_nil _ _)
    (by rw [hcollected]; exact oneFile_unhindered.publishable.storable) haccepted hdocuments
    (hfew.trans (by decide))

end OpinionCatalogue

theorem opinionFeeds_show_iff_first :
    (OpinionCatalogue.synchronizeOpinionDocuments blankSetup.catalogue 1
        (OpinionCatalogue.inboxVisit OpinionCatalogue.oneFile) false false none).wp
      (fun report db => OpinionCatalogue.Shows 1 (manifestChecksum blankSetup.catalogue.digestBytes
        [OpinionCatalogue.oneFileEntry]) report db) (fun _ _ => False)
      (OpinionDb.empty fun _ => none) ∧
    (PublicOpinions.synchronizePublicOpinions blankSetup.corpus 2 emptySite false true).wp
      (fun report db => PublicOpinions.Shows 2
        (PublicOpinions.corpusChecksum blankSetup.corpus [] []).sha256 report db) (fun _ _ => False)
      (OpinionDb.empty fun _ => none) := by
  have hhex : OpinionCatalogue.DigestsHex blankSetup.catalogue.digestBytes :=
    OpinionCatalogue.byteReaders_digestsHex
  have hhexCorpus : OpinionCatalogue.DigestsHex blankSetup.corpus.digestBytes :=
    OpinionCatalogue.byteReaders_digestsHex
  obtain ⟨hcatalogue, hcorpus⟩ := opinionFeeds_show_iff hhex hhexCorpus (fun _ => none) []
  have hinbox := hcatalogue _ false _ _
    (OpinionCatalogue.oneFile_collects (OpinionCatalogue.catalogueSound_empty _))
  have hsite := hcorpus _ true _ _ emptySite_collects
  rw [run_nil] at hinbox hsite
  dsimp only [blankSetup] at hinbox hsite ⊢
  rw [hinbox, hsite]
  exact ⟨Or.inr rfl, Or.inr rfl⟩

/-- The state after the catalogue of the one file was published. -/
def publishedOnce : OpinionDb :=
  run (opinionStep blankSetup) (OpinionDb.empty fun _ => none)
    [.catalogue (OpinionCatalogue.inboxVisit OpinionCatalogue.oneFile) false false none]

theorem publishedOnce_settled :
    OpinionCatalogue.Settled OpinionCatalogue.blankReaders 1 [OpinionCatalogue.oneFileEntry]
      publishedOnce := by
  have hcollected := OpinionCatalogue.collectManifest_singleton OpinionCatalogue.oneFileEntry rfl
  have hawaiting : OpinionCatalogue.Awaiting OpinionCatalogue.blankReaders (fun _ => True) 1
      OpinionCatalogue.oneFile (collectManifest [[OpinionCatalogue.oneFileEntry]])
      (OpinionCatalogue.budgetOf none) 0 (OpinionDb.empty fun _ => none) := by
    rw [hcollected]
    exact ⟨OpinionCatalogue.catalogueSound_empty _, trivial, OpinionCatalogue.oneFile_unhindered,
      (List.length_filter_le _ _).trans (by decide)⟩
  have hnext : OpinionCatalogue.Settled OpinionCatalogue.blankReaders 1
      (collectManifest [[OpinionCatalogue.oneFileEntry]]) publishedOnce ∨ _ :=
    hawaiting.nextRun OpinionCatalogue.blankReaders_readsPdf OpinionCatalogue.byteReaders_digestsHex
      OpinionCatalogue.oneFile_manifests
        (OpinionCatalogue.inboxVisit_overInbox OpinionCatalogue.oneFile)
  rw [hcollected] at hnext
  cases hnext with
  | inl hsettled => exact hsettled
  | inr hmore =>
    obtain ⟨fewer, hfewer, -⟩ := hmore
    cases hfewer

/-- A forced run over documents that were just published does not get through. -/
theorem forced_run_fails :
    ¬ (OpinionCatalogue.synchronizeOpinionDocuments blankSetup.catalogue 1
        (OpinionCatalogue.inboxVisit OpinionCatalogue.oneFile) false true none).wp
      (fun report db => OpinionCatalogue.Shows 1 (manifestChecksum blankSetup.catalogue.digestBytes
        [OpinionCatalogue.oneFileEntry]) report db) (fun _ _ => False) publishedOnce := by
  have hsettled := publishedOnce_settled
  intro hshows
  have hshowable := (OpinionCatalogue.synchronize_shows_iff hsettled.sound
    OpinionCatalogue.byteReaders_digestsHex
      (OpinionCatalogue.oneFile_collects hsettled.sound)).mp hshows
  cases hshowable with
  | inl hcurrent => exact Bool.false_ne_true hcurrent.1.symm
  | inr hnew => exact Bool.false_ne_true (hnew.symm.trans hsettled.imported)

end Dashkoda.LegalWork
