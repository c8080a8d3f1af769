import Dashkoda.LegalWork.OpinionCatalogueRuns

/-!
# Where the readings of the catalogue come from

A document is read once to be stored and once to be read as text.  Only the first read is checked
against the digest the document was listed with.
-/

open Lib

namespace Dashkoda.LegalWork

/-! ## The store's calls as executions of its programs -/

/-- A call answers and leaves what some execution of the program does. -/
def Performs {α β : Type} (program : Storage α) (answer : α → β) (call : Proc StorageExn Files β) :
    Prop :=
  ∀ files, ∃ outcome, Exec FsStep program.run files (some outcome) (call files).2 ∧
    (call files).1 = outcome.map answer

structure StoreMachine.PerformsStore (hash : Bytes → List Char) (isAlnum : Char → Bool)
    (root : FilePath) (machine : StoreMachine) : Prop where
  storeBlob : ∀ payload digest, Performs
    (LegalWork.storeBlob hash root payload (some digest.toList))
    (fun blob => String.ofList blob.key) (machine.storeBlob payload digest)
  quarantineBlob : ∀ payload digest reason,
    Performs (LegalWork.quarantineBlob isAlnum root payload digest.toList reason.toList)
      String.ofList (machine.quarantineBlob payload digest reason)

section Performs

variable {α β : Type} {program : Storage α} {answer : α → β} {call : Proc StorageExn Files β}
  {Inv : Files → Prop} {Post : α → Files → Prop} {files : Files}

theorem Performs.wp (hperforms : Performs program answer call)
    (h : wpe FsStep Inv program Post files) :
    call.wp (fun _ files' => Inv files' ∧ ∃ a, Post a files')
      (fun _ files' => Inv files') files := by
  obtain ⟨outcome, hexec, hanswer⟩ := hperforms files
  obtain ⟨hinv, hpost⟩ := wp_sound h hexec
  unfold Proc.wp
  generalize hcall : call files = out at hexec hanswer hinv hpost
  obtain ⟨answered, left⟩ := out
  cases outcome with
  | error e =>
    rw [show answered = .error e from hanswer]
    exact hinv
  | ok a =>
    rw [show answered = .ok (answer a) from hanswer]
    exact ⟨hinv, a, hpost (.ok a) rfl a rfl⟩

end Performs

/-! ## What the holdings are worth -/

/-- The blobs tree is content-addressed, and every valid blob has its file there. -/
structure Stocked (hash : Bytes → List Char) (root : FilePath) (holdings : Holdings) : Prop where
  addressed : ContentAddressed hash root holdings.files
  present : ∀ blob ∈ holdings.blobs, blob.isValid = true →
    ∃ path, blobPath root blob.sha256.toList = .ok path ∧ (holdings.files path).isSome

section Stock

variable {hash : Bytes → List Char} {isAlnum : Char → Bool} {root : FilePath}
  {machine : StoreMachine}
  {payload : Bytes} {digest : String} {validation : ValidationResult} {holdings h : Holdings}

/-- Rows may be added that are not valid blobs, and files that are not replaced. -/
theorem Stocked.keeps (hstocked : Stocked hash root holdings)
    (haddressed : ContentAddressed hash root h.files)
    (hkeeps : KeepsBlobs root holdings.files h.files)
    (hblobs : ∀ blob ∈ h.blobs, blob.isValid = true → blob ∈ holdings.blobs ∨
      ∃ path, blobPath root blob.sha256.toList = .ok path ∧ (h.files path).isSome) :
    Stocked hash root h := by
  refine ⟨haddressed, fun blob hblob hvalid => ?_⟩
  cases hblobs blob hblob hvalid with
  | inr hnew => exact hnew
  | inl hold =>
    obtain ⟨path, hpath, hsome⟩ := hstocked.present blob hold hvalid
    obtain ⟨bytes, hbytes⟩ := Option.isSome_iff_exists.mp hsome
    refine ⟨path, hpath, ?_⟩
    rw [hkeeps path bytes (underBlobs_blobPath hpath) hbytes]
    rfl

theorem KeepsBlobs.refl (s : Files) : KeepsBlobs root s s := fun _ _ _ hbytes => hbytes

/-- Keeping bytes under their digest. -/
theorem keepBytes_stocks (hslash : isAlnum '/' = false)
    (hmachine : machine.PerformsStore hash isAlnum root) (hdigest : hash payload = digest.toList)
    (hplain : '/' ∉ digest.toList) (hstocked : Stocked hash root holdings) :
    (keepBytes machine payload digest validation).wp
      (fun _ h => Stocked hash root h ∧ (validation.isValid = true →
        ∃ path, blobPath root digest.toList = .ok path ∧ (h.files path).isSome))
      (fun _ h => Stocked hash root h) holdings := by
  have hkept {files : Files} (haddressed : ContentAddressed hash root files)
      (hkeeps : KeepsBlobs root holdings.files files) : Stocked hash root { holdings with files } :=
    hstocked.keeps haddressed hkeeps fun _ hblob _ => Or.inl hblob
  have hrefl : KeepsBlobs root holdings.files holdings.files := KeepsBlobs.refl holdings.files
  unfold keepBytes onFiles
  split
  · rw [Proc.wp_onPart]
    apply Proc.wp_mono ((hmachine.storeBlob payload digest).wp wpe_storeBlob)
    · rintro key files ⟨hfrom, blob, path, hpath, hsome⟩
      rw [hdigest] at hpath
      exact ⟨hkept (hstocked.addressed.stored hfrom) (hrefl.stored hfrom), fun _ =>
        ⟨path, hpath, hsome⟩⟩
    · exact fun _ files hfrom => hkept (hstocked.addressed.stored hfrom) (hrefl.stored hfrom)
  · rename_i hinvalid
    rw [Proc.wp_onPart]
    apply Proc.wp_mono
      ((hmachine.quarantineBlob payload digest validation.status.value).wp
        (wpe_quarantineBlob hslash hplain))
    · rintro key files ⟨hsame, -⟩
      exact ⟨hkept (hstocked.addressed.same hsame) (hrefl.same hsame),
        fun hvalid => absurd hvalid hinvalid⟩
    · exact fun _ files hsame => hkept (hstocked.addressed.same hsame) (hrefl.same hsame)

theorem createBlob_stocks {storageKey : String} (hstocked : Stocked hash root holdings)
    (hstored : validation.isValid = true →
      ∃ path, blobPath root digest.toList = .ok path ∧ (holdings.files path).isSome) :
    (createBlob digest storageKey validation).wp (fun _ h => Stocked hash root h)
      (fun _ h => Stocked hash root h) holdings := by
  apply Proc.wp_mono wp_createBlob
  · rintro blob _ ⟨hrow, -, rfl⟩
    refine ⟨hstocked.addressed, fun row hmem hvalid => ?_⟩
    cases List.mem_append.mp hmem with
    | inl hold => exact hstocked.present row hold hvalid
    | inr hnew =>
      rw [List.mem_singleton.mp hnew, hrow] at hvalid ⊢
      exact hstored hvalid
  · rintro e _ rfl
    exact hstocked

end Stock

namespace OpinionCatalogue

structure SourceVisit.PerformsStore (readers : CatalogueReaders) (isAlnum : Char → Bool)
    (root : FilePath) (visit : SourceVisit) : Prop where
  ensureDirectories : Performs (LegalWork.ensureDirectories root) id visit.ensureDirectories
  machine : ∀ entry, (visit.machine entry).PerformsStore
    (fun payload => (readers.digestBytes payload).toList) isAlnum root

section Process

variable {readers : CatalogueReaders} {isAlnum : Char → Bool} {root : FilePath}
  {visit : SourceVisit}
  {entry : ManifestEntry} {dryRun : Bool} {s : BuildState} {db : OpinionDb}

abbrev StockedIn (readers : CatalogueReaders) (root : FilePath) (holdings : Holdings) : Prop :=
  Stocked (fun payload => (readers.digestBytes payload).toList) root holdings

theorem not_slash_of_isSha256Hex {digest : String} (h : Sources.isSha256Hex digest = true) :
    '/' ∉ digest.toList := by
  unfold Sources.isSha256Hex at h
  rw [Bool.and_eq_true, List.all_eq_true] at h
  intro hmem
  exact absurd (of_decide_eq_true (h.2 '/' hmem)) (by decide)

theorem extractEntry_stocks (hstocked : StockedIn readers root s.holdings)
    (blob : OpinionDocumentBlob) :
    (extractEntry readers visit entry blob dryRun).wp
      (fun _ t => StockedIn readers root t.holdings)
      (fun _ t => StockedIn readers root t.holdings) s := by
  unfold extractEntry
  rw [Proc.wp_bind, Proc.wp_get]
  dsimp only
  rw [Proc.wp_ite]
  constructor
  · exact fun _ => hstocked
  · intro _
    rw [Proc.wp_bind]
    apply wp_readSource
    · intro payload _
      unfold keeping
      rw [Proc.wp_bind, Proc.wp_onPart]
      apply Proc.wp_mono wp_createExtraction
      · rintro extraction _ ⟨-, rfl⟩
        exact ⟨hstocked.addressed, hstocked.present⟩
      · rintro e _ rfl
        exact hstocked
    · exact fun _ => hstocked

theorem storeEntry_stocks (hslash : isAlnum '/' = false)
    (hvisit : visit.PerformsStore readers isAlnum root) (hhex : DigestsHex readers.digestBytes)
    {payload : Bytes} (hdigest : readers.digestBytes payload = entry.sha256)
    (validation : ValidationResult) (hstocked : StockedIn readers root s.holdings) :
    (storeEntry visit entry payload validation).wp (fun _ t => StockedIn readers root t.holdings)
      (fun _ t => StockedIn readers root t.holdings) s := by
  have hplain : '/' ∉ entry.sha256.toList := hdigest ▸ not_slash_of_isSha256Hex (hhex payload)
  unfold storeEntry keeping
  rw [Proc.wp_bind, Proc.wp_onPart]
  apply Proc.wp_mono
    (keepBytes_stocks hslash (hvisit.machine entry) (congrArg String.toList hdigest)
    hplain hstocked)
  · rintro storageKey holdings ⟨hkept, hstored⟩
    rw [Proc.wp_bind, Proc.wp_onPart]
    apply Proc.wp_mono (createBlob_stocks hkept hstored)
    · exact fun _ _ h => h
    · exact fun _ _ h => h
  · exact fun _ _ hkept => hkept

theorem processEntry_stocks (hslash : isAlnum '/' = false)
    (hvisit : visit.PerformsStore readers isAlnum root) (hhex : DigestsHex readers.digestBytes)
    (hstocked : StockedIn readers root s.holdings) :
    (processEntry readers visit dryRun entry).wp (fun _ t => StockedIn readers root t.holdings)
      (fun _ t => StockedIn readers root t.holdings) s := by
  unfold processEntry
  rw [Proc.wp_bind, Proc.wp_get]
  dsimp only
  cases s.knownBlobs.get? entry.sha256 with
  | some blob =>
    dsimp only
    rw [Proc.wp_bind]
    exact extractEntry_stocks hstocked blob
  | none =>
    dsimp only
    unfold processNew
    rw [Proc.wp_bind]
    apply wp_readSource
    · intro payload _
      rw [Proc.wp_ite]
      constructor
      · exact fun _ => hstocked
      · intro hdigest
        rw [Proc.wp_ite]
        constructor
        · exact fun _ => hstocked
        · intro _
          rw [Proc.wp_bind]
          apply Proc.wp_mono (storeEntry_stocks hslash hvisit hhex (not_not.mp hdigest) _ hstocked)
          · intro blob t ht
            rw [Proc.wp_bind]
            exact extractEntry_stocks ht blob
          · exact fun _ _ h => h
    · exact fun _ => hstocked

theorem processSlice_stocks (hslash : isAlnum '/' = false)
    (hvisit : visit.PerformsStore readers isAlnum root) (hhex : DigestsHex readers.digestBytes)
    (todo : List ManifestEntry) (hstocked : StockedIn readers root s.holdings) :
    (processSlice readers visit dryRun todo).wp (fun _ t => StockedIn readers root t.holdings)
      (fun _ t => StockedIn readers root t.holdings) s := by
  induction todo generalizing s with
  | nil => exact hstocked
  | cons entry rest ih =>
    unfold processSlice
    rw [Proc.wp_bind]
    apply Proc.wp_mono (processEntry_stocks hslash hvisit hhex hstocked)
    · intro created t ht
      rw [Proc.wp_bind]
      apply wp_countBlob
      intro unique reused
      exact ih ht
    · exact fun _ _ h => h

theorem prepareStore_stocks (hvisit : visit.PerformsStore readers isAlnum root)
    (hstocked : StockedIn readers root db.holdings) :
    (prepareStore visit).wp (fun _ db' => StockedIn readers root db'.holdings)
      (fun _ db' => StockedIn readers root db'.holdings) db := by
  unfold prepareStore onFiles
  rw [Proc.wp_onPart]
  beta_reduce
  rw [Proc.wp_onPart]
  apply Proc.wp_mono (hvisit.ensureDirectories.wp wpe_ensureDirectories)
  · rintro _ files ⟨rfl, -⟩
    exact hstocked
  · rintro e files rfl
    exact hstocked

theorem buildSlice_stocks {budget : Nat} {manifest : List ManifestEntry}
    (hslash : isAlnum '/' = false) (hvisit : visit.PerformsStore readers isAlnum root)
    (hhex : DigestsHex readers.digestBytes) (hstocked : StockedIn readers root db.holdings) :
    (buildSlice readers visit dryRun budget manifest).wp
      (fun _ db' => StockedIn readers root db'.holdings)
      (fun _ db' => StockedIn readers root db'.holdings) db := by
  have hstart : StockedIn readers root (loadKnown db.holdings manifest).holdings := hstocked
  unfold buildSlice
  rw [Proc.wp_bind, Proc.wp_get]
  dsimp only
  rw [Proc.wp_onPart]
  beta_reduce
  rw [Proc.wp_bind]
  apply Proc.wp_mono (processSlice_stocks hslash hvisit hhex _ hstart)
  · exact fun _ _ hs => hs
  · exact fun _ _ hs => hs

theorem failRun_stocks {error : OpinionExn} (hstocked : StockedIn readers root db.holdings) :
    (failRun error).wp (fun _ db' => StockedIn readers root db'.holdings)
      (fun _ db' => StockedIn readers root db'.holdings) db := by
  unfold failRun
  dsimp only
  rw [Proc.wp_bind, Proc.wp_modify, Proc.wp_pure]
  exact hstocked

theorem buildCatalogue_stocks {source budget : Nat} {manifest : List ManifestEntry}
    (hslash : isAlnum '/' = false) (hvisit : visit.PerformsStore readers isAlnum root)
    (hhex : DigestsHex readers.digestBytes) (hsound : db.registry.Sound)
    (hholdings : db.holdings.Sound) (hstocked : StockedIn readers root db.holdings) :
    (buildCatalogue readers source visit dryRun budget manifest
        (manifestChecksum readers.digestBytes manifest)).wp
      (fun _ db' => StockedIn readers root db'.holdings)
      (fun _ db' => StockedIn readers root db'.holdings) db := by
  unfold buildCatalogue
  rw [Proc.wp_bind]
  apply wp_catching (Proc.wp_and (prepareStore_stocks hvisit hstocked) wp_prepareStore)
  · rintro _ _ ⟨hprepared, files, rfl⟩
    have hfiles : Holdings.Sound { db.holdings with files } :=
      ⟨hholdings.blobKeys, hholdings.digests, hholdings.owners⟩
    dsimp only
    rw [Proc.wp_bind]
    apply wp_catching (Proc.wp_and (buildSlice_stocks hslash hvisit hhex hprepared)
      (buildSlice_builds hfiles budget))
    · rintro s _ ⟨hbuilt, rfl, hprocessed, -⟩
      have hregistry : ({ db with holdings := s.holdings } : OpinionDb).registry.Sound := hsound
      dsimp only
      apply Proc.wp_mono (finishRun_finishes hregistry hprocessed.sound rfl (hhex _))
      · rintro report db' ⟨-, -, hsame⟩
        rw [hsame]
        exact hbuilt
      · exact fun _ _ hfalse => hfalse.elim
    · exact fun e db' hbuilt => failRun_stocks hbuilt.1
    · exact fun e db' hbuilt => hbuilt.1
  · exact fun e db' hprepared => failRun_stocks hprepared.1
  · exact fun e db' hprepared => hprepared.1

/-- A run leaves every valid blob with its file. -/
theorem synchronize_stocks {source : Nat} {full : Bool} (hslash : isAlnum '/' = false)
    (hvisit : visit.PerformsStore readers isAlnum root) (hhex : DigestsHex readers.digestBytes)
    (hsound : db.registry.Sound) (hholdings : db.holdings.Sound)
    (hstocked : StockedIn readers root db.holdings) (maxDocuments : Option Int) :
    (synchronizeOpinionDocuments readers source visit dryRun full maxDocuments).wp
      (fun _ db' => StockedIn readers root db'.holdings)
      (fun _ db' => StockedIn readers root db'.holdings) db := by
  let checked : OpinionDb := { db with catalogueState := { db.catalogueState with
    toFeedState := db.catalogueState.toFeedState.touchChecked db.clock } }
  have hchecked : StockedIn readers root checked.holdings := hstocked
  unfold synchronizeOpinionDocuments
  rw [Proc.wp_bind, Proc.wp_modify]
  change Proc.wp _ _ _ checked
  cases visit.manifests with
  | error e =>
    dsimp only
    rw [Proc.wp_ite]
    exact ⟨fun _ => failRun_stocks hchecked, fun _ => hchecked⟩
  | ok lists =>
    dsimp only
    unfold synchronizeManifest markUnchanged
    dsimp only
    rw [Proc.wp_ite]
    constructor
    · exact fun _ => hchecked
    · intro _
      rw [Proc.wp_bind, Proc.wp_get]
      dsimp only
      split
      · exact hchecked
      · exact buildCatalogue_stocks hslash hvisit hhex hsound hholdings hchecked

end Process

/-! ## Runs -/

/-- Every reading is of the bytes its blob is named after. -/
def ReadsOwn (readers : CatalogueReaders) (holdings : Holdings) : Prop :=
  ∀ extraction ∈ holdings.extractions, ∃ blob ∈ holdings.blobs,
    ∃ payload, readers.digestBytes payload = blob.sha256 ∧
      extraction = extractionRow readers.toOpinionReaders extraction.pk blob.pk payload

/-- What the holdings say of the bytes they stand for. -/
structure Provenance (readers : CatalogueReaders) (root : FilePath)
    (holdings : Holdings) : Prop where
  readings : ReadsOwn readers holdings
  stored : ∀ blob ∈ holdings.blobs, blob.isValid = true → ∃ path bytes,
    blobPath root blob.sha256.toList = .ok path ∧ holdings.files path = some bytes ∧
      readers.digestBytes bytes = blob.sha256

/-- Whatever a live run would read as text is what it listed. -/
def ReadsListed (readers : CatalogueReaders) (db : OpinionDb) : CatalogueAction → Prop
  | .wait _ => True
  | .synchronize visit dryRun _ maxDocuments =>
    ∀ entry ∈ takenUp visit dryRun maxDocuments db.holdings, ∀ payload,
      visit.read .extract entry = .ok (some payload) → readers.digestBytes payload = entry.sha256

def CatalogueAction.PerformsStore (readers : CatalogueReaders) (isAlnum : Char → Bool)
    (root : FilePath) : CatalogueAction → Prop
  | .wait _ => True
  | .synchronize visit _ _ _ => visit.PerformsStore readers isAlnum root

section Runs

variable {readers : CatalogueReaders} {isAlnum : Char → Bool} {root : FilePath} {source : Nat}
  {db : OpinionDb}

theorem stored_of_stocked {holdings : Holdings} (h : StockedIn readers root holdings)
    {blob : OpinionDocumentBlob} (hblob : blob ∈ holdings.blobs) (hvalid : blob.isValid = true) :
    ∃ path bytes, blobPath root blob.sha256.toList = .ok path ∧
      holdings.files path = some bytes ∧ readers.digestBytes bytes = blob.sha256 := by
  obtain ⟨path, hpath, hsome⟩ := h.present blob hblob hvalid
  obtain ⟨bytes, hbytes⟩ := Option.isSome_iff_exists.mp hsome
  have hown := h.addressed path bytes (underBlobs_blobPath hpath) hbytes
  exact ⟨path, bytes, hpath, hbytes, String.toList_inj.mp (blobPath_inj hown hpath)⟩

/-- A slice whose second reads give what was listed. -/
theorem Built.readsOwn {visit : SourceVisit} {slice : List ManifestEntry} {h h' : Holdings}
    (hbuilt : Built readers visit slice h h') (hown : ReadsOwn readers h)
    (hlisted : ∀ entry ∈ slice, ∀ payload, visit.read .extract entry = .ok (some payload) →
      readers.digestBytes payload = entry.sha256) : ReadsOwn readers h' := by
  intro extraction hextraction
  cases hbuilt.readings extraction hextraction with
  | inl hold =>
    obtain ⟨blob, hblob, hrow⟩ := hown extraction hold
    exact ⟨blob, hbuilt.extend.blobs.subset hblob, hrow⟩
  | inr hnew =>
    obtain ⟨entry, hentry, payload, hread, blob, hblob, hsha, hrow⟩ := hnew.origin
    exact ⟨blob, hblob, payload, (hlisted entry hentry payload hread).trans hsha.symm, hrow⟩

/-- What one step keeps. -/
structure ProvenanceSound (readers : CatalogueReaders) (root : FilePath)
    (db : OpinionDb) : Prop where
  sound : CatalogueSound readers db
  stocked : StockedIn readers root db.holdings
  own : ReadsOwn readers db.holdings

theorem catalogueStep_provenance (hslash : isAlnum '/' = false)
    (hhex : DigestsHex readers.digestBytes) (h : ProvenanceSound readers root db)
    {act : CatalogueAction} (hstore : act.PerformsStore readers isAlnum root)
    (hlisted : ReadsListed readers db act) :
    ProvenanceSound readers root (catalogueStep readers source db act) := by
  cases act with
  | wait elapsed => exact ⟨catalogueStep_sound hhex h.sound (.wait elapsed), h.stocked, h.own⟩
  | synchronize visit dryRun full maxDocuments =>
    have hrun :
        (synchronizeOpinionDocuments readers source visit dryRun full maxDocuments).wp _ _ db :=
      synchronize_leaves h.sound.registry h.sound.holdings hhex maxDocuments
    have hstocks :
        (synchronizeOpinionDocuments readers source visit dryRun full maxDocuments).wp _ _
        db := synchronize_stocks hslash hstore hhex h.sound.registry h.sound.holdings h.stocked
          maxDocuments
    have hown := Proc.wp_mono hrun (fun _ _ hleft => hleft.holdings.readsOwn h.own hlisted)
      fun _ _ hraised => hraised.holdings.readsOwn h.own hlisted
    exact ⟨catalogueStep_sound hhex h.sound (.synchronize visit dryRun full maxDocuments),
      hstocks.left, hown.left⟩

theorem provenanceSound_empty {files : Files}
    (hempty : ∀ path, UnderBlobs root path → files path = none) :
    ProvenanceSound readers root (OpinionDb.empty files) := by
  refine ⟨catalogueSound_empty files, ⟨fun path bytes hpath hbytes => ?_, fun _ h => (by cases h)⟩,
    fun _ h => (by cases h)⟩
  have hnone : (OpinionDb.empty files).holdings.files path = none := hempty path hpath
  rw [hnone] at hbytes
  cases hbytes

/-- From an empty store, through any runs over sources that may change between any two reads: as
long as the second read of each document gives the bytes that were listed, every reading is of
the bytes its blob is named after.  Valid blobs have their bytes in the store either way. -/
theorem catalogue_provenance (hslash : isAlnum '/' = false) (hhex : DigestsHex readers.digestBytes)
    {files : Files} (hempty : ∀ path, UnderBlobs root path → files path = none)
    {acts : List CatalogueAction} (hstore : ∀ act ∈ acts, act.PerformsStore readers isAlnum root)
    (hlisted : StepsMeet (catalogueStep readers source) (ReadsListed readers)
      (OpinionDb.empty files)
      acts) :
    Provenance readers root
      (run (catalogueStep readers source) (OpinionDb.empty files) acts).holdings := by
  have hstep (db : OpinionDb) (act : CatalogueAction) (h : ProvenanceSound readers root db)
      (hact : act.PerformsStore readers isAlnum root ∧ ReadsListed readers db act) :
      ProvenanceSound readers root (catalogueStep readers source db act) :=
    catalogueStep_provenance hslash hhex h hact.1 hact.2
  have hsound := run_keeps_of_stepsMeet hstep acts (provenanceSound_empty hempty)
    (hlisted.with_forall hstore)
  exact ⟨hsound.own, fun blob hblob hvalid => stored_of_stocked hsound.stocked hblob hvalid⟩

end Runs

/-! ## A file that changes between its two reads -/

/-- A disk that refuses nothing it can do. -/
def diskAnswer (s : Files) : (o : FsOp) → Except StorageExn o.Out × Files
  | .pathExists path => (.ok (s path).isSome, s)
  | .size path => (((s path).map List.length).elim (.error .osError) .ok, s)
  | .readBytes path => ((s path).elim (.error .osError) .ok, s)
  | .mkdir _ => (.ok (), s)
  | .mkstemp dir suffix =>
    if s (dir ++ [suffix]) = none then
      (.ok (dir ++ [suffix]), Function.update s (dir ++ [suffix]) (some []))
    else (.error .osError, s)
  | .write path payload => (.ok (), Function.update s path (some payload))
  | .replace src dst =>
    match s src with
    | none => (.error .osError, s)
    | some bytes => (.ok (), Function.update (Function.update s src none) dst (some bytes))
  | .unlink path => (.ok (), Function.update s path none)
  | .openDirectory _ => (.ok (), s)
  | .fsync _ => (.ok (), s)
  | .close _ => (.ok (), s)

theorem diskAnswer_step (s : Files) (o : FsOp) :
    FsStep s o (diskAnswer s o).1 (diskAnswer s o).2 := by
  cases o with
  | pathExists path => exact .pathExists s path
  | size path =>
    cases hbytes : s path with
    | none =>
      simp only [diskAnswer, hbytes, Option.map_none]
      exact .refused s _
    | some bytes =>
      simp only [diskAnswer, hbytes, Option.map_some]
      exact .size s path bytes hbytes
  | readBytes path =>
    cases hbytes : s path with
    | none =>
      simp only [diskAnswer, hbytes]
      exact .refused s _
    | some bytes =>
      simp only [diskAnswer, hbytes]
      exact .readBytes s path bytes hbytes
  | mkdir path => exact .mkdir s path
  | mkstemp dir suffix =>
    by_cases hfree : s (dir ++ [suffix]) = none
    · simp only [diskAnswer, hfree, if_true]
      exact .mkstemp s dir suffix [] hfree
    · simp only [diskAnswer, hfree, if_false]
      exact .refused s _
  | write path payload => exact .write s path payload payload (.ok ())
  | replace src dst =>
    cases hbytes : s src with
    | none =>
      simp only [diskAnswer, hbytes]
      exact .refused s _
    | some bytes =>
      simp only [diskAnswer, hbytes]
      exact .replace s src dst bytes hbytes
  | unlink path => exact .unlink s path
  | openDirectory path => exact .openDirectory s path
  | fsync path => exact .fsync s path
  | close path => exact .close s path

def diskCall {α β : Type} (program : Storage α) (answer : α → β) : Proc StorageExn Files β :=
  fun s => ((program.run.eval diskAnswer s).1.map answer, (program.run.eval diskAnswer s).2)

theorem performs_diskCall {α β : Type} (program : Storage α) (answer : α → β) :
    Performs program answer (diskCall program answer) := by
  intro files
  have hexec : Exec FsStep program.run files _ _ := exec_eval diskAnswer_step program.run files
  exact ⟨_, hexec, rfl⟩

/-- The store under the root directory of such a disk. -/
def disk (hash : Bytes → List Char) : StoreMachine where
  ensureDirectories := diskCall (LegalWork.ensureDirectories []) id
  storeBlob payload digest := diskCall (LegalWork.storeBlob hash [] payload (some digest.toList))
    fun blob => String.ofList blob.key
  quarantineBlob payload digest reason :=
    diskCall (LegalWork.quarantineBlob Char.isAlphanum [] payload digest.toList reason.toList)
      String.ofList

/-- Readers to whom a document is its first byte. -/
def byteReaders : CatalogueReaders where
  digestBytes payload := String.ofList (sampleHash payload)
  parseOpinionFilename name := ⟨name, none, "", "", []⟩
  classifyDocument _ _ := (.unknown, [])
  validatePdf payload := ⟨.valid, payload.length, 1, false, false, []⟩
  extractText payload := ⟨.extracted, if payload = [1] then "a" else "b", "", 1, []⟩
  parseDocumentHeader _ := ⟨none, "", "", "", "", []⟩
  casefold text := text

def listedDocument : ManifestEntry :=
  listed byteReaders.digestBytes .directory "a.pdf" "a.pdf" [1] 0

/-- One document, with the bytes its second read gives. -/
def changingVisit (later : Bytes) : SourceVisit where
  manifests := .ok [[listedDocument]]
  read purpose _ :=
    match purpose with
    | .validate => .ok (some [1])
    | .extract => .ok (some later)
  ensureDirectories := (disk (fun payload => sampleHash payload)).ensureDirectories
  machine _ := disk (fun payload => sampleHash payload)

def changingRun (later : Bytes) : CatalogueAction :=
  .synchronize (changingVisit later) false false none

theorem byteReaders_digestsHex : DigestsHex byteReaders.digestBytes := by
  intro payload
  have hhex (c : Char) (hc : c ∈ Sources.sha256HexAlphabet) :
      Sources.isSha256Hex (String.ofList (List.replicate 64 c)) = true := by
    unfold Sources.isSha256Hex
    rw [String.length_ofList, String.toList_ofList, List.length_replicate, List.all_replicate,
      if_neg (by decide), decide_eq_true hc]
    rfl
  change Sources.isSha256Hex
    (String.ofList (List.replicate 64 (if payload = [1] then 'a' else 'b'))) =
    true
  apply hhex
  split
  · decide
  · decide

theorem changingRun_performsStore (later : Bytes) :
    (changingRun later).PerformsStore byteReaders Char.isAlphanum [] := by
  have hhash : (fun payload => (byteReaders.digestBytes payload).toList) =
      fun payload => sampleHash payload := funext fun payload => String.toList_ofList
  refine ⟨performs_diskCall _ _, fun entry => ?_⟩
  rw [hhash]
  exact ⟨fun payload digest => performs_diskCall _ _, fun payload digest reason =>
    performs_diskCall _ _⟩

theorem catalogue_provenance_unchanged : Provenance byteReaders []
    (run (catalogueStep byteReaders 1) (OpinionDb.empty fun _ => none)
      [changingRun [1]]).holdings := by
  apply catalogue_provenance (by decide : Char.isAlphanum '/' = false) byteReaders_digestsHex
    (fun _ _ => rfl)
  · intro act hact
    rw [List.mem_singleton.mp hact]
    exact changingRun_performsStore [1]
  · refine ⟨fun entry hentry payload hread => ?_, trivial⟩
    have hlisted : entry ∈ [listedDocument] := nextSlice_subset hentry
    rw [List.mem_singleton.mp hlisted]
    cases hread
    rfl

def changedHoldings : Holdings :=
  (run (catalogueStep byteReaders 1) (OpinionDb.empty fun _ => none) [changingRun [2]]).holdings

theorem changedHoldings_rows :
    changedHoldings.blobs.map (·.sha256) = [listedDocument.sha256] ∧
      changedHoldings.extractions.map (·.text) = ["b"] := by
  decide +kernel

/-- The bytes that were validated and stored are not the ones that were read as text. -/
theorem changed_file_is_not_reread : ¬ Provenance byteReaders [] changedHoldings := by
  rintro ⟨hown, -⟩
  obtain ⟨hblobs, htexts⟩ := changedHoldings_rows
  have hread : "b" ∈ changedHoldings.extractions.map (·.text) := by
    rw [htexts]
    exact List.mem_singleton_self "b"
  obtain ⟨extraction, hextraction, htext⟩ := List.mem_map.mp hread
  obtain ⟨blob, hblob, payload, hdigest, hrow⟩ := hown extraction hextraction
  have hsha : blob.sha256 ∈ changedHoldings.blobs.map (·.sha256) := List.mem_map_of_mem hblob
  rw [hblobs, List.mem_singleton] at hsha
  have hsame : sampleHash payload = sampleHash [1] :=
    String.ofList_inj.mp (hdigest.trans hsha)
  have hpayload : payload = [1] := by
    by_contra hother
    unfold sampleHash at hsame
    rw [if_neg hother, if_pos rfl] at hsame
    exact absurd hsame (by decide)
  rw [hrow, hpayload] at htext
  have hother : "a" = "b" := htext
  exact absurd hother (by decide)

end OpinionCatalogue

end Dashkoda.LegalWork
