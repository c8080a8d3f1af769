import Mathlib.Algebra.Order.Floor.Div
import Dashkoda.LegalWork.OpinionCatalogueProgress
import Dashkoda.LegalWork.OpinionProvenance

/-!
# The catalogue build finishes

Whatever was run before, a run changes the current catalogue only by publishing the documents it
found, and an inbox that nothing stands in the way of is published after as many runs as its
documents take.  One document the reader refuses holds up the rest.
-/

open Lib

namespace Dashkoda.LegalWork

namespace OpinionCatalogue

/-- What a run over any sources reports, and what it does to the current catalogue. -/
def RunAccounts (readers : CatalogueReaders) (source : Nat) (db : OpinionDb) : Prop :=
  ∀ visit dryRun full maxDocuments,
    (synchronizeOpinionDocuments readers source visit dryRun full maxDocuments).wp
      (fun report db' => CountsManifest (manifestOf visit) report ∧
        ((dryRun = false → report.result ≠ .imported) →
          currentCatalogue? db' source = currentCatalogue? db source))
      (fun _ db' => currentCatalogue? db' source = currentCatalogue? db source) db

/-- Any runs over the inbox, as many as the documents fill budgets, publish its catalogue. -/
def PublishesInTime (readers : CatalogueReaders) (healthy : Files → Prop) (source : Nat)
    (inbox : Inbox) (lists : List (List ManifestEntry)) (maxDocuments : Option Int)
    (db : OpinionDb) : Prop :=
  ∀ later : List CatalogueAction, (∀ act ∈ later, act.Visits readers healthy inbox maxDocuments) →
    (collectManifest lists).length ⌈/⌉ budgetOf maxDocuments ≤ later.countP (·.isRun) →
    Catalogued readers source (collectManifest lists) (run (catalogueStep readers source) db later)

section Finishes

variable {readers : CatalogueReaders} {library : PdfLibrary} {source : Nat} {inbox : Inbox}
  {lists : List (List ManifestEntry)} {maxDocuments : Option Int} {db : OpinionDb}
  {healthy : Files → Prop}

theorem runAccounts (hhex : DigestsHex readers.digestBytes) (hsound : CatalogueSound readers db) :
    RunAccounts readers source db := by
  intro visit dryRun full maxDocuments
  have hrun :
      (synchronizeOpinionDocuments readers source visit dryRun full maxDocuments).wp _ _ db :=
    synchronize_leaves hsound.registry hsound.holdings hhex maxDocuments
  apply Proc.wp_mono hrun
  · rintro report db' ⟨hends, hcounts, -⟩
    refine ⟨hcounts, fun hkeeps => ?_⟩
    cases hends with
    | kept hkept _ => exact hkept.current
    | published s snapshot hlive hresult _ _ => exact absurd hresult (hkeeps hlive)
  · exact fun _ _ hraised => hraised.tables.current

theorem budgetOf_pos (maxDocuments : Option Int) : 0 < budgetOf maxDocuments := by
  unfold budgetOf
  cases maxDocuments with
  | none => decide
  | some limit =>
    dsimp only
    split
    · decide
    · omega

theorem publishesInTime (hpdf : ReadsPdf library readers) (hhex : DigestsHex readers.digestBytes)
    (hlists : inbox.manifests readers.digestBytes = .ok lists) (hsound : CatalogueSound readers db)
    (hhealthy : healthy db.holdings.files)
    (h : Unhindered readers source inbox (collectManifest lists) db) :
    PublishesInTime readers healthy source inbox lists maxDocuments db := by
  intro later hlater hruns
  have hpending : pendingCount (collectManifest lists) db.holdings ≤
      (collectManifest lists).length :=
    List.length_filter_le _ _
  have hbudget : (collectManifest lists).length ≤
      budgetOf maxDocuments * later.countP (·.isRun) :=
    (ceilDiv_le_iff_le_mul (budgetOf_pos maxDocuments)).mp hruns
  have hnonempty : 0 < (collectManifest lists).length := List.length_pos_of_ne_nil h.nonempty
  cases hcount : later.countP (·.isRun) with
  | zero =>
    rw [hcount, Nat.mul_zero] at hbudget
    omega
  | succ rest =>
    rw [hcount, Nat.mul_comm] at hbudget
    have hawaiting : Awaiting readers healthy source inbox (collectManifest lists)
        (budgetOf maxDocuments) rest db := ⟨hsound, hhealthy, h, hpending.trans hbudget⟩
    exact (hawaiting.run hpdf hhex hlists hlater (by omega)).catalogued

/-- After any history: every run accounts for the documents it found and leaves the current
catalogue alone unless it published, and an unhindered inbox is published in time. -/
theorem catalogue_finishes (hpdf : ReadsPdf library readers) (hhex : DigestsHex readers.digestBytes)
    (source : Nat) (files : Files) (before : List CatalogueAction) :
    RunAccounts readers source (run (catalogueStep readers source) (OpinionDb.empty files) before) ∧
      ∀ (healthy : Files → Prop) (inbox : Inbox) (lists : List (List ManifestEntry))
        (maxDocuments : Option Int), inbox.manifests readers.digestBytes = .ok lists →
        healthy (run (catalogueStep readers source) (OpinionDb.empty files) before).holdings.files →
        Unhindered readers source inbox (collectManifest lists)
          (run (catalogueStep readers source) (OpinionDb.empty files) before) →
        PublishesInTime readers healthy source inbox lists maxDocuments
          (run (catalogueStep readers source) (OpinionDb.empty files) before) := by
  have hsound : CatalogueSound readers
      (run (catalogueStep readers source) (OpinionDb.empty files) before) :=
    catalogueSound_run hhex files before
  exact ⟨runAccounts hhex hsound, fun healthy inbox lists maxDocuments hlists hhealthy h =>
    publishesInTime hpdf hhex hlists hsound hhealthy h⟩

end Finishes

/-! ## A document the reader refuses -/

/-- Nothing was ever stored for the document. -/
structure Blocked (readers : CatalogueReaders) (entry : ManifestEntry) (db : OpinionDb) : Prop where
  sound : CatalogueSound readers db
  unstored : ∀ blob ∈ db.holdings.blobs, blob.sha256 ≠ entry.sha256

section Refused

variable {readers : CatalogueReaders} {source : Nat} {inbox : Inbox}
  {lists : List (List ManifestEntry)} {maxDocuments : Option Int} {entry : ManifestEntry}
  {visit : SourceVisit} {slice : List ManifestEntry} {act : CatalogueAction}
  {later : List CatalogueAction} {db db' : OpinionDb} {healthy : Files → Prop}

theorem Built.unstored (hover : OverInbox readers healthy inbox visit)
    (hentry : entry ∈ collectManifest lists) (hslice : slice ⊆ collectManifest lists)
    (hrefused : ∀ payload, inbox.read entry.provider entry.key ≠ .ok (some payload))
    (hbuilt : Built readers visit slice db.holdings db'.holdings)
    (h : ∀ blob ∈ db.holdings.blobs, blob.sha256 ≠ entry.sha256) :
    ∀ blob ∈ db'.holdings.blobs, blob.sha256 ≠ entry.sha256 := by
  intro blob hblob hsha
  cases hbuilt.blobs blob hblob with
  | inl hold => exact h blob hold hsha
  | inr hnew =>
    obtain ⟨other, hother, payload, hread, -, hotherSha, -⟩ := hnew.origin
    have heq : entry = other := List.inj_on_of_nodup_map (collectedFrom_collectManifest lists).nodup
      hentry (hslice hother) (hsha.symm.trans hotherSha)
    rw [← heq, hover.read] at hread
    exact hrefused payload hread

/-- While a document has no blob, no run over the inbox publishes. -/
theorem Blocked.step (hhex : DigestsHex readers.digestBytes)
    (hlists : inbox.manifests readers.digestBytes = .ok lists)
    (hentry : entry ∈ collectManifest lists)
    (hrefused : ∀ payload, inbox.read entry.provider entry.key ≠ .ok (some payload))
    (hact : act.Visits readers healthy inbox maxDocuments) (h : Blocked readers entry db) :
    Blocked readers entry (catalogueStep readers source db act) ∧
      currentCatalogue? (catalogueStep readers source db act) source =
        currentCatalogue? db source := by
  have hsound : CatalogueSound readers (catalogueStep readers source db act) :=
    catalogueStep_sound hhex h.sound act
  cases act with
  | wait elapsed => exact ⟨⟨hsound, h.unstored⟩, rfl⟩
  | synchronize visit dryRun full limit =>
    obtain ⟨-, -, hover⟩ := hact
    have hrun : (synchronizeOpinionDocuments readers source visit dryRun full limit).wp _ _ db :=
      synchronize_leaves h.sound.registry h.sound.holdings hhex limit
    have hslice : takenUp visit dryRun limit db.holdings ⊆ collectManifest lists := by
      unfold takenUp
      rw [manifestOf_overInbox hover hlists]
      exact nextSlice_subset
    let Kept (db' : OpinionDb) : Prop :=
      (∀ blob ∈ db'.holdings.blobs, blob.sha256 ≠ entry.sha256) ∧
        currentCatalogue? db' source = currentCatalogue? db source
    have hkept : (synchronizeOpinionDocuments readers source visit dryRun full limit).wp
        (fun _ => Kept) (fun _ => Kept) db := by
      apply Proc.wp_mono hrun
      · rintro report db' ⟨hends, -, hbuilt⟩
        have hunstored := hbuilt.unstored hover hentry hslice hrefused h.unstored
        rw [manifestOf_overInbox hover hlists] at hends
        cases hends with
        | kept hkept _ => exact ⟨hunstored, hkept.current⟩
        | published s snapshot _ _ hsettled _ =>
          obtain ⟨blob, hblob, hsha⟩ := hsettled entry hentry
          exact absurd hsha (hunstored blob hblob)
      · exact fun _ db' hraised =>
          ⟨hraised.holdings.unstored hover hentry hslice hrefused h.unstored,
          hraised.tables.current⟩
    exact ⟨⟨hsound, hkept.left.1⟩, hkept.left.2⟩

theorem Blocked.run (hhex : DigestsHex readers.digestBytes)
    (hlists : inbox.manifests readers.digestBytes = .ok lists)
    (hentry : entry ∈ collectManifest lists)
    (hrefused : ∀ payload, inbox.read entry.provider entry.key ≠ .ok (some payload))
    (hlater : ∀ act ∈ later, act.Visits readers healthy inbox maxDocuments)
    (h : Blocked readers entry db) :
    currentCatalogue? (run (catalogueStep readers source) db later) source =
      currentCatalogue? db source := by
  induction later generalizing db with
  | nil => rfl
  | cons act later ih =>
    have hstep : Blocked readers entry (catalogueStep readers source db act) ∧ _ :=
      h.step hhex hlists hentry hrefused (hlater act List.mem_cons_self)
    rw [run_cons, ih (fun x hx => hlater x (List.mem_cons_of_mem act hx)) hstep.1, hstep.2]

end Refused

/-! ## Two inboxes -/

/-- A library to which every document has one page without text. -/
def blankPages : PdfLibrary where
  openReader _ := some ⟨false, some 1, [], (false, [])⟩
  normaliseDocumentText text := text

def blankReaders : CatalogueReaders :=
  { byteReaders with
    validatePdf := LegalWork.validatePdf blankPages
    extractText := LegalWork.extractText blankPages }

theorem blankReaders_readsPdf : ReadsPdf blankPages blankReaders := ⟨fun _ => rfl, fun _ => rfl⟩

/-- `%PDF-1.` -/
def blankDocument : Bytes := [0x25, 0x50, 0x44, 0x46, 0x2d, 0x31, 0x2e]

def inboxOf (paths : List InboxPath) (h : (paths.map InboxPath.key).Nodup) : Inbox :=
  ⟨none, some ⟨paths, h⟩⟩

def oneFile : Inbox := inboxOf [⟨["a.pdf"], .file (some blankDocument) true⟩] (by decide)

def oneFileEntry : ManifestEntry :=
  listed blankReaders.digestBytes .directory "a.pdf" "a.pdf" blankDocument 0

/-- A store that keeps every document under its digest. -/
def digestStore : StoreMachine where
  ensureDirectories files := (.ok (), files)
  storeBlob payload digest files :=
    (.ok digest, Function.update files [digest.toList] (some payload))
  quarantineBlob payload digest _ files :=
    (.ok digest, Function.update files [digest.toList] (some payload))

def inboxVisit (inbox : Inbox) : SourceVisit where
  manifests := inbox.manifests blankReaders.digestBytes
  read _ entry := inbox.read entry.provider entry.key
  ensureDirectories := digestStore.ensureDirectories
  machine _ := digestStore

theorem inboxVisit_overInbox (inbox : Inbox) :
    OverInbox blankReaders (fun _ => True) inbox (inboxVisit inbox) where
  manifests := rfl
  read _ _ := rfl
  ensureDirectories files _ := ⟨files, rfl, trivial⟩
  takes _ _ _ _ _ := ⟨⟨_, _, rfl, trivial⟩, fun _ => ⟨_, _, rfl, trivial⟩⟩

theorem oneFile_manifests :
    oneFile.manifests blankReaders.digestBytes = .ok [[oneFileEntry]] := by
  decide +kernel

theorem collectManifest_singleton (entry : ManifestEntry) (h : entry.order = 0) :
    collectManifest [[entry]] = [entry] := by
  obtain ⟨provider, key, filename, sha256, byteSize, order⟩ := entry
  cases h
  rfl

theorem oneFile_settleable (holdings : Holdings) :
    Settleable blankReaders oneFile holdings oneFileEntry := by
  have hread (payload : Bytes) (h : oneFile.read .directory "a.pdf" = .ok (some payload)) :
      payload = blankDocument := by
    have hgives : oneFile.read .directory "a.pdf" = .ok (some blankDocument) := by decide +kernel
    rw [hgives] at h
    cases h
    rfl
  refine ⟨fun _ => ⟨by decide +kernel, by decide⟩, by decide, fun payload h => ?_,
    fun payload h _ => ?_⟩
  · rw [hread payload h]
    decide +kernel
  · rw [hread payload h]
    decide +kernel

theorem oneFile_unhindered :
    Unhindered blankReaders 1 oneFile [oneFileEntry] (OpinionDb.empty fun _ => none) := by
  refine ⟨List.cons_ne_nil _ _, ⟨⟨List.nodup_singleton _, ?_, by decide⟩, ?_, rfl⟩, ?_⟩
  · intro entry hentry
    rw [List.mem_singleton.mp hentry]
    decide
  · exact Core.identityAccepted_of_size (byteReaders_digestsHex _) (by decide) (by decide)
  · intro entry hentry
    rw [List.mem_singleton.mp (List.mem_of_mem_filter hentry)]
    exact oneFile_settleable _

theorem catalogue_finishes_oneFile :
    Catalogued blankReaders 1 [oneFileEntry] (run (catalogueStep blankReaders 1)
      (OpinionDb.empty fun _ => none) [.synchronize (inboxVisit oneFile) false false none]) := by
  have hfinishes := (catalogue_finishes blankReaders_readsPdf byteReaders_digestsHex 1
    (fun _ => none) []).2 (fun _ => True) oneFile [[oneFileEntry]] none oneFile_manifests trivial
  rw [collectManifest_singleton oneFileEntry rfl] at hfinishes
  have hintime := hfinishes oneFile_unhindered
  unfold PublishesInTime at hintime
  rw [collectManifest_singleton oneFileEntry rfl] at hintime
  apply hintime
  · intro act hact
    rw [List.mem_singleton.mp hact]
    exact ⟨rfl, rfl, inboxVisit_overInbox oneFile⟩
  · decide

/-- The same document, and beside it one whose name reads as a drive. -/
def twoFiles : Inbox :=
  inboxOf [⟨["a.pdf"], .file (some blankDocument) true⟩, ⟨["c:d.pdf"], .file (some [1]) true⟩]
    (by decide)

def driveEntry : ManifestEntry :=
  listed blankReaders.digestBytes .directory "c:d.pdf" "c:d.pdf" [1] 1

theorem twoFiles_manifests :
    twoFiles.manifests blankReaders.digestBytes = .ok [[oneFileEntry, driveEntry]] := by
  decide +kernel

theorem collectManifest_twoFiles :
    collectManifest [[oneFileEntry, driveEntry]] = [oneFileEntry, driveEntry] := by
  decide +kernel

theorem driveEntry_refused (payload : Bytes) :
    twoFiles.read driveEntry.provider driveEntry.key ≠ .ok (some payload) := by
  have hrefused : (twoFiles.read .directory "c:d.pdf").isOk = false := by decide +kernel
  intro hread
  change twoFiles.read .directory "c:d.pdf" = _ at hread
  rw [hread] at hrefused
  cases hrefused

theorem twoFiles_never_published {later : List CatalogueAction}
    (hlater : ∀ act ∈ later, act.Visits blankReaders (fun _ => True) twoFiles none) :
    currentCatalogue? (run (catalogueStep blankReaders 1) (OpinionDb.empty fun _ => none) later) 1 =
      none := by
  have hblocked : Blocked blankReaders driveEntry (OpinionDb.empty fun _ => none) :=
    ⟨catalogueSound_empty _, fun _ hblob => (by cases hblob)⟩
  have hentry : driveEntry ∈ collectManifest [[oneFileEntry, driveEntry]] := by
    rw [collectManifest_twoFiles]
    exact List.mem_cons_of_mem _ (List.mem_singleton_self _)
  exact hblocked.run byteReaders_digestsHex twoFiles_manifests hentry driveEntry_refused hlater

/-- One refused document holds up the other one for ever. -/
theorem refused_document_blocks :
    ¬ PublishesInTime blankReaders (fun _ => True) 1 twoFiles [[oneFileEntry, driveEntry]] none
      (OpinionDb.empty fun _ => none) := by
  intro h
  have hvisit : ∀ act ∈ [CatalogueAction.synchronize (inboxVisit twoFiles) false false none],
      act.Visits blankReaders (fun _ => True) twoFiles none := by
    intro act hact
    rw [List.mem_singleton.mp hact]
    exact ⟨rfl, rfl, inboxVisit_overInbox twoFiles⟩
  have htime : (collectManifest [[oneFileEntry, driveEntry]]).length ⌈/⌉ budgetOf none ≤ 1 := by
    rw [collectManifest_twoFiles]
    decide
  obtain ⟨snapshot, hcurrent, -⟩ := h _ hvisit htime
  rw [twoFiles_never_published hvisit] at hcurrent
  cases hcurrent

end OpinionCatalogue

end Dashkoda.LegalWork
