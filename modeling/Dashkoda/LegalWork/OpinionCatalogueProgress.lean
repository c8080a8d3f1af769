import Dashkoda.LegalWork.OpinionCatalogueRuns
import Dashkoda.LegalWork.OpinionInbox

/-!
# How the catalogue of an inbox gets published

Every live run settles a slice of the documents; the run that settles the last one publishes, as
long as nothing stands in the way of a document, of a row or of the import.
-/

open Lib

namespace Dashkoda.LegalWork

open Core (CountsFit ImporterNames Opened identityAccepted importedBefore)
open Currency (publish current?)

namespace OpinionCatalogue

/-! ## Publishing a finished catalogue -/

/-- The entries can be the rows of one snapshot, and counted. -/
structure Storable (manifest : List ManifestEntry) : Prop where
  keys : (manifest.map fun entry => PyText.take 400 entry.key).Nodup
  filenames : ∀ entry ∈ manifest, entry.filename ≠ ""
  length : manifest.length ≤ Sources.ImportRun.maxPositiveInteger

section Publishing

variable {readers : CatalogueReaders} {source : Nat} {manifest : List ManifestEntry}
  {checksum : String} {report : CatalogueReport} {s : BuildState} {dryRun : Bool}
  {db db₀ : OpinionDb}

theorem importerNames : ImporterNames IMPORTER_NAME runSchemaVersion := by
  constructor <;> decide

theorem length_importKey (hhex : DigestsHex readers.digestBytes) :
    (importKey readers checksum).length = 64 := by
  have hkey : Sources.isSha256Hex (importKey readers checksum) = true := hhex _
  unfold Sources.isSha256Hex at hkey
  rw [Bool.and_eq_true, decide_eq_true_iff] at hkey
  exact hkey.1

/-- An entry names a reading only with its blob. -/
theorem entryRow_extraction (pk snapshot : Nat) (entry : ManifestEntry) :
    ((entryRow readers pk snapshot s entry).extraction.isSome &&
      (entryRow readers pk snapshot s entry).blob.isNone) = false := by
  unfold entryRow
  dsimp only
  cases s.knownBlobs.get? entry.sha256 with
  | none => rfl
  | some blob =>
    rw [Option.map_some, Option.isNone_some, Bool.and_false]

theorem entryViolations_entryRows (h : Storable manifest) (start snapshot : Nat) :
    entryViolations (entryRows readers start snapshot s manifest) = [] := by
  have hkeys : (entryRows readers start snapshot s manifest).map (·.sourceEntryKey) =
      manifest.map fun entry => PyText.take 400 entry.key := Table.map_mapIdx fun _ _ => rfl
  unfold entryViolations
  rw [hkeys, if_pos h.keys, List.nil_append, List.flatMap_eq_nil_iff]
  intro row hrow
  obtain ⟨i, hi, rfl⟩ := List.mem_mapIdx.mp hrow
  have hfilename : PyText.take 400 (manifest[i]).filename ≠ "" :=
    take_ne_empty (by decide) (h.filenames _ (List.getElem_mem hi))
  rw [entryRow_extraction]
  exact congrArg (· ++ []) (if_neg hfilename)

theorem snapshotViolations_summarise {pk artifact importRun : Nat} {now : Sources.Time}
    {snapshots : List OpinionCatalogueSnapshot}
    (hnew : ∀ row ∈ snapshots, row.sourceManifestChecksum ≠ checksum) :
    snapshotViolations snapshots (newSnapshot pk source artifact importRun now checksum
      (summarise (.initial .unchanged "" dryRun manifest.length checksum) manifest s)) = [] := by
  have hfree : (snapshots.any fun row => row.source = source &&
      row.sourceManifestChecksum = checksum && row.extractorVersion = EXTRACTOR_VERSION &&
      row.filenameNormaliserVersion = FILENAME_NORMALISER_VERSION) = false := by
    rw [List.any_eq_false]
    intro row hrow hsame
    rw [Bool.and_eq_true, Bool.and_eq_true, Bool.and_eq_true, decide_eq_true_iff,
      decide_eq_true_iff] at hsame
    exact hnew row hrow hsame.1.1.2
  have hextracted : manifest.countP (s.readingIs .extracted) ≤ manifest.countP (s.blobIs true) := by
    apply List.countP_mono_left
    intro entry _ hreading
    unfold BuildState.readingIs at hreading
    rw [Bool.and_eq_true] at hreading
    exact hreading.1
  unfold snapshotViolations newSnapshot summarise CatalogueReport.initial
  dsimp only
  rw [hfree, if_pos List.countP_le_length, if_pos List.countP_le_length, if_pos hextracted]
  rfl

/-- The new entries are the only ones of the new snapshot. -/
theorem countP_entryRows (howners : ∀ entry ∈ db.catalogueEntries,
      Table.HasKey db.catalogueSnapshots entry.snapshot) (start : Nat) :
    (db.catalogueEntries ++ entryRows readers start (Table.nextPk db.catalogueSnapshots) s
      manifest).countP (·.snapshot = Table.nextPk db.catalogueSnapshots) = manifest.length := by
  have hold : db.catalogueEntries.countP (·.snapshot = Table.nextPk db.catalogueSnapshots) = 0 := by
    rw [List.countP_eq_zero]
    intro entry hentry hsame
    exact (howners entry hentry).ne_nextPk (of_decide_eq_true hsame)
  have hrows : (entryRows readers start (Table.nextPk db.catalogueSnapshots) s manifest).countP
      (·.snapshot = Table.nextPk db.catalogueSnapshots) = manifest.length := by
    have hlength :
        (entryRows readers start (Table.nextPk db.catalogueSnapshots) s manifest).length =
        manifest.length := List.length_mapIdx
    rw [← hlength, List.countP_eq_length]
    intro row hrow
    obtain ⟨i, hi, rfl⟩ := List.mem_mapIdx.mp hrow
    exact decide_eq_true rfl
  rw [List.countP_append, hold, hrows, Nat.zero_add]

/-- What lets the finished catalogue of a manifest be published. -/
structure Publishable (readers : CatalogueReaders) (source : Nat) (manifest : List ManifestEntry)
    (db : OpinionDb) : Prop where
  storable : Storable manifest
  accepted : identityAccepted db.registry source
    (contentIdentity manifest (manifestChecksum readers.digestBytes manifest)) = true
  new : importedBefore db.registry
    (importKey readers (manifestChecksum readers.digestBytes manifest)) = false

theorem CatalogueSound.checksum_ne (h : CatalogueSound readers db)
    (hnew : importedBefore db.registry (importKey readers checksum) = false) :
    ∀ row ∈ db.catalogueSnapshots, row.sourceManifestChecksum ≠ checksum := by
  rintro row hrow rfl
  rw [(h.imported row hrow).2] at hnew
  cases hnew

theorem writeCatalogue_succeeds (h : CatalogueSound readers db₀)
    (hpublishable : Publishable readers source manifest db₀) {artifact : Sources.SourceArtifact}
    {run : Sources.ImportRun}
    (hopened : Opened db₀.registry
      (importKey readers (manifestChecksum readers.digestBytes manifest)) db.clock run db.registry)
    (hsame : db = { db₀ with registry := db.registry }) :
    (writeCatalogue readers source artifact run manifest
      (manifestChecksum readers.digestBytes manifest)
        (summarise (.initial .unchanged "" dryRun manifest.length
          (manifestChecksum readers.digestBytes manifest)) manifest s) s).wp
      (fun _ _ => True) (fun _ _ => False) db := by
  have hsnapshots : db.catalogueSnapshots = db₀.catalogueSnapshots := by rw [hsame]
  have howners : ∀ entry ∈ db.catalogueEntries,
      Table.HasKey db.catalogueSnapshots entry.snapshot := by
    rw [hsame]
    exact h.owners
  have hchecksum := h.checksum_ne hpublishable.new
  rw [← hsnapshots] at hchecksum
  unfold writeCatalogue
  rw [Proc.wp_bind, Proc.wp_get]
  dsimp only
  rw [Proc.wp_bind, snapshotViolations_summarise hchecksum,
    entryViolations_entryRows hpublishable.storable, List.append_nil]
  unfold raiseViolations
  rw [Proc.wp_pure, Proc.wp_ite]
  constructor
  · exact fun hcount => absurd (countP_entryRows howners _) hcount
  · intro _
    rw [Proc.wp_bind, Proc.wp_modify]
    beta_reduce
    rw [Proc.wp_bind]
    unfold onRegistry
    rw [Proc.wp_onPart]
    have hcounts : CountsFit ⟨manifest.length, 0, 0, []⟩ :=
      ⟨hpublishable.storable.length, Nat.zero_le _, Nat.zero_le _⟩
    apply Proc.wp_mono (hopened.completes hcounts hpublishable.new)
    · exact fun _ _ _ => trivial
    · exact fun _ _ hfalse => hfalse

theorem publishCatalogue_succeeds (h : CatalogueSound readers db)
    (hhex : DigestsHex readers.digestBytes)
    (hpublishable : Publishable readers source manifest db) :
    (publishCatalogue readers source manifest (manifestChecksum readers.digestBytes manifest)
        (summarise (.initial .unchanged "" dryRun manifest.length
          (manifestChecksum readers.digestBytes manifest)) manifest s) s).wp
      (fun _ _ => True) (fun _ _ => False) db := by
  have hstart : (Core.startRun readers.digestText source
      (contentIdentity manifest (manifestChecksum readers.digestBytes manifest))
      (Core.findPublishedArtifact db.registry source (manifestChecksum readers.digestBytes manifest)
        IMPORTER_NAME).1 IMPORTER_NAME runSchemaVersion false db.clock).wp _ _ db.registry :=
    Core.startRun_opens h.registry hpublishable.accepted (hhex _) importerNames rfl
      (length_importKey hhex)
  unfold publishCatalogue
  rw [Proc.wp_bind, Proc.wp_get]
  dsimp only
  rw [Proc.wp_bind]
  apply Proc.wp_mono (wp_onRegistry hstart)
  · rintro opened db₁ ⟨hdb₁, hopened⟩
    have hclock : db.clock = db₁.clock := by rw [hdb₁]
    rw [hclock] at hopened
    rw [Proc.wp_bind, Proc.wp_onError, Proc.wp_atomically]
    apply Proc.wp_mono (writeCatalogue_succeeds h hpublishable hopened hdb₁)
    · intro snapshot db₂ _
      unfold markPublished
      rw [Proc.wp_bind, Proc.wp_modify, Proc.wp_pure]
      trivial
    · exact fun _ _ hfalse => hfalse.elim
  · exact fun _ _ hfalse => hfalse.2

theorem finishRun_settles (h : CatalogueSound readers db) (hhex : DigestsHex readers.digestBytes)
    (hpublishable : Publishable readers source manifest db) :
    (finishRun readers source manifest (manifestChecksum readers.digestBytes manifest) false s).wp
      (fun report _ => outstanding manifest s = [] → report.result = .imported)
      (fun _ _ => False) db := by
  unfold finishRun
  dsimp only
  rw [if_neg Bool.false_ne_true, Proc.wp_ite]
  constructor
  · intro hremaining
    unfold markProgress
    rw [Proc.wp_bind, Proc.wp_modify, Proc.wp_pure]
    exact fun hdone => absurd hdone hremaining
  · intro _
    rw [Proc.wp_bind, Proc.wp_tryCatch, Proc.wp_map]
    apply Proc.wp_mono (publishCatalogue_succeeds h hhex hpublishable)
    · exact fun _ _ _ _ => rfl
    · exact fun _ _ hfalse => hfalse.elim

end Publishing

/-! ## The documents of an inbox -/

/-- The readers of bytes are the application's over some PDF library. -/
structure ReadsPdf (library : PdfLibrary) (readers : CatalogueReaders) : Prop where
  validatePdf : ∀ payload, readers.validatePdf payload = LegalWork.validatePdf library payload
  extractText : ∀ payload, readers.extractText payload = LegalWork.extractText library payload

/-- A run over an inbox, with a healthy store for what the inbox holds. -/
structure OverInbox (readers : CatalogueReaders) (healthy : Files → Prop) (inbox : Inbox)
    (visit : SourceVisit) : Prop where
  manifests : visit.manifests = inbox.manifests readers.digestBytes
  read : ∀ purpose entry, visit.read purpose entry = inbox.read entry.provider entry.key
  ensureDirectories : ∀ files, healthy files →
    ∃ files', visit.ensureDirectories files = (.ok (), files') ∧ healthy files'
  takes : ∀ entry payload, inbox.read entry.provider entry.key = .ok (some payload) →
    Takes healthy (visit.machine entry) payload (readers.digestBytes payload)

/-- The document is going to be read as text: it passes validation, or its blob did. -/
def GoesToReading (readers : CatalogueReaders) (holdings : Holdings) (entry : ManifestEntry)
    (payload : Bytes) : Prop :=
  (readers.validatePdf payload).isValid = true ∨
    ∃ blob ∈ holdings.blobs, blob.sha256 = entry.sha256 ∧ blob.isValid = true

/-- Nothing stands in the way of a document. -/
structure Settleable (readers : CatalogueReaders) (inbox : Inbox) (holdings : Holdings)
    (entry : ManifestEntry) : Prop where
  accepted : entry.provider = .directory →
    checkEntryName entry.key = .ok () ∧ entry.byteSize ≤ LEGAL_OPINION_MAX_PDF_BYTES
  nonempty : entry.byteSize ≠ 0
  pages : ∀ payload, inbox.read entry.provider entry.key = .ok (some payload) →
    (readers.validatePdf payload).pageCount ≤ maxSmallInteger
  text : ∀ payload, inbox.read entry.provider entry.key = .ok (some payload) →
    GoesToReading readers holdings entry payload →
    hasNul (readers.extractText payload).text = false ∧
      hasNul (readers.extractText payload).firstPageText = false ∧
      (readers.extractText payload).pageCount ≤ maxSmallInteger

section Documents

variable {readers : CatalogueReaders} {library : PdfLibrary} {inbox : Inbox} {visit : SourceVisit}
  {holdings : Holdings} {entry : ManifestEntry} {payload : Bytes} {healthy : Files → Prop}

theorem Settleable.readingStorable (h : Settleable readers inbox holdings entry)
    (hpdf : ReadsPdf library readers)
    (hread : inbox.read entry.provider entry.key = .ok (some payload))
    (hgoes : GoesToReading readers holdings entry payload) :
    readingStorable (readers.extractText payload) = true := by
  obtain ⟨htext, hfirst, hpages⟩ := h.text payload hread hgoes
  have hextracted : (readers.extractText payload).status = .extracted →
      (readers.extractText payload).text ≠ "" := by
    rw [hpdf.extractText]
    exact extractText_extracted
  unfold OpinionCatalogue.readingStorable
  rw [htext, hfirst, decide_eq_true hpages]
  by_cases hstatus : (readers.extractText payload).status = .extracted
  · simp [hstatus, hextracted hstatus]
  · simp [hstatus]

theorem blobStorable_validatePdf (hpdf : ReadsPdf library readers) (hnonempty : payload.length ≠ 0)
    (hpages : (readers.validatePdf payload).pageCount ≤ maxSmallInteger) :
    blobStorable (readers.validatePdf payload) = true := by
  have hvalidation : ValidationOf payload.length (readers.validatePdf payload) := by
    rw [hpdf.validatePdf]
    exact validationOf_validatePdf payload
  unfold blobStorable
  rw [hvalidation.byteSize, decide_eq_true hnonempty, decide_eq_true hpages]
  by_cases hvalid : (readers.validatePdf payload).isValid = true
  · rw [hvalid, hvalidation.inactive hvalid, decide_eq_true (hvalidation.pages hvalid).1.ne']
    rfl
  · rw [Bool.not_eq_true] at hvalid
    rw [hvalid]
    rfl

/-- What the inbox gives for such a document can be kept and recorded. -/
theorem Settleable.handles (h : Settleable readers inbox holdings entry)
    (hpdf : ReadsPdf library readers) (hhex : DigestsHex readers.digestBytes)
    (hover : OverInbox readers healthy inbox visit)
    (hreads : ReadsBack readers.digestBytes inbox entry) :
    Handles readers healthy visit entry := by
  obtain ⟨payload, hlisted, hread⟩ := hreads.read
  have hread := hread h.accepted
  have hhexEntry : Sources.isSha256Hex entry.sha256 = true := hlisted.sha256 ▸ hhex payload
  refine ⟨payload, fun purpose => (hover.read purpose entry).trans hread, hlisted.sha256, hhexEntry,
    hlisted.sha256 ▸ hover.takes entry payload hread, ?_,
    fun hvalid => h.readingStorable hpdf hread (Or.inl hvalid)⟩
  exact blobStorable_validatePdf hpdf (hlisted.byteSize ▸ h.nonempty) (h.pages payload hread)

theorem readable_of_settleable (hpdf : ReadsPdf library readers)
    (hover : OverInbox readers healthy inbox visit) {slice : List ManifestEntry}
    (h : ∀ entry ∈ slice, Settleable readers inbox holdings entry) :
    Readable readers visit slice holdings := by
  intro entry hentry blob hblob hsha hvalid payload hread
  rw [hover.read] at hread
  exact (h entry hentry).readingStorable hpdf hread (Or.inr ⟨blob, hblob, hsha, hvalid⟩)

end Documents

/-! ## One run over an inbox -/

/-- Nothing stands in the way of publishing the inbox: its catalogue is new and can be stored, and
each document without a terminal state can get one. -/
structure Unhindered (readers : CatalogueReaders) (source : Nat) (inbox : Inbox)
    (manifest : List ManifestEntry) (db : OpinionDb) : Prop where
  nonempty : manifest ≠ []
  publishable : Publishable readers source manifest db
  documents : ∀ entry ∈ outstanding manifest (loadKnown db.holdings manifest),
    Settleable readers inbox db.holdings entry

section OneRun

variable {readers : CatalogueReaders} {library : PdfLibrary} {source : Nat} {inbox : Inbox}
  {visit : SourceVisit} {lists : List (List ManifestEntry)} {manifest slice : List ManifestEntry}
  {entry : ManifestEntry} {full : Bool} {budget : Nat} {db db' : OpinionDb} {healthy : Files → Prop}

/-- A document that could get a terminal state still can after a run over the same inbox. -/
theorem Settleable.built (hover : OverInbox readers healthy inbox visit)
    (hdigests : (manifest.map (·.sha256)).Nodup) (hslice : slice ⊆ manifest)
    (hentry : entry ∈ manifest) (hbuilt : Built readers visit slice db.holdings db'.holdings)
    (h : Settleable readers inbox db.holdings entry) :
    Settleable readers inbox db'.holdings entry := by
  refine ⟨h.accepted, h.nonempty, h.pages, fun payload hread hgoes => h.text payload hread ?_⟩
  cases hgoes with
  | inl hvalid => exact Or.inl hvalid
  | inr hblob =>
    obtain ⟨blob, hblob, hsha, hvalid⟩ := hblob
    cases hbuilt.blobs blob hblob with
    | inl hold => exact Or.inr ⟨blob, hold, hsha, hvalid⟩
    | inr hnew =>
      obtain ⟨other, hother, validated, hvalidated, -, hotherSha, hsame⟩ := hnew.origin
      have heq : entry = other :=
        List.inj_on_of_nodup_map hdigests hentry (hslice hother) (hsha.symm.trans hotherSha)
      subst heq
      rw [hover.read, hread] at hvalidated
      cases hvalidated
      exact Or.inl (hsame.symm.trans hvalid)

theorem Publishable.kept (hhex : DigestsHex readers.digestBytes)
    (h : Publishable readers source manifest db) (hkept : LeftAlone db db') :
    Publishable readers source manifest db' := by
  refine ⟨h.storable, ?_, ?_⟩
  · exact Core.identityAccepted_of_prefix hkept.registry.artifacts (hhex _) h.accepted
  · rw [hkept.registry.importedBefore]
    exact h.new

/-- A run over the same inbox that publishes nothing puts nothing in the way. -/
theorem Unhindered.kept (hhex : DigestsHex readers.digestBytes)
    (hover : OverInbox readers healthy inbox visit) (hdigests : (manifest.map (·.sha256)).Nodup)
    (hslice : slice ⊆ manifest) (hsound : db.holdings.Sound)
    (h : Unhindered readers source inbox manifest db) (hkept : LeftAlone db db')
    (hbuilt : Built readers visit slice db.holdings db'.holdings) :
    Unhindered readers source inbox manifest db' := by
  refine ⟨h.nonempty, h.publishable.kept hhex hkept, fun entry hentry => ?_⟩
  obtain ⟨hmem, hpending⟩ := List.mem_filter.mp hentry
  have hbefore : entry ∈ outstanding manifest (loadKnown db.holdings manifest) :=
    List.mem_filter.mpr ⟨hmem, isPending_of_extends (loadKnown_sound hsound)
      (loadKnown_sound hbuilt.sound) hbuilt.extend hmem hpending⟩
  exact (h.documents entry hbefore).built hover hdigests hslice hmem hbuilt

theorem prepareStore_succeeds (hover : OverInbox readers healthy inbox visit)
    (hhealthy : healthy db.holdings.files) :
    (prepareStore visit).wp
      (fun _ db' => ∃ files, healthy files ∧
        db' = { db with holdings := { db.holdings with files } })
      (fun _ _ => False) db := by
  unfold prepareStore onFiles
  rw [Proc.wp_onPart]
  beta_reduce
  rw [Proc.wp_onPart]
  obtain ⟨files, hok, hkept⟩ := hover.ensureDirectories db.holdings.files hhealthy
  exact Proc.wp_of_eq hok ⟨files, hkept, rfl⟩

/-- The documents a run takes up next can be handled and read. -/
theorem handles_of_settleable (hpdf : ReadsPdf library readers)
    (hhex : DigestsHex readers.digestBytes) (hover : OverInbox readers healthy inbox visit)
    (hreads : ∀ entry ∈ manifest, ReadsBack readers.digestBytes inbox entry)
    (hdocuments : ∀ entry ∈ outstanding manifest (loadKnown db.holdings manifest),
      Settleable readers inbox db.holdings entry) (budget : Nat) :
    (∀ entry ∈ nextSlice false manifest db.holdings budget, Handles readers healthy visit entry) ∧
      Readable readers visit (nextSlice false manifest db.holdings budget) db.holdings := by
  have hsettleable : ∀ entry ∈ nextSlice false manifest db.holdings budget,
      Settleable readers inbox db.holdings entry :=
    fun entry hentry => hdocuments entry (List.mem_of_mem_take hentry)
  refine ⟨fun entry hentry => ?_, readable_of_settleable hpdf hover hsettleable⟩
  exact (hsettleable entry hentry).handles hpdf hhex hover (hreads entry (nextSlice_subset hentry))

/-- A live run settles what its budget allows, and publishes when nothing is left. -/
theorem buildCatalogue_settles (hpdf : ReadsPdf library readers)
    (hhex : DigestsHex readers.digestBytes) (hover : OverInbox readers healthy inbox visit)
    (hdigests : (manifest.map (·.sha256)).Nodup)
    (hreads : ∀ entry ∈ manifest, ReadsBack readers.digestBytes inbox entry)
    (hsound : CatalogueSound readers db) (hhealthy : healthy db.holdings.files)
    (h : Unhindered readers source inbox manifest db) :
    (buildCatalogue readers source visit false budget manifest
        (manifestChecksum readers.digestBytes manifest)).wp
      (fun report db' => (pendingCount manifest db.holdings ≤ budget → report.result = .imported) ∧
        pendingCount manifest db'.holdings ≤ pendingCount manifest db.holdings - budget ∧
        healthy db'.holdings.files)
      (fun _ _ => False) db := by
  unfold buildCatalogue
  rw [Proc.wp_bind]
  apply wp_catching (prepareStore_succeeds hover hhealthy)
  · rintro _ _ ⟨files, hfiles, rfl⟩
    have hprepared : CatalogueSound readers { db with holdings := { db.holdings with files } } :=
      ⟨hsound.registry, hsound.holdings.of_same rfl rfl, hsound.owners, hsound.imported⟩
    obtain ⟨hhandles, hreadable⟩ := handles_of_settleable hpdf hhex hover hreads h.documents budget
    dsimp only
    rw [Proc.wp_bind]
    apply wp_catching (Proc.wp_and (buildSlice_succeeds hprepared.holdings hdigests
      hhandles hreadable hfiles) (buildSlice_builds hprepared.holdings budget))
    · rintro s _ ⟨hkept, rfl, hprocessed, hprogress⟩
      have hprogress : (outstanding manifest s).length ≤ pendingCount manifest
          db.holdings - budget :=
        hprogress rfl
      have hbuilt : CatalogueSound readers { db with holdings := s.holdings } :=
        ⟨hsound.registry, hprocessed.sound.holdings, hsound.owners, hsound.imported⟩
      have hpublishable : Publishable readers source manifest { db with holdings := s.holdings } :=
        ⟨h.publishable.storable, h.publishable.accepted, h.publishable.new⟩
      dsimp only
      apply Proc.wp_mono (Proc.wp_and (finishRun_settles (s := s) hbuilt hhex hpublishable)
        (finishRun_finishes hsound.registry hprocessed.sound rfl (hhex _)))
      · rintro report db' ⟨himported, -, -, hsame⟩
        refine ⟨fun hfits => himported (List.length_eq_zero_iff.mp (by omega)), ?_⟩
        rw [hsame, ← hprocessed.sound.pendingCount]
        exact ⟨hprogress, hkept⟩
      · exact fun _ _ hfalse => hfalse.2
    · exact fun _ _ hfalse => hfalse.1.elim
    · exact fun _ _ hfalse => hfalse.1
  · exact fun _ _ hfalse => hfalse.elim
  · exact fun _ _ hfalse => hfalse

/-- The current catalogue cannot say what was never published. -/
theorem filter_restates_current (hsound : CatalogueSound readers db)
    (hnew : importedBefore db.registry
      (importKey readers (manifestChecksum readers.digestBytes manifest)) = false) :
    (currentCatalogue? db source).filter (fun snapshot =>
      restates (manifestChecksum readers.digestBytes manifest) snapshot && !full) = none := by
  rw [Option.filter_eq_none_iff]
  intro snapshot hcurrent hrestates
  rw [Bool.and_eq_true] at hrestates
  have hmem := (List.mem_filter.mp (Currency.mem_of_current? hcurrent).1).1
  exact hsound.checksum_ne hnew snapshot hmem (checksum_of_restates hrestates.1)

theorem synchronize_settles (hpdf : ReadsPdf library readers)
    (hhex : DigestsHex readers.digestBytes) (hover : OverInbox readers healthy inbox visit)
    (hlists : inbox.manifests readers.digestBytes = .ok lists) (hsound : CatalogueSound readers db)
    (hhealthy : healthy db.holdings.files)
    (h : Unhindered readers source inbox (collectManifest lists) db) (maxDocuments : Option Int) :
    (synchronizeOpinionDocuments readers source visit false full maxDocuments).wp
      (fun report db' =>
        (pendingCount (collectManifest lists) db.holdings ≤ budgetOf maxDocuments →
          report.result = .imported) ∧
        pendingCount (collectManifest lists) db'.holdings ≤
          pendingCount (collectManifest lists) db.holdings - budgetOf maxDocuments ∧
        healthy db'.holdings.files)
      (fun _ _ => False) db := by
  let checked : OpinionDb := { db with catalogueState := { db.catalogueState with
    toFeedState := db.catalogueState.toFeedState.touchChecked db.clock } }
  have hchecked : Unhindered readers source inbox (collectManifest lists) checked :=
    ⟨h.nonempty, ⟨h.publishable.storable, h.publishable.accepted, h.publishable.new⟩, h.documents⟩
  have hcheckedSound : CatalogueSound readers checked :=
    ⟨hsound.registry, hsound.holdings, hsound.owners, hsound.imported⟩
  unfold synchronizeOpinionDocuments
  rw [Proc.wp_bind, Proc.wp_modify]
  change Proc.wp _ _ _ checked
  rw [hover.manifests, hlists]
  dsimp only
  unfold synchronizeManifest
  dsimp only
  rw [if_neg h.nonempty, Proc.wp_bind, Proc.wp_get]
  dsimp only
  rw [filter_restates_current hcheckedSound h.publishable.new]
  exact buildCatalogue_settles hpdf hhex hover (collectedFrom_collectManifest lists).nodup
    (Inbox.reads hlists).2 hcheckedSound hhealthy hchecked

end OneRun

/-! ## Runs over an inbox that does not change -/

/-- The current catalogue is the manifest's: it carries its checksum, and its entries are those of
the documents, one for each. -/
def Catalogued (readers : CatalogueReaders) (source : Nat) (manifest : List ManifestEntry)
    (db : OpinionDb) : Prop :=
  ∃ snapshot, currentCatalogue? db source = some snapshot ∧
    restates (manifestChecksum readers.digestBytes manifest) snapshot = true ∧
    ∃ start s, db.catalogueEntries.filter (·.snapshot = snapshot.pk) =
      entryRows readers start snapshot.pk s manifest

def CatalogueAction.isRun : CatalogueAction → Bool
  | .wait _ => false
  | .synchronize _ _ _ _ => true

/-- Time passes, or a live run visits the inbox under the given budget. -/
def CatalogueAction.Visits (readers : CatalogueReaders) (healthy : Files → Prop) (inbox : Inbox)
    (maxDocuments : Option Int) : CatalogueAction → Prop
  | .wait _ => True
  | .synchronize visit dryRun _ limit =>
    dryRun = false ∧ limit = maxDocuments ∧ OverInbox readers healthy inbox visit

section Repeated

variable {readers : CatalogueReaders} {source : Nat} {inbox : Inbox} {visit : SourceVisit}
  {lists : List (List ManifestEntry)} {manifest : List ManifestEntry} {dryRun full : Bool}
  {maxDocuments : Option Int} {report : CatalogueReport} {db db' : OpinionDb}
  {healthy : Files → Prop}

/-- Content that was imported is not published once more. -/
theorem Ends.kept_of_imported (h : Ends readers source dryRun manifest report db db')
    (hbefore : importedBefore db.registry
      (importKey readers (manifestChecksum readers.digestBytes manifest)) = true) :
    LeftAlone db db' := by
  cases h with
  | kept hkept _ => exact hkept
  | published s snapshot _ _ _ hpublished =>
    exact absurd (hpublished.registry.new.symm.trans hbefore) Bool.false_ne_true

/-- A run over imported content leaves the tables alone. -/
theorem leftAlone_of_imported (hhex : DigestsHex readers.digestBytes)
    (hsound : CatalogueSound readers db)
    (hbefore : importedBefore db.registry
      (importKey readers (manifestChecksum readers.digestBytes (manifestOf visit))) = true) :
    LeftAlone db
      (catalogueStep readers source db (.synchronize visit dryRun full maxDocuments)) := by
  have hrun :
      (synchronizeOpinionDocuments readers source visit dryRun full maxDocuments).wp _ _ db :=
    synchronize_leaves hsound.registry hsound.holdings hhex maxDocuments
  have hkept : (synchronizeOpinionDocuments readers source visit dryRun full maxDocuments).wp
      (fun _ => LeftAlone db) (fun _ => LeftAlone db) db :=
    Proc.wp_mono hrun (fun _ _ h => h.ends.kept_of_imported hbefore) fun _ _ h => h.tables
  exact hkept.left

theorem Catalogued.kept (h : Catalogued readers source manifest db) (hkept : LeftAlone db db') :
    Catalogued readers source manifest db' := by
  unfold Catalogued
  rw [hkept.current, hkept.entries]
  exact h

/-- The entries of the catalogue just published are the rows just written. -/
theorem Published.catalogued {s : BuildState} {snapshot : OpinionCatalogueSnapshot}
    (hsound : CatalogueSound readers db)
    (h : Published readers source manifest
      (manifestChecksum readers.digestBytes manifest) s snapshot
      db db') : Catalogued readers source manifest db' := by
  refine ⟨_, h.current, h.restates, Table.nextPk db.catalogueEntries, s, ?_⟩
  change db'.catalogueEntries.filter (·.snapshot = snapshot.pk) = _
  have hold : db.catalogueEntries.filter (·.snapshot = snapshot.pk) = [] := by
    rw [List.filter_eq_nil_iff]
    intro entry hentry hsame
    apply (hsound.owners entry hentry).ne_nextPk
    rw [← h.pk]
    exact of_decide_eq_true hsame
  rw [h.entries, List.filter_append, hold, List.nil_append, List.filter_eq_self]
  intro row hrow
  obtain ⟨i, hi, rfl⟩ := List.mem_mapIdx.mp hrow
  exact decide_eq_true rfl

theorem manifestOf_overInbox (hover : OverInbox readers healthy inbox visit)
    (hlists : inbox.manifests readers.digestBytes = .ok lists) :
    manifestOf visit = collectManifest lists := by
  unfold manifestOf
  rw [hover.manifests, hlists]

end Repeated

/-- The catalogue of the inbox is published, which no later run over the inbox takes back. -/
structure Settled (readers : CatalogueReaders) (source : Nat) (manifest : List ManifestEntry)
    (db : OpinionDb) : Prop where
  sound : CatalogueSound readers db
  catalogued : Catalogued readers source manifest db
  imported : importedBefore db.registry
    (importKey readers (manifestChecksum readers.digestBytes manifest)) = true

/-- The catalogue of the inbox is at most `rest + 1` runs away. -/
structure Awaiting (readers : CatalogueReaders) (healthy : Files → Prop) (source : Nat)
    (inbox : Inbox) (manifest : List ManifestEntry) (budget rest : Nat)
    (db : OpinionDb) : Prop where
  sound : CatalogueSound readers db
  store : healthy db.holdings.files
  unhindered : Unhindered readers source inbox manifest db
  pending : pendingCount manifest db.holdings ≤ (rest + 1) * budget

section Converges

variable {readers : CatalogueReaders} {library : PdfLibrary} {source : Nat} {inbox : Inbox}
  {visit : SourceVisit} {lists : List (List ManifestEntry)} {dryRun full : Bool}
  {maxDocuments : Option Int} {rest : Nat} {act : CatalogueAction} {later : List CatalogueAction}
  {db db' : OpinionDb} {healthy : Files → Prop}

theorem Settled.step (hhex : DigestsHex readers.digestBytes)
    (hlists : inbox.manifests readers.digestBytes = .ok lists)
    (hact : act.Visits readers healthy inbox maxDocuments)
    (h : Settled readers source (collectManifest lists) db) :
    Settled readers source (collectManifest lists) (catalogueStep readers source db act) := by
  have hsound : CatalogueSound readers (catalogueStep readers source db act) :=
    catalogueStep_sound hhex h.sound act
  cases act with
  | wait elapsed => exact ⟨hsound, h.catalogued, h.imported⟩
  | synchronize visit dryRun full limit =>
    have himported := h.imported
    rw [← manifestOf_overInbox hact.2.2 hlists] at himported
    have hkept : LeftAlone db (catalogueStep readers source db
        (.synchronize visit dryRun full limit)) := leftAlone_of_imported hhex h.sound himported
    refine ⟨hsound, h.catalogued.kept hkept, ?_⟩
    rw [hkept.registry.importedBefore]
    exact h.imported

theorem Settled.run (hhex : DigestsHex readers.digestBytes)
    (hlists : inbox.manifests readers.digestBytes = .ok lists)
    (hlater : ∀ act ∈ later, act.Visits readers healthy inbox maxDocuments)
    (h : Settled readers source (collectManifest lists) db) :
    Settled readers source (collectManifest lists)
      (run (catalogueStep readers source) db later) := by
  induction later generalizing db with
  | nil => exact h
  | cons act later ih =>
    exact ih (fun x hx => hlater x (List.mem_cons_of_mem act hx))
      (h.step hhex hlists (hlater act List.mem_cons_self))

theorem Awaiting.wait {budget : Nat} (elapsed : Sources.Time)
    (h : Awaiting readers healthy source inbox (collectManifest lists) budget rest db) :
    Awaiting readers healthy source inbox (collectManifest lists) budget rest
      (catalogueStep readers source db (.wait elapsed)) :=
  ⟨⟨h.sound.registry, h.sound.holdings, h.sound.owners, h.sound.imported⟩, h.store,
    ⟨h.unhindered.nonempty, ⟨h.unhindered.publishable.storable, h.unhindered.publishable.accepted,
      h.unhindered.publishable.new⟩, h.unhindered.documents⟩, h.pending⟩

/-- A live run publishes the catalogue or brings it nearer by one budget. -/
theorem Awaiting.nextRun (hpdf : ReadsPdf library readers) (hhex : DigestsHex readers.digestBytes)
    (hlists : inbox.manifests readers.digestBytes = .ok lists)
    (hover : OverInbox readers healthy inbox visit)
    (h : Awaiting readers healthy source inbox (collectManifest lists) (budgetOf maxDocuments) rest
      db) :
    Settled readers source (collectManifest lists)
        (catalogueStep readers source db (.synchronize visit false full maxDocuments)) ∨
      ∃ fewer, rest = fewer + 1 ∧ Awaiting readers healthy source inbox (collectManifest lists)
        (budgetOf maxDocuments) fewer
        (catalogueStep readers source db (.synchronize visit false full maxDocuments)) := by
  have hsettles :
      (synchronizeOpinionDocuments readers source visit false full maxDocuments).wp _ _ db :=
    synchronize_settles hpdf hhex hover hlists h.sound h.store h.unhindered maxDocuments
  have hleaves :
      (synchronizeOpinionDocuments readers source visit false full maxDocuments).wp _ _ db :=
    synchronize_leaves h.sound.registry h.sound.holdings hhex maxDocuments
  have hsound : CatalogueSound readers (catalogueStep readers source db
      (.synchronize visit false full maxDocuments)) := catalogueStep_sound hhex h.sound _
  let After (db' : OpinionDb) : Prop := CatalogueSound readers db' →
    Settled readers source (collectManifest lists) db' ∨ ∃ fewer, rest = fewer + 1 ∧
      Awaiting readers healthy source inbox (collectManifest lists)
        (budgetOf maxDocuments) fewer db'
  have hafter : (synchronizeOpinionDocuments readers source visit false full maxDocuments).wp
      (fun _ => After) (fun _ => After) db := by
    apply Proc.wp_mono (Proc.wp_and hsettles hleaves)
    · rintro report db' ⟨⟨himported, hfewer, hstore⟩, hends, -, hbuilt⟩ hsound'
      unfold takenUp at hbuilt
      rw [manifestOf_overInbox hover hlists] at hends hbuilt
      cases hends with
      | published s snapshot _ _ _ hpublished =>
        refine Or.inl ⟨hsound', hpublished.catalogued h.sound, ?_⟩
        rw [hpublished.registry.importedBefore, decide_eq_true rfl, Bool.or_true]
      | kept hkept hresult =>
        have hmany : budgetOf maxDocuments < pendingCount (collectManifest lists) db.holdings :=
          Nat.lt_of_not_le fun hfits => hresult rfl (himported hfits)
        have hpending := h.pending
        rw [Nat.succ_mul] at hpending
        cases rest with
        | zero => omega
        | succ fewer =>
          refine Or.inr ⟨fewer, rfl, hsound', hstore, ?_, by omega⟩
          exact h.unhindered.kept hhex hover (collectedFrom_collectManifest lists).nodup
            nextSlice_subset h.sound.holdings hkept hbuilt
    · exact fun _ _ hfalse => hfalse.1.elim
  exact hafter.left hsound

/-- Enough runs over the inbox publish its catalogue. -/
theorem Awaiting.run (hpdf : ReadsPdf library readers) (hhex : DigestsHex readers.digestBytes)
    (hlists : inbox.manifests readers.digestBytes = .ok lists)
    (hlater : ∀ act ∈ later, act.Visits readers healthy inbox maxDocuments)
    (hruns : rest < later.countP (·.isRun))
    (h : Awaiting readers healthy source inbox (collectManifest lists) (budgetOf maxDocuments) rest
      db) :
    Settled readers source (collectManifest lists)
      (run (catalogueStep readers source) db later) := by
  induction later generalizing rest db with
  | nil => cases hruns
  | cons act later ih =>
    have hothers : ∀ x ∈ later, x.Visits readers healthy inbox maxDocuments :=
      fun x hx => hlater x (List.mem_cons_of_mem act hx)
    have hact := hlater act List.mem_cons_self
    rw [List.countP_cons] at hruns
    cases act with
    | wait elapsed => exact ih hothers hruns (h.wait elapsed)
    | synchronize visit dryRun full limit =>
      obtain ⟨rfl, rfl, hover⟩ := hact
      rw [run_cons]
      rw [if_pos (show CatalogueAction.isRun _ = true from rfl)] at hruns
      cases h.nextRun hpdf hhex hlists hover with
      | inl hsettled => exact hsettled.run hhex hlists hothers
      | inr hawaiting =>
        obtain ⟨fewer, rfl, hawaiting⟩ := hawaiting
        exact ih hothers (Nat.lt_of_succ_lt_succ hruns) hawaiting

end Converges

end OpinionCatalogue

end Dashkoda.LegalWork
