import Dashkoda.LegalWork.OpinionCatalogueProgress
import Dashkoda.LegalWork.PublicOpinionCorpus

/-!
# Publishing content once more

Both opinion feeds publish through an import run whose key is taken from the content.  A run shows
what it collected when that content is still the current one, or was never published; content that
was published and then replaced cannot be published a second time.
-/

open Lib

namespace Dashkoda.LegalWork

open Core (CountsFit ImporterNames NothingPublished Opened RunOpened RunPublished identityAccepted
  importedBefore)

namespace PublicOpinions

variable (readers : PublicReaders)

/-- The key of the live run that publishes a corpus. -/
def importKey (checksum : String) : String :=
  readers.digestText (Sources.importKeyText IMPORTER_NAME SCHEMA_VERSION checksum)

def checked (db : OpinionDb) : OpinionDb :=
  { db with publicState := { db.publicState with
    toFeedState := db.publicState.toFeedState.touchChecked db.clock } }

/-- The run shows the corpus: it did not fail, and the current snapshot carries the checksum. -/
def Shows (source : Nat) (checksum : String) (report : PublicOpinionReport)
    (db : OpinionDb) : Prop :=
  report.result ≠ .failed ∧
    ∃ snapshot, currentCorpus? db source = some snapshot ∧ snapshot.corpusChecksum = checksum

/-- A live run that collected some pages and whose guards let them through. -/
structure Collects (source : Nat) (visit : Visit) (full : Bool) (drafts : List PageDraft)
    (checksum : String) (db : OpinionDb) : Prop where
  allowed : full = true ∨ db.publicState.backfillComplete = true
  collected : ∃ report db₁,
    collectCorpus readers visit (currentCorpus? db source) full false (checked db) =
      (.ok (drafts, report), db₁) ∧
    (corpusChecksum readers db₁.holdings.blobs drafts).sha256 = checksum ∧
    identityAccepted db.registry source (corpusChecksum readers db₁.holdings.blobs drafts) = true
  storable : corpusOverflows drafts = [] ∧ corpusViolations drafts = []
  length : drafts.length ≤ Sources.ImportRun.maxPositiveInteger

/-! ## What a collection keeps -/

/-- The holdings are sound, and the run has no outcome yet. -/
structure CollectSound (s : CollectState) : Prop where
  holdings : s.holdings.Sound
  result : s.report.result = .unchanged

section CollectKeeps

variable {readers : PublicReaders} {visit : Visit} {s : CollectState}

theorem keeps_count {f : PublicOpinionReport → PublicOpinionReport}
    (h : ∀ report, (f report).result = report.result) : Proc.Keeps CollectSound (count f) :=
  Proc.keeps_modify fun s hs => ⟨hs.holdings, (h s.report).trans hs.result⟩

theorem keeps_liftExcept {α : Type} (x : Except OpinionExn α) :
    Proc.Keeps CollectSound (liftExcept x) := by
  cases x with
  | ok a => exact Proc.keeps_pure a
  | error e => exact Proc.keeps_throw e

/-- Keeping bytes touches the files only. -/
theorem wp_reading_files {α : Type} {x : Reading α} (hs : CollectSound s)
    (hx : x.wp (fun _ h => h.blobs = s.holdings.blobs ∧ h.extractions = s.holdings.extractions)
      (fun _ h => h.blobs = s.holdings.blobs ∧ h.extractions = s.holdings.extractions) s.holdings) :
    (reading x).wp (fun _ => CollectSound) (fun _ => CollectSound) s := by
  unfold reading
  rw [Proc.wp_onPart]
  exact Proc.wp_mono hx (fun _ _ hsame => ⟨hs.holdings.of_same hsame.1 hsame.2, hs.result⟩)
    fun _ _ hsame => ⟨hs.holdings.of_same hsame.1 hsame.2, hs.result⟩

/-- The blob a document is read under is one of the table. -/
theorem ensureBlob_keeps (hs : CollectSound s) {payload : Bytes} {digest : String}
    {known : Option OpinionDocumentBlob} (hknown : ∀ blob ∈ known, blob ∈ s.holdings.blobs)
    (validation : ValidationResult) :
    (ensureBlob visit payload digest known validation).wp
      (fun blob s' => CollectSound s' ∧ blob ∈ s'.holdings.blobs) (fun _ => CollectSound) s := by
  unfold ensureBlob
  cases known with
  | some blob =>
    dsimp only
    rw [Proc.wp_bind, wp_count, Proc.wp_pure]
    exact ⟨⟨hs.holdings, hs.result⟩, hknown blob rfl⟩
  | none =>
    dsimp only
    rw [Proc.wp_bind]
    apply Proc.wp_mono (wp_reading_files hs OpinionCatalogue.wp_onFiles)
    · intro _ s₁ hs₁
      rw [Proc.wp_bind]
      apply Proc.wp_mono (wp_reading_files hs₁ OpinionCatalogue.wp_keepBytes)
      · intro storageKey s₂ hs₂
        rw [Proc.wp_bind]
        unfold reading
        rw [Proc.wp_onPart]
        apply Proc.wp_mono wp_createBlob
        · rintro blob _ ⟨hrow, hviolations, rfl⟩
          rw [Proc.wp_bind, wp_count, Proc.wp_pure]
          refine ⟨⟨hs₂.holdings.addBlob (by rw [hrow]; rfl) hviolations, hs₂.result⟩, ?_⟩
          exact List.mem_append_right _ List.mem_cons_self
        · rintro e _ rfl
          exact hs₂
      · exact fun _ _ h => h
    · exact fun _ _ h => h

theorem ensureExtraction_keeps (hs : CollectSound s) {blob : OpinionDocumentBlob}
    (hblob : blob ∈ s.holdings.blobs) (payload : Bytes) :
    (ensureExtraction readers blob payload).wp (fun _ => CollectSound)
      (fun _ => CollectSound) s := by
  unfold ensureExtraction
  rw [Proc.wp_bind, Proc.wp_get]
  dsimp only
  split
  · rw [Proc.wp_bind, wp_count, Proc.wp_pure]
    exact ⟨hs.holdings, hs.result⟩
  · rw [Proc.wp_bind, wp_count]
    beta_reduce
    unfold reading
    rw [Proc.wp_onPart]
    apply Proc.wp_mono wp_createExtraction
    · rintro extraction _ ⟨hrow, rfl⟩
      exact ⟨hs.holdings.addExtraction hblob (by rw [hrow]; rfl), hs.result⟩
    · rintro e _ rfl
      exact ⟨hs.holdings, hs.result⟩

theorem keeps_countInvalid : Proc.Keeps CollectSound countInvalid := keeps_count fun _ => rfl

theorem keeps_countPreview (blob : Option OpinionDocumentBlob) (validation : ValidationResult) :
    Proc.Keeps CollectSound (countPreview blob validation) := by
  unfold countPreview
  exact Proc.keeps_ite keeps_countInvalid
    (Proc.keeps_ite (keeps_count fun _ => rfl) (keeps_count fun _ => rfl))

theorem keeps_fetchDocument (pageUrl : String) (draft : DocumentFields) (subject : String)
    (dryRun : Bool) :
    Proc.Keeps CollectSound (fetchDocument readers visit pageUrl draft subject dryRun) := by
  unfold fetchDocument
  cases visit.pdf pageUrl draft.pdfUrl with
  | error error => exact Proc.keeps_bind keeps_countInvalid fun _ => Proc.keeps_pure _
  | ok payload =>
    dsimp only
    refine Proc.keeps_bind (keeps_count fun _ => rfl) fun _ => ?_
    intro s hs
    rw [Proc.wp_bind, Proc.wp_get]
    dsimp only
    rw [Proc.wp_ite]
    constructor
    · intro _
      unfold previewDocument
      exact Proc.keeps_bind (keeps_countPreview _ _) (fun _ => Proc.keeps_pure _) s hs
    · intro _
      have hknown : ∀ blob ∈ s.holdings.blobs.find? (·.sha256 = readers.digestBytes payload),
          blob ∈ s.holdings.blobs := fun blob hblob => List.mem_of_find?_eq_some hblob
      rw [Proc.wp_bind]
      apply Proc.wp_mono (ensureBlob_keeps hs hknown _)
      · rintro blob s₁ ⟨hs₁, hblob⟩
        rw [Proc.wp_ite]
        constructor
        · exact fun _ => Proc.keeps_bind keeps_countInvalid (fun _ => Proc.keeps_pure _) s₁ hs₁
        · intro _
          rw [Proc.wp_bind]
          exact Proc.wp_mono (ensureExtraction_keeps hs₁ hblob payload) (fun _ _ h => h)
            fun _ _ h => h
      · exact fun _ _ h => h

theorem keeps_readDocument (pageUrl : String) (known : Option DocumentFields) (now : Sources.Time)
    (dryRun : Bool) (attachment : PageAttachment) (order : Nat) :
    Proc.Keeps CollectSound
      (readDocument readers visit pageUrl known now dryRun attachment order) := by
  unfold readDocument
  cases known with
  | none => exact keeps_fetchDocument _ _ _ _
  | some document =>
    exact Proc.keeps_ite (Proc.keeps_bind (keeps_count fun _ => rfl) fun _ => Proc.keeps_pure _)
      (keeps_fetchDocument _ _ _ _)

theorem keeps_readPage (url key : String) (known : Option PageDraft) (found : Found)
    (now : Sources.Time) (dryRun : Bool) :
    Proc.Keeps CollectSound (readPage readers visit url key known found now dryRun) := by
  have hfailed (page : PageDraft) (code : String) :
      Proc.Keeps CollectSound (do countFailed; return some (failedPage page code)) :=
    Proc.keeps_bind (keeps_count fun _ => rfl) fun _ => Proc.keeps_pure _
  unfold readPage
  cases visit.html url with
  | error error =>
    cases known with
    | none => exact Proc.keeps_throw _
    | some page => exact hfailed page _
  | ok html =>
    dsimp only
    refine Proc.keeps_bind (keeps_count fun _ => rfl) fun _ => ?_
    apply Proc.keeps_ite
    · cases known with
      | none => exact Proc.keeps_throw _
      | some page => exact hfailed page _
    · apply Proc.keeps_ite (Proc.keeps_pure _)
      apply Proc.keeps_ite (Proc.keeps_pure _)
      unfold readDocuments
      refine Proc.keeps_bind (Proc.keeps_bind ?_ fun _ => Proc.keeps_pure _) fun _ =>
        Proc.keeps_pure _
      exact Proc.keeps_mapM _ fun item _ => keeps_readDocument _ _ _ _ _ _

theorem keeps_walkMeieArvamus (full : Bool) (left pageNumber : Nat) (urls : List String) :
    Proc.Keeps CollectSound (walkMeieArvamus readers visit full left pageNumber urls) := by
  induction left generalizing pageNumber urls with
  | zero =>
    unfold walkMeieArvamus
    exact Proc.keeps_ite (Proc.keeps_throw _) (Proc.keeps_pure _)
  | succ left ih =>
    unfold walkMeieArvamus
    refine Proc.keeps_bind (keeps_liftExcept _) fun html => ?_
    exact Proc.keeps_bind (keeps_count fun _ => rfl) fun _ =>
      Proc.keeps_ite (Proc.keeps_pure _) (ih _ _)

theorem keeps_walkNews (full : Bool) (edge left pageNumber : Nat) (found : List ListingCard) :
    Proc.Keeps CollectSound (walkNews readers visit full edge left pageNumber found) := by
  induction left generalizing pageNumber found with
  | zero =>
    unfold walkNews
    exact Proc.keeps_ite (Proc.keeps_throw _) (Proc.keeps_pure _)
  | succ left ih =>
    unfold walkNews
    refine Proc.keeps_bind (keeps_liftExcept _) fun html => ?_
    exact Proc.keeps_bind (keeps_count fun _ => rfl) fun _ =>
      Proc.keeps_ite (Proc.keeps_pure _) (Proc.keeps_ite (Proc.keeps_pure _) (ih _ _))

theorem keeps_collect (knownPages : Dict String KnownPage) (full dryRun : Bool)
    (now : Sources.Time) :
    Proc.Keeps CollectSound (collect readers visit knownPages full dryRun now) := by
  have hcandidate (boundary : Option Nat) (drafts : Dict String PageDraft)
      (candidate : String × Found) : Proc.Keeps CollectSound
        (readCandidate readers visit knownPages full boundary now dryRun drafts candidate) := by
    unfold readCandidate
    apply Proc.keeps_ite _ (Proc.keeps_pure _)
    refine Proc.keeps_bind (keeps_readPage _ _ _ _ _ _) fun draft => ?_
    cases draft with
    | none => exact Proc.keeps_pure _
    | some draft => exact Proc.keeps_pure _
  have hcarry (drafts : Dict String PageDraft) (known : String × KnownPage) :
      Proc.Keeps CollectSound (carryUnread drafts known) :=
    Proc.keeps_ite (Proc.keeps_pure _)
      (Proc.keeps_bind (keeps_count fun _ => rfl) fun _ => Proc.keeps_pure _)
  have hlistings : Proc.Keeps CollectSound (walkListings readers visit knownPages full) := by
    unfold walkListings
    exact Proc.keeps_bind (keeps_walkMeieArvamus _ _ _ _) fun _ =>
      Proc.keeps_bind (keeps_liftExcept _) fun _ =>
        Proc.keeps_bind (keeps_walkNews _ _ _ _ _) fun _ => Proc.keeps_pure _
  unfold collect
  refine Proc.keeps_bind hlistings fun listings => ?_
  refine Proc.keeps_bind (keeps_liftExcept _) fun boundary => ?_
  refine Proc.keeps_bind (Proc.keeps_foldlM _ (fun drafts c _ => hcandidate boundary drafts c) _)
    fun read => ?_
  exact Proc.keeps_bind (Proc.keeps_foldlM _ (fun drafts known _ => hcarry drafts known) _) fun _ =>
    Proc.keeps_pure _

end CollectKeeps

section Corpus

variable {readers : PublicReaders} {source : Nat} {visit : Visit} {drafts : List PageDraft}
  {report : PublicOpinionReport} {identity : Core.ContentIdentity} {full : Bool}
  {db db₀ db₁ : OpinionDb}

theorem importerNames : ImporterNames IMPORTER_NAME SCHEMA_VERSION := by
  constructor <;> decide

theorem length_importKey (hhex : OpinionCatalogue.DigestsHex readers.digestBytes)
    (checksum : String) :
    (importKey readers checksum).length = 64 := by
  have hkey : Sources.isSha256Hex (importKey readers checksum) = true := hhex _
  unfold Sources.isSha256Hex at hkey
  rw [Bool.and_eq_true, decide_eq_true_iff] at hkey
  exact hkey.1

theorem writeCorpus_registry {registry : Sources.Registry} {importKey checksum : String}
    {artifact : Sources.SourceArtifact} {run : Sources.ImportRun}
    (hopened : RunOpened registry importKey run db.registry) :
    (writeCorpus source artifact run drafts checksum report full).wp
      (fun _ db' => RunPublished registry importKey db'.registry) (fun _ _ => True) db := by
  unfold writeCorpus
  rw [Proc.wp_bind, Proc.wp_get]
  dsimp only
  rw [Proc.wp_bind]
  apply wp_raiseOverflows _ fun _ => trivial
  intro _
  rw [Proc.wp_bind]
  apply wp_raiseViolations _ fun _ => trivial
  intro _
  rw [Proc.wp_bind, Proc.wp_modify, Proc.wp_bind]
  unfold onRegistry
  rw [Proc.wp_onPart]
  beta_reduce
  apply Proc.wp_mono (hopened.complete _)
  · intro _ registry hpublished
    simp only [Proc.wp_bind, Proc.wp_modify, Proc.wp_pure]
    exact hpublished
  · exact fun _ _ _ => trivial

/-- What a publication leaves in the registry. -/
theorem publishCorpus_registry (hsound : db.registry.Sound)
    (hhex : Sources.isSha256Hex identity.sha256 = true) :
    (publishCorpus readers source drafts identity report full).wp
      (fun _ db' => RunPublished db.registry (importKey readers identity.sha256) db'.registry)
      (fun _ db' => NothingPublished db.registry db'.registry) db := by
  have hstart : (Core.startRun readers.digestText source identity
      (Core.findPublishedArtifact db.registry source identity.sha256 IMPORTER_NAME).1 IMPORTER_NAME
      SCHEMA_VERSION false db.clock).wp _ _ db.registry := Core.startRun_grows hsound hhex rfl
  unfold publishCorpus
  rw [Proc.wp_bind, Proc.wp_get]
  dsimp only
  rw [Proc.wp_bind]
  apply Proc.wp_mono (OpinionCatalogue.wp_onRegistry hstart)
  · rintro opened db₁ ⟨-, hopened⟩
    rw [Proc.wp_bind, Proc.wp_onError, Proc.wp_atomically]
    apply Proc.wp_mono (writeCorpus_registry hopened)
    · intro snapshot db₂ hpublished
      rw [Proc.wp_bind, Proc.wp_modify, Proc.wp_pure]
      exact hpublished
    · intro e _ _
      apply Proc.wp_mono (OpinionCatalogue.wp_onRegistry (hopened.fail _))
      · exact fun _ _ h => h.2
      · exact fun _ _ h => h.2
  · exact fun _ _ h => h.2

theorem writeCorpus_succeeds {registry : Sources.Registry} {importKey checksum : String}
    {artifact : Sources.SourceArtifact} {run : Sources.ImportRun}
    (hopened : Opened registry importKey db.clock run db.registry)
    (hnew : importedBefore registry importKey = false)
    (hstorable : corpusOverflows drafts = [] ∧ corpusViolations drafts = [])
    (hlength : report.pageCount ≤ Sources.ImportRun.maxPositiveInteger) :
    (writeCorpus source artifact run drafts checksum report full).wp (fun _ _ => True)
      (fun _ _ => False) db := by
  have hcounts : CountsFit ⟨report.pageCount, 0, 0, []⟩ := ⟨hlength, Nat.zero_le _, Nat.zero_le _⟩
  unfold writeCorpus
  rw [Proc.wp_bind, Proc.wp_get]
  dsimp only
  rw [hstorable.1, hstorable.2]
  unfold raiseOverflows raiseViolations
  rw [Proc.wp_bind, Proc.wp_pure, Proc.wp_bind, Proc.wp_pure, Proc.wp_bind, Proc.wp_modify,
    Proc.wp_bind]
  unfold onRegistry
  rw [Proc.wp_onPart]
  beta_reduce
  apply Proc.wp_mono (hopened.completes hcounts hnew)
  · intro _ _ _
    simp only [Proc.wp_bind, Proc.wp_modify, Proc.wp_pure]
  · exact fun _ _ hfalse => hfalse

/-- Guarded content that was never published goes through. -/
theorem publishCorpus_succeeds (hsound : db.registry.Sound)
    (hhex : OpinionCatalogue.DigestsHex readers.digestBytes)
    (hidentity : Sources.isSha256Hex identity.sha256 = true)
    (haccepted : identityAccepted db.registry source identity = true)
    (hnew : importedBefore db.registry (importKey readers identity.sha256) = false)
    (hstorable : corpusOverflows drafts = [] ∧ corpusViolations drafts = [])
    (hlength : report.pageCount ≤ Sources.ImportRun.maxPositiveInteger) :
    (publishCorpus readers source drafts identity report full).wp (fun _ _ => True)
      (fun _ _ => False) db := by
  have hstart : (Core.startRun readers.digestText source identity
      (Core.findPublishedArtifact db.registry source identity.sha256 IMPORTER_NAME).1 IMPORTER_NAME
      SCHEMA_VERSION false db.clock).wp _ _ db.registry :=
    Core.startRun_opens hsound haccepted hidentity importerNames rfl (length_importKey hhex _)
  unfold publishCorpus
  rw [Proc.wp_bind, Proc.wp_get]
  dsimp only
  rw [Proc.wp_bind]
  apply Proc.wp_mono (OpinionCatalogue.wp_onRegistry hstart)
  · rintro opened db₁ ⟨hdb₁, hopened⟩
    have hclock : db.clock = db₁.clock := by rw [hdb₁]
    rw [hclock] at hopened
    rw [Proc.wp_bind, Proc.wp_onError, Proc.wp_atomically]
    apply Proc.wp_mono (writeCorpus_succeeds hopened hnew hstorable hlength)
    · intro snapshot db₂ _
      rw [Proc.wp_bind, Proc.wp_modify, Proc.wp_pure]
      trivial
    · exact fun _ _ hfalse => hfalse.elim
  · exact fun _ _ hfalse => hfalse.2

theorem collectCorpus_keeps (hholdings : db.holdings.Sound)
    (previous : Option PublicOpinionSnapshot) (dryRun : Bool) :
    (collectCorpus readers visit previous full dryRun).wp
      (fun corpus db' => db'.holdings.Sound ∧ db' = { db with holdings := db'.holdings } ∧
        corpus.2.result = .unchanged ∧ corpus.2.pageCount = corpus.1.length)
      (fun _ db' => db'.holdings.Sound ∧ db' = { db with holdings := db'.holdings }) db := by
  have hstart : CollectSound ⟨db.holdings, .initial .unchanged "" dryRun full⟩ := ⟨hholdings, rfl⟩
  unfold collectCorpus
  simp only [Proc.wp_bind, Proc.wp_get, Proc.wp_onPart, Proc.wp_pure]
  apply Proc.wp_mono (keeps_collect _ _ _ _ _ hstart)
  · exact fun drafts s hs => ⟨hs.holdings, trivial, hs.result, rfl⟩
  · exact fun _ s hs => ⟨hs.holdings, trivial⟩

/-- The content can be shown: it is still the current one, or it was never published. -/
def Showable (readers : PublicReaders) (source : Nat) (checksum : String) (db : OpinionDb) : Prop :=
  (∃ snapshot, currentCorpus? db source = some snapshot ∧ snapshot.corpusChecksum = checksum) ∨
    importedBefore db.registry (importKey readers checksum) = false

theorem finishRun_shows_iff (hsound : db.registry.Sound)
    (hhex : OpinionCatalogue.DigestsHex readers.digestBytes)
    (hidentity : corpusChecksum readers db.holdings.blobs drafts = identity)
    (haccepted : identityAccepted db.registry source identity = true)
    (hstorable : corpusOverflows drafts = [] ∧ corpusViolations drafts = [])
    (hresult : report.result = .unchanged)
    (hlength : report.pageCount ≤ Sources.ImportRun.maxPositiveInteger) :
    (finishRun readers source (currentCorpus? db source) drafts report false full).wp
      (fun report' db' => Shows source identity.sha256 report' db') (fun _ _ => False) db ↔
      Showable readers source identity.sha256 db := by
  have hhexIdentity : Sources.isSha256Hex identity.sha256 = true := hidentity ▸ hhex _
  unfold finishRun Showable
  rw [Proc.wp_bind, Proc.wp_get]
  dsimp only
  rw [hidentity]
  cases hsame : (currentCorpus? db source).filter (·.corpusChecksum = identity.sha256) with
  | some same =>
    obtain ⟨hcurrent, hchecksum⟩ := Option.filter_eq_some_iff.mp hsame
    rw [decide_eq_true_iff] at hchecksum
    dsimp only
    rw [if_pos (show (!false) = true from rfl), Proc.wp_bind, Proc.wp_modify, Proc.wp_pure]
    refine iff_of_true ⟨?_, same, hcurrent, hchecksum⟩ (Or.inl ⟨same, hcurrent, hchecksum⟩)
    rw [hresult]
    exact fun h => (by cases h)
  | none =>
    have hother : ¬ ∃ snapshot, currentCorpus? db source = some snapshot ∧
        snapshot.corpusChecksum = identity.sha256 := by
      rintro ⟨snapshot, hcurrent, hchecksum⟩
      exact Option.filter_eq_none_iff.mp hsame snapshot hcurrent (decide_eq_true hchecksum)
    dsimp only
    rw [or_iff_right hother, if_neg Bool.false_ne_true, Proc.wp_bind, Proc.wp_tryCatch, Proc.wp_map]
    cases hbefore : importedBefore db.registry (importKey readers identity.sha256) with
    | false =>
      refine iff_of_true ?_ rfl
      apply Proc.wp_mono
        (Proc.wp_and (publishCorpus_succeeds hsound hhex hhexIdentity haccepted hbefore
        hstorable hlength) (publishCorpus_writes identity))
      · rintro snapshot db' ⟨-, hchecksum, hwritten⟩
        exact ⟨fun h => (by cases h), _, hwritten.current, hchecksum⟩
      · exact fun _ _ hfalse => hfalse.1.elim
    | true =>
      -- Completing the run finds the earlier one under the same key.
      refine iff_of_false ?_ fun h => Bool.false_ne_true h.symm
      apply Proc.not_wp (publishCorpus_registry hsound hhexIdentity)
      · intro _ _ hpublished
        rw [hpublished.new] at hbefore
        cases hbefore
      · intro e db' _ hshows
        exact hshows.1 rfl

/-- A live run that collects pages its guards let through shows them exactly when the content is
current or new. -/
theorem synchronize_shows_iff {checksum : String} (hsound : db.registry.Sound)
    (hholdings : db.holdings.Sound) (hhex : OpinionCatalogue.DigestsHex readers.digestBytes)
    (h : Collects readers source visit full drafts checksum db) :
    (synchronizePublicOpinions readers source visit false full).wp
      (fun report db' => Shows source checksum report db') (fun _ _ => False) db ↔
      Showable readers source checksum db := by
  obtain ⟨report, db₁, hcollected, rfl, haccepted⟩ := h.collected
  have hchecked : (checked db).holdings.Sound := hholdings
  have hkeeps : (collectCorpus readers visit (currentCorpus? db source) full false).wp _ _
      (checked db) :=
    collectCorpus_keeps hchecked (currentCorpus? db source) false
  obtain ⟨-, hdb₁, hresult, hpages⟩ := hkeeps.ok hcollected
  obtain ⟨holdings, rfl⟩ : ∃ holdings, db₁ = { checked db with holdings } := ⟨db₁.holdings, hdb₁⟩
  have hallowed : ¬ (!full && !db.publicState.backfillComplete) = true := by
    rw [Bool.and_eq_true, Bool.not_eq_true', Bool.not_eq_true']
    rintro ⟨hincremental, hunfilled⟩
    cases h.allowed with
    | inl hfull => exact Bool.false_ne_true (hincremental.symm.trans hfull)
    | inr hfilled => exact Bool.false_ne_true (hunfilled.symm.trans hfilled)
  have hlength : report.pageCount ≤ Sources.ImportRun.maxPositiveInteger := hpages ▸ h.length
  unfold synchronizePublicOpinions
  rw [Proc.wp_bind, Proc.wp_modify]
  beta_reduce
  rw [Proc.wp_bind, Proc.wp_get]
  dsimp only
  rw [if_neg hallowed, Proc.wp_bind, Proc.wp_tryCatch, Proc.wp_map]
  change Proc.wp (collectCorpus readers visit (currentCorpus? db source) full false) _ _
    (checked db) ↔ _
  rw [Proc.wp_iff_of_ok hcollected]
  have hregistry : ({ checked db with holdings } : OpinionDb).registry.Sound := hsound
  exact finishRun_shows_iff hregistry hhex rfl haccepted h.storable hresult hlength

end Corpus

end PublicOpinions

namespace OpinionCatalogue

variable (readers : CatalogueReaders)

def checked (db : OpinionDb) : OpinionDb :=
  { db with catalogueState := { db.catalogueState with
    toFeedState := db.catalogueState.toFeedState.touchChecked db.clock } }

/-- The current catalogue carries the checksum. -/
def IsCurrent (source : Nat) (checksum : String) (db : OpinionDb) : Prop :=
  ∃ snapshot, currentCatalogue? db source = some snapshot ∧
    snapshot.sourceManifestChecksum = checksum

/-- The run shows the manifest: it did not fail, and the current catalogue carries the checksum. -/
def Shows (source : Nat) (checksum : String) (report : CatalogueReport) (db : OpinionDb) : Prop :=
  report.result ≠ .failed ∧ IsCurrent source checksum db

/-- A live run that listed some documents and, unless it found them in the current catalogue,
settled all of them, and whose guards let them through. -/
structure Collects (source : Nat) (visit : SourceVisit) (full : Bool) (maxDocuments : Option Int)
    (manifest : List ManifestEntry) (db : OpinionDb) : Prop where
  listed : ∃ lists, visit.manifests = .ok lists ∧ collectManifest lists = manifest
  nonempty : manifest ≠ []
  settled : ¬ (full = false ∧ IsCurrent source (manifestChecksum readers.digestBytes manifest) db) →
    ∃ db₁ db₂ s, prepareStore visit (checked db) = (.ok (), db₁) ∧
      buildSlice readers visit false (budgetOf maxDocuments) manifest db₁ = (.ok s, db₂) ∧
      outstanding manifest s = []
  storable : Storable manifest
  accepted : identityAccepted db.registry source
    (contentIdentity manifest (manifestChecksum readers.digestBytes manifest)) = true

/-- The content can be shown: it is still the current one and the run is not forced, or it was never
published. -/
def Showable (source : Nat) (full : Bool) (checksum : String) (db : OpinionDb) : Prop :=
  (full = false ∧ IsCurrent source checksum db) ∨
    importedBefore db.registry (importKey readers checksum) = false

section Catalogue

variable {readers : CatalogueReaders} {source : Nat} {visit : SourceVisit} {full : Bool}
  {maxDocuments : Option Int} {manifest : List ManifestEntry} {s : BuildState} {db : OpinionDb}

/-- A settled catalogue is published exactly when its content is new. -/
theorem finishRun_shows_iff (hsound : CatalogueSound readers db)
    (hhex : DigestsHex readers.digestBytes) (hs : s.Sound manifest)
    (hsame : db.holdings = s.holdings) (hdone : outstanding manifest s = [])
    (hstorable : Storable manifest)
    (haccepted : identityAccepted db.registry source
      (contentIdentity manifest (manifestChecksum readers.digestBytes manifest)) = true) :
    (finishRun readers source manifest (manifestChecksum readers.digestBytes manifest) false s).wp
      (fun report db' => Shows source (manifestChecksum readers.digestBytes manifest) report db')
      (fun _ _ => False) db ↔
      importedBefore db.registry
        (importKey readers (manifestChecksum readers.digestBytes manifest)) = false := by
  cases hbefore : importedBefore db.registry
      (importKey readers (manifestChecksum readers.digestBytes manifest)) with
  | false =>
    refine iff_of_true ?_ rfl
    apply Proc.wp_mono (Proc.wp_and (finishRun_settles hsound hhex ⟨hstorable, haccepted, hbefore⟩)
      (finishRun_finishes hsound.registry hs hsame (hhex _)))
    · rintro report db' ⟨himported, hends, -, -⟩
      have himported := himported hdone
      cases hends with
      | kept _ hresult => exact absurd himported (hresult rfl)
      | published s snapshot _ _ _ hpublished =>
        refine ⟨by rw [himported]; exact fun h => (by cases h), _, hpublished.current, ?_⟩
        exact checksum_of_restates hpublished.restates
    · exact fun _ _ hfalse => hfalse.1.elim
  | true =>
    refine iff_of_false ?_ fun h => Bool.false_ne_true h.symm
    unfold finishRun
    dsimp only
    rw [if_neg Bool.false_ne_true, if_neg (not_not.mpr hdone), Proc.wp_bind, Proc.wp_tryCatch,
      Proc.wp_map]
    have hchecksum : Sources.isSha256Hex (manifestChecksum readers.digestBytes manifest) = true :=
      hhex _
    -- Completing the run finds the earlier one under the same key.
    apply Proc.not_wp (publishCatalogue_publishes hsound.registry hchecksum)
    · rintro _ _ ⟨hpublished, -⟩
      rw [hpublished.registry.new] at hbefore
      cases hbefore
    · intro e db' _ hshows
      exact hshows.1 rfl

/-- A live run whose documents its guards let through shows them exactly when they are the current
ones and it is not forced, or they are new. -/
theorem synchronize_shows_iff (hsound : CatalogueSound readers db)
    (hhex : DigestsHex readers.digestBytes)
    (h : Collects readers source visit full maxDocuments manifest db) :
    (synchronizeOpinionDocuments readers source visit false full maxDocuments).wp
      (fun report db' => Shows source (manifestChecksum readers.digestBytes manifest) report db')
      (fun _ _ => False) db ↔
      Showable readers source full (manifestChecksum readers.digestBytes manifest) db := by
  obtain ⟨lists, hlists, rfl⟩ := h.listed
  unfold synchronizeOpinionDocuments Showable
  rw [Proc.wp_bind, Proc.wp_modify]
  change Proc.wp _ _ _ (checked db) ↔ _
  rw [hlists]
  dsimp only
  unfold synchronizeManifest
  dsimp only
  rw [if_neg h.nonempty, Proc.wp_bind, Proc.wp_get]
  dsimp only
  have hsame : currentCatalogue? (checked db) source = currentCatalogue? db source := rfl
  rw [hsame]
  cases hfound : (currentCatalogue? db source).filter fun snapshot =>
      restates (manifestChecksum readers.digestBytes (collectManifest lists)) snapshot && !full with
  | some published =>
    obtain ⟨hcurrent, hrestates⟩ := Option.filter_eq_some_iff.mp hfound
    rw [Bool.and_eq_true, Bool.not_eq_true'] at hrestates
    have hshown : IsCurrent source
        (manifestChecksum readers.digestBytes (collectManifest lists)) db :=
      ⟨published, hcurrent, checksum_of_restates hrestates.1⟩
    dsimp only
    unfold markUnchanged
    rw [Proc.wp_bind, Proc.wp_modify, Proc.wp_pure]
    exact iff_of_true ⟨fun h => (by cases h), hshown⟩ (Or.inl ⟨hrestates.2, hshown⟩)
  | none =>
    have hother : ¬ (full = false ∧ IsCurrent source
        (manifestChecksum readers.digestBytes (collectManifest lists)) db) := by
      rintro ⟨hfull, snapshot, hcurrent, hchecksum⟩
      have hmem := (List.mem_filter.mp (Currency.mem_of_current? hcurrent).1).1
      apply Option.filter_eq_none_iff.mp hfound snapshot hcurrent
      rw [← hchecksum, (hsound.imported snapshot hmem).1, hfull]
      rfl
    obtain ⟨db₁, db₂, s, hprepared, hbuilt, hdone⟩ := h.settled hother
    have hprepare : (prepareStore visit).wp _ _ (checked db) := wp_prepareStore
    obtain ⟨files, rfl⟩ := hprepare.ok hprepared
    have hfiles :
        ({ checked db with holdings := { db.holdings with files } } : OpinionDb).holdings.Sound :=
      hsound.holdings.of_same rfl rfl
    have hslice :
      (buildSlice readers visit false (budgetOf maxDocuments) (collectManifest lists)).wp _ _
      { checked db with holdings := { db.holdings with files } } := buildSlice_builds hfiles _
    obtain ⟨rfl, hprocessed, -⟩ := hslice.ok hbuilt
    dsimp only
    rw [or_iff_right hother]
    unfold buildCatalogue catching
    rw [Proc.wp_bind, Proc.wp_tryCatch, Proc.wp_map, Proc.wp_iff_of_ok hprepared]
    dsimp only
    rw [Proc.wp_bind, Proc.wp_tryCatch, Proc.wp_map, Proc.wp_iff_of_ok hbuilt]
    dsimp only
    have hsoundNext : CatalogueSound readers { checked db with holdings := s.holdings } :=
      ⟨hsound.registry, hprocessed.sound.holdings, hsound.owners, hsound.imported⟩
    exact finishRun_shows_iff hsoundNext hhex hprocessed.sound rfl hdone h.storable h.accepted

end Catalogue

end OpinionCatalogue

end Dashkoda.LegalWork
