import Dashkoda.LegalWork.OpinionSources
import Dashkoda.Lib.Dict
import Dashkoda.Lib.Runs
import Mathlib.Data.List.Infix

/-!
# Building the opinion catalogue

A run lists the documents, processes a slice of those without a terminal state and publishes the
catalogue once every document has one.
-/

open Lib

namespace Dashkoda.LegalWork

open Core (FeedResult FeedState findPublishedArtifact)
open Currency (publish current?)
open Sources (Time)

namespace OpinionCatalogue

def IMPORTER_NAME : String := "legal_opinion_catalogue"
def SCHEMA_VERSION : String := "1.0"
def WARN_SOURCE_UNREADABLE : String := "source_entry_unreadable"
def WARN_DATE_DISAGREES : String := "header_date_differs_from_filename"
def WARN_RECIPIENT_DISAGREES : String := "header_recipient_differs_from_filename"
def LEGAL_OPINION_MAX_DOCUMENTS_PER_RUN : Nat := 250

/-- What this importer produces, in the form the import key has to see. -/
def runSchemaVersion : String :=
  SCHEMA_VERSION ++ "+x" ++ EXTRACTOR_VERSION ++ "+f" ++ FILENAME_NORMALISER_VERSION

structure CatalogueReaders extends OpinionReaders where
  casefold : String → String

variable (readers : CatalogueReaders)

/-- A document is read once to validate it and once to extract its text. -/
inductive ReadPurpose where
  | validate
  | extract
  deriving DecidableEq, Repr

/-- What the sources and the store answer during one run. -/
structure SourceVisit where
  /-- What each provider lists. -/
  manifests : Except OpinionExn (List (List ManifestEntry))
  /-- `read_entry`, for its bytes. -/
  read : ReadPurpose → ManifestEntry → Except OpinionExn (Option Bytes)
  ensureDirectories : Proc StorageExn Files Unit
  /-- The store while one document is kept. -/
  machine : ManifestEntry → StoreMachine

structure CatalogueReport where
  result : FeedResult
  detail : String
  dryRun : Bool
  snapshotId : Option Nat
  manifestEntries : Nat
  processedEntries : Nat
  pendingEntries : Nat
  validEntries : Nat
  quarantinedEntries : Nat
  extractedEntries : Nat
  needsOcrEntries : Nat
  failedEntries : Nat
  uniqueBlobs : Nat
  reusedBlobs : Nat
  sourceManifestChecksum : String
  extractorVersion : String
  deriving DecidableEq, Repr

def CatalogueReport.initial (result : FeedResult) (detail : String) (dryRun : Bool)
    (manifestEntries : Nat) (checksum : String) : CatalogueReport :=
  ⟨result, detail, dryRun, none, manifestEntries, 0, 0, 0, 0, 0, 0, 0, 0, 0, checksum,
    EXTRACTOR_VERSION⟩

/-! ## One document -/

structure BuildState where
  holdings : Holdings
  knownBlobs : Dict String OpinionDocumentBlob
  knownExtractions : Dict String OpinionDocumentExtraction
  uniqueBlobs : Nat
  reusedBlobs : Nat

abbrev Building := Proc OpinionExn BuildState

def keeping {α : Type} (x : Reading α) : Building α :=
  Proc.onPart (·.holdings) (fun holdings s => { s with holdings }) id x

def knownBlobsOf (holdings : Holdings) (manifest : List ManifestEntry) :
    Dict String OpinionDocumentBlob :=
  Dict.ofList ((holdings.blobs.filter fun blob => blob.sha256 ∈ manifest.map (·.sha256)).map
    fun blob => (blob.sha256, blob))

/-- The reading of this extractor's version, under the digest of its bytes. -/
def extractionEntry (holdings : Holdings) (manifest : List ManifestEntry)
    (extraction : OpinionDocumentExtraction) : Option (String × OpinionDocumentExtraction) :=
  if extraction.extractorVersion = EXTRACTOR_VERSION then
    ((Table.get? holdings.blobs extraction.blob).filter
      fun blob => blob.sha256 ∈ manifest.map (·.sha256)).map fun blob => (blob.sha256, extraction)
  else none

/-- `_load_known`: everything earlier runs already established about this manifest. -/
def loadKnown (holdings : Holdings) (manifest : List ManifestEntry) : BuildState where
  holdings
  knownBlobs := knownBlobsOf holdings manifest
  knownExtractions :=
    Dict.ofList (holdings.extractions.filterMap (extractionEntry holdings manifest))
  uniqueBlobs := 0
  reusedBlobs := 0

/-- No terminal state yet.  A quarantined blob is terminal. -/
def BuildState.isPending (s : BuildState) (entry : ManifestEntry) : Bool :=
  match s.knownBlobs.get? entry.sha256 with
  | none => true
  | some blob => blob.isValid && entry.sha256 ∉ s.knownExtractions.keys

/-- `_outstanding` -/
def outstanding (manifest : List ManifestEntry) (s : BuildState) : List ManifestEntry :=
  manifest.filter s.isPending

/-- One of the two reads of a document, with the message for one that is gone. -/
def readSource (visit : SourceVisit) (purpose : ReadPurpose) (entry : ManifestEntry)
    (vanished : String) : Building Bytes :=
  match visit.read purpose entry with
  | .error e => throw e
  | .ok none => throw (.sourceRejected vanished)
  | .ok (some payload) => pure payload

def rememberExtraction (entry : ManifestEntry) (extraction : OpinionDocumentExtraction) :
    Building Unit :=
  modify fun s => { s with knownExtractions := s.knownExtractions.set entry.sha256 extraction }

/-- The second half of `_process_entry`: the bytes are read again and their text is recorded. -/
def extractEntry (visit : SourceVisit) (entry : ManifestEntry) (blob : OpinionDocumentBlob)
    (dryRun : Bool) : Building Unit := do
  let s ← get
  if !blob.isValid || entry.sha256 ∈ s.knownExtractions.keys || dryRun then pure ()
  else
    let payload ← readSource visit .extract entry "A manifest entry vanished before extraction."
    let extraction ← keeping (createExtraction readers.toOpinionReaders blob payload)
    rememberExtraction entry extraction

/-- Keep the bytes that were validated and record them. -/
def storeEntry (visit : SourceVisit) (entry : ManifestEntry) (payload : Bytes)
    (validation : ValidationResult) : Building OpinionDocumentBlob := do
  let storageKey ← keeping (keepBytes (visit.machine entry) payload entry.sha256 validation)
  let blob ← keeping (createBlob entry.sha256 storageKey validation)
  modify fun s => { s with knownBlobs := s.knownBlobs.set entry.sha256 blob }
  return blob

/-- A document no run has kept before; the answer says whether a blob was created. -/
def processNew (visit : SourceVisit) (entry : ManifestEntry) (dryRun : Bool) : Building Bool := do
  let payload ← readSource visit .validate entry
    "A manifest entry vanished between listing and reading."
  if readers.digestBytes payload ≠ entry.sha256 then
    throw (.sourceRejected "A source file changed while the catalogue was being built.")
  else if dryRun then pure false
  else
    let blob ← storeEntry visit entry payload (readers.validatePdf payload)
    extractEntry readers visit entry blob dryRun
    return true

/-- `_process_entry` -/
def processEntry (visit : SourceVisit) (dryRun : Bool) (entry : ManifestEntry) : Building Bool := do
  let s ← get
  match s.knownBlobs.get? entry.sha256 with
  | none => processNew readers visit entry dryRun
  | some blob => do
    extractEntry readers visit entry blob dryRun
    return false

/-- A dry run stores nothing, so it has neither created nor reused a blob. -/
def countBlob (dryRun created : Bool) : Building Unit :=
  modify fun s =>
    if dryRun then s
    else if created then { s with uniqueBlobs := s.uniqueBlobs + 1 }
    else { s with reusedBlobs := s.reusedBlobs + 1 }

def processSlice (visit : SourceVisit) (dryRun : Bool) : List ManifestEntry → Building Unit
  | [] => pure ()
  | entry :: rest => do
    let created ← processEntry readers visit dryRun entry
    countBlob dryRun created
    processSlice visit dryRun rest

/-! ## What the run says -/

def BuildState.blobIs (s : BuildState) (valid : Bool) (entry : ManifestEntry) : Bool :=
  (s.knownBlobs.get? entry.sha256).any fun blob => blob.isValid = valid

def BuildState.readingIs (s : BuildState) (status : ExtractionStatus) (entry : ManifestEntry) :
    Bool :=
  s.blobIs true entry && (s.knownExtractions.get? entry.sha256).any fun extraction =>
    extraction.status = status

/-- `_summarise`, with the counts of the loop. -/
def summarise (report : CatalogueReport) (manifest : List ManifestEntry) (s : BuildState) :
    CatalogueReport :=
  { report with
    processedEntries := manifest.length - (outstanding manifest s).length
    pendingEntries := (outstanding manifest s).length
    validEntries := manifest.countP (s.blobIs true)
    quarantinedEntries := manifest.countP (s.blobIs false)
    extractedEntries := manifest.countP (s.readingIs .extracted)
    needsOcrEntries := manifest.countP (s.readingIs .needsOcr)
    failedEntries := manifest.countP (s.readingIs .failed)
    uniqueBlobs := s.uniqueBlobs
    reusedBlobs := s.reusedBlobs }

/-! ## Publication -/

/-- `compare_with_filename`: where the document and its name disagree. -/
def compareWithFilename (header : DocumentHeader) (filenameDate : Option Date)
    (filenameRecipient : String) : List String :=
  (match header.date, filenameDate with
  | some read, some named => if read ≠ named then [WARN_DATE_DISAGREES] else []
  | _, _ => []) ++
  (if header.recipient ≠ "" ∧ filenameRecipient ≠ "" then
    let left := (readers.casefold header.recipient).toList
    let right := (readers.casefold filenameRecipient).toList
    if ¬ left <:+: right ∧ ¬ right <:+: left then [WARN_RECIPIENT_DISAGREES] else []
  else [])

/-- `_row`, without the pointer to its snapshot. -/
def entryRow (pk snapshot : Nat) (s : BuildState) (entry : ManifestEntry) : OpinionCatalogueEntry :=
  let blob := s.knownBlobs.get? entry.sha256
  let extraction := if blob.any (·.isValid) then s.knownExtractions.get? entry.sha256 else none
  let parsed := readers.parseOpinionFilename entry.filename
  let firstPage := (extraction.map (·.firstPageText)).getD ""
  let classification := readers.classifyDocument parsed.subject firstPage
  let warnings := parsed.warnings ++ (if blob.isNone then [WARN_SOURCE_UNREADABLE] else []) ++
    (match extraction with
    | none => []
    | some extraction => extraction.warningCodes ++ compareWithFilename readers
        (readers.parseDocumentHeader firstPage) parsed.date parsed.recipient)
  { pk
    snapshot
    sourceProvider := entry.provider
    sourceEntryKey := PyText.take 400 entry.key
    originalFilename := PyText.take 400 entry.filename
    displayFilename := PyText.take 400 parsed.display
    filenameDate := parsed.date
    filenameRecipient := PyText.take 200 parsed.recipient
    filenameSubject := PyText.take 500 parsed.subject
    classification := classification.1
    classificationSignals := classification.2
    blob := blob.map (·.pk)
    extraction := extraction.map (·.pk)
    sourceOrder := entry.order
    warningCodes := sortOn id warnings.dedup }

def entryRows (start snapshot : Nat) (s : BuildState) (manifest : List ManifestEntry) :
    List OpinionCatalogueEntry :=
  manifest.mapIdx fun i entry => entryRow readers (start + i) snapshot s entry

def snapshotViolations (snapshots : List OpinionCatalogueSnapshot)
    (snapshot : OpinionCatalogueSnapshot) : List String :=
  (if snapshots.any fun row => row.source = snapshot.source &&
      row.sourceManifestChecksum = snapshot.sourceManifestChecksum &&
      row.extractorVersion = snapshot.extractorVersion &&
      row.filenameNormaliserVersion = snapshot.filenameNormaliserVersion then
    ["opinioncatalogue_unique_manifest_and_readers"] else []) ++
  (if snapshot.validCount ≤ snapshot.entryCount then []
    else ["opinioncatalogue_valid_within_total"]) ++
  (if snapshot.quarantinedCount ≤ snapshot.entryCount then []
    else ["opinioncatalogue_quarantined_within_total"]) ++
  (if snapshot.extractedCount ≤ snapshot.validCount then []
    else ["opinioncatalogue_extracted_within_valid"])

def entryViolations (rows : List OpinionCatalogueEntry) : List String :=
  (if (rows.map (·.sourceEntryKey)).Nodup then []
    else ["opinionentry_unique_source_key_per_snapshot"]) ++
  rows.flatMap fun row =>
    (if row.originalFilename = "" then ["opinionentry_filename_required"] else []) ++
    (if row.extraction.isSome && row.blob.isNone then ["opinionentry_extraction_requires_blob"]
      else [])

def newSnapshot (pk source artifact importRun : Nat) (now : Time) (checksum : String)
    (report : CatalogueReport) : OpinionCatalogueSnapshot where
  pk
  source
  artifact
  importRun
  sourceManifestChecksum := checksum
  extractorVersion := EXTRACTOR_VERSION
  filenameNormaliserVersion := FILENAME_NORMALISER_VERSION
  observedAt := now
  entryCount := report.manifestEntries
  validCount := report.validEntries
  quarantinedCount := report.quarantinedEntries
  extractedCount := report.extractedEntries
  needsOcrCount := report.needsOcrEntries
  failedExtractionCount := report.failedEntries
  isCurrent := false

/-- The transaction that writes one catalogue and makes it the current one. -/
def writeCatalogue (source : Nat) (artifact : Sources.SourceArtifact) (run : Sources.ImportRun)
    (manifest : List ManifestEntry) (checksum : String) (report : CatalogueReport)
    (s : BuildState) : Syncing OpinionCatalogueSnapshot := do
  let db ← get
  let snapshot := newSnapshot (Table.nextPk db.catalogueSnapshots) source artifact.pk
    run.pk db.clock
    checksum report
  let rows := entryRows readers (Table.nextPk db.catalogueEntries) snapshot.pk s manifest
  raiseViolations (snapshotViolations db.catalogueSnapshots snapshot ++ entryViolations rows)
  let entries := db.catalogueEntries ++ rows
  if entries.countP (·.snapshot = snapshot.pk) ≠ manifest.length then
    throw (.runtimeError "The catalogue did not write every manifest entry.")
  else
    modify fun db => { db with
      catalogueSnapshots := publish (·.source = source) snapshot db.catalogueSnapshots
      catalogueEntries := entries }
    onRegistry (Core.completeRun run db.clock ⟨manifest.length, 0, 0, []⟩)
    return snapshot

/-- The identity the manifest is registered under. -/
def contentIdentity (manifest : List ManifestEntry) (checksum : String) : Core.ContentIdentity :=
  ⟨checksum, (manifest.map (·.byteSize)).sum⟩

def markPublished (manifest : List ManifestEntry) (snapshot : OpinionCatalogueSnapshot) :
    Syncing Unit :=
  modify fun db => { db with catalogueState := { db.catalogueState with
    toFeedState := db.catalogueState.toFeedState.markImported db.clock snapshot.pk
    buildState := .complete
    buildingManifestChecksum := ""
    manifestEntryCount := manifest.length
    processedEntryCount := manifest.length } }

/-- `_publish` -/
def publishCatalogue (source : Nat) (manifest : List ManifestEntry) (checksum : String)
    (report : CatalogueReport) (s : BuildState) : Syncing OpinionCatalogueSnapshot := do
  let db ← get
  let existing := (findPublishedArtifact db.registry source checksum IMPORTER_NAME).1
  let opened ← onRegistry
    (Core.startRun readers.digestText source (contentIdentity manifest checksum)
    existing IMPORTER_NAME runSchemaVersion false db.clock)
  let snapshot ← Proc.onError
    (Proc.atomically (writeCatalogue readers source opened.1 opened.2 manifest checksum report s))
    fun _ => onRegistry (Core.failPublication opened.2 db.clock [[("type", "publication_failed")]])
  markPublished manifest snapshot
  return snapshot

/-! ## The feed state -/

def markUnchanged (entries : Nat) : Syncing Unit :=
  modify fun db => { db with catalogueState := { db.catalogueState with
    toFeedState := db.catalogueState.toFeedState.markUnchanged db.clock
    buildState := if entries = 0 then .idle else .complete
    buildingManifestChecksum := ""
    manifestEntryCount := entries
    processedEntryCount := entries } }

def markProgress (checksum : String) (total processed : Nat) : Syncing Unit :=
  modify fun db => { db with catalogueState := { db.catalogueState with
    lastResult := .stillBuilding
    buildState := .building
    buildingManifestChecksum := checksum
    manifestEntryCount := total
    processedEntryCount := processed } }

/-- `_fail` -/
def failRun (error : OpinionExn) : Syncing CatalogueReport := do
  modify fun db => { db with catalogueState := { db.catalogueState with
    toFeedState := db.catalogueState.toFeedState.failFeed error.describe
    buildState := .failed } }
  return .initial .failed error.describe false 0 ""

/-! ## The whole run -/

/-- What `collect_manifest` may raise that the run records. -/
def endsListing : OpinionExn → Bool
  | .sourceRejected _ => true
  | .storage .osError => true
  | .valueError _ => true
  | _ => false

/-- What a document may raise that the run records; anything else escapes it. -/
def endsBuild : OpinionExn → Bool
  | .sourceRejected _ => true
  | .storage _ => true
  | _ => false

def budgetOf : Option Int → Nat
  | some limit => if limit ≤ 0 then LEGAL_OPINION_MAX_DOCUMENTS_PER_RUN else limit.toNat
  | none => LEGAL_OPINION_MAX_DOCUMENTS_PER_RUN

def currentCatalogue? (db : OpinionDb) (source : Nat) : Option OpinionCatalogueSnapshot :=
  current? (db.catalogueSnapshots.filter (·.source = source))

/-- The published catalogue says what this manifest would say again. -/
def restates (checksum : String) (snapshot : OpinionCatalogueSnapshot) : Bool :=
  snapshot.sourceManifestChecksum = checksum && snapshot.extractorVersion = EXTRACTOR_VERSION &&
    snapshot.filenameNormaliserVersion = FILENAME_NORMALISER_VERSION

/-- `ensure_directories` and the loop over the slice; the store keeps what was done. -/
def buildSlice (visit : SourceVisit) (dryRun : Bool) (budget : Nat)
    (manifest : List ManifestEntry) :
    Syncing BuildState := do
  let db ← get
  Proc.onPart (fun db => loadKnown db.holdings manifest)
    (fun s db => { db with holdings := s.holdings }) id do
      processSlice readers visit dryRun
        ((outstanding manifest (loadKnown db.holdings manifest)).take budget)
      get

def prepareStore (visit : SourceVisit) : Syncing Unit :=
  Proc.onPart (·.holdings) (fun holdings db => { db with holdings }) id
    (onFiles visit.ensureDirectories)

/-- What a run does with the state its slice left. -/
def finishRun (source : Nat) (manifest : List ManifestEntry) (checksum : String) (dryRun : Bool)
    (s : BuildState) : Syncing CatalogueReport := do
  let remaining := outstanding manifest s
  let report := summarise (.initial .unchanged "" dryRun manifest.length checksum) manifest s
  if dryRun then
    markProgress checksum manifest.length report.processedEntries
    return { report with
      result := if remaining = [] then .imported else .stillBuilding
      detail := "Proovikäivitus: " ++ toString manifest.length ++ " kirjet, " ++
        toString report.processedEntries ++ " valmis, " ++ toString report.pendingEntries ++
        " ootel. Midagi ei avaldatud ega salvestatud." }
  else if remaining ≠ [] then
    markProgress checksum manifest.length report.processedEntries
    return { report with
      result := .stillBuilding
      detail := "Osaline: " ++ toString report.processedEntries ++ "/" ++
        toString manifest.length ++ " valmis, " ++ toString report.pendingEntries ++
        " ootel. Käivita uuesti." }
  else
    let outcome ← tryCatch
      (Except.ok <$> publishCatalogue readers source manifest checksum report s)
      fun error => pure (.error error)
    match outcome with
    | .error error => failRun error
    | .ok snapshot =>
      return { report with
        result := .imported
        snapshotId := some snapshot.pk
        detail := "Arvamuste kataloog avaldatud: " ++ toString manifest.length ++ " dokumenti." }

/-- A step whose recorded exceptions end the run. -/
def catching {α : Type} (ends : OpinionExn → Bool) (x : Syncing α) :
    Syncing (Except OpinionExn α) :=
  tryCatch (Except.ok <$> x) fun error => if ends error then pure (.error error) else throw error

def buildCatalogue (source : Nat) (visit : SourceVisit) (dryRun : Bool) (budget : Nat)
    (manifest : List ManifestEntry) (checksum : String) : Syncing CatalogueReport := do
  let prepared ← catching (· = .storage .osError) (prepareStore visit)
  match prepared with
  | .error error => failRun error
  | .ok () => do
    let built ← catching endsBuild (buildSlice readers visit dryRun budget manifest)
    match built with
    | .error error => failRun error
    | .ok s => finishRun readers source manifest checksum dryRun s

def unchangedReport (manifest : List ManifestEntry) (checksum : String) (dryRun : Bool)
    (published : OpinionCatalogueSnapshot) : CatalogueReport :=
  { CatalogueReport.initial .unchanged "Arvamuste kataloog on muutumatu." dryRun manifest.length
      checksum with
    snapshotId := some published.pk
    processedEntries := manifest.length
    validEntries := published.validCount
    quarantinedEntries := published.quarantinedCount
    extractedEntries := published.extractedCount
    needsOcrEntries := published.needsOcrCount
    failedEntries := published.failedExtractionCount }

def synchronizeManifest (source : Nat) (visit : SourceVisit) (dryRun full : Bool) (budget : Nat)
    (manifest : List ManifestEntry) : Syncing CatalogueReport := do
  let checksum := manifestChecksum readers.digestBytes manifest
  if manifest = [] then
    markUnchanged 0
    return .initial .unchanged "Lähtekaustas ei ole dokumente." dryRun 0 checksum
  else
    let db ← get
    match (currentCatalogue? db source).filter fun snapshot =>
        restates checksum snapshot && !full with
    | some published => do
      markUnchanged manifest.length
      return unchangedReport manifest checksum dryRun published
    | none => buildCatalogue readers source visit dryRun budget manifest checksum

def synchronizeOpinionDocuments (source : Nat) (visit : SourceVisit) (dryRun full : Bool)
    (maxDocuments : Option Int) : Syncing CatalogueReport := do
  modify fun db => { db with catalogueState := { db.catalogueState with
    toFeedState := db.catalogueState.toFeedState.touchChecked db.clock } }
  match visit.manifests with
  | .error error => if endsListing error then failRun error else throw error
  | .ok lists =>
    synchronizeManifest readers source visit dryRun full (budgetOf maxDocuments)
      (collectManifest lists)

inductive CatalogueAction where
  | wait (elapsed : Time)
  | synchronize (visit : SourceVisit) (dryRun full : Bool) (maxDocuments : Option Int)

def catalogueStep (source : Nat) (db : OpinionDb) : CatalogueAction → OpinionDb
  | .wait elapsed => { db with clock := db.clock + elapsed }
  | .synchronize visit dryRun full maxDocuments =>
    (synchronizeOpinionDocuments readers source visit dryRun full maxDocuments db).2

end OpinionCatalogue

end Dashkoda.LegalWork
