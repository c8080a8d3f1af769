import Dashkoda.Core.FeedSync
import Dashkoda.LegalWork.OpinionStorage
import Dashkoda.Lib.Calendar
import Dashkoda.Lib.Column
import Mathlib.Data.String.Basic

/-!
# Opinion documents, their readings, the private catalogue and the public corpus

Bytes are kept once under their digest, a reading belongs to its bytes and its reader's version,
and a snapshot of either source names the readings it was published from.
-/

open Lib

namespace Dashkoda.LegalWork

open Core (FeedState)
open Sources (Registry Time)

inductive ValidationStatus where
  | valid
  | quarantinedEncrypted
  | quarantinedActiveContent
  | quarantinedInvalid
  | quarantinedTooLarge
  | quarantinedTooManyPages
  deriving DecidableEq, Repr

def ValidationStatus.value : ValidationStatus → String
  | valid => "valid"
  | quarantinedEncrypted => "quarantined_encrypted"
  | quarantinedActiveContent => "quarantined_active_content"
  | quarantinedInvalid => "quarantined_invalid"
  | quarantinedTooLarge => "quarantined_too_large"
  | quarantinedTooManyPages => "quarantined_too_many_pages"

inductive ExtractionStatus where
  | extracted
  | needsOcr
  | failed
  deriving DecidableEq, Repr

inductive DocumentClassification where
  | opinion
  | jointOpinion
  | supplementaryOpinion
  | followUp
  | annex
  | supportingDocument
  | unknown
  deriving DecidableEq, Repr

inductive SourceProvider where
  | bootstrapZip
  | directory
  deriving DecidableEq, Repr

def SourceProvider.value : SourceProvider → String
  | bootstrapZip => "bootstrap_zip"
  | directory => "directory"

/-! ## What the readers return -/

structure ParsedFilename where
  display : String
  date : Option Date
  recipient : String
  subject : String
  warnings : List String
  deriving DecidableEq

structure ValidationResult where
  status : ValidationStatus
  byteSize : Nat
  pageCount : Nat
  isEncrypted : Bool
  hasActiveContent : Bool
  warnings : List String
  deriving DecidableEq, Repr

def ValidationResult.isValid (result : ValidationResult) : Bool := result.status = .valid

structure ExtractionResult where
  status : ExtractionStatus
  text : String
  firstPageText : String
  pageCount : Nat
  warnings : List String
  deriving DecidableEq, Repr

structure DocumentHeader where
  date : Option Date
  recipient : String
  subject : String
  ourReference : String
  theirReference : String
  warnings : List String
  deriving DecidableEq

/-- The digest and the readers of names, bytes and text that both opinion sources use. -/
structure OpinionReaders where
  digestBytes : Bytes → String
  parseOpinionFilename : String → ParsedFilename
  /-- Filename subject, then first page. -/
  classifyDocument : String → String → DocumentClassification × List String
  validatePdf : Bytes → ValidationResult
  extractText : Bytes → ExtractionResult
  parseDocumentHeader : String → DocumentHeader

/-- `digest_bytes(text.encode("utf-8"))` -/
def OpinionReaders.digestText (readers : OpinionReaders) (text : String) : String :=
  readers.digestBytes text.toUTF8.data.toList

def EXTRACTOR_VERSION : String := "1.0"
def FILENAME_NORMALISER_VERSION : String := "1.1"

/-! ## Bytes and readings -/

structure OpinionDocumentBlob where
  pk : Nat
  sha256 : String
  storageKey : String
  byteSize : Nat
  pageCount : Nat
  validationStatus : ValidationStatus
  isEncrypted : Bool
  hasActiveContent : Bool
  warningCodes : List String
  deriving DecidableEq, Repr

instance : Row OpinionDocumentBlob := ⟨(·.pk)⟩

def OpinionDocumentBlob.isValid (blob : OpinionDocumentBlob) : Bool :=
  blob.validationStatus = .valid

def maxSmallInteger : Nat := 32767

def SMALLINT_OUT_OF_RANGE : String := "smallint out of range"
def NUL_IN_TEXT : String := "PostgreSQL text fields cannot contain NUL (0x00) bytes"

def OpinionDocumentBlob.overflows (blob : OpinionDocumentBlob) : List String :=
  if maxSmallInteger < blob.pageCount then [SMALLINT_OUT_OF_RANGE] else []

/-- The constraints of the table a new row would break. -/
def OpinionDocumentBlob.violations (blob : OpinionDocumentBlob) (rows : List OpinionDocumentBlob) :
    List String :=
  (if rows.any (·.sha256 = blob.sha256) then ["opinionblob_sha256_key"] else []) ++
  (if !Sources.isSha256Hex blob.sha256 then ["opinionblob_sha256_is_lower_hex"] else []) ++
  (if blob.byteSize = 0 then ["opinionblob_has_bytes"] else []) ++
  (if blob.isValid && blob.pageCount = 0 then ["opinionblob_valid_has_pages"] else []) ++
  (if blob.isValid && blob.hasActiveContent then
    ["opinionblob_valid_has_no_active_content"] else [])

structure OpinionDocumentExtraction where
  pk : Nat
  blob : Nat
  extractorVersion : String
  status : ExtractionStatus
  text : String
  firstPageText : String
  textSha256 : String
  pageCount : Nat
  detectedDate : Option Date
  detectedRecipient : String
  detectedSubject : String
  theirReference : String
  ourReference : String
  warningCodes : List String
  deriving DecidableEq

instance : Row OpinionDocumentExtraction := ⟨(·.pk)⟩

def OpinionDocumentExtraction.isUsable (extraction : OpinionDocumentExtraction) : Bool :=
  extraction.status = .extracted

def hasNul (text : String) : Bool := text.toList.any (·.toNat = 0)

/-- What a `varchar` column says of a text that it refuses. -/
def varcharOverflows (max : Nat) (text : String) : List String :=
  match Column.varchar max text with
  | .ok _ => []
  | .error .nul => [NUL_IN_TEXT]
  | .error _ => ["value too long for type character varying(" ++ toString max ++ ")"]

def textOverflows (text : String) : List String := if hasNul text then [NUL_IN_TEXT] else []

/-- A JSON column takes no text with the escape for NUL. -/
def jsonOverflows (codes : List String) : List String :=
  if codes.any hasNul then ["unsupported Unicode escape sequence"] else []

def OpinionDocumentExtraction.overflows (extraction : OpinionDocumentExtraction) : List String :=
  (if hasNul extraction.text || hasNul extraction.firstPageText then [NUL_IN_TEXT] else []) ++
  (if maxSmallInteger < extraction.pageCount then [SMALLINT_OUT_OF_RANGE] else [])

def OpinionDocumentExtraction.violations (extraction : OpinionDocumentExtraction)
    (rows : List OpinionDocumentExtraction) : List String :=
  (if rows.any fun row => row.blob = extraction.blob &&
      row.extractorVersion = extraction.extractorVersion then
    ["opinionextraction_one_per_blob_and_version"] else []) ++
  (if extraction.isUsable && extraction.text = "" then ["opinionextraction_extracted_has_text"]
    else [])

/-! ## The private catalogue -/

structure OpinionCatalogueSnapshot where
  pk : Nat
  source : Nat
  artifact : Nat
  importRun : Nat
  sourceManifestChecksum : String
  extractorVersion : String
  filenameNormaliserVersion : String
  observedAt : Time
  entryCount : Nat
  validCount : Nat
  quarantinedCount : Nat
  extractedCount : Nat
  needsOcrCount : Nat
  failedExtractionCount : Nat
  isCurrent : Bool
  deriving DecidableEq, Repr

instance : Published OpinionCatalogueSnapshot where
  pk := (·.pk)
  publishedAt := (·.observedAt)
  isCurrent := (·.isCurrent)
  setCurrent flag row := { row with isCurrent := flag }
  pk_setCurrent _ _ := rfl
  publishedAt_setCurrent _ _ := rfl
  isCurrent_setCurrent _ _ := rfl

structure OpinionCatalogueEntry where
  pk : Nat
  snapshot : Nat
  sourceProvider : SourceProvider
  sourceEntryKey : String
  originalFilename : String
  displayFilename : String
  filenameDate : Option Date
  filenameRecipient : String
  filenameSubject : String
  classification : DocumentClassification
  classificationSignals : List String
  blob : Option Nat
  extraction : Option Nat
  sourceOrder : Nat
  warningCodes : List String
  deriving DecidableEq

instance : Row OpinionCatalogueEntry := ⟨(·.pk)⟩

inductive CatalogueBuildState where
  | idle
  | building
  | complete
  | failed
  deriving DecidableEq, Repr

structure OpinionCatalogueFeedState extends FeedState where
  buildState : CatalogueBuildState
  buildingManifestChecksum : String
  manifestEntryCount : Nat
  processedEntryCount : Nat
  deriving DecidableEq, Repr

/-! ## The public corpus -/

inductive PublicPageType where
  | meieArvamus
  | news
  | other
  deriving DecidableEq, Repr

def PublicPageType.value : PublicPageType → String
  | meieArvamus => "meie_arvamus"
  | news => "news"
  | other => "other"

/-- `fetched` in the run that wrote the row, `carried` from the snapshot before it, or `failed`. -/
inductive PublicFetchState where
  | fetched
  | carried
  | failed
  deriving DecidableEq, Repr

structure PublicOpinionSnapshot where
  pk : Nat
  source : Nat
  artifact : Nat
  importRun : Nat
  observedAt : Time
  corpusChecksum : String
  pageCount : Nat
  documentCount : Nat
  articleOnlyPageCount : Nat
  listingPagesFetched : Nat
  detailPagesFetched : Nat
  documentsFetched : Nat
  newBlobCount : Nat
  knownBlobCount : Nat
  invalidDocumentCount : Nat
  failedPageCount : Nat
  isCurrent : Bool
  deriving DecidableEq, Repr

instance : Published PublicOpinionSnapshot where
  pk := (·.pk)
  publishedAt := (·.observedAt)
  isCurrent := (·.isCurrent)
  setCurrent flag row := { row with isCurrent := flag }
  pk_setCurrent _ _ := rfl
  publishedAt_setCurrent _ _ := rfl
  isCurrent_setCurrent _ _ := rfl

/-- What a corpus says about one page, in a draft as in a row. -/
structure PageFields where
  contentKey : String
  canonicalUrl : String
  pageType : PublicPageType
  title : String
  listingSummary : String
  bodyText : String
  publishedDate : Option Date
  opinionEvidenceCodes : List String
  fetchState : PublicFetchState
  failureCode : String
  contentHash : String
  firstSeenAt : Time
  lastFetchedAt : Option Time
  isPresent : Bool
  deriving DecidableEq

structure DocumentFields where
  pdfUrl : String
  attachmentLabel : String
  displayFilename : String
  filenameDate : Option Date
  filenameRecipient : String
  filenameSubject : String
  classification : DocumentClassification
  classificationSignals : List String
  blob : Option Nat
  extraction : Option Nat
  fetchState : PublicFetchState
  failureCode : String
  firstSeenAt : Time
  isPresent : Bool
  sourceOrder : Nat
  warningCodes : List String
  deriving DecidableEq

structure PublicOpinionPage extends PageFields where
  pk : Nat
  snapshot : Nat
  deriving DecidableEq

instance : Row PublicOpinionPage := ⟨(·.pk)⟩

structure PublicOpinionDocument extends DocumentFields where
  pk : Nat
  snapshot : Nat
  page : Nat
  deriving DecidableEq

instance : Row PublicOpinionDocument := ⟨(·.pk)⟩

structure PublicOpinionFeedState extends FeedState where
  backfillComplete : Bool
  deriving DecidableEq, Repr

/-! ## The tables together -/

/-- The managed store, the bytes known by digest and their readings. -/
structure Holdings where
  files : Files
  blobs : List OpinionDocumentBlob
  extractions : List OpinionDocumentExtraction

structure OpinionDb where
  clock : Time
  registry : Registry
  holdings : Holdings
  catalogueState : OpinionCatalogueFeedState
  catalogueSnapshots : List OpinionCatalogueSnapshot
  catalogueEntries : List OpinionCatalogueEntry
  publicState : PublicOpinionFeedState
  publicSnapshots : List PublicOpinionSnapshot
  publicPages : List PublicOpinionPage
  publicDocuments : List PublicOpinionDocument

def OpinionDb.empty (files : Files) : OpinionDb where
  clock := 0
  registry := ⟨[], []⟩
  holdings := ⟨files, [], []⟩
  catalogueState := { FeedState.initial with
    buildState := .idle, buildingManifestChecksum := ""
    manifestEntryCount := 0, processedEntryCount := 0 }
  catalogueSnapshots := []
  catalogueEntries := []
  publicState := { FeedState.initial with backfillComplete := false }
  publicSnapshots := []
  publicPages := []
  publicDocuments := []

/-! ## Exceptions -/

inductive FetchFailure where
  | notFound
  | refused
  | rateLimited
  | serverError
  | timeout
  | transport
  | tooLarge
  | unexpectedContent
  | empty
  | redirect
  | notAllowed
  | unknown
  deriving DecidableEq, Repr

def FetchFailure.value : FetchFailure → String
  | notFound => "not_found"
  | refused => "refused"
  | rateLimited => "rate_limited"
  | serverError => "server_error"
  | timeout => "timeout"
  | transport => "transport"
  | tooLarge => "too_large"
  | unexpectedContent => "unexpected_content"
  | empty => "empty"
  | redirect => "redirect"
  | notAllowed => "not_allowed"
  | unknown => "unknown"

/-- `cause` is the failed fetch a collection error was raised from, where there was one. -/
inductive OpinionExn where
  | publicOpinionCollectionError (message : String) (cause : Option FetchFailure)
  | sourceRejected (message : String)
  | storage (error : StorageExn)
  | valueError (message : String)
  | runtimeError (message : String)
  | overflowError (message : String)
  | integrityError (constraint : String)
  | dataError (message : String)
  | sources (error : Sources.Exn)
  deriving DecidableEq, Repr

def OpinionExn.typeName : OpinionExn → String
  | publicOpinionCollectionError _ _ => "PublicOpinionCollectionError"
  | sourceRejected _ => "SourceRejected"
  | storage .osError => "OSError"
  | storage (.storageError _) => "StorageError"
  | storage (.blobMismatch _) => "BlobMismatch"
  | valueError _ => "ValueError"
  | runtimeError _ => "RuntimeError"
  | overflowError _ => "OverflowError"
  | integrityError _ => "IntegrityError"
  | dataError _ => "DataError"
  | sources error => error.typeName

/-- The text of an exception; of a database error only the constraint. -/
def OpinionExn.message : OpinionExn → String
  | publicOpinionCollectionError message _ => message
  | sourceRejected message => message
  | storage .osError => ""
  | storage (.storageError message) => message
  | storage (.blobMismatch message) => message
  | valueError message => message
  | runtimeError message => message
  | overflowError message => message
  | integrityError constraint => constraint
  | dataError message => message
  | sources (.invalidImportTransition message) => message
  | sources (.artifactRejected message) => message
  | sources _ => ""

def OpinionExn.describe (error : OpinionExn) : String :=
  Core.describeError error.typeName error.message

/-! ## Storing and reading one document -/

/-- What the managed store does with each call of one run. -/
structure StoreMachine where
  ensureDirectories : Proc StorageExn Files Unit
  storeBlob : Bytes → String → Proc StorageExn Files String
  /-- Payload, digest and reason. -/
  quarantineBlob : Bytes → String → String → Proc StorageExn Files String

abbrev Reading := Proc OpinionExn Holdings

def onFiles {α : Type} (call : Proc StorageExn Files α) : Reading α :=
  Proc.onPart (·.files) (fun files holdings => { holdings with files }) .storage call

/-- Store the bytes, or set them aside when they did not pass. -/
def keepBytes (machine : StoreMachine) (payload : Bytes) (digest : String)
    (validation : ValidationResult) : Reading String :=
  if validation.isValid then onFiles (machine.storeBlob payload digest)
  else onFiles (machine.quarantineBlob payload digest validation.status.value)

def blobRow (pk : Nat) (digest storageKey : String) (validation : ValidationResult) :
    OpinionDocumentBlob where
  pk
  sha256 := digest
  storageKey
  byteSize := validation.byteSize
  pageCount := validation.pageCount
  validationStatus := validation.status
  isEncrypted := validation.isEncrypted
  hasActiveContent := validation.hasActiveContent
  warningCodes := sortOn id validation.warnings

/-- `OpinionDocumentBlob.objects.create(...)` -/
def createBlob (digest storageKey : String) (validation : ValidationResult) :
    Reading OpinionDocumentBlob :=
  Proc.service fun holdings =>
    let blob := blobRow (Table.nextPk holdings.blobs) digest storageKey validation
    match blob.overflows, blob.violations holdings.blobs with
    | [], [] => .ok ({ holdings with blobs := holdings.blobs ++ [blob] }, blob)
    | message :: _, _ => .error (.dataError message)
    | [], constraint :: _ => .error (.integrityError constraint)

def extractionRow (readers : OpinionReaders) (pk blob : Nat) (payload : Bytes) :
    OpinionDocumentExtraction :=
  let result := readers.extractText payload
  let header := readers.parseDocumentHeader result.firstPageText
  { pk
    blob
    extractorVersion := EXTRACTOR_VERSION
    status := result.status
    text := result.text
    firstPageText := result.firstPageText
    textSha256 := if result.text = "" then "" else readers.digestText result.text
    pageCount := result.pageCount
    detectedDate := header.date
    detectedRecipient := header.recipient
    detectedSubject := header.subject
    theirReference := header.theirReference
    ourReference := header.ourReference
    warningCodes := sortOn id (result.warnings ++ header.warnings).dedup }

/-- Read the payload and record the reading under the blob. -/
def createExtraction (readers : OpinionReaders) (blob : OpinionDocumentBlob) (payload : Bytes) :
    Reading OpinionDocumentExtraction :=
  Proc.service fun holdings =>
    let extraction := extractionRow readers (Table.nextPk holdings.extractions) blob.pk payload
    match extraction.overflows, extraction.violations holdings.extractions with
    | [], [] =>
      .ok ({ holdings with extractions := holdings.extractions ++ [extraction] }, extraction)
    | message :: _, _ => .error (.dataError message)
    | [], constraint :: _ => .error (.integrityError constraint)

/-! ## Procedures over all tables -/

abbrev Syncing := Proc OpinionExn OpinionDb

def onRegistry {α : Type} (x : Proc Sources.Exn Sources.Registry α) : Syncing α :=
  Proc.onPart (·.registry) (fun registry db => { db with registry }) .sources x

def raiseViolations : List String → Syncing Unit
  | [] => pure ()
  | constraint :: _ => throw (.integrityError constraint)

/-- What the columns refuse is raised before a constraint is looked at. -/
def raiseOverflows : List String → Syncing Unit
  | [] => pure ()
  | message :: _ => throw (.dataError message)

theorem wp_raiseOverflows {overflows : List String} {post : Unit → OpinionDb → Prop}
    {raised : OpinionExn → OpinionDb → Prop} {db : OpinionDb} (hpost : overflows = [] → post () db)
    (hraised : ∀ e, raised e db) : (raiseOverflows overflows).wp post raised db := by
  cases overflows with
  | nil => exact hpost rfl
  | cons message rest => exact hraised _

theorem wp_raiseViolations {violations : List String} {post : Unit → OpinionDb → Prop}
    {raised : OpinionExn → OpinionDb → Prop} {db : OpinionDb} (hpost : violations = [] → post () db)
    (hraised : ∀ e, raised e db) : (raiseViolations violations).wp post raised db := by
  cases violations with
  | nil => exact hpost rfl
  | cons constraint rest => exact hraised _

end Dashkoda.LegalWork
