import Dashkoda.LegalWork.OpinionModels
import Dashkoda.Lib.Dict
import Dashkoda.Lib.Json
import Dashkoda.Lib.Runs
import Mathlib.Order.WithBot

/-!
# Collecting the public opinion corpus

A run walks the listings, reads the pages its mode requires, carries everything else forward from
the previous snapshot and publishes the result whole, or not at all.
-/

open Lib

namespace Dashkoda.LegalWork

open Core (FeedState findPublishedArtifact)
open Currency (publish current?)
open Sources (Time)

namespace PublicOpinions

def IMPORTER_NAME : String := "public_opinion_source"
def SCHEMA_VERSION : String := "1.0"

def FAILURE_NOT_FOUND : String := "http_404"
def FAILURE_INVALID_PDF : String := "invalid_pdf"
def FAILURE_UNPARSABLE : String := "unparsable"

def KODA_OPINIONS_MEIE_ARVAMUS_URL : String := "https://www.koda.ee/et/meie-arvamus"
def KODA_OPINIONS_NEWS_URL : String := "https://www.koda.ee/et/uudised"
def KODA_OPINIONS_FROM_YEAR : Nat := 2025
def KODA_OPINIONS_MAX_LISTING_PAGES : Nat := 120
def KODA_OPINIONS_INCREMENTAL_LISTING_PAGES : Nat := 3
def KODA_OPINIONS_INCREMENTAL_OVERLAP_DAYS : Nat := 14

/-- `dt.date(from_year, 1, 1)` -/
def STOP_BEFORE : Date := .of KODA_OPINIONS_FROM_YEAR 1 1

/-! ## The site and its readers -/

structure ListingCard where
  url : String
  title : String
  summary : String
  cardDate : Option Date
  deriving DecidableEq

structure PageAttachment where
  url : String
  label : String
  deriving DecidableEq, Repr

structure PageDetail where
  title : String
  publishedDate : Option Date
  bodyText : String
  attachments : List PageAttachment
  deriving DecidableEq

/-- The address rules, the page parsers and the wording tests of the public source. -/
structure PublicReaders extends OpinionReaders where
  urljoin : String → String → String
  canonicalArticleUrl : String → String
  isArticleUrl : String → Bool
  contentKeyFor : String → String
  parseMeieArvamusListing : String → List ListingCard
  parseNewsListing : String → List ListingCard
  /-- The page and its own address. -/
  parseNewsDetail : String → String → PageDetail
  attachmentFilename : PageAttachment → String
  attachmentFilenameDate : String → Option Date
  /-- Title and body word a position, or the title names an opinion. -/
  hasOpinionVocabulary : String → String → Bool

structure FetchError where
  message : String
  failure : FetchFailure
  deriving DecidableEq, Repr

/-- What the outside world answers during one run. -/
structure Visit where
  html : String → Except FetchError String
  /-- The page a file is read for, and the file. -/
  pdf : String → String → Except FetchError Bytes
  machine : StoreMachine

def EVIDENCE_LISTED_MEIE_ARVAMUS : String := "listed-meie-arvamus"
def EVIDENCE_OPINION_VOCABULARY : String := "opinion-vocabulary"
def EVIDENCE_OPINION_ATTACHMENT : String := "opinion-attachment"

variable (readers : PublicReaders)

def isOpinionAttachment (attachment : PageAttachment) : Bool :=
  let parsed := readers.parseOpinionFilename (readers.attachmentFilename attachment)
  parsed.date.isSome && parsed.subject ≠ ""

def opinionEvidence (listed : Bool) (detail : PageDetail) : List String :=
  (if listed then [EVIDENCE_LISTED_MEIE_ARVAMUS] else []) ++
  (if readers.hasOpinionVocabulary detail.title detail.bodyText then
    [EVIDENCE_OPINION_VOCABULARY] else []) ++
  (if detail.attachments.any (isOpinionAttachment readers) then
    [EVIDENCE_OPINION_ATTACHMENT] else [])

/-! ## The report and the drafts -/

structure PublicOpinionReport where
  result : Core.FeedResult
  detail : String
  dryRun : Bool
  full : Bool
  snapshotId : Option Nat
  listingPagesFetched : Nat
  detailPagesFetched : Nat
  documentsFetched : Nat
  pageCount : Nat
  documentCount : Nat
  articleOnlyPageCount : Nat
  newPages : Nat
  carriedPages : Nat
  failedPages : Nat
  newBlobs : Nat
  knownBlobs : Nat
  invalidDocuments : Nat
  reusedExtractions : Nat
  newExtractions : Nat
  deriving DecidableEq, Repr

def PublicOpinionReport.initial (result : Core.FeedResult) (detail : String) (dryRun full : Bool) :
    PublicOpinionReport :=
  ⟨result, detail, dryRun, full, none, 0, 0, 0, 0, 0, 0, 0, 0, 0, 0, 0, 0, 0, 0⟩

structure PageDraft extends PageFields where
  documents : List DocumentFields
  deriving DecidableEq

/-- A page of the previous snapshot with its attachments. -/
structure KnownPage where
  page : PublicOpinionPage
  documents : List PublicOpinionDocument
  deriving DecidableEq

/-- What a row says, without its keys. -/
def KnownPage.restated (known : KnownPage) : PageDraft :=
  { known.page.toPageFields with documents := known.documents.map (·.toDocumentFields) }

structure CollectState where
  holdings : Holdings
  report : PublicOpinionReport

abbrev Collecting := Proc OpinionExn CollectState

def count (f : PublicOpinionReport → PublicOpinionReport) : Collecting Unit :=
  modify fun s => { s with report := f s.report }

def reading {α : Type} (x : Reading α) : Collecting α :=
  Proc.onPart (·.holdings) (fun holdings s => { s with holdings }) id x

/-! ## Carry-forward -/

/-- Newest publication first, pages without a date before them. -/
def pageOrder (page : PublicOpinionPage) : Lex ((WithTop Date)ᵒᵈ × Natᵒᵈ) :=
  toLex (OrderDual.toDual (page.publishedDate : WithTop Date), OrderDual.toDual page.pk)

def pagesOf (db : OpinionDb) (snapshot : Nat) : List KnownPage :=
  (sortOn pageOrder (db.publicPages.filter (·.snapshot = snapshot))).map fun page =>
    ⟨page, sortOn (·.sourceOrder) (db.publicDocuments.filter (·.page = page.pk))⟩

def loadPrevious (db : OpinionDb) : Option PublicOpinionSnapshot → Dict String KnownPage
  | none => Dict.empty
  | some previous => Dict.ofList ((pagesOf db previous.pk).map fun known =>
      (known.page.contentKey, known))

/-- The day number from which pages are read again on an incremental run. -/
def refreshBoundary (knownPages : Dict String KnownPage) : Except OpinionExn (Option Nat) :=
  match (knownPages.values.filterMap (·.page.publishedDate)).map Date.toOrdinal with
  | [] => .ok none
  | day :: days =>
    let newest := days.foldl max day
    if newest ≤ KODA_OPINIONS_INCREMENTAL_OVERLAP_DAYS then
      .error (.overflowError "date value out of range")
    else .ok (some (newest - KODA_OPINIONS_INCREMENTAL_OVERLAP_DAYS))

def carryDocument (document : DocumentFields) : DocumentFields :=
  { document with fetchState := .carried }

def carryPage (known : PageDraft) : PageDraft :=
  { known with fetchState := .carried, documents := known.documents.map carryDocument }

/-! ## Discovery -/

def liftExcept {α : Type} : Except OpinionExn α → Collecting α
  | .ok a => pure a
  | .error e => throw e

def collectionError (error : FetchError) : OpinionExn :=
  .publicOpinionCollectionError error.message (some error.failure)

def fetchHtml (visit : Visit) (url : String) : Collecting String :=
  liftExcept ((visit.html url).mapError collectionError)

def listingPage (url : String) (pageNumber : Nat) : String :=
  if pageNumber = 0 then url else url ++ "?page=" ++ toString pageNumber

/-- A set keeps one of each. -/
def addUrls (listing : String) (urls : List String) (cards : List ListingCard) : List String :=
  (urls ++ (cards.map fun card =>
    readers.canonicalArticleUrl (readers.urljoin listing card.url)).filter
      readers.isArticleUrl).dedup

/-- The loop over the `Meie arvamus` pages, with the pages it may still read. -/
def walkMeieArvamus (visit : Visit) (full : Bool) :
    Nat → Nat → List String → Collecting (List String)
  | 0, _, urls =>
    if full then
      throw (.publicOpinionCollectionError
        "Meie arvamus loend ei lõppenud lubatud lehtede piires." none)
    else pure urls
  | left + 1, pageNumber, urls => do
    let html ← fetchHtml visit (listingPage KODA_OPINIONS_MEIE_ARVAMUS_URL pageNumber)
    let cards := readers.parseMeieArvamusListing html
    count fun report => { report with listingPagesFetched := report.listingPagesFetched + 1 }
    if cards = [] then pure urls
    else
      let urls := addUrls readers KODA_OPINIONS_MEIE_ARVAMUS_URL urls cards
      walkMeieArvamus visit full left (pageNumber + 1) urls

def newsCards (cards : List ListingCard) : List ListingCard :=
  (cards.map fun card => { card with
    url := readers.canonicalArticleUrl (readers.urljoin KODA_OPINIONS_NEWS_URL card.url) }).filter
      fun card => readers.isArticleUrl card.url

/-- Every dated card of the page is older than the edge, and there is one. -/
def pastEdge (edge : Nat) (cards : List ListingCard) : Bool :=
  let dated := cards.filterMap (·.cardDate)
  dated ≠ [] && dated.all fun date => date.toOrdinal < edge

def walkNews (visit : Visit) (full : Bool) (edge : Nat) :
    Nat → Nat → List ListingCard → Collecting (List ListingCard)
  | 0, _, found =>
    if full then
      throw (.publicOpinionCollectionError
        "Uudiste loend ei jõudnud ajaloolise piirini lubatud lehtede sees." none)
    else pure found
  | left + 1, pageNumber, found => do
    let html ← fetchHtml visit (listingPage KODA_OPINIONS_NEWS_URL pageNumber)
    let cards := readers.parseNewsListing html
    count fun report => { report with listingPagesFetched := report.listingPagesFetched + 1 }
    if cards = [] then pure found
    else if pastEdge edge cards then pure (found ++ newsCards readers cards)
    else walkNews visit full edge left (pageNumber + 1) (found ++ newsCards readers cards)

def walkListings (visit : Visit) (knownPages : Dict String KnownPage) (full : Bool) :
    Collecting (List String × List ListingCard) := do
  let maxPages := if full then KODA_OPINIONS_MAX_LISTING_PAGES
    else KODA_OPINIONS_INCREMENTAL_LISTING_PAGES
  let urls ← walkMeieArvamus readers visit full maxPages 0 []
  let boundary ← liftExcept (refreshBoundary knownPages)
  let stopBefore := STOP_BEFORE.toOrdinal
  let edge := if full then stopBefore else boundary.getD stopBefore
  let cards ← walkNews readers visit full edge KODA_OPINIONS_MAX_LISTING_PAGES 0 []
  return (urls, cards)

structure Found where
  summary : String
  listed : Bool
  deriving DecidableEq, Repr

def addCard (candidates : Dict String Found) (card : ListingCard) : Dict String Found :=
  let url := readers.canonicalArticleUrl card.url
  let candidates := candidates.setDefault url ⟨"", false⟩
  match candidates.get? url with
  | none => candidates
  | some entry =>
    if card.summary ≠ "" ∧ entry.summary = "" then
      candidates.set url { entry with summary := card.summary }
    else candidates

/-- The addresses the listings name, and on a full walk every known page they no longer do. -/
def candidatesOf (knownPages : Dict String KnownPage) (full : Bool) (urls : List String)
    (cards : List ListingCard) : Dict String Found :=
  let listed := urls.foldl (fun found url => found.setDefault url ⟨"", true⟩) Dict.empty
  let candidates := cards.foldl (addCard readers) listed
  let listedKeys := candidates.keys.map readers.contentKeyFor
  if full then
    (knownPages.values.filter fun known => known.page.contentKey ∉ listedKeys).foldl
      (fun found known =>
        found.setDefault known.page.canonicalUrl ⟨known.page.listingSummary, false⟩) candidates
  else candidates

/-! ## One attachment -/

/-- `_failure_code` -/
def failureCode (error : FetchError) : String :=
  if error.failure = .notFound then FAILURE_NOT_FOUND else error.failure.value

/-- The same bytes are read once for each extractor version. -/
def ensureExtraction (blob : OpinionDocumentBlob) (payload : Bytes) :
    Collecting OpinionDocumentExtraction := do
  let s ← get
  match s.holdings.extractions.find? fun extraction =>
      extraction.blob = blob.pk && extraction.extractorVersion = EXTRACTOR_VERSION with
  | some existing =>
    count fun report => { report with reusedExtractions := report.reusedExtractions + 1 }
    pure existing
  | none =>
    count fun report => { report with newExtractions := report.newExtractions + 1 }
    reading (createExtraction readers.toOpinionReaders blob payload)

/-- The blob of these bytes, stored now if nobody had them. -/
def ensureBlob (visit : Visit) (payload : Bytes) (digest : String)
    (known : Option OpinionDocumentBlob) (validation : ValidationResult) :
    Collecting OpinionDocumentBlob :=
  match known with
  | some blob => do
    count fun report => { report with knownBlobs := report.knownBlobs + 1 }
    pure blob
  | none => do
    reading (onFiles visit.machine.ensureDirectories)
    let storageKey ← reading (keepBytes visit.machine payload digest validation)
    let blob ← reading (createBlob digest storageKey validation)
    count fun report => { report with newBlobs := report.newBlobs + 1 }
    pure blob

def classified (draft : DocumentFields) (subject firstPage : String) : DocumentFields :=
  let answer := readers.classifyDocument subject firstPage
  { draft with classification := answer.1, classificationSignals := answer.2 }

def countInvalid : Collecting Unit :=
  count fun report => { report with invalidDocuments := report.invalidDocuments + 1 }

def countPreview (blob : Option OpinionDocumentBlob) (validation : ValidationResult) :
    Collecting Unit :=
  if !validation.isValid then countInvalid
  else if blob.isSome then count fun report => { report with knownBlobs := report.knownBlobs + 1 }
  else count fun report => { report with newBlobs := report.newBlobs + 1 }

/-- A file that came through, in a run that stores nothing. -/
def previewDocument (draft : DocumentFields) (subject : String) (blob : Option OpinionDocumentBlob)
    (validation : ValidationResult) : Collecting DocumentFields := do
  countPreview blob validation
  return classified readers { draft with
    fetchState := .fetched
    failureCode := if validation.isValid then "" else FAILURE_INVALID_PDF } subject ""

def fetchDocument (visit : Visit) (pageUrl : String) (draft : DocumentFields) (subject : String)
    (dryRun : Bool) : Collecting DocumentFields :=
  match visit.pdf pageUrl draft.pdfUrl with
  | .error error => do
    countInvalid
    return classified readers { draft with
      fetchState := .failed, failureCode := failureCode error } subject ""
  | .ok payload => do
    count fun report => { report with documentsFetched := report.documentsFetched + 1 }
    let digest := readers.digestBytes payload
    let s ← get
    let known := s.holdings.blobs.find? (·.sha256 = digest)
    let validation := readers.validatePdf payload
    if dryRun then previewDocument readers draft subject known validation
    else
      let blob ← ensureBlob visit payload digest known validation
      let draft := { draft with blob := some blob.pk, fetchState := .fetched }
      if !blob.isValid then
        countInvalid
        return classified readers { draft with failureCode := FAILURE_INVALID_PDF } subject ""
      else
        let extraction ← ensureExtraction readers blob payload
        return classified readers { draft with extraction := some extraction.pk } subject
          extraction.firstPageText

/-- Resolve one attachment; a known address whose bytes are kept is not fetched again. -/
def readDocument (visit : Visit) (pageUrl : String) (known : Option DocumentFields) (now : Time)
    (dryRun : Bool) (attachment : PageAttachment) (order : Nat) : Collecting DocumentFields :=
  let name := readers.attachmentFilename attachment
  let parsed := readers.parseOpinionFilename name
  let draft : DocumentFields :=
    { pdfUrl := attachment.url
      attachmentLabel := PyText.take 400 attachment.label
      displayFilename := PyText.take 400 parsed.display
      filenameDate := parsed.date.or (readers.attachmentFilenameDate name)
      filenameRecipient := PyText.take 200 parsed.recipient
      filenameSubject := PyText.take 500 parsed.subject
      classification := .unknown
      classificationSignals := []
      blob := none
      extraction := none
      fetchState := .carried
      failureCode := ""
      firstSeenAt := (known.map (·.firstSeenAt)).getD now
      isPresent := true
      sourceOrder := order
      warningCodes := sortOn id parsed.warnings }
  match known with
  | some document =>
    if document.blob.isSome then do
      count fun report => { report with knownBlobs := report.knownBlobs + 1 }
      return { carryDocument document with sourceOrder := order, isPresent := true }
    else fetchDocument readers visit pageUrl draft parsed.subject dryRun
  | none => fetchDocument readers visit pageUrl draft parsed.subject dryRun

/-! ## One page -/

/-- A known page that could not be read. -/
def failedPage (known : PageDraft) (code : String) : PageDraft :=
  { carryPage known with
    fetchState := .failed
    failureCode := code
    -- a 404 is an answer: the page is gone
    isPresent := if code = FAILURE_NOT_FOUND then false else known.isPresent }

def countFailed : Collecting Unit :=
  count fun report => { report with failedPages := report.failedPages + 1 }

def readFields (url key : String) (known : Option PageDraft) (found : Found) (detail : PageDetail)
    (evidence : List String) (now : Time) : PageFields where
  contentKey := key
  canonicalUrl := url
  pageType :=
    if found.listed || known.any (·.pageType = .meieArvamus) then .meieArvamus else .news
  title := detail.title
  listingSummary := if found.summary ≠ "" then found.summary
    else (known.map (·.listingSummary)).getD ""
  bodyText := detail.bodyText
  publishedDate := detail.publishedDate.or (known.bind (·.publishedDate))
  opinionEvidenceCodes := evidence
  fetchState := .fetched
  failureCode := ""
  contentHash := readers.digestText detail.bodyText
  firstSeenAt := (known.map (·.firstSeenAt)).getD now
  lastFetchedAt := some now
  isPresent := true

/-- The attachments of a page just read, and after them those that vanished from it. -/
def readDocuments (visit : Visit) (url : String) (known : Option PageDraft) (detail : PageDetail)
    (now : Time) (dryRun : Bool) : Collecting (List DocumentFields) := do
  let knownDocuments : Dict String DocumentFields :=
    Dict.ofList ((known.map (·.documents)).getD [] |>.map fun document =>
      (document.pdfUrl, document))
  let read ← detail.attachments.zipIdx.mapM fun item =>
    readDocument readers visit url (knownDocuments.get? item.1.url) now dryRun item.1 item.2
  let seenUrls := detail.attachments.map (·.url)
  let vanished := knownDocuments.values.filter fun document => document.pdfUrl ∉ seenUrls
  return read ++ vanished.map fun document => { carryDocument document with isPresent := false }

/-- Fetch and normalise one article; `none` is a page that is not part of this corpus. -/
def readPage (visit : Visit) (url key : String) (known : Option PageDraft) (found : Found)
    (now : Time) (dryRun : Bool) : Collecting (Option PageDraft) :=
  match visit.html url with
  | .error error =>
    match known with
    | none => throw (collectionError error)
    | some page => do
      countFailed
      return some (failedPage page (failureCode error))
  | .ok html => do
    count fun report => { report with detailPagesFetched := report.detailPagesFetched + 1 }
    let detail := readers.parseNewsDetail html url
    if detail.title = "" ∨ detail.bodyText = "" then
      match known with
      | none => throw (.publicOpinionCollectionError
          ("Artikli leht ei ole loetav: " ++ PyText.take 12 key ++ ".") none)
      | some page =>
        countFailed
        return some (failedPage page FAILURE_UNPARSABLE)
    else
      let evidence := opinionEvidence readers found.listed detail
      let evidence := match known with
        | none => evidence
        | some page => sortOn id (page.opinionEvidenceCodes ++ evidence).dedup
      if known.isNone && (detail.publishedDate.any fun date => date.year < KODA_OPINIONS_FROM_YEAR)
      then return none
      else if known.isNone && evidence = [] then return none
      else
        let documents ← readDocuments readers visit url known detail now dryRun
        return some { readFields readers url key known found detail evidence now with documents }

/-! ## One run's corpus -/

/-- Unknown pages, and of the known ones those the mode reads again. -/
def mustFetch (full : Bool) (boundary : Option Nat) : Option KnownPage → Bool
  | none => true
  | some known => full || known.page.publishedDate.isNone ||
      boundary.any fun day => known.page.publishedDate.any fun date => day ≤ date.toOrdinal

def readCandidate (visit : Visit) (knownPages : Dict String KnownPage) (full : Bool)
    (boundary : Option Nat) (now : Time) (dryRun : Bool) (drafts : Dict String PageDraft)
    (candidate : String × Found) : Collecting (Dict String PageDraft) :=
  let key := readers.contentKeyFor candidate.1
  let known := knownPages.get? key
  if mustFetch full boundary known then do
    let draft ← readPage readers visit candidate.1 key
      (known.map (·.restated)) candidate.2 now dryRun
    match draft with
    | none => pure drafts
    | some draft => pure (drafts.set key draft)
  else pure drafts

/-- Everything known and not read in this run is carried forward untouched. -/
def carryUnread (drafts : Dict String PageDraft) (known : String × KnownPage) :
    Collecting (Dict String PageDraft) :=
  if known.1 ∈ drafts.keys then pure drafts
  else do
    count fun report => { report with carriedPages := report.carriedPages + 1 }
    return drafts.set known.1 (carryPage known.2.restated)

/-- `dt.date.min` -/
def DATE_MIN : Date := .of 1 1 1

def draftOrder (draft : PageDraft) : Lex (Dateᵒᵈ × Stringᵒᵈ) :=
  toLex (OrderDual.toDual (draft.publishedDate.getD DATE_MIN), OrderDual.toDual draft.contentKey)

/-- Walk the listings, read what the mode requires, carry the rest forward. -/
def collect (visit : Visit) (knownPages : Dict String KnownPage) (full dryRun : Bool) (now : Time) :
    Collecting (List PageDraft) := do
  let listings ← walkListings readers visit knownPages full
  let candidates := candidatesOf readers knownPages full listings.1 listings.2
  let boundary ← liftExcept (refreshBoundary knownPages)
  let read ← candidates.entries.foldlM
    (readCandidate readers visit knownPages full boundary now dryRun) Dict.empty
  let drafts ← knownPages.entries.foldlM carryUnread read
  return sortOn draftOrder drafts.values

/-! ## What the corpus says -/

def documentJson (blobs : List OpinionDocumentBlob) (document : DocumentFields) : Json :=
  .obj [("url", .str document.pdfUrl),
    ("sha256", .str (((document.blob.bind (Table.get? blobs)).map (·.sha256)).getD "")),
    ("present", .bool document.isPresent)]

/-- No fetch state: whether a fact was read again or carried is run bookkeeping. -/
def pageJson (blobs : List OpinionDocumentBlob) (draft : PageDraft) : Json :=
  .obj [("key", .str draft.contentKey),
    ("url", .str draft.canonicalUrl),
    ("type", .str draft.pageType.value),
    ("title", .str draft.title),
    ("published", Json.ofOption (fun date => .str date.isoformat) draft.publishedDate),
    ("content_hash", .str draft.contentHash),
    ("evidence", .arr ((sortOn id draft.opinionEvidenceCodes).map .str)),
    ("present", .bool draft.isPresent),
    ("documents", .arr ((sortOn (·.pdfUrl) draft.documents).map (documentJson blobs)))]

def corpusJson (blobs : List OpinionDocumentBlob) (drafts : List PageDraft) : Json :=
  .obj [("dataset", .str "koda-public-opinions"),
    ("schema_version", .str SCHEMA_VERSION),
    ("pages", .arr ((sortOn (·.contentKey) drafts).map (pageJson blobs)))]

/-- `canonical_checksum`: the digest and the length of the canonical form. -/
def canonicalChecksum (payload : Json) : Core.ContentIdentity :=
  let encoded := payload.chars.flatMap String.utf8EncodeChar
  ⟨readers.digestBytes encoded, encoded.length⟩

def corpusChecksum (blobs : List OpinionDocumentBlob) (drafts : List PageDraft) :
    Core.ContentIdentity := canonicalChecksum readers (corpusJson blobs drafts)

/-- `_summarise` -/
def summarise (report : PublicOpinionReport) (drafts : List PageDraft) : PublicOpinionReport :=
  { report with
    pageCount := drafts.length
    documentCount := (drafts.map (·.documents.length)).sum
    articleOnlyPageCount := drafts.countP (·.documents = [])
    newPages := drafts.countP fun draft =>
      draft.fetchState = .fetched && draft.lastFetchedAt = some draft.firstSeenAt }

/-! ## Publication -/

def MAX_CANONICAL_URL_LENGTH : Nat := 500
def MAX_TOPIC_TITLE_LENGTH : Nat := 500
def MAX_ATTACHMENT_LABEL_LENGTH : Nat := 400
def MAX_FILENAME_LENGTH : Nat := 400
def MAX_RECIPIENT_LENGTH : Nat := 200
def MAX_SUBJECT_LENGTH : Nat := 500

def pageOverflows (draft : PageDraft) : List String :=
  varcharOverflows 64 draft.contentKey ++
  varcharOverflows MAX_CANONICAL_URL_LENGTH draft.canonicalUrl ++
  varcharOverflows MAX_TOPIC_TITLE_LENGTH draft.title ++
  textOverflows draft.listingSummary ++ textOverflows draft.bodyText ++
  jsonOverflows draft.opinionEvidenceCodes ++ varcharOverflows 32 draft.failureCode ++
  varcharOverflows 64 draft.contentHash

def documentOverflows (document : DocumentFields) : List String :=
  varcharOverflows MAX_CANONICAL_URL_LENGTH document.pdfUrl ++
  varcharOverflows MAX_ATTACHMENT_LABEL_LENGTH document.attachmentLabel ++
  varcharOverflows MAX_FILENAME_LENGTH document.displayFilename ++
  varcharOverflows MAX_RECIPIENT_LENGTH document.filenameRecipient ++
  varcharOverflows MAX_SUBJECT_LENGTH document.filenameSubject ++
  jsonOverflows document.classificationSignals ++ varcharOverflows 32 document.failureCode ++
  jsonOverflows document.warningCodes

/-- The values of the corpus that the columns of its tables refuse. -/
def corpusOverflows (drafts : List PageDraft) : List String :=
  drafts.flatMap fun draft => pageOverflows draft ++ draft.documents.flatMap documentOverflows

def pageViolations (draft : PageDraft) : List String :=
  (if draft.canonicalUrl = "" then ["publicopinionpage_url_required"] else []) ++
  (if draft.title = "" then ["publicopinionpage_title_required"] else []) ++
  (if draft.fetchState = .fetched && draft.bodyText = "" then ["publicopinionpage_fetched_has_body"]
    else [])

def documentViolations (document : DocumentFields) : List String :=
  (if document.pdfUrl = "" then ["publicopiniondoc_url_required"] else []) ++
  (if document.extraction.isSome && document.blob.isNone then
    ["publicopiniondoc_extraction_requires_blob"] else [])

def corpusViolations (drafts : List PageDraft) : List String :=
  let documents := drafts.flatMap (·.documents)
  (if (drafts.map (·.contentKey)).Nodup then [] else
    ["publicopinionpage_unique_key_per_snapshot"]) ++
  (if (drafts.map (·.canonicalUrl)).Nodup then [] else
    ["publicopinionpage_unique_url_per_snapshot"]) ++
  drafts.flatMap pageViolations ++
  (if (documents.map (·.pdfUrl)).Nodup then [] else ["publicopiniondoc_unique_url_per_snapshot"]) ++
  documents.flatMap documentViolations

def pageRow (pk snapshot : Nat) (draft : PageDraft) : PublicOpinionPage :=
  { draft.toPageFields with
    opinionEvidenceCodes := sortOn id draft.opinionEvidenceCodes, pk, snapshot }

def documentRow (pk snapshot page : Nat) (document : DocumentFields) : PublicOpinionDocument :=
  { document with pk, snapshot, page }

/-- The rows of one snapshot: pages and documents numbered on from the tables. -/
def pageRows (db : OpinionDb) (snapshot : Nat) (drafts : List PageDraft) : List PublicOpinionPage :=
  drafts.mapIdx fun i draft => pageRow (Table.nextPk db.publicPages + i) snapshot draft

def documentRows (db : OpinionDb) (snapshot : Nat) (drafts : List PageDraft) :
    List PublicOpinionDocument :=
  (Table.tagged (Table.nextPk db.publicPages) (drafts.map (·.documents))).mapIdx fun j item =>
    documentRow (Table.nextPk db.publicDocuments + j) snapshot item.1 item.2

/-- The transaction that writes one corpus and makes it the current one. -/
def writeCorpus (source : Nat) (artifact : Sources.SourceArtifact) (run : Sources.ImportRun)
    (drafts : List PageDraft) (checksum : String) (report : PublicOpinionReport) (full : Bool) :
    Syncing PublicOpinionSnapshot := do
  let db ← get
  let snapshot : PublicOpinionSnapshot :=
    { pk := Table.nextPk db.publicSnapshots
      source
      artifact := artifact.pk
      importRun := run.pk
      observedAt := db.clock
      corpusChecksum := checksum
      pageCount := report.pageCount
      documentCount := report.documentCount
      articleOnlyPageCount := report.articleOnlyPageCount
      listingPagesFetched := report.listingPagesFetched
      detailPagesFetched := report.detailPagesFetched
      documentsFetched := report.documentsFetched
      newBlobCount := report.newBlobs
      knownBlobCount := report.knownBlobs
      invalidDocumentCount := report.invalidDocuments
      failedPageCount := report.failedPages
      isCurrent := false }
  raiseOverflows (corpusOverflows drafts)
  raiseViolations (corpusViolations drafts)
  modify fun db => { db with
    publicSnapshots := publish (·.source = source) snapshot db.publicSnapshots
    publicPages := db.publicPages ++ pageRows db snapshot.pk drafts
    publicDocuments := db.publicDocuments ++ documentRows db snapshot.pk drafts }
  onRegistry (Core.completeRun run db.clock ⟨report.pageCount, 0, 0, []⟩)
  modify fun db => { db with publicState := { db.publicState with
    backfillComplete := db.publicState.backfillComplete || full } }
  return snapshot

/-- `_publish` -/
def publishCorpus (source : Nat) (drafts : List PageDraft) (identity : Core.ContentIdentity)
    (report : PublicOpinionReport) (full : Bool) : Syncing PublicOpinionSnapshot := do
  let db ← get
  let existing := (findPublishedArtifact db.registry source identity.sha256 IMPORTER_NAME).1
  let opened ← onRegistry (Core.startRun readers.digestText source identity existing IMPORTER_NAME
    SCHEMA_VERSION false db.clock)
  let snapshot ← Proc.onError
    (Proc.atomically (writeCorpus source opened.1 opened.2 drafts identity.sha256 report full))
    fun _ => onRegistry (Core.failPublication opened.2 db.clock [[("type", "publication_failed")]])
  modify fun db => { db with publicState := { db.publicState with
    toFeedState := db.publicState.toFeedState.markImported db.clock snapshot.pk } }
  return snapshot

/-! ## The whole run -/

/-- `_fail` -/
def failRun (error : OpinionExn) (dryRun full : Bool) : Syncing PublicOpinionReport := do
  modify fun db => { db with publicState := { db.publicState with
    toFeedState := db.publicState.toFeedState.failFeed error.describe } }
  return .initial .failed error.describe dryRun full

/-- The exceptions of a collection that end the run as failed; others escape it. -/
def endsCollection : OpinionExn → Bool
  | .publicOpinionCollectionError _ _ => true
  | .storage .osError => true
  | _ => false

def currentCorpus? (db : OpinionDb) (source : Nat) : Option PublicOpinionSnapshot :=
  current? (db.publicSnapshots.filter (·.source = source))

/-- The collection inside a run, which writes to the holdings only. -/
def collectCorpus (visit : Visit) (previous : Option PublicOpinionSnapshot) (full dryRun : Bool) :
    Syncing (List PageDraft × PublicOpinionReport) := do
  let db ← get
  Proc.onPart
    (fun db => (⟨db.holdings, .initial .unchanged "" dryRun full⟩ : CollectState))
    (fun s db => { db with holdings := s.holdings }) id do
      let drafts ← collect readers visit (loadPrevious db previous) full dryRun db.clock
      let s ← get
      return (drafts, summarise s.report drafts)

/-- What a run does with the corpus it collected. -/
def finishRun (source : Nat) (previous : Option PublicOpinionSnapshot) (drafts : List PageDraft)
    (report : PublicOpinionReport) (dryRun full : Bool) : Syncing PublicOpinionReport := do
  let db ← get
  let identity := corpusChecksum readers db.holdings.blobs drafts
  match previous.filter (·.corpusChecksum = identity.sha256) with
  | some same =>
    if !dryRun then
      modify fun db => { db with publicState := { db.publicState with
        toFeedState := db.publicState.toFeedState.markUnchanged db.clock } }
    return { report with
      snapshotId := some same.pk
      detail := "Avalik arvamuskorpus on muutumatu." }
  | none =>
    if dryRun then
      return { report with
        result := .imported
        detail := "Proovikäivitus: " ++ toString report.pageCount ++ " lehte, " ++
          toString report.documentCount ++ " dokumenti. Midagi ei avaldatud ega salvestatud." }
    else
      let outcome ← tryCatch
        (Except.ok <$> publishCorpus readers source drafts identity report full)
        fun error => pure (.error error)
      match outcome with
      | .error error => failRun error dryRun full
      | .ok snapshot =>
        return { report with
          result := .imported
          snapshotId := some snapshot.pk
          detail := "Avalik arvamuskorpus avaldatud: " ++ toString report.pageCount ++ " lehte, " ++
            toString report.documentCount ++ " dokumenti." }

def synchronizePublicOpinions (source : Nat) (visit : Visit) (dryRun full : Bool) :
    Syncing PublicOpinionReport := do
  modify fun db => { db with publicState := { db.publicState with
    toFeedState := db.publicState.toFeedState.touchChecked db.clock } }
  let db ← get
  let previous := currentCorpus? db source
  if !full && !db.publicState.backfillComplete then
    return .initial .failed "Ajalooline kogumine ei ole veel tehtud. Käivita kõigepealt --full."
      dryRun full
  else
    let collected ← tryCatch
      (Except.ok <$> collectCorpus readers visit previous full dryRun)
      fun error => if endsCollection error then pure (.error error) else throw error
    match collected with
    | .error error => failRun error dryRun full
    | .ok corpus => finishRun readers source previous corpus.1 corpus.2 dryRun full

inductive PublicAction where
  | wait (elapsed : Time)
  | synchronize (visit : Visit) (dryRun full : Bool)

def publicStep (source : Nat) (db : OpinionDb) : PublicAction → OpinionDb
  | .wait elapsed => { db with clock := db.clock + elapsed }
  | .synchronize visit dryRun full =>
    (synchronizePublicOpinions readers source visit dryRun full db).2

/-- The pages of the current snapshot as they stand in its rows. -/
def corpus (db : OpinionDb) (source : Nat) : List PageDraft :=
  match currentCorpus? db source with
  | none => []
  | some snapshot => (pagesOf db snapshot.pk).map (·.restated)

end PublicOpinions

end Dashkoda.LegalWork
