import Dashkoda.LegalWork.OpinionModels
import Dashkoda.Lib.PyText

/-!
# Validating and reading opinion documents

What the application makes of the answers of the PDF library.
-/

open Lib

namespace Dashkoda.LegalWork

def LEGAL_OPINION_MAX_PDF_BYTES : Nat := 32 * 1024 * 1024
def LEGAL_OPINION_MAX_PAGES : Nat := 400
def LEGAL_OPINION_TEXT_MAX_LENGTH : Nat := 40000
def LEGAL_OPINION_FIRST_PAGE_MAX_LENGTH : Nat := 8000
def LEGAL_OPINION_MIN_CHARS_PER_PAGE : Nat := 120

def WARN_NO_TEXT : String := "extraction_no_text"
def WARN_SPARSE_TEXT : String := "extraction_sparse_text"
def WARN_REPLACEMENT_HEAVY : String := "extraction_replacement_characters"
def WARN_TRUNCATED : String := "extraction_text_truncated"

/-- `%PDF-1.` and `%PDF-2.` -/
def PDF_SIGNATURES : List Bytes :=
  [[0x25, 0x50, 0x44, 0x46, 0x2d, 0x31, 0x2e], [0x25, 0x50, 0x44, 0x46, 0x2d, 0x32, 0x2e]]

/-- An opened document, as the library answers for it. -/
structure PdfReader where
  isEncrypted : Bool
  /-- `len(reader.pages)`, unless counting them raises. -/
  pageCount : Option Nat
  /-- The text of each page, empty where a page cannot be read. -/
  pageTexts : List String
  /-- `_inspect_active_content` -/
  activeContent : Bool × List String

/-- The library, with the layout clean-up of the text it extracts. -/
structure PdfLibrary where
  /-- `PdfReader(...)`, unless it raises. -/
  openReader : Bytes → Option PdfReader
  normaliseDocumentText : String → String

variable (library : PdfLibrary)

def quarantined (status : ValidationStatus) (size : Nat) : ValidationResult :=
  ⟨status, size, 0, false, false, []⟩

/-- The part of `validate_pdf` after the document was opened. -/
def validateReader (size : Nat) (reader : PdfReader) : ValidationResult :=
  if reader.isEncrypted then { quarantined .quarantinedEncrypted size with isEncrypted := true }
  else
    match reader.pageCount with
    | none => quarantined .quarantinedInvalid size
    | some pageCount =>
      if pageCount = 0 then quarantined .quarantinedInvalid size
      else if LEGAL_OPINION_MAX_PAGES < pageCount then
        { quarantined .quarantinedTooManyPages size with pageCount }
      else if reader.activeContent.1 then
        { quarantined .quarantinedActiveContent size with
          pageCount, hasActiveContent := true, warnings := reader.activeContent.2 }
      else { quarantined .valid size with pageCount, warnings := reader.activeContent.2 }

def validatePdf (payload : Bytes) : ValidationResult :=
  let size := payload.length
  if LEGAL_OPINION_MAX_PDF_BYTES < size then quarantined .quarantinedTooLarge size
  else if !(PDF_SIGNATURES.any fun signature => signature.isPrefixOf payload) then
    quarantined .quarantinedInvalid size
  else
    match library.openReader payload with
    | none => quarantined .quarantinedInvalid size
    | some reader => validateReader size reader

def needsOcr (pageCount : Nat) (warning : String) : ExtractionResult :=
  ⟨.needsOcr, "", "", pageCount, [warning]⟩

/-- More than one character in fifty came out as the replacement character. -/
def replacementHeavy (whole : String) : Bool :=
  max whole.length 1 < 50 * whole.toList.count '\ufffd'

/-- Read a validated document's text.  Never OCR. -/
def extractText (payload : Bytes) : ExtractionResult :=
  match (library.openReader payload).bind fun reader => reader.pageCount.map (reader, ·) with
  | none => ⟨.failed, "", "", 0, []⟩
  | some (reader, pageCount) =>
    let firstPage := (reader.pageTexts.head?.map library.normaliseDocumentText).getD ""
    let whole := library.normaliseDocumentText ("\n".intercalate reader.pageTexts)
    if PyText.strip whole = "" then needsOcr pageCount WARN_NO_TEXT
    else if replacementHeavy whole then needsOcr pageCount WARN_REPLACEMENT_HEAVY
    else if whole.length < LEGAL_OPINION_MIN_CHARS_PER_PAGE * max pageCount 1 then
      needsOcr pageCount WARN_SPARSE_TEXT
    else
      { status := .extracted
        text := PyText.take LEGAL_OPINION_TEXT_MAX_LENGTH whole
        firstPageText := PyText.take LEGAL_OPINION_FIRST_PAGE_MAX_LENGTH firstPage
        pageCount
        warnings := if LEGAL_OPINION_TEXT_MAX_LENGTH < whole.length then [WARN_TRUNCATED] else [] }

/-! ## What a validation says -/

/-- A validation states the size it saw, and a document that passed has pages and nothing active. -/
structure ValidationOf (size : Nat) (result : ValidationResult) : Prop where
  byteSize : result.byteSize = size
  pages : result.isValid = true → 0 < result.pageCount ∧ result.pageCount ≤ LEGAL_OPINION_MAX_PAGES
  inactive : result.isValid = true → result.hasActiveContent = false

variable {library} {size : Nat} {payload : Bytes}

theorem validationOf_quarantined {status : ValidationStatus} (h : status ≠ .valid) :
    ValidationOf size (quarantined status size) := by
  have hinvalid : (quarantined status size).isValid ≠ true := by
    unfold ValidationResult.isValid quarantined
    rw [ne_eq, decide_eq_true_iff]
    exact h
  exact ⟨rfl, fun hvalid => absurd hvalid hinvalid, fun hvalid => absurd hvalid hinvalid⟩

theorem validationOf_validateReader (reader : PdfReader) :
    ValidationOf size (validateReader size reader) := by
  unfold validateReader
  split
  · exact ⟨rfl, fun h => (by cases h), fun h => (by cases h)⟩
  · split
    · exact validationOf_quarantined (by decide)
    · rename_i pageCount _
      by_cases hzero : pageCount = 0
      · rw [if_pos hzero]
        exact validationOf_quarantined (by decide)
      · rw [if_neg hzero]
        split
        · exact ⟨rfl, fun h => (by cases h), fun h => (by cases h)⟩
        · rename_i hmany
          split
          · exact ⟨rfl, fun h => (by cases h), fun h => (by cases h)⟩
          · exact ⟨rfl, fun _ => ⟨Nat.pos_of_ne_zero hzero, Nat.le_of_not_lt hmany⟩, fun _ => rfl⟩

theorem validationOf_validatePdf (payload : Bytes) :
    ValidationOf payload.length (validatePdf library payload) := by
  unfold validatePdf
  dsimp only
  split
  · exact validationOf_quarantined (by decide)
  · split
    · exact validationOf_quarantined (by decide)
    · split
      · exact validationOf_quarantined (by decide)
      · exact validationOf_validateReader _

theorem take_ne_empty {n : Nat} {text : String} (hn : 0 < n) (h : text ≠ "") :
    PyText.take n text ≠ "" := by
  intro htake
  unfold PyText.take at htake
  rw [String.ofList_eq_empty_iff] at htake
  have hnil : text.toList = [] := by
    cases hlist : text.toList with
    | nil => rfl
    | cons c rest =>
      rw [hlist, List.take_cons hn] at htake
      cases htake
  exact h (String.toList_eq_nil_iff.mp hnil)

/-- "Extracted" says there is something to match against. -/
theorem extractText_extracted (h : (extractText library payload).status = .extracted) :
    (extractText library payload).text ≠ "" := by
  revert h
  unfold extractText
  split
  · exact fun h => by cases h
  · dsimp only
    split
    · exact fun h => by cases h
    · rename_i hstrip
      split
      · exact fun h => by cases h
      · split
        · exact fun h => by cases h
        · intro _
          apply take_ne_empty (by decide)
          rintro heq
          exact hstrip (by rw [heq]; rfl)

end Dashkoda.LegalWork
