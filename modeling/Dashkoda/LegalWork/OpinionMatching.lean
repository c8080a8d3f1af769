import Dashkoda.LegalWork.OpinionModels
import Dashkoda.LegalWork.TopicMatching
import Dashkoda.Lib.Binary64
import Dashkoda.Lib.Dict
import Dashkoda.Lib.SetOrder

/-!
# Scoring an opinion document against a legal record

The dates, the subject, the instrument, the rarity of the shared words and the recipient each give
a credit, and the score weighs the credits that apply.  Credits and weights are floats; the score is
rounded to two decimals.
-/

open Lib

namespace Dashkoda.LegalWork

namespace Opinion

/-! ## Rules -/

/-- Full credit. -/
def DATE_EXACT_DAYS : Nat := 3

/-- Credit decays to nothing across this window. -/
def DATE_DECAY_DAYS : Nat := 30

/-- Beyond this a document is a different piece of business. -/
def DATE_BLOCK_DAYS : Nat := 90

def LATE_DOCUMENT_CLASSES : List DocumentClassification := [.supplementaryOpinion, .followUp]

/-- Classifications that may never lead a legal topic. -/
def NEVER_PRIMARY : List DocumentClassification := [.annex, .supportingDocument, .unknown]

def WEIGHT_DATE : Binary64 := .ofRat (34 / 100)
def WEIGHT_SUBJECT : Binary64 := .ofRat (26 / 100)
def WEIGHT_INSTRUMENT : Binary64 := .ofRat (18 / 100)
def WEIGHT_RARITY : Binary64 := .ofRat (12 / 100)
def WEIGHT_RECIPIENT : Binary64 := .ofRat (10 / 100)

def EVIDENCE_DATE_EXACT : String := "date-exact"
def EVIDENCE_DATE_NEAR : String := "date-near"
def EVIDENCE_SUBJECT_STRONG : String := "subject-strong"
def EVIDENCE_IDENTIFIER : String := "identifier-match"
def EVIDENCE_ACRONYM : String := "acronym-match"
def EVIDENCE_RECIPIENT : String := "recipient-match"
def EVIDENCE_RARITY : String := "rarity-strong"
def EVIDENCE_BODY : String := "body-confirms"

def CONTRADICTION_IDENTIFIER : String := "identifier-conflict"
def CONTRADICTION_DATE : String := "date-impossible"
def CONTRADICTION_BEFORE_REQUEST : String := "document-precedes-request"
def CONTRADICTION_GENERIC_ONLY : String := "generic-vocabulary-only"
def CONTRADICTION_NOT_PRIMARY : String := "classification-cannot-lead"
def CONTRADICTION_UNREADABLE : String := "document-not-readable"

/-! ## Candidates -/

/-- One logical opinion document, reduced to what the matcher weighs. -/
structure Candidate where
  blobId : Int
  classification : DocumentClassification
  filenameDate : Option Date
  detectedDate : Option Date
  filenameSubject : String
  detectedSubject : String
  recipient : String
  text : String
  firstPageText : String
  isReadable : Bool
  entryId : Option Nat
  publicDocumentId : Option Nat
  extractionId : Option Nat
  pagePublishedDate : Option Date
  pageId : Option Nat
  deriving DecidableEq

structure Scored where
  candidate : Candidate
  score : ℚ
  evidence : List String
  contradictions : List String
  primaryBars : List String
  deriving DecidableEq

/-- Cannot be used at all. -/
def Scored.blocked (scored : Scored) : Bool := decide (scored.contradictions ≠ [])

def Scored.canBePrimary (scored : Scored) : Bool :=
  !scored.blocked && decide (scored.primaryBars = [])

/-! ## Dates -/

def Candidate.dates (candidate : Candidate) : List Date :=
  [candidate.filenameDate, candidate.detectedDate, candidate.pagePublishedDate].filterMap id

/-- How well the closest date agrees with the sent date: credit, gap and evidence. -/
def dateAgreement (sent : Date) (candidate : Candidate) : Binary64 × Option Nat × Option String :=
  match (candidate.dates.map fun value => value.daysBetween sent).min? with
  | none => (0, none, none)
  | some gap =>
    if gap ≤ DATE_EXACT_DAYS then (1, some gap, some EVIDENCE_DATE_EXACT)
    else if gap ≤ DATE_DECAY_DAYS then
      let span : Nat := DATE_DECAY_DAYS - DATE_EXACT_DAYS
      (1 - .ofRat ((gap - DATE_EXACT_DAYS : Nat) / span), some gap, some EVIDENCE_DATE_NEAR)
    else (0, some gap, none)

/-- The gap is one of months, and the document is no later addition. -/
def dateImpossible (gap : Option Nat) (classification : DocumentClassification) : Bool :=
  gap.any (DATE_BLOCK_DAYS < ·) && decide (classification ∉ LATE_DOCUMENT_CLASSES)

/-- The document is older than the request it answers. -/
def precedesRequest (receivedDate : Option Date) (candidate : Candidate) : Bool :=
  let earliest := ([candidate.filenameDate, candidate.detectedDate].filterMap id).min?
  receivedDate.any fun received => earliest.any (· < received)

/-! ## The other signals -/

section Signals

/-- `_dice`, the same shares as in the topic matchers. -/
def dice (left right : Finset String) : Binary64 := .ofRat (diceSimilarity left right)

/-- `_containment` -/
def containment (needle haystack : Finset String) : Binary64 :=
  if needle = ∅ then 0 else .ofRat ((needle ∩ haystack).card / needle.card)

variable (patterns : TextPatterns) (order : SetOrder String) (topic recipient : String)
  (candidate : Candidate)
  (rarity : Dict String Binary64)

def subjectText : String := candidate.filenameSubject ++ " " ++ candidate.detectedSubject

/-- Where instruments are named: the subjects and the first page. -/
def instrumentText : String := subjectText candidate ++ " " ++ candidate.firstPageText

def topicTokens : Finset String := patterns.significantTokens topic

def subjectTokens : Finset String := patterns.significantTokens (subjectText candidate)

def bodyContainment : Binary64 :=
  containment (topicTokens patterns topic) (patterns.significantTokens candidate.text)

def bodyConfirms : Bool := decide (.ofRat (6 / 10) < bodyContainment patterns topic candidate)

def subjectCredit : Binary64 :=
  let tokenOverlap := dice (topicTokens patterns topic) (subjectTokens patterns candidate)
  let ngramOverlap := dice (patterns.characterNgrams (patterns.fold topic) 4)
    (patterns.characterNgrams (patterns.fold (subjectText candidate)) 4)
  let overlap := max tokenOverlap ngramOverlap
  if bodyConfirms patterns topic candidate then
    max overlap (bodyContainment patterns topic candidate * .ofRat (9 / 10))
  else overlap

def subjectEvidence : List String :=
  codeIf (bodyConfirms patterns topic candidate) EVIDENCE_BODY ++
    codeIf (decide (.ofRat (55 / 100) < subjectCredit patterns topic candidate))
      EVIDENCE_SUBJECT_STRONG

def topicIds : Finset String := patterns.identifiers topic

def candidateIds : Finset String := patterns.identifiers (instrumentText candidate)

def identifierMatch : Bool := decide (topicIds patterns topic ∩ candidateIds patterns candidate ≠ ∅)

/-- Both name an instrument, and not the same. -/
def identifierConflict : Bool :=
  decide (topicIds patterns topic ≠ ∅) && decide (candidateIds patterns candidate ≠ ∅) &&
    !identifierMatch patterns topic candidate

def topicAcronyms : Finset String := patterns.acronyms topic

def acronymMatch : Bool :=
  decide (topicAcronyms patterns topic ∩ patterns.acronyms (instrumentText candidate) ≠ ∅)

def instrumentCredit : Binary64 :=
  let credit := if identifierMatch patterns topic candidate then 1 else 0
  if acronymMatch patterns topic candidate then max credit (.ofRat (8 / 10)) else credit

def instrumentEvidence : List String :=
  codeIf (identifierMatch patterns topic candidate) EVIDENCE_IDENTIFIER ++
    codeIf (acronymMatch patterns topic candidate) EVIDENCE_ACRONYM

def instrumentApplies : Bool :=
  decide (topicIds patterns topic ≠ ∅) || decide (topicAcronyms patterns topic ≠ ∅)

def sharedTokens : Finset String := topicTokens patterns topic ∩ subjectTokens patterns candidate

/-- The sum of the rarities of a set of tokens, in the order in which the set is iterated. -/
def rarityOf (tokens : Finset String) : Binary64 :=
  Binary64.sum ((order.keys tokens).map fun token => (rarity.get? token).getD 1)

def rarityCredit : Binary64 :=
  if sharedTokens patterns topic candidate = ∅ then 0
  else
    let weight := rarityOf order rarity (sharedTokens patterns topic candidate)
    let total := rarityOf order rarity (topicTokens patterns topic)
    min (weight / if total = 0 then 1 else total) 1

def rarityEvidence : List String :=
  codeIf (decide (.ofRat (1 / 2) < rarityCredit patterns order topic candidate rarity))
    EVIDENCE_RARITY

def recipientApplies : Bool := decide (recipient ≠ "") && decide (candidate.recipient ≠ "")

/-- One name contains the other. -/
def recipientMatch : Bool :=
  let left := patterns.fold recipient
  let right := patterns.fold candidate.recipient
  recipientApplies recipient candidate && decide (left ≠ "") && decide (right ≠ "") &&
    (decide (left.toList <:+: right.toList) || decide (right.toList <:+: left.toList))

def recipientCredit : Binary64 := if recipientMatch patterns recipient candidate then 1 else 0

def recipientEvidence : List String :=
  codeIf (recipientMatch patterns recipient candidate) EVIDENCE_RECIPIENT

/-- Nothing but generic words in common. -/
def genericOnly : Bool :=
  decide (sharedTokens patterns topic candidate = ∅) &&
    decide (instrumentCredit patterns topic candidate = 0) &&
    decide (subjectCredit patterns topic candidate < .ofRat (35 / 100))

end Signals

/-! ## The score -/

/-- `Decimal(f"{100 * total / applicable:.2f}")` -/
def percent (total applicable : Binary64) : ℚ :=
  Decimal.roundHalfEven (100 * (.ofRat 100 * total / applicable : Binary64).toRat) / 100

/-- One entry of `parts`: a signal, and whether it applies. -/
structure Part where
  weight : Binary64
  credit : Binary64
  applies : Bool

section Scores

variable (patterns : TextPatterns) (order : SetOrder String) (topic recipient : String)
  (candidate : Candidate)
  (rarity : Dict String Binary64)

/-- The date weighs when the document itself is dated. -/
def dateApplies : Bool := candidate.filenameDate.isSome || candidate.detectedDate.isSome

/-- The signals, in the order in which they are summed. -/
def parts (datesApply : Bool) (dateCredit : Binary64) : List Part :=
  [⟨WEIGHT_DATE, dateCredit, datesApply⟩,
    ⟨WEIGHT_SUBJECT, subjectCredit patterns topic candidate, true⟩,
    ⟨WEIGHT_INSTRUMENT, instrumentCredit patterns topic candidate,
      instrumentApplies patterns topic⟩,
    ⟨WEIGHT_RARITY, rarityCredit patterns order topic candidate rarity, true⟩,
    ⟨WEIGHT_RECIPIENT, recipientCredit patterns recipient candidate,
      recipientApplies recipient candidate⟩]

/-- The credits renormalised over the signals that apply. -/
def weighedScore (datesApply : Bool) (dateCredit : Binary64) : ℚ :=
  let applied :=
    (parts patterns order topic recipient candidate rarity datesApply dateCredit).filter (·.applies)
  let applicable := Binary64.sum (applied.map (·.weight))
  let total := Binary64.sum (applied.map fun part => part.weight * part.credit)
  percent total (if applicable = 0 then 1 else applicable)

/-- `score_candidate` -/
def scoreCandidate (sentDate : Date) (receivedDate : Option Date) : Scored :=
  if candidate.isReadable = false then ⟨candidate, 0, [], [CONTRADICTION_UNREADABLE], []⟩
  else
    let primaryBars :=
      codeIf (decide (candidate.classification ∈ NEVER_PRIMARY)) CONTRADICTION_NOT_PRIMARY
    let (dateCredit, gap, dateEvidence) := dateAgreement sentDate candidate
    let evidence := dateEvidence.toList
    if dateImpossible gap candidate.classification then
      ⟨candidate, 0, evidence, [CONTRADICTION_DATE], primaryBars⟩
    else if precedesRequest receivedDate candidate then
      ⟨candidate, 0, evidence, [CONTRADICTION_BEFORE_REQUEST], primaryBars⟩
    else
      let evidence := evidence ++ subjectEvidence patterns topic candidate
      if identifierConflict patterns topic candidate then
        ⟨candidate, 0, evidence, [CONTRADICTION_IDENTIFIER], primaryBars⟩
      else
        let evidence := evidence ++ instrumentEvidence patterns topic candidate ++
          rarityEvidence patterns order topic candidate rarity ++ recipientEvidence patterns
            recipient candidate
        if genericOnly patterns topic candidate then
          ⟨candidate, 0, evidence, [CONTRADICTION_GENERIC_ONLY], primaryBars⟩
        else
          ⟨candidate, weighedScore patterns order topic recipient candidate rarity
            (dateApplies candidate) dateCredit,
            evidence, [], primaryBars⟩

end Scores

/-! ## Which field carries a date -/

/-- The same document with its dates in other fields. -/
def Candidate.redated (candidate : Candidate)
    (filenameDate detectedDate pagePublishedDate : Option Date) :
    Candidate :=
  { candidate with filenameDate, detectedDate, pagePublishedDate }

def Candidate.dateSet (candidate : Candidate) : Finset Date := candidate.dates.toFinset

/-- What a decision is made from. -/
structure SameVerdict (left right : Scored) : Prop where
  score : left.score = right.score
  blocked : left.blocked = right.blocked
  canBePrimary : left.canBePrimary = right.canBePrimary

section Dates

variable {candidate other : Candidate}

theorem min?_map_congr {dates dates' : List Date} (h : dates.toFinset = dates'.toFinset)
    (gap : Date → Nat) :
    (dates.map gap).min? = (dates'.map gap).min? := by
  have hmem (value : Date) : value ∈ dates ↔ value ∈ dates' := by
    rw [← List.mem_toFinset, h, List.mem_toFinset]
  cases hmin : (dates.map gap).min? with
  | none =>
    have hnil : dates = [] := List.map_eq_nil_iff.mp (List.min?_eq_none_iff.mp hmin)
    have hnil' : dates' = [] := by
      rw [List.eq_nil_iff_forall_not_mem]
      intro value hvalue
      exact List.not_mem_nil (hnil ▸ (hmem value).mpr hvalue)
    rw [hnil']
    rfl
  | some best =>
    rw [List.min?_eq_some_iff] at hmin
    obtain ⟨hbest, hle⟩ := hmin
    symm
    rw [List.min?_eq_some_iff]
    constructor
    · obtain ⟨value, hvalue, rfl⟩ := List.mem_map.mp hbest
      exact List.mem_map_of_mem ((hmem value).mp hvalue)
    · intro other hother
      obtain ⟨value, hvalue, rfl⟩ := List.mem_map.mp hother
      exact hle _ (List.mem_map_of_mem ((hmem value).mpr hvalue))

/-- The agreement depends on the set of the dates alone. -/
theorem dateAgreement_congr (h : other.dateSet = candidate.dateSet) (sent : Date) :
    dateAgreement sent other = dateAgreement sent candidate := by
  unfold dateAgreement
  rw [min?_map_congr h]

theorem mem_dateSet {date : Date} : date ∈ candidate.dateSet ↔ candidate.filenameDate = some date ∨
    candidate.detectedDate = some date ∨ candidate.pagePublishedDate = some date := by
  unfold Candidate.dateSet Candidate.dates
  rw [List.mem_toFinset, List.mem_filterMap]
  simp [eq_comm]

/-- Of two dates at most one is the page's. -/
theorem dateApplies_of_card (h : candidate.dateSet.card ≠ 1) :
    dateApplies candidate = decide (candidate.dateSet ≠ ∅) := by
  unfold dateApplies
  cases hfilename : candidate.filenameDate with
  | some date =>
    have hmem : date ∈ candidate.dateSet := mem_dateSet.mpr (Or.inl hfilename)
    rw [decide_eq_true (Finset.ne_empty_of_mem hmem)]
    rfl
  | none =>
    cases hdetected : candidate.detectedDate with
    | some date =>
      have hmem : date ∈ candidate.dateSet := mem_dateSet.mpr (Or.inr (Or.inl hdetected))
      rw [decide_eq_true (Finset.ne_empty_of_mem hmem)]
      rfl
    | none =>
      have hpage (date : Date) : date ∈ candidate.dateSet ↔
          candidate.pagePublishedDate = some date := by
        rw [mem_dateSet, hfilename, hdetected]
        simp
      cases hdate : candidate.pagePublishedDate with
      | none =>
        have hempty : candidate.dateSet = ∅ := by
          rw [Finset.eq_empty_iff_forall_notMem]
          intro date hmem
          rw [hpage, hdate] at hmem
          cases hmem
        rw [hempty]
        rfl
      | some date =>
        refine absurd (Finset.card_eq_one.mpr ⟨date, ?_⟩) h
        ext value
        rw [hpage, hdate, Finset.mem_singleton, Option.some.injEq]
        exact eq_comm

end Dates

section Law

variable (patterns : TextPatterns) (order : SetOrder String) (topic recipient : String)
  (candidate : Candidate)
  (rarity : Dict String Binary64) (sentDate : Date)

def endsEarly : Bool :=
  !candidate.isReadable || dateImpossible (dateAgreement sentDate candidate).2.1
    candidate.classification ||
    identifierConflict patterns topic candidate || genericOnly patterns topic candidate

/-- Without a received date the verdict does not depend on which of the three fields carries a
date. -/
def DateSymmetric : Prop :=
  ∀ filenameDate detectedDate pagePublishedDate,
    let moved := candidate.redated filenameDate detectedDate pagePublishedDate
    moved.dateSet = candidate.dateSet →
      SameVerdict (scoreCandidate patterns order topic recipient moved rarity sentDate none)
        (scoreCandidate patterns order topic recipient candidate rarity sentDate none)

variable {patterns order topic recipient candidate rarity sentDate}

/-- Without a received date the score is the weighed one unless scoring ends early. -/
theorem scoreCandidate_score :
    (scoreCandidate patterns order topic recipient candidate rarity sentDate none).score =
    if endsEarly patterns topic candidate sentDate then 0
    else weighedScore patterns order topic recipient candidate rarity (dateApplies candidate)
      (dateAgreement sentDate candidate).1 := by
  unfold scoreCandidate endsEarly
  cases hreadable : candidate.isReadable with
  | false => rfl
  | true =>
    rw [if_neg (by decide)]
    dsimp only
    cases dateImpossible (dateAgreement sentDate candidate).2.1 candidate.classification with
    | true => rfl
    | false =>
      cases identifierConflict patterns topic candidate with
      | true => rfl
      | false =>
        cases genericOnly patterns topic candidate with
        | true => rfl
        | false => rfl

theorem scoreCandidate_contradictions :
    (scoreCandidate patterns order topic recipient candidate rarity sentDate none).contradictions =
      if candidate.isReadable = false then [CONTRADICTION_UNREADABLE]
      else if dateImpossible (dateAgreement sentDate candidate).2.1 candidate.classification then
        [CONTRADICTION_DATE]
      else if identifierConflict patterns topic candidate then [CONTRADICTION_IDENTIFIER]
      else if genericOnly patterns topic candidate then [CONTRADICTION_GENERIC_ONLY] else [] := by
  unfold scoreCandidate
  split
  · rfl
  · dsimp only
    split
    · rfl
    · rw [if_neg (show ¬ precedesRequest none candidate = true from Bool.false_ne_true)]
      split
      · rfl
      · split
        · rfl
        · rfl

theorem scoreCandidate_primaryBars :
    (scoreCandidate patterns order topic recipient candidate rarity sentDate none).primaryBars =
      if candidate.isReadable = false then []
      else codeIf (decide (candidate.classification ∈ NEVER_PRIMARY))
        CONTRADICTION_NOT_PRIMARY := by
  unfold scoreCandidate
  split
  · rfl
  · dsimp only
    split
    · rfl
    · rw [if_neg (show ¬ precedesRequest none candidate = true from Bool.false_ne_true)]
      split
      · rfl
      · split
        · rfl
        · rfl

section Moved

variable {filenameDate detectedDate pagePublishedDate : Option Date}

theorem endsEarly_redated
    (h : (candidate.redated filenameDate detectedDate pagePublishedDate).dateSet =
      candidate.dateSet) :
    endsEarly patterns topic
      (candidate.redated filenameDate detectedDate pagePublishedDate) sentDate =
      endsEarly patterns topic candidate sentDate := by
  unfold endsEarly
  rw [dateAgreement_congr h]
  rfl

/-- Beside the score nothing in the verdict depends on the fields. -/
theorem sameVerdict_iff
    (h : (candidate.redated filenameDate detectedDate pagePublishedDate).dateSet =
      candidate.dateSet) :
    SameVerdict (scoreCandidate patterns order topic recipient
        (candidate.redated filenameDate detectedDate pagePublishedDate) rarity sentDate none)
      (scoreCandidate patterns order topic recipient candidate rarity sentDate none) ↔
    (scoreCandidate patterns order topic recipient
        (candidate.redated filenameDate detectedDate pagePublishedDate) rarity sentDate
          none).score =
      (scoreCandidate patterns order topic recipient candidate rarity sentDate none).score := by
  constructor
  · exact fun hsame => hsame.score
  · intro hscore
    have hcontradictions : (scoreCandidate patterns order topic recipient
        (candidate.redated filenameDate detectedDate pagePublishedDate) rarity sentDate
          none).contradictions =
        (scoreCandidate patterns order topic recipient candidate rarity sentDate
          none).contradictions := by
      rw [scoreCandidate_contradictions, scoreCandidate_contradictions, dateAgreement_congr h]
      rfl
    have hbars : (scoreCandidate patterns order topic recipient
        (candidate.redated filenameDate detectedDate pagePublishedDate) rarity sentDate
          none).primaryBars =
        (scoreCandidate patterns order topic recipient candidate rarity sentDate
          none).primaryBars := by
      rw [scoreCandidate_primaryBars, scoreCandidate_primaryBars]
      rfl
    refine ⟨hscore, ?_, ?_⟩
    · unfold Scored.blocked
      rw [hcontradictions]
    · unfold Scored.canBePrimary Scored.blocked
      rw [hcontradictions, hbars]

theorem weighedScore_redated (datesApply : Bool) (credit : Binary64) :
    weighedScore patterns order topic recipient
      (candidate.redated filenameDate detectedDate pagePublishedDate) rarity
      datesApply credit = weighedScore patterns order topic recipient candidate rarity datesApply
        credit := rfl

end Moved

/-- Where not exactly one date is known, or scoring ends early, the field of a date does not
matter. -/
theorem dateSymmetric_of_card
    (h : candidate.dateSet.card ≠ 1 ∨ endsEarly patterns topic candidate sentDate = true) :
    DateSymmetric patterns order topic recipient candidate rarity sentDate := by
  intro filenameDate detectedDate pagePublishedDate moved hsame
  rw [sameVerdict_iff hsame, scoreCandidate_score, scoreCandidate_score, endsEarly_redated hsame,
    dateAgreement_congr hsame, weighedScore_redated]
  rcases h with hcard | hends
  · have hcard' : moved.dateSet.card ≠ 1 := hsame.symm ▸ hcard
    rw [dateApplies_of_card hcard, dateApplies_of_card hcard', hsame]
  · rw [if_pos hends, if_pos hends]

end Law

/-! ## A document dated by its page alone -/

/-- The credits a date can have: full, none, or one on the way down. -/
def dateCredits : List Binary64 :=
  1 :: 0 :: (List.range 28).map fun days => 1 - .ofRat ((days : Nat) / (27 : Nat))

theorem dateAgreement_mem_dateCredits (sent : Date) (candidate : Candidate) :
    (dateAgreement sent candidate).1 ∈ dateCredits := by
  unfold dateAgreement
  cases (candidate.dates.map fun value => value.daysBetween sent).min? with
  | none => exact List.mem_cons_of_mem _ List.mem_cons_self
  | some gap =>
    dsimp only
    by_cases hexact : gap ≤ DATE_EXACT_DAYS
    · rw [if_pos hexact]
      exact List.mem_cons_self
    · rw [if_neg hexact]
      by_cases hnear : gap ≤ DATE_DECAY_DAYS
      · rw [if_pos hnear]
        refine List.mem_cons_of_mem _
          (List.mem_cons_of_mem _ (List.mem_map.mpr ⟨gap - DATE_EXACT_DAYS, ?_, rfl⟩))
        unfold DATE_EXACT_DAYS DATE_DECAY_DAYS at *
        exact List.mem_range.mpr (by omega)
      · rw [if_neg hnear]
        exact List.mem_cons_of_mem _ List.mem_cons_self

theorem dateAgreement_gap {candidate : Candidate} {date : Date} (h : candidate.dateSet = {date})
    (sent : Date) :
    (dateAgreement sent candidate).2.1 = some (date.daysBetween sent) := by
  have hsame : (candidate.redated (some date) none none).dateSet = candidate.dateSet := h.symm
  rw [← dateAgreement_congr hsame]
  unfold dateAgreement
  show (if date.daysBetween sent ≤ DATE_EXACT_DAYS then _ else _ :
    Binary64 × Option Nat × Option String).2.1 = _
  split
  · rfl
  · split
    · rfl
    · rfl

def undatedDocument (subject : String) : Candidate where
  blobId := 1
  classification := .opinion
  filenameDate := none
  detectedDate := none
  filenameSubject := subject
  detectedSubject := ""
  recipient := ""
  text := ""
  firstPageText := ""
  isReadable := true
  entryId := none
  publicDocumentId := some 1
  extractionId := none
  pagePublishedDate := none
  pageId := none

/-- What speaks for a document that names its topic beside another word. -/
theorem undatedDocument_parts (datesApply : Bool) (credit : Binary64) :
    parts plainPatterns SetOrder.ascending "toll" "" (undatedDocument "toll maks") Dict.empty
      datesApply credit =
      [⟨WEIGHT_DATE, credit, datesApply⟩, ⟨WEIGHT_SUBJECT, .ofRat (2 / 3), true⟩,
        ⟨WEIGHT_INSTRUMENT, 0, false⟩, ⟨WEIGHT_RARITY, 1, true⟩, ⟨WEIGHT_RECIPIENT, 0, false⟩] := by
  have hsubject : subjectCredit plainPatterns "toll" (undatedDocument "toll maks") =
      .ofRat (2 / 3) := by decide +kernel
  have hrarity : rarityCredit plainPatterns SetOrder.ascending "toll"
      (undatedDocument "toll maks") Dict.empty = 1 := by decide +kernel
  unfold parts
  rw [hsubject, hrarity]
  rfl

/-- It gains or loses by every date. -/
theorem undatedDocument_weighed {credit : Binary64} (h : credit ∈ dateCredits) :
    weighedScore plainPatterns SetOrder.ascending "toll" "" (undatedDocument "toll maks") Dict.empty
      true credit ≠
      weighedScore plainPatterns SetOrder.ascending "toll" "" (undatedDocument "toll maks")
        Dict.empty false credit := by
  unfold weighedScore
  rw [undatedDocument_parts, undatedDocument_parts]
  revert credit h
  decide +kernel

section Dated

variable {patterns : TextPatterns} {order : SetOrder String} {topic recipient : String}
  {candidate : Candidate}
  {rarity : Dict String Binary64} {sentDate : Date} {classification : DocumentClassification}
  {filenameDate : Option Date}

theorem weighedScore_dated (datesApply : Bool) (credit : Binary64) :
    weighedScore patterns order topic recipient { candidate with classification, filenameDate }
      rarity datesApply
      credit = weighedScore patterns order topic recipient candidate rarity datesApply credit := rfl

theorem endsEarly_dated :
    endsEarly patterns topic { candidate with classification, filenameDate } sentDate =
      (!candidate.isReadable ||
        dateImpossible (dateAgreement sentDate { candidate with classification, filenameDate }).2.1
          classification ||
        identifierConflict patterns topic candidate || genericOnly patterns topic candidate) := rfl

end Dated

/-- Nothing but its date can end the scoring of the document early. -/
theorem undatedDocument_scored :
    (undatedDocument "toll maks").isReadable = true ∧
      identifierConflict plainPatterns "toll" (undatedDocument "toll maks") = false ∧
      genericOnly plainPatterns "toll" (undatedDocument "toll maks") = false := by
  decide +kernel

/-- In the filename a date weighs, on the page alone it does not. -/
theorem undatedDocument_not_symmetric {sentDate date : Date}
    {classification : DocumentClassification}
    (h : dateImpossible (some (date.daysBetween sentDate)) classification = false) :
    ¬ DateSymmetric plainPatterns SetOrder.ascending "toll" ""
      { undatedDocument "toll maks" with classification, filenameDate := some date } Dict.empty
        sentDate := by
  intro hsymmetric
  let document := { undatedDocument "toll maks" with classification, filenameDate := some date }
  have hdated : document.dateSet = {date} := rfl
  have hpage : (document.redated none none (some date)).dateSet = document.dateSet := rfl
  have hends : endsEarly plainPatterns "toll" document sentDate = false := by
    obtain ⟨hreadable, hconflict, hgeneric⟩ := undatedDocument_scored
    rw [endsEarly_dated, dateAgreement_gap hdated, h, hreadable, hconflict, hgeneric]
    rfl
  have hscore := (hsymmetric none none (some date) hpage).score
  rw [scoreCandidate_score, scoreCandidate_score, endsEarly_redated hpage, hends,
    if_neg Bool.false_ne_true,
    if_neg Bool.false_ne_true, dateAgreement_congr hpage, weighedScore_redated, weighedScore_dated,
    weighedScore_dated] at hscore
  exact undatedDocument_weighed (dateAgreement_mem_dateCredits sentDate document) hscore.symm

/-- **Which field carries a date.**  It does not matter to a candidate that has not exactly one
date, or whose scoring ends before the credits are weighed.  Beyond that the dates and the
classification promise nothing. -/
structure DateEvidence (sentDate : Date) : Prop where
  symmetric : ∀ patterns order topic recipient candidate rarity,
    candidate.dateSet.card ≠ 1 ∨ endsEarly patterns topic candidate sentDate = true →
      DateSymmetric patterns order topic recipient candidate rarity sentDate
  sharp : ∀ dates classification,
    (∀ patterns order topic recipient candidate rarity,
      candidate.dateSet = dates → candidate.classification = classification →
        DateSymmetric patterns order topic recipient candidate rarity sentDate) ↔
    dates.card ≠ 1 ∨ ∀ date ∈ dates, dateImpossible (some (date.daysBetween sentDate))
      classification = true

theorem date_evidence (sentDate : Date) : DateEvidence sentDate where
  symmetric _ _ _ _ _ _ := dateSymmetric_of_card
  sharp dates classification := by
    constructor
    · intro hsymmetric
      by_contra hneither
      rw [not_or, not_not] at hneither
      obtain ⟨date, rfl⟩ := Finset.card_eq_one.mp hneither.1
      have hpossible : dateImpossible (some (date.daysBetween sentDate)) classification = false :=
        Bool.eq_false_iff.mpr fun himpossible =>
          hneither.2 fun other hother => Finset.mem_singleton.mp hother ▸ himpossible
      exact undatedDocument_not_symmetric hpossible (hsymmetric _ _ _ _ _ _ rfl rfl)
    · rintro (hcard | himpossible) patterns order topic recipient candidate rarity rfl rfl
      · exact dateSymmetric_of_card (Or.inl hcard)
      · refine dateSymmetric_of_card (or_iff_not_imp_left.mpr fun hcard => ?_)
        obtain ⟨date, hdate⟩ := Finset.card_eq_one.mp (not_not.mp hcard)
        unfold endsEarly
        rw [dateAgreement_gap hdate, himpossible date (hdate ▸ Finset.mem_singleton_self date),
          Bool.or_true]
        rfl

def sentDay : Date := .of 2026 3 2

def letterDay : Date := .of 2026 1 11

def filenameDated : Candidate := (undatedDocument "toll").redated (some letterDay) none none

theorem filenameDated_score :
    (scoreCandidate plainPatterns SetOrder.ascending "toll" "" filenameDated Dict.empty sentDay
      none).score =
      5278 / 100 := by
  decide +kernel

theorem pageDated_score :
    (scoreCandidate plainPatterns SetOrder.ascending "toll" ""
      (filenameDated.redated none none (some letterDay))
      Dict.empty sentDay none).score = 100 := by
  decide +kernel

/-- Moved to the page, the same date no longer counts against the document. -/
theorem pageDated_not_symmetric :
    ¬ DateSymmetric plainPatterns SetOrder.ascending "toll" "" filenameDated Dict.empty
      sentDay := by
  intro hsymmetric
  have hdates : (filenameDated.redated none none (some letterDay)).dateSet =
      filenameDated.dateSet := by
    decide +kernel
  have hscore := (hsymmetric none none (some letterDay) hdates).score
  have heq : (100 : ℚ) = 5278 / 100 := pageDated_score.symm.trans (hscore.trans filenameDated_score)
  norm_num at heq

end Opinion

end Dashkoda.LegalWork
