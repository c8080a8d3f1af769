import Dashkoda.LegalWork.TextNormalisation
import Dashkoda.LegalWork.TopicMatchSync
import Dashkoda.Lib.Decimal
import Mathlib.Algebra.BigOperators.Group.Finset.Basic
import Mathlib.Algebra.Order.BigOperators.Group.Finset
import Mathlib.Algebra.Order.Field.Basic
import Mathlib.Data.Finset.Max
import Mathlib.Data.Finset.Sort
import Mathlib.Data.Prod.Lex

/-!
# Matching legal records against the public topics

A legal record is scored against every topic of a catalogue, and one decision is made for it.  The
matcher of the current topics and the matcher of the archive have their own weights, thresholds and
contradictions.  The arithmetic is exact.
-/

open Lib

namespace Dashkoda.LegalWork

/-! ## Rules -/

structure MatcherRules where
  weightCharacterNgram : ℚ
  weightRarityCoverage : ℚ
  weightUniqueToken : ℚ
  weightDeadline : ℚ
  weightOrganization : ℚ
  genericTokenDamping : ℚ
  autoMatchScore : ℚ
  plausibleScore : ℚ
  minimumMargin : ℚ
  blockingEvidence : List String

def DEADLINE_AGREEMENT_DAYS : Int := 3

def DEADLINE_CONFLICT_DAYS : Int := 14

def IMPOSSIBLE_LEAD_DAYS : Int := 60

def DATE_PROXIMITY_DAYS : Int := 45

def UNIQUE_TOKEN_SATURATION : Nat := 3

def NGRAM_SIZE : Nat := 4

def EVIDENCE_NGRAM_STRONG : String := "ngram-strong"
def EVIDENCE_RARITY_STRONG : String := "rarity-strong"
def EVIDENCE_UNIQUE_TOKEN : String := "unique-token-hit"
def EVIDENCE_DEADLINE_EXACT : String := "deadline-exact"
def EVIDENCE_DEADLINE_NEAR : String := "deadline-near"
def EVIDENCE_ORGANIZATION_MATCH : String := "organization-match"
def EVIDENCE_IDENTIFIER_MATCH : String := "identifier-match"
def EVIDENCE_ACRONYM_MATCH : String := "acronym-match"
def EVIDENCE_DATE_PROXIMATE : String := "date-proximate"
def EVIDENCE_DEADLINE_CONFLICT : String := "deadline-conflict"
def EVIDENCE_IMPOSSIBLE_CHRONOLOGY : String := "impossible-chronology"
def EVIDENCE_ORGANIZATION_CONFLICT : String := "organization-conflict-unsupported"
def EVIDENCE_GENERIC_ONLY : String := "generic-overlap-only"
def EVIDENCE_IDENTIFIER_CONFLICT : String := "identifier-conflict"
def EVIDENCE_NARROW_MARGIN : String := "narrow-margin"
def EVIDENCE_NO_CANDIDATES : String := "no-candidates"
def EVIDENCE_NO_PLAUSIBLE : String := "no-plausible-candidate"
def EVIDENCE_BLOCKED_CANDIDATES : String := "blocked-candidates"
def EVIDENCE_NO_RARE_OVERLAP : String := "no-uncommon-token-overlap"

def BLOCKING_EVIDENCE : List String :=
  [EVIDENCE_DEADLINE_CONFLICT, EVIDENCE_IMPOSSIBLE_CHRONOLOGY, EVIDENCE_ORGANIZATION_CONFLICT,
    EVIDENCE_GENERIC_ONLY]

def ARCHIVE_BLOCKING_EVIDENCE : List String :=
  [EVIDENCE_DEADLINE_CONFLICT, EVIDENCE_IMPOSSIBLE_CHRONOLOGY, EVIDENCE_ORGANIZATION_CONFLICT,
    EVIDENCE_GENERIC_ONLY, EVIDENCE_IDENTIFIER_CONFLICT, EVIDENCE_NO_RARE_OVERLAP]

def currentRules : MatcherRules where
  weightCharacterNgram := 30 / 100
  weightRarityCoverage := 30 / 100
  weightUniqueToken := 20 / 100
  weightDeadline := 12 / 100
  weightOrganization := 8 / 100
  genericTokenDamping := 25 / 100
  autoMatchScore := 62
  plausibleScore := 38
  minimumMargin := 12
  blockingEvidence := BLOCKING_EVIDENCE

def archiveRules : MatcherRules where
  weightCharacterNgram := 26 / 100
  weightRarityCoverage := 32 / 100
  weightUniqueToken := 24 / 100
  weightDeadline := 8 / 100
  weightOrganization := 10 / 100
  genericTokenDamping := 15 / 100
  autoMatchScore := 72
  plausibleScore := 48
  minimumMargin := 18
  blockingEvidence := ARCHIVE_BLOCKING_EVIDENCE

/-! ## Profiles -/

structure CandidateProfile where
  itemId : Nat
  contentKey : String
  publishedDate : Option Date
  feedbackDeadline : Option Date
  organizationKey : String
  ngrams : Finset String
  ngramsFull : Finset String
  tokens : Finset String
  significant : Finset String
  acronyms : Finset String
  identifiers : Finset String

structure LegalProfile where
  itemId : Nat
  receivedDate : Option Date
  deadlineDate : Option Date
  organizationKey : String
  ngrams : Finset String
  ngramsSignificant : Finset String
  tokens : List String
  significant : Finset String
  acronyms : Finset String
  identifiers : Finset String

structure ScoredCandidate where
  profile : CandidateProfile
  score : ℚ
  evidence : List String

/-- `is_blocked`, which each matcher has of its own. -/
def ScoredCandidate.isBlocked (rules : MatcherRules) (entry : ScoredCandidate) : Bool :=
  entry.evidence.any (· ∈ rules.blockingEvidence)

section Profiles

variable (patterns : TextPatterns)

def organizationKey (value : String) : String :=
  let tokens := (patterns.tokenize value).filter (· ∉ GENERIC_TOKENS)
  if tokens = [] then "" else PyText.take 120 (PyText.join " " (sortOn id tokens))

def candidateProfile (pk : Nat) (contentKey headline summary body : String)
    (publishedDate feedbackDeadline : Option Date) (organization : String) : CandidateProfile :=
  let concise := headline ++ " " ++ summary
  let full := headline ++ " " ++ summary ++ " " ++ body
  { itemId := pk
    contentKey
    publishedDate
    feedbackDeadline
    organizationKey := organizationKey patterns organization
    ngrams := patterns.characterNgrams concise NGRAM_SIZE
    ngramsFull := patterns.characterNgrams full NGRAM_SIZE
    tokens := (patterns.tokenize full).toFinset
    significant := patterns.significantTokens full
    acronyms := patterns.acronyms full
    identifiers := patterns.identifiers full }

def buildCandidateProfiles (items : List CurrentTopicItem) : List CandidateProfile :=
  items.map fun item => candidateProfile patterns item.pk item.contentKey item.title
    item.listingSummary item.bodyText item.publishedDate item.feedbackDeadline
      item.namedOrganization

def buildArchiveCandidateProfiles (items : List ArchivedTopicItem) : List CandidateProfile :=
  (items.filter (·.isMatchable)).map fun item => candidateProfile patterns item.pk item.contentKey
    (if item.detailTitle = "" then item.title else item.detailTitle) item.listingSummary
      item.bodyText
    item.publishedDate item.feedbackDeadline item.namedOrganization

def buildLegalProfile (item : LegalWorkItem) : LegalProfile :=
  let text := item.topic ++ " " ++ item.actType
  let significant := patterns.significantTokens text
  { itemId := item.pk
    receivedDate := item.receivedDate
    deadlineDate := item.deadlineDate
    organizationKey := organizationKey patterns item.recipient
    ngrams := patterns.characterNgrams text NGRAM_SIZE
    ngramsSignificant :=
      patterns.characterNgrams (PyText.join " " (significant.sort (· ≤ ·))) NGRAM_SIZE
    tokens := patterns.tokenize text
    significant
    acronyms := patterns.acronyms text
    identifiers := patterns.identifiers text }

end Profiles

/-! ## Signals -/

structure InverseFrequency where
  tokens : Finset String
  weight : String → ℚ

namespace InverseFrequency

/-- `idf.get(token, default)` -/
def get (idf : InverseFrequency) (token : String) (default : ℚ) : ℚ :=
  if token ∈ idf.tokens then idf.weight token else default

/-- `max(idf.values(), default=1.0)` -/
def largest (idf : InverseFrequency) : ℚ := ((idf.tokens.image idf.weight).max).unbotD 1

end InverseFrequency

def frequency (tokens : CandidateProfile → Finset String) (profiles : List CandidateProfile)
    (token : String) : Nat := profiles.countP (token ∈ tokens ·)

/-- The rarity of a token that occurs in so many of so many entries stands for its logarithm. -/
def inverseDocumentFrequency (rarity : Nat → Nat → ℚ) (profiles : List CandidateProfile) :
    InverseFrequency where
  tokens := profiles.foldr (fun profile tokens => profile.tokens ∪ tokens) ∅
  weight token := rarity profiles.length (frequency (·.tokens) profiles token)

def diceSimilarity (left right : Finset String) : ℚ :=
  if left = ∅ ∨ right = ∅ then 0 else 2 * (left ∩ right).card / (left.card + right.card)

def containment (needle haystack : Finset String) : ℚ :=
  if needle = ∅ ∨ haystack = ∅ then 0 else (needle ∩ haystack).card / needle.card

/-- `rarity_coverage`, with the damping of the matcher. -/
def rarityCoverage (damping : ℚ) (queryTokens : List String) (candidateTokens : Finset String)
    (idf : InverseFrequency) : ℚ :=
  if queryTokens = [] then 0
  else
    let weight (token : String) : ℚ :=
      if token ∈ GENERIC_TOKENS then idf.get token idf.largest * damping
      else idf.get token idf.largest
    let total := ∑ token ∈ queryTokens.toFinset, weight token
    let covered := ∑ token ∈ queryTokens.toFinset.filter (· ∈ candidateTokens), weight token
    if total = 0 then 0 else covered / total

def uniqueTokenHits (legal : LegalProfile) (candidate : CandidateProfile)
    (owners : String → Nat) : Nat :=
  ((candidate.significant ∩ legal.significant).filter (owners · = 1)).card

def uniqueTokenScore (hits : Nat) : ℚ :=
  (min hits UNIQUE_TOKEN_SATURATION : Nat) / UNIQUE_TOKEN_SATURATION

/-- `(left - right).days` -/
def daysAfter (left right : Date) : Int := left.toOrdinal - right.toOrdinal

def deadlineSignal (legal : LegalProfile) (candidate : CandidateProfile) : ℚ × Option String :=
  match legal.deadlineDate, candidate.feedbackDeadline with
  | some deadline, some feedback =>
    let gap := |daysAfter feedback deadline|
    if gap = 0 then (1, some EVIDENCE_DEADLINE_EXACT)
    else if gap ≤ DEADLINE_AGREEMENT_DAYS then (7 / 10, some EVIDENCE_DEADLINE_NEAR)
    else if DEADLINE_CONFLICT_DAYS < gap then (0, some EVIDENCE_DEADLINE_CONFLICT)
    else (0, none)
  | _, _ => (0, none)

def organizationSignal (legal : LegalProfile) (candidate : CandidateProfile) : ℚ × Bool :=
  if legal.organizationKey = "" ∨ candidate.organizationKey = "" then (0, false)
  else if legal.organizationKey = candidate.organizationKey then (1, false)
  else if (PyText.split legal.organizationKey).any (· ∈ PyText.split candidate.organizationKey) then
    (6 / 10, false)
  else (0, true)

/-! ## Scoring one pair -/

structure PairSignals where
  ngram : ℚ
  rarity : ℚ
  uniqueHits : Nat
  deadline : ℚ
  deadlineCode : Option String
  deadlineApplies : Bool
  organization : ℚ
  organizationConflicts : Bool
  organizationApplies : Bool

/-- The score of a raw share, to two places. -/
def hundredths (raw : ℚ) : ℚ :=
  let rounded : ℚ := (Decimal.roundHalfEven (raw * 100 * 10000) : ℚ) / 10000
  (Decimal.roundHalfUp (rounded * 100) : ℚ) / 100

section Pairs

variable (rules : MatcherRules) (legal : LegalProfile) (candidate : CandidateProfile)
  (idf : InverseFrequency) (owners : String → Nat)

def pairSignals : PairSignals where
  ngram := max (diceSimilarity legal.ngrams candidate.ngrams)
    (containment legal.ngramsSignificant candidate.ngramsFull)
  rarity := rarityCoverage rules.genericTokenDamping legal.tokens candidate.tokens idf
  uniqueHits := uniqueTokenHits legal candidate owners
  deadline := (deadlineSignal legal candidate).1
  deadlineCode := (deadlineSignal legal candidate).2
  deadlineApplies := legal.deadlineDate.isSome && candidate.feedbackDeadline.isSome
  organization := (organizationSignal legal candidate).1
  organizationConflicts := (organizationSignal legal candidate).2
  organizationApplies := legal.organizationKey ≠ "" && candidate.organizationKey ≠ ""

def weigh (signals : PairSignals) : ℚ × ℚ :=
  let weighted :=
    rules.weightCharacterNgram * signals.ngram + rules.weightRarityCoverage * signals.rarity +
    rules.weightUniqueToken * uniqueTokenScore signals.uniqueHits
  let applicable :=
    rules.weightCharacterNgram + rules.weightRarityCoverage + rules.weightUniqueToken
  let (weighted, applicable) := if signals.deadlineApplies
    then (weighted + rules.weightDeadline * signals.deadline, applicable + rules.weightDeadline)
    else (weighted, applicable)
  if signals.organizationApplies then
    (weighted + rules.weightOrganization * signals.organization,
      applicable + rules.weightOrganization)
  else (weighted, applicable)

def pairScore (signals : PairSignals) : ℚ :=
  hundredths ((weigh rules signals).1 / (weigh rules signals).2)

def codeIf (condition : Bool) (code : String) : List String := if condition then [code] else []

def signalEvidence (signals : PairSignals) : List String :=
  codeIf (1 / 2 ≤ signals.ngram) EVIDENCE_NGRAM_STRONG ++
    codeIf (1 / 2 ≤ signals.rarity) EVIDENCE_RARITY_STRONG ++
    codeIf (signals.uniqueHits ≠ 0) EVIDENCE_UNIQUE_TOKEN ++ signals.deadlineCode.toList ++
    codeIf (0 < signals.organization) EVIDENCE_ORGANIZATION_MATCH

def nameEvidence : List String :=
  (if legal.identifiers ∩ candidate.identifiers ≠ ∅ then [EVIDENCE_IDENTIFIER_MATCH]
    else codeIf (legal.identifiers ≠ ∅ && candidate.identifiers ≠ ∅)
      EVIDENCE_IDENTIFIER_CONFLICT) ++
  codeIf (legal.acronyms ∩ candidate.acronyms ≠ ∅) EVIDENCE_ACRONYM_MATCH

def dateProximate : Bool :=
  match legal.receivedDate, candidate.publishedDate with
  | some received, some published => |daysAfter published received| ≤ DATE_PROXIMITY_DAYS
  | _, _ => false

def impossibleChronology : Bool :=
  match legal.receivedDate, candidate.publishedDate with
  | some received, some published => IMPOSSIBLE_LEAD_DAYS < daysAfter received published
  | _, _ => false

def sharesSignificant : Bool := legal.significant ∩ candidate.significant ≠ ∅

/-- The two have words in common, but only generic ones. -/
def genericOnly : Bool :=
  let shared := legal.tokens.filter (· ∈ candidate.tokens)
  !sharesSignificant legal candidate && shared ≠ [] && shared.all (· ∈ GENERIC_TOKENS)

def scorePair : ScoredCandidate :=
  let signals := pairSignals currentRules legal candidate idf owners
  { profile := candidate
    score := pairScore currentRules signals
    evidence := signalEvidence signals ++ nameEvidence legal candidate ++
      codeIf (dateProximate legal candidate) EVIDENCE_DATE_PROXIMATE ++
      codeIf (impossibleChronology legal candidate) EVIDENCE_IMPOSSIBLE_CHRONOLOGY ++
      codeIf (signals.organizationConflicts && !sharesSignificant legal candidate)
        EVIDENCE_ORGANIZATION_CONFLICT ++
      codeIf (genericOnly legal candidate) EVIDENCE_GENERIC_ONLY }

def scoreArchivePair : ScoredCandidate :=
  let signals := pairSignals archiveRules legal candidate idf owners
  { profile := candidate
    score := pairScore archiveRules signals
    evidence := signalEvidence signals ++ nameEvidence legal candidate ++
      codeIf (impossibleChronology legal candidate) EVIDENCE_IMPOSSIBLE_CHRONOLOGY ++
      codeIf (signals.organizationConflicts && !sharesSignificant legal candidate)
        EVIDENCE_ORGANIZATION_CONFLICT ++
      codeIf (genericOnly legal candidate) EVIDENCE_GENERIC_ONLY ++
      codeIf (!sharesSignificant legal candidate && legal.identifiers ∩ candidate.identifiers = ∅)
        EVIDENCE_NO_RARE_OVERLAP }

end Pairs

/-! ## Deciding -/

section Decide

variable (rules : MatcherRules) (legal : LegalProfile)

/-- Equal scores are ranked by their content keys. -/
def rankKey (entry : ScoredCandidate) : ℚ ×ₗ String :=
  toLex (-entry.score, entry.profile.contentKey)

def ScoredCandidate.isPlausible (entry : ScoredCandidate) : Bool :=
  rules.plausibleScore ≤ entry.score && !entry.isBlocked rules

def noCandidates : MatchOutcome :=
  ⟨legal.itemId, none, .unmatched, 0, 0, 0, 0, [EVIDENCE_NO_CANDIDATES]⟩

/-- The decision between the best of a field and its runner-up. -/
def fieldDecision (acceptable : Bool) (score margin : ℚ) : MatchDecision :=
  if !acceptable then .unmatched
  else if rules.autoMatchScore ≤ score ∧ rules.minimumMargin ≤ margin then .matched
  else .ambiguous

def decisionEvidence (acceptable : Bool) (score margin : ℚ) : List String :=
  if !acceptable then [EVIDENCE_NO_PLAUSIBLE]
  else codeIf (rules.autoMatchScore ≤ score && margin < rules.minimumMargin) EVIDENCE_NARROW_MARGIN

def decideBy (scored : List ScoredCandidate) : MatchOutcome :=
  let ranked := sortOn rankKey scored
  let acceptable := ranked.filter (·.isPlausible rules)
  let field := if acceptable = [] then ranked else acceptable
  match field with
  | [] => noCandidates legal
  | best :: rest =>
    let runnerUp := (rest.head?.map (·.score)).getD 0
    let margin := best.score - runnerUp
    { legalItemId := legal.itemId
      bestCandidateId := some best.profile.itemId
      decision := fieldDecision rules (acceptable ≠ []) best.score margin
      score := best.score
      runnerUpScore := runnerUp
      scoreMargin := margin
      candidateCount := acceptable.length
      evidenceCodes := sortOn id (best.evidence ++
        codeIf (ranked.any (·.isBlocked rules)) EVIDENCE_BLOCKED_CANDIDATES ++
        decisionEvidence rules (acceptable ≠ []) best.score margin).dedup }

/-- `decide` -/
def decideTopic (scored : List ScoredCandidate) : MatchOutcome := decideBy currentRules legal scored

def decideArchive (scored : List ScoredCandidate) : MatchOutcome :=
  decideBy archiveRules legal scored

end Decide

/-! ## Matching -/

section Match

variable (patterns : TextPatterns) (rarity : Nat → Nat → ℚ)

def matchAll (legalItems : List LegalWorkItem) (candidateItems : List CurrentTopicItem) :
    List MatchOutcome :=
  let candidates := buildCandidateProfiles patterns candidateItems
  let idf := inverseDocumentFrequency rarity candidates
  let owners := frequency (·.significant) candidates
  legalItems.map fun item =>
    let legal := buildLegalProfile patterns item
    decideTopic legal (candidates.map fun candidate => scorePair legal candidate idf owners)

def matchArchive (legalItems : List LegalWorkItem) (archiveItems : List ArchivedTopicItem)
    (excludedUrls : List String) : List MatchOutcome :=
  let usable := archiveItems.filter fun item => item.isMatchable && item.canonicalUrl ∉ excludedUrls
  let candidates := buildArchiveCandidateProfiles patterns usable
  let idf := inverseDocumentFrequency rarity candidates
  let owners := frequency (·.significant) candidates
  legalItems.map fun item =>
    let legal := buildLegalProfile patterns item
    decideArchive legal (candidates.map fun candidate =>
      scoreArchivePair legal candidate idf owners)

end Match

end Dashkoda.LegalWork
