import Mathlib.Data.Rat.Defs
import Dashkoda.Lib.Calendar
import Dashkoda.Lib.Currency
import Dashkoda.Sources.ImportRun

/-!
# Legal work, the public topics and the topic matches

Every table is written once, by the run that publishes it; afterwards only the current flag of a
snapshot moves.
-/

open Lib

namespace Dashkoda.LegalWork

open Sources (Time)

inductive SentStatus
  | pending
  | sent
  | notSent
  | invalid
  deriving DecidableEq, Repr

inductive MatchDecision
  | matched
  | ambiguous
  | unmatched
  deriving DecidableEq, Repr

inductive SyncResult
  | neverRun
  | imported
  | unchanged
  | failed
  deriving DecidableEq, Repr

/-- How much of an archive entry has actually been read. -/
inductive DetailStatus
  | pending
  | hydrated
  | failed
  deriving DecidableEq, Repr

/-! ## Published snapshots -/

structure LegalWorkSnapshot where
  pk : Nat
  source : Nat
  importedAt : Time
  isCurrent : Bool
  deriving DecidableEq, Repr

instance : Published LegalWorkSnapshot where
  pk := (·.pk)
  publishedAt := (·.importedAt)
  isCurrent := (·.isCurrent)
  setCurrent flag row := { row with isCurrent := flag }
  pk_setCurrent _ _ := rfl
  publishedAt_setCurrent _ _ := rfl
  isCurrent_setCurrent _ _ := rfl

/-- One complete collection of a public topic listing: `CurrentTopicSnapshot`, and
`ArchivedTopicSnapshot` for the archive. -/
structure TopicSnapshot where
  pk : Nat
  source : Nat
  observedAt : Time
  itemCount : Nat
  isCurrent : Bool
  deriving DecidableEq, Repr

instance : Published TopicSnapshot where
  pk := (·.pk)
  publishedAt := (·.observedAt)
  isCurrent := (·.isCurrent)
  setCurrent flag row := { row with isCurrent := flag }
  pk_setCurrent _ _ := rfl
  publishedAt_setCurrent _ _ := rfl
  isCurrent_setCurrent _ _ := rfl

abbrev CurrentTopicSnapshot := TopicSnapshot
abbrev ArchivedTopicSnapshot := TopicSnapshot

/-! ## Their rows -/

structure LegalWorkItem where
  pk : Nat
  snapshot : Nat
  recordId : String
  topic : String
  actType : String
  receivedDate : Option Date
  deadlineDate : Option Date
  sentDate : Option Date
  sentStatus : SentStatus
  recipient : String
  isOpen : Bool
  deriving DecidableEq

instance : Row LegalWorkItem := ⟨(·.pk)⟩

structure CurrentTopicItem where
  pk : Nat
  snapshot : Nat
  contentKey : String
  canonicalUrl : String
  title : String
  listingSummary : String
  bodyText : String
  publishedDate : Option Date
  feedbackDeadline : Option Date
  namedOrganization : String
  sourceOrder : Nat
  deriving DecidableEq

instance : Row CurrentTopicItem := ⟨(·.pk)⟩

structure ArchivedTopicItem where
  pk : Nat
  snapshot : Nat
  contentKey : String
  canonicalUrl : String
  title : String
  listingSummary : String
  sourceOrder : Nat
  isPresent : Bool
  detailStatus : DetailStatus
  detailTitle : String
  bodyText : String
  publishedDate : Option Date
  feedbackDeadline : Option Date
  namedOrganization : String
  deriving DecidableEq

instance : Row ArchivedTopicItem := ⟨(·.pk)⟩

def ArchivedTopicItem.isMatchable (item : ArchivedTopicItem) : Bool :=
  item.detailStatus = .hydrated && item.isPresent

/-! ## Match snapshots -/

/-- One complete matcher run over the inputs `ι` it names. -/
structure MatchSnapshot (ι : Type) where
  pk : Nat
  inputs : ι
  matcherVersion : String
  generatedAt : Time
  itemCount : Nat
  matchedCount : Nat
  ambiguousCount : Nat
  unmatchedCount : Nat
  isCurrent : Bool
  deriving DecidableEq, Repr

instance (ι : Type) : Published (MatchSnapshot ι) where
  pk := (·.pk)
  publishedAt := (·.generatedAt)
  isCurrent := (·.isCurrent)
  setCurrent flag row := { row with isCurrent := flag }
  pk_setCurrent _ _ := rfl
  publishedAt_setCurrent _ _ := rfl
  isCurrent_setCurrent _ _ := rfl

structure CurrentTopicInputs where
  legalSnapshot : Nat
  currentTopicSnapshot : Nat
  deriving DecidableEq, Repr

/-- The third input is the current-topic run the archive matcher deferred to. -/
structure ArchivedTopicInputs where
  legalSnapshot : Nat
  archivedTopicSnapshot : Nat
  currentTopicMatchSnapshot : Nat
  deriving DecidableEq, Repr

abbrev LegalCurrentTopicMatchSnapshot := MatchSnapshot CurrentTopicInputs
abbrev LegalArchivedTopicMatchSnapshot := MatchSnapshot ArchivedTopicInputs

/-- What a matcher decided about one record: `LegalCurrentTopicMatch`, and
`LegalArchivedTopicMatch` for the archive. -/
structure TopicMatch where
  snapshot : Nat
  legalItem : Nat
  bestCandidate : Option Nat
  decision : MatchDecision
  score : ℚ
  runnerUpScore : ℚ
  scoreMargin : ℚ
  candidateCount : Nat
  evidenceCodes : List String
  deriving DecidableEq

/-! ## The tables together -/

structure TopicDb where
  clock : Time
  legalSnapshots : List LegalWorkSnapshot
  legalItems : List LegalWorkItem
  topicSnapshots : List CurrentTopicSnapshot
  topicItems : List CurrentTopicItem
  archiveSnapshots : List ArchivedTopicSnapshot
  archiveItems : List ArchivedTopicItem
  topicMatchSnapshots : List LegalCurrentTopicMatchSnapshot
  topicMatches : List TopicMatch
  archiveMatchSnapshots : List LegalArchivedTopicMatchSnapshot
  archiveMatches : List TopicMatch

def TopicDb.empty : TopicDb := ⟨0, [], [], [], [], [], [], [], [], [], []⟩

/-! ## Eligibility -/

/-- A record may carry a consultation link while it is open and no opinion has gone out. -/
def isConsultationEligible (item : LegalWorkItem) : Bool :=
  item.isOpen && decide (item.sentStatus ≠ .sent)

end Dashkoda.LegalWork
