import Dashkoda.Lib.Decimal
import Dashkoda.Lib.Ranking
import Mathlib.Data.Prod.Lex
import Mathlib.Data.String.Basic

/-!
# What an internal observation may be used for

The quality policy over plain values: which metrics of a report are withheld, how a report is
classified, and which of several rows for one date is the one to read.
-/

open Lib

namespace Dashkoda.Membership

inductive InternalSourceKind
  | mergedSameDocument
  | reportedComparison
  | manual
  deriving DecidableEq, Repr

inductive ExtractionConfidence
  | high
  | medium
  | low
  | manualVerified
  deriving DecidableEq, Repr

inductive QualityStatus
  | verified
  | provisional
  | reviewRequired
  | conflicted
  | superseded
  deriving DecidableEq, Repr

/-- The metric fields of an observation that a report can withhold. -/
inductive MetricField
  | totalMembers
  | paidMembers
  | newMembersYtd
  | suspendedMembers
  | removedMembersYtd
  | membershipFeesReceivedEur
  | membershipFeeBudgetEur
  | membershipFeeCollectionPctReported
  deriving DecidableEq, Repr

/-- `METRIC_FIELDS`: the metric names of the import package. -/
def metricFields : List (String × MetricField) :=
  [("total_members", .totalMembers), ("paid_members", .paidMembers),
    ("new_members_ytd", .newMembersYtd), ("suspended_members", .suspendedMembers),
    ("removed_members_ytd", .removedMembersYtd),
    ("membership_fees_received_eur", .membershipFeesReceivedEur),
    ("membership_fee_budget_eur", .membershipFeeBudgetEur),
    ("membership_fee_collection_pct", .membershipFeeCollectionPctReported)]

/-- `COLLECTION_TOLERANCE_PCT` -/
def collectionTolerancePct : ℚ := 1 / 2

/-! ## Precedence between rows for one date -/

/-- `SOURCE_KIND_RANK`; every kind has a rank, so `_UNKNOWN_RANK` is never used. -/
def sourceKindRank : InternalSourceKind → Nat
  | .manual => 0
  | .mergedSameDocument => 1
  | .reportedComparison => 2

/-- `CONFIDENCE_RANK` -/
def confidenceRank : ExtractionConfidence → Nat
  | .manualVerified => 0
  | .high => 1
  | .medium => 2
  | .low => 3

/-- `QUALITY_RANK` -/
def qualityRank : QualityStatus → Nat
  | .verified => 0
  | .provisional => 1
  | .reviewRequired => 2
  | .conflicted => 3
  | .superseded => 4

structure PreferenceCandidate where
  key : Nat
  sourceKind : InternalSourceKind
  extractionConfidence : ExtractionConfidence
  qualityStatus : QualityStatus
  tieBreaker : Int
  deriving DecidableEq, Repr

/-- Kind first, then quality, then confidence, then the row identifier. -/
def PreferenceCandidate.sortKey (candidate : PreferenceCandidate) : Nat ×ₗ Nat ×ₗ Nat ×ₗ Int :=
  toLex (sourceKindRank candidate.sourceKind, toLex (qualityRank candidate.qualityStatus,
    toLex (confidenceRank candidate.extractionConfidence, candidate.tieBreaker)))

def choosePreferred (candidates : List PreferenceCandidate) : Option PreferenceCandidate :=
  minOn? PreferenceCandidate.sortKey candidates

/-! ## Classifying one report -/

structure MetricFacts where
  totalMembers : Option Nat
  paidMembers : Option Nat
  membershipFeesReceivedEur : Option Decimal
  membershipFeeBudgetEur : Option Decimal
  membershipFeeCollectionPctReported : Option Decimal
  newMembersYtd : Option Nat
  suspendedMembers : Option Nat
  removedMembersYtd : Option Nat
  deriving DecidableEq, Repr

structure Assessment where
  qualityStatus : QualityStatus
  withheldMetrics : List MetricField
  warningCodes : List String
  deriving DecidableEq, Repr

def computedCollectionPct (received budget : Option Decimal) : Option ℚ :=
  match received, budget with
  | some received, some budget =>
    if budget.toRat = 0 then none
    else Decimal.quantizeCents (Decimal.mul (Decimal.div received.toRat budget.toRat) 100)
  | _, _ => none

/-- `none` when there is nothing to compare. -/
def collectionIsConsistent (reported received budget : Option Decimal) : Option Bool :=
  match reported, computedCollectionPct received budget with
  | some reported, some computed =>
    some (|Decimal.sub reported.toRat computed| ≤ collectionTolerancePct)
  | _, _ => none

def impossibleMetrics (facts : MetricFacts) : List MetricField :=
  match facts.totalMembers, facts.paidMembers with
  | some total, some paid => if total < paid then [.totalMembers, .paidMembers] else []
  | _, _ => []

def assess (facts : MetricFacts) (conflictedMetrics : List String) (isProvisional : Bool)
    (extraWarningCodes : List String) : Assessment :=
  let impossible := impossibleMetrics facts
  let inconsistent := collectionIsConsistent facts.membershipFeeCollectionPctReported
    facts.membershipFeesReceivedEur facts.membershipFeeBudgetEur == some false
  let withheld := impossible ++
    (if inconsistent then [.membershipFeeCollectionPctReported] else []) ++
    conflictedMetrics.filterMap fun metric => List.lookup metric metricFields
  let codes := extraWarningCodes ++ (if impossible ≠ [] then ["paid_exceeds_total"] else []) ++
    (if inconsistent then ["collection_pct_mismatch"] else [])
  let status :=
    if conflictedMetrics ≠ [] then .conflicted
    else if impossible ≠ [] || inconsistent then .reviewRequired
    else if isProvisional then .provisional
    else .verified
  { qualityStatus := status
    withheldMetrics := withheld.dedup
    warningCodes := sortOn id codes.dedup }

/-! ## What the choice guarantees -/

theorem choosePreferred_eq_none_iff {candidates : List PreferenceCandidate} :
    choosePreferred candidates = none ↔ candidates = [] := minOn?_eq_none_iff

theorem choosePreferred_mem {candidates : List PreferenceCandidate} {winner : PreferenceCandidate}
    (h : choosePreferred candidates = some winner) : winner ∈ candidates := minOn?_mem h

end Dashkoda.Membership
