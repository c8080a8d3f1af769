import Dashkoda.Lib.Calendar
import Dashkoda.Lib.Table
import Dashkoda.Membership.Quality
import Dashkoda.Sources.Registry

/-!
# The internal membership tables

Rows of the Chamber's own membership history and of what one report writes beside them.  Only the
two state fields of a published observation, and of a monthly value, ever move.
-/

open Lib

namespace Dashkoda.Membership

open Sources (Time Registry)

inductive MonthlyValueStatus
  | verified
  | provisionalCurrentMonth
  | conflict
  | manualVerified
  | superseded
  deriving DecidableEq, Repr

inductive MovementDirection
  | joined
  | removed
  deriving DecidableEq, Repr

inductive SizeBand
  | employees1to4
  | employees5to9
  | employees10to19
  | employees20to49
  | employees50to99
  | employees100to249
  | employees250to499
  | employees500to999
  | employees1000Plus
  | supporter
  | groupCompany
  | unknown
  deriving DecidableEq, Repr

namespace SizeBand

def value : SizeBand → String
  | employees1to4 => "employees_1_4"
  | employees5to9 => "employees_5_9"
  | employees10to19 => "employees_10_19"
  | employees20to49 => "employees_20_49"
  | employees50to99 => "employees_50_99"
  | employees100to249 => "employees_100_249"
  | employees250to499 => "employees_250_499"
  | employees500to999 => "employees_500_999"
  | employees1000Plus => "employees_1000_plus"
  | supporter => "supporter"
  | groupCompany => "group_company"
  | unknown => "unknown"

def label : SizeBand → String
  | employees1to4 => "1–4 töötajat"
  | employees5to9 => "5–9 töötajat"
  | employees10to19 => "10–19 töötajat"
  | employees20to49 => "20–49 töötajat"
  | employees50to99 => "50–99 töötajat"
  | employees100to249 => "100–249 töötajat"
  | employees250to499 => "250–499 töötajat"
  | employees500to999 => "500–999 töötajat"
  | employees1000Plus => "1000+ töötajat"
  | supporter => "Toetajaliige"
  | groupCompany => "Grupi ettevõte"
  | unknown => "Suurus teadmata"

end SizeBand

inductive RemovalReasonKey
  | dissolved
  | voluntaryNoValue
  | voluntaryFinancial
  | other
  | unknown
  deriving DecidableEq, Repr

namespace RemovalReasonKey

def value : RemovalReasonKey → String
  | dissolved => "dissolved_bankrupt_merged_inactive_missing"
  | voluntaryNoValue => "voluntary_no_service_value"
  | voluntaryFinancial => "voluntary_debt_financial_or_other"
  | other => "other"
  | unknown => "unknown"

def label : RemovalReasonKey → String
  | dissolved => "Likvideeritud, pankrotis, ühinenud, tegevuseta või kadunud"
  | voluntaryNoValue => "Vabatahtlik: ei näe teenuses väärtust"
  | voluntaryFinancial => "Vabatahtlik: võlgnevus, majanduslik või muu põhjus"
  | other => "Muu"
  | unknown => "Teadmata"

end RemovalReasonKey

/-- `InternalMembershipObservation` -/
structure Observation where
  pk : Nat
  source : Nat
  artifact : Nat
  importRun : Nat
  observationDate : Date
  sourceKind : InternalSourceKind
  reportedYear : Option Nat
  facts : MetricFacts
  extractionConfidence : ExtractionConfidence
  qualityStatus : QualityStatus
  isPreferredForDate : Bool
  supersedes : Option Nat
  sourceDocument : Option Nat
  sourceNote : String
  warningCodes : List String
  publishedAt : Option Time
  deriving DecidableEq

structure SizeMovement where
  observation : Nat
  direction : MovementDirection
  sizeBandKey : SizeBand
  sizeBandLabelRaw : String
  memberCount : Option Nat
  totalReported : Option Nat
  extractionConfidence : ExtractionConfidence
  deriving DecidableEq

structure RemovalReason where
  observation : Nat
  reasonKey : RemovalReasonKey
  reasonLabelRaw : String
  memberCount : Option Nat
  removedTotalReported : Option Nat
  extractionConfidence : ExtractionConfidence
  deriving DecidableEq

/-- `MembershipHistoricalSourceDocument`, with the fields a typed report fills in. -/
structure SourceDocument where
  pk : Nat
  source : Nat
  importRun : Nat
  documentTitle : String
  extractionStatus : String
  observationDate : Option Date
  dateSource : String
  dateConfidence : ExtractionConfidence
  documentYearClaim : Option Nat
  deriving DecidableEq

/-- `MembershipMonthlyNewMemberValue` -/
structure MonthlyValue where
  pk : Nat
  source : Nat
  importRun : Nat
  calendarYear : Nat
  calendarMonth : Nat
  newMembers : Option Nat
  valueStatus : MonthlyValueStatus
  sourceCount : Nat
  isCurrentForMonth : Bool
  deriving DecidableEq

instance : Row Observation := ⟨Observation.pk⟩

instance : Row SourceDocument := ⟨SourceDocument.pk⟩

instance : Row MonthlyValue := ⟨MonthlyValue.pk⟩

structure MembershipDb where
  registry : Registry
  observations : List Observation
  sizeMovements : List SizeMovement
  removalReasons : List RemovalReason
  documents : List SourceDocument
  monthlyValues : List MonthlyValue

def MembershipDb.empty : MembershipDb := ⟨⟨[], []⟩, [], [], [], [], []⟩

inductive MembershipError
  | registry (error : Sources.Exn)
  | manualEntry (message : String)
  | valueError (message : String)
  | integrity (constraint : String)
  | doesNotExist
  | invalidOperation
  deriving DecidableEq, Repr

def nonNegativeOrNull (value : Option Decimal) : Bool :=
  match value with
  | none => true
  | some d => 0 ≤ d.toRat

/-- The first check constraint of the observations table that a row breaks. -/
def Observation.brokenCheck (row : Observation) : Option String :=
  if row.facts.totalMembers = some 0 then
    some "internalobservation_total_positive_when_present"
  else if !nonNegativeOrNull row.facts.membershipFeesReceivedEur then
    some "internalobservation_fees_non_negative"
  else if !nonNegativeOrNull row.facts.membershipFeeBudgetEur then
    some "internalobservation_budget_non_negative"
  else if !nonNegativeOrNull row.facts.membershipFeeCollectionPctReported then
    some "internalobservation_collection_pct_non_negative"
  else none

/-- The first check constraint of the monthly values table that a row breaks. -/
def MonthlyValue.brokenCheck (row : MonthlyValue) : Option String :=
  if row.calendarMonth < 1 ∨ 12 < row.calendarMonth then
    some "membershipmonthly_month_in_range"
  else if row.calendarYear < 1900 then some "membershipmonthly_year_plausible"
  else if row.valueStatus = .conflict ∧ row.newMembers.isSome then
    some "membershipmonthly_conflict_has_no_value"
  else none

/-- Whether the row holds the flag of its date. -/
def Observation.prefersDate (row : Observation) (source : Nat) (date : Date) : Bool :=
  row.source = source && row.observationDate = date && row.isPreferredForDate

/-- Whether the row holds the flag of its month. -/
def MonthlyValue.currentFor (row : MonthlyValue) (source year month : Nat) : Bool :=
  row.source = source && row.calendarYear = year && row.calendarMonth = month &&
    row.isCurrentForMonth

end Dashkoda.Membership
