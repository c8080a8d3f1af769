import Dashkoda.Lib.Calendar
import Dashkoda.Lib.Json
import Dashkoda.Lib.Lineage
import Dashkoda.Lib.SignedDecimal

/-!
# The commerce package and the shop's tables

What one accepted package states, and the rows it is published to.  Figures are rationals in the
tables, rounded to the scale of their column as they are written.
-/

open Lib

namespace Dashkoda.Shop

inductive ProductType
  | document
  | eventRegistration
  | physicalProduct
  deriving DecidableEq, Repr

inductive MemberStatus
  | member
  | nonMember
  | unknown
  deriving DecidableEq, Repr

inductive PaymentClass
  | invoice
  | bankOrCard
  | unknown
  deriving DecidableEq, Repr

inductive PageRole
  | product
  | information
  | event
  deriving DecidableEq, Repr

def ProductType.value : ProductType → String
  | document => "document"
  | eventRegistration => "event_registration"
  | physicalProduct => "physical_product"

def MemberStatus.value : MemberStatus → String
  | member => "member"
  | nonMember => "non_member"
  | unknown => "unknown"

def PaymentClass.value : PaymentClass → String
  | invoice => "invoice"
  | bankOrCard => "bank_or_card"
  | unknown => "unknown"

def PageRole.value : PageRole → String
  | product => "product"
  | information => "information"
  | event => "event"

/-! ## The package -/

structure ProductRow where
  sourceProductId : Nat
  productType : ProductType
  title : String
  categoryTermId : Option Int
  categoryName : String
  published : Option Bool
  publiclyListed : Option Bool
  listPriceCurrentNet : Option SignedDecimal
  memberPriceCurrentNet : Option SignedDecimal
  membersOnly : Option Bool
  connectedEventNodeId : Option Int
  observedOn : Date
  deriving DecidableEq

/-- The currency is `EUR` throughout: the reader accepts no other. -/
structure DailyFactRow where
  reportDate : Date
  sourceProductId : Nat
  memberStatus : MemberStatus
  paymentClass : PaymentClass
  orderCount : Nat
  units : SignedDecimal
  orderedValueNet : SignedDecimal
  currency : String
  freeUnits : Option SignedDecimal
  paidUnits : Option SignedDecimal
  deriving DecidableEq

/-- `DailyFactRow.unknown_units` -/
def DailyFactRow.unknownUnits (row : DailyFactRow) : Option ℚ :=
  match row.freeUnits, row.paidUnits with
  | some free, some paid => some (Decimal.sub (Decimal.sub row.units.toRat free.toRat) paid.toRat)
  | _, _ => none

/-- A blank `productType` counts every type together. -/
structure DailyOrderRow where
  reportDate : Date
  productType : Option ProductType
  distinctOrderCount : Nat
  deriving DecidableEq

structure ProductPathRow where
  sourceProductId : Nat
  pageRole : PageRole
  path : String
  observedOn : Date
  deriving DecidableEq

structure PackageManifest where
  sourceAsOf : Date
  coverageStart : Date
  coverageEnd : Date
  memberSemanticsVerified : Bool
  publicListingSemanticsVerified : Bool
  deriving DecidableEq

structure ParsedPackage where
  packageSha256 : String
  packageSizeBytes : Nat
  manifest : PackageManifest
  products : List ProductRow
  dailyFacts : List DailyFactRow
  productPaths : List ProductPathRow
  dailyOrders : List DailyOrderRow
  deriving DecidableEq

namespace ParsedPackage

def rowCount (package : ParsedPackage) : Nat :=
  package.products.length + package.dailyFacts.length + package.productPaths.length +
    package.dailyOrders.length

/-- The rows of each table under its own key, and the references between them, as `_parse_*` and
`_check_references` let them through. -/
def accepted (package : ParsedPackage) : Bool :=
  (package.products.map (·.sourceProductId)).Nodup &&
  package.products ≠ [] &&
  (package.dailyFacts.map fun row =>
    (row.reportDate, row.sourceProductId, row.memberStatus, row.paymentClass,
      row.currency)).Nodup &&
  (package.dailyOrders.map fun row => (row.reportDate, row.productType)).Nodup &&
  (package.productPaths.map fun row => (row.sourceProductId, row.pageRole)).Nodup &&
  (package.dailyFacts.map (·.sourceProductId) ++ package.productPaths.map (·.sourceProductId)).all
    (· ∈ package.products.map (·.sourceProductId)) &&
  package.productPaths.all (fun row => row.path.toList.head? = some '/') &&
  package.dailyFacts.all (fun row => row.freeUnits.isSome = row.paidUnits.isSome)

end ParsedPackage

/-! ## Columns -/

/-- A figure as a `numeric(digits, places)` column keeps it, or `none` where it overflows. -/
def storeNumeric (digits places : Nat) (q : ℚ) : Option ℚ :=
  let scaled := q * 10 ^ places
  -- PostgreSQL rounds halves away from zero
  let rounded : Int := if 0 ≤ scaled then ⌊scaled + 1 / 2⌋ else -⌊-scaled + 1 / 2⌋
  if rounded.natAbs < 10 ^ digits then some (rounded / 10 ^ places) else none

/-- `MONEY_DIGITS`, `MONEY_PLACES` -/
def storeMoney : ℚ → Option ℚ := storeNumeric 14 4

/-- `QUANTITY_DIGITS`, `QUANTITY_PLACES` -/
def storeQuantity : ℚ → Option ℚ := storeNumeric 12 2

def storeOptional (store : ℚ → Option ℚ) : Option ℚ → Option (Option ℚ)
  | none => some none
  | some q => (store q).map some

def maxInteger : Int := 2147483647

def maxBigInteger : Int := 9223372036854775807

/-- An optional positive integer column. -/
def inRange (maximum : Int) : Option Int → Bool
  | none => true
  | some n => 0 ≤ n && n ≤ maximum

/-! ## The tables -/

structure ShopProduct where
  pk : Nat
  sourceProductId : Nat
  productType : ProductType
  firstSeenOn : Date
  lastSeenOn : Date
  deriving DecidableEq

instance : Row ShopProduct := ⟨ShopProduct.pk⟩

/-- The fields of `_SNAPSHOT_FIELDS`; the currency has its default throughout. -/
structure SnapshotFields where
  title : String
  categoryTermId : Option Int
  categoryName : String
  published : Option Bool
  publiclyListed : Option Bool
  membersOnly : Option Bool
  listPriceNet : Option ℚ
  memberPriceNet : Option ℚ
  connectedEventNodeId : Option Int
  deriving DecidableEq

/-- The fields of `_FACT_FIELDS`. -/
structure FactFields where
  orderCount : Nat
  units : ℚ
  orderedValueNet : ℚ
  freeUnits : Option ℚ
  paidUnits : Option ℚ
  unknownUnits : Option ℚ
  deriving DecidableEq

structure FactKey where
  product : Nat
  reportDate : Date
  memberStatus : MemberStatus
  paymentClass : PaymentClass
  currency : String
  deriving DecidableEq

/-- A published row of one natural key: a product snapshot, a daily fact or a daily summary. -/
structure RevisedRow (κ φ : Type) where
  pk : Nat
  key : κ
  fields : φ
  isCurrent : Bool
  supersedes : Option Nat
  importRun : Nat
  deriving DecidableEq

instance {κ φ : Type} : Revised (RevisedRow κ φ) κ where
  pk := RevisedRow.pk
  key := RevisedRow.key
  isCurrent := RevisedRow.isCurrent
  setCurrent flag row := { row with isCurrent := flag }
  pk_setCurrent _ _ := rfl
  key_setCurrent _ _ := rfl
  isCurrent_setCurrent _ _ := rfl

/-- Keyed by product and day. -/
abbrev ShopProductSnapshot := RevisedRow (Nat × Date) SnapshotFields

abbrev ShopDailyFact := RevisedRow FactKey FactFields

/-- Keyed by day and type; the figure is the number of distinct orders. -/
abbrev ShopDailySummary := RevisedRow (Date × Option ProductType) Nat

structure ShopProductPage where
  pk : Nat
  product : Nat
  pageRole : PageRole
  path : String
  firstSeenOn : Date
  lastSeenOn : Date
  isCurrent : Bool
  importRun : Nat
  deriving DecidableEq

instance : Row ShopProductPage := ⟨ShopProductPage.pk⟩

structure ShopSourceState where
  pk : Nat
  source : Nat
  importRun : Nat
  manifest : PackageManifest
  contentChecksum : String
  productCount : Nat
  factCount : Nat
  pageCount : Nat
  isCurrent : Bool
  deriving DecidableEq

instance : Row ShopSourceState := ⟨ShopSourceState.pk⟩

end Dashkoda.Shop
