import Dashkoda.Shop.PackageArchive
import Dashkoda.Visibility.Ga4Paths

/-!
# The tables of the commerce package

Each table has an exact header; its rows are read one after the other, each against those before it.
-/

open Lib

namespace Dashkoda.Shop.Package

open Core (Uncaught)
open Visibility (canonicalPath)

def PRODUCTS_HEADER : List String :=
  ["source_product_id", "product_type", "title", "category_term_id", "category_name", "published",
    "publicly_listed", "list_price_current_net", "member_price_current_net", "members_only",
    "connected_event_node_id", "observed_on"]

def DAILY_FACTS_HEADER : List String :=
  ["report_date", "source_product_id", "commerce_state", "member_status", "payment_class",
    "order_count",
    "units", "ordered_value_net", "currency"]

def DAILY_FACTS_HEADER_V2 : List String := DAILY_FACTS_HEADER ++ ["free_units", "paid_units"]

def PRODUCT_PATHS_HEADER : List String :=
  ["source_product_id", "page_role", "canonical_path", "observed_on"]

def DAILY_ORDERS_HEADER_V2 : List String := ["report_date", "product_type", "distinct_order_count"]

/-- `headers_for`, of the tables there are. -/
def headersFor (name version : String) : Option (List String) :=
  if name = PRODUCTS_NAME then some PRODUCTS_HEADER
  else if name = DAILY_FACTS_NAME then
    some (if version = SPLIT_FROM_VERSION then DAILY_FACTS_HEADER_V2 else DAILY_FACTS_HEADER)
  else if name = PRODUCT_PATHS_NAME then some PRODUCT_PATHS_HEADER
  else if name = DAILY_ORDERS_NAME then some DAILY_ORDERS_HEADER_V2
  else none

def typeOf? (value : String) : Option ProductType :=
  [ProductType.document, .eventRegistration, .physicalProduct].find? (·.value = value)

def statusOf? (value : String) : Option MemberStatus :=
  [MemberStatus.member, .nonMember, .unknown].find? (·.value = value)

def paymentOf? (value : String) : Option PaymentClass :=
  [PaymentClass.invoice, .bankOrCard, .unknown].find? (·.value = value)

def roleOf? (value : String) : Option PageRole :=
  [PageRole.product, .information, .event].find? (·.value = value)

def choice {α : Type} (found : Option α) (message : String) : Reading α :=
  match found with
  | some a => .ok a
  | none => Reading.refuse message

/-! ## Rows -/

/-- A row by the columns of its header; a short row has no value for the last ones. -/
structure TableRow where
  header : List String
  cells : List String

/-- `raw[column]` -/
def TableRow.cell (row : TableRow) (column : String) : Option String :=
  row.cells[row.header.idxOf column]?

/-- What `csv.DictReader` yields behind the header: blank lines are skipped. -/
def dataRows (header : List String) (stream : CsvStream) : List TableRow :=
  ((stream.rows.drop 1).filter (· ≠ [])).map fun cells => ⟨header, cells⟩

/-- `_rows`, until the first row is asked for. -/
def tableStream (libraries : Libraries) (payload : Bytes) (name : String) (expected : List String) :
    Reading CsvStream :=
  match decodeUtf8Sig payload with
  | none => Reading.refuse ("Fail ei ole UTF-8: " ++ name ++ ".")
  | some text =>
    let stream := libraries.csv text
    if stream.rows = [] ∧ stream.raises = true then Reading.escape .csvError
    else
      let actual := stream.rows.headD []
      if actual = expected then .ok stream
      else match actual.filter (· ∉ expected) with
        | [] => Reading.refuse ("Faili " ++ name ++ " päis ei vasta kokkuleppele.")
        | unexpected => Reading.refuse ("Faili " ++ name ++ " päis sisaldab lubamatuid veerge: " ++
            PyText.join ", " (unexpected.take 5) ++ ".")

/-- Reads the rows one after the other; the reader may raise when it is asked for the next one. -/
def forRows {σ : Type} (step : σ → TableRow → Reading σ) (header : List String) (stream : CsvStream)
    (start : σ) :
    Reading σ := do
  let stop ← (dataRows header stream).foldlM step start
  if stream.raises then Reading.escape .csvError else .ok stop

section Tables

variable (libraries : Libraries) (manifest : LoadedManifest)

/-! ## Products -/

structure ProductHead where
  productType : ProductType
  observedOn : Date
  listPrice : Option SignedDecimal
  memberPrice : Option SignedDecimal
  title : String

def productHead (rows : List ProductRow) (row : TableRow) (productId : Nat) :
    Reading ProductHead := do
  Reading.require (productId ∉ rows.map (·.sourceProductId))
    ("Toote source_product_id kordub: " ++ toString productId ++ ".")
  let productType ← requiredText (row.cell "product_type") "product_type"
  let productType ← choice (typeOf? productType)
    ("Tooteliik ei ole e-poe analüütika osa: " ++ productType ++
    ". Lubatud on document, event_registration, physical_product.")
  let observedOn ← requiredDate (row.cell "observed_on") "observed_on"
  Reading.require (observedOn ≤ manifest.dates.sourceAsOf)
    ("Toote vaatluse kuupäev on hilisem kui source_as_of: " ++ observedOn.isoformat ++ ".")
  let listPrice ← optionalDecimal libraries.tables (row.cell "list_price_current_net")
    "list_price_current_net"
  let memberPrice ← optionalDecimal libraries.tables (row.cell "member_price_current_net")
    "member_price_current_net"
  checkedPrice "list_price_current_net" listPrice
  checkedPrice "member_price_current_net" memberPrice
  let title ← requiredText (row.cell "title") "title"
  return ⟨productType, observedOn, listPrice, memberPrice, title⟩

/-- `published`, `publicly_listed` and `members_only` -/
def productFlags (row : TableRow) : Reading (Option Bool × Option Bool × Option Bool) := do
  let published ← optionalBool libraries.tables (row.cell "published") "published"
  let publiclyListed ← optionalBool libraries.tables (row.cell "publicly_listed") "publicly_listed"
  let membersOnly ← optionalBool libraries.tables (row.cell "members_only") "members_only"
  return (published, publiclyListed, membersOnly)

/-- One turn of the loop of `_parse_products`. -/
def productStep (rows : List ProductRow) (row : TableRow) : Reading (List ProductRow) := do
  let productId ← positiveId libraries.tables (row.cell "source_product_id") "source_product_id"
  let head ← productHead libraries manifest rows row productId
  let category ← optionalInt libraries.tables (row.cell "category_term_id") "category_term_id"
  let flags ← productFlags libraries row
  let node ← optionalInt libraries.tables (row.cell "connected_event_node_id")
    "connected_event_node_id"
  return rows ++ [{
    sourceProductId := productId
    productType := head.productType
    title := head.title
    categoryTermId := category
    categoryName := text (row.cell "category_name")
    published := flags.1
    publiclyListed := flags.2.1
    listPriceCurrentNet := head.listPrice
    memberPriceCurrentNet := head.memberPrice
    membersOnly := flags.2.2
    connectedEventNodeId := node
    observedOn := head.observedOn }]

/-- `_parse_products` -/
def parseProducts (payload : Bytes) : Reading (List ProductRow) := do
  let stream ← tableStream libraries payload PRODUCTS_NAME PRODUCTS_HEADER
  let rows ← forRows (productStep libraries manifest) PRODUCTS_HEADER stream []
  Reading.require (rows ≠ []) "Pakett ei sisalda ühtegi toodet."
  return rows

/-! ## Daily facts -/

/-- The day of a fact, whose state and day are checked first. -/
def factDay (row : TableRow) : Reading Date := do
  let state ← requiredText (row.cell "commerce_state") "commerce_state"
  Reading.require (state = REQUIRED_ORDER_STATE)
    ("Ainus lubatud commerce_state on " ++ REQUIRED_ORDER_STATE ++
    ", mitte " ++ state ++ ". field_order_completed ei ole müügiolek.")
  let reportDate ← requiredDate (row.cell "report_date") "report_date"
  Reading.require (reportDate ≤ manifest.dates.coverageEnd)
    ("Päevafakti kuupäev on hilisem kui coverage_end: " ++ reportDate.isoformat ++ ".")
  Reading.require (manifest.dates.coverageStart ≤ reportDate)
    ("Päevafakti kuupäev on varasem kui coverage_start: " ++ reportDate.isoformat ++ ".")
  return reportDate

/-- What a fact is keyed by besides its day and product. -/
structure FactClass where
  memberStatus : MemberStatus
  paymentClass : PaymentClass
  currency : String

def factClass (rows : List DailyFactRow) (row : TableRow) (reportDate : Date) (productId : Nat) :
    Reading FactClass := do
  let status ← requiredText (row.cell "member_status") "member_status"
  let memberStatus ← choice (statusOf? status) ("Tundmatu liikmestaatus: " ++ status ++ ".")
  let payment ← requiredText (row.cell "payment_class") "payment_class"
  let paymentClass ← choice (paymentOf? payment) ("Tundmatu makseviisi klass: " ++ payment ++ ".")
  let currency ← requiredText (row.cell "currency") "currency"
  let currency := libraries.tables.upper currency
  Reading.require (currency = "EUR") ("Tundmatu valuuta: " ++ currency ++ ".")
  Reading.require
      ((reportDate, productId, memberStatus, paymentClass, currency) ∉ rows.map fun row =>
      (row.reportDate, row.sourceProductId, row.memberStatus, row.paymentClass, row.currency))
    ("Päevafakt kordub: " ++ reportDate.isoformat ++ " toode " ++ toString
      productId ++ " " ++ status ++ "/" ++
      payment ++ ".")
  return ⟨memberStatus, paymentClass, currency⟩

/-- The split of a fact's units, where the package has one. -/
def factSplit (row : TableRow) (reportDate : Date) (productId : Nat) (units : SignedDecimal) :
    Reading (Option SignedDecimal × Option SignedDecimal) :=
  if manifest.schemaVersion = SPLIT_FROM_VERSION then do
    let freeUnits ← figure libraries.tables (row.cell "free_units") "free_units"
    let paidUnits ← figure libraries.tables (row.cell "paid_units") "paid_units"
    Reading.require (Decimal.fix (freeUnits.toRat + paidUnits.toRat) ≤ units.toRat)
      ("Tasuta ja tasuliste ühikute summa ületab ühikute arvu: " ++ reportDate.isoformat ++
        " toode " ++
        toString productId ++ ".")
    return (some freeUnits, some paidUnits)
  else .ok (none, none)

/-- What is read of a fact behind its count. -/
def factRow (rows : List DailyFactRow) (row : TableRow) (reportDate : Date) (productId : Nat)
    (fact : FactClass)
    (orderCount : Int) : Reading (List DailyFactRow) := do
  Reading.require (0 ≤ orderCount) "Veerg order_count ei tohi olla negatiivne."
  let units ← figure libraries.tables (row.cell "units") "units"
  let split ← factSplit libraries manifest row reportDate productId units
  let orderedValueNet ← figure libraries.tables (row.cell "ordered_value_net") "ordered_value_net"
  return rows ++
    [⟨reportDate, productId, fact.memberStatus, fact.paymentClass, orderCount.toNat, units,
    orderedValueNet, fact.currency, split.1, split.2⟩]

/-- One turn of the loop of `_parse_daily_facts`. -/
def factStep (rows : List DailyFactRow) (row : TableRow) : Reading (List DailyFactRow) := do
  let reportDate ← factDay manifest row
  let productId ← positiveId libraries.tables (row.cell "source_product_id") "source_product_id"
  let fact ← factClass libraries rows row reportDate productId
  let orderCount ← requiredInt libraries.tables (row.cell "order_count") "order_count"
  factRow libraries manifest rows row reportDate productId fact orderCount

def factsHeader : List String :=
  if manifest.schemaVersion = SPLIT_FROM_VERSION then DAILY_FACTS_HEADER_V2 else DAILY_FACTS_HEADER

/-- `_parse_daily_facts` -/
def parseDailyFacts (payload : Bytes) : Reading (List DailyFactRow) := do
  let stream ← tableStream libraries payload DAILY_FACTS_NAME (factsHeader manifest)
  forRows (factStep libraries manifest) (factsHeader manifest) stream []

/-! ## Daily orders -/

/-- The type of a summary row: blank for all types. -/
def summaryType (value : String) : Reading (Option ProductType) :=
  if value = "" then .ok none
  else (choice (typeOf? value) ("Tundmatu tooteliik kokkuvõttes: " ++ value ++ ".")).map some

/-- What a summary row is keyed by. -/
def orderKey (rows : List DailyOrderRow) (row : TableRow) :
    Reading (Date × Option ProductType) := do
  let reportDate ← requiredDate (row.cell "report_date") "report_date"
  Reading.require (manifest.dates.coverageStart ≤ reportDate ∧
    reportDate ≤ manifest.dates.coverageEnd)
    ("Tellimuste kokkuvõtte kuupäev on väljaspool kaetud perioodi: " ++ reportDate.isoformat ++ ".")
  let value := text (row.cell "product_type")
  let productType ← summaryType value
  Reading.require ((reportDate, productType) ∉ rows.map fun row =>
    (row.reportDate, row.productType))
    ("Tellimuste kokkuvõte kordub: " ++ reportDate.isoformat ++ " " ++
      (if value = "" then "kõik" else value) ++ ".")
  return (reportDate, productType)

/-- One turn of the loop of `_parse_daily_orders`. -/
def orderStep (rows : List DailyOrderRow) (row : TableRow) : Reading (List DailyOrderRow) := do
  let key ← orderKey manifest rows row
  let count ← requiredInt libraries.tables (row.cell "distinct_order_count") "distinct_order_count"
  Reading.require (0 ≤ count) "Veerg distinct_order_count ei tohi olla negatiivne."
  return rows ++ [⟨key.1, key.2, count.toNat⟩]

/-- The rows of one day: a total, and not more than the types have together. -/
def checkDay (rows : List DailyOrderRow) (u : Unit) (reportDate : Date) : Reading Unit := do
  let dayRows := rows.filter (·.reportDate = reportDate)
  match dayRows.find? (·.productType = none) with
  | none =>
    Reading.refuse
      ("Päeval " ++ reportDate.isoformat ++ " puudub kõiki tooteliike hõlmav kokkuvõtte rida.")
  | some total =>
    let byType := ((dayRows.filter (·.productType ≠ none)).map (·.distinctOrderCount)).sum
    Reading.require (byType = 0 ∨ total.distinctOrderCount ≤ byType)
      ("Päeva " ++ reportDate.isoformat ++ " koondarv on suurem kui tooteliikide summa; " ++
        "eri tellimuste arv ei saa ületada ridade summat.")

/-- The days of the rows, each where it is first named. -/
def orderDays (rows : List DailyOrderRow) : List Date :=
  (rows.map (·.reportDate)).reverse.dedup.reverse

/-- `_parse_daily_orders` -/
def parseDailyOrders (payload : Bytes) : Reading (List DailyOrderRow) := do
  let stream ← tableStream libraries payload DAILY_ORDERS_NAME DAILY_ORDERS_HEADER_V2
  let rows ← forRows (orderStep libraries manifest) DAILY_ORDERS_HEADER_V2 stream []
  (orderDays rows).foldlM (checkDay rows) ()
  return rows

/-! ## Product pages -/

def pageAddress (row : TableRow) : Reading (PageRole × String) := do
  let role ← requiredText (row.cell "page_role") "page_role"
  let pageRole ← choice (roleOf? role) ("Tundmatu lehe roll: " ++ role ++ ".")
  let supplied ← requiredText (row.cell "canonical_path") "canonical_path"
  return (pageRole, supplied)

/-- `canonical_path(supplied)`; `urlsplit` may raise. -/
def canonical (supplied : String) : Reading String :=
  match canonicalPath libraries.netlocCheck supplied.toList with
  | some path => .ok (String.ofList path)
  | none => Reading.escape .valueError

/-- What is checked of a page once its path is known. -/
def pageRow (rows : List ProductPathRow) (row : TableRow) (productId : Nat)
    (address : PageRole × String) (path : String) :
    Reading (List ProductPathRow) := do
  Reading.require (path.toList.head? = some '/')
    ("Vigane tee: " ++ libraries.tables.repr (PyText.take 60 address.2) ++ ".")
  Reading.require ((productId, address.1, path) ∉ rows.map fun row =>
    (row.sourceProductId, row.pageRole, row.path))
    ("Toote leht kordub: " ++ toString productId ++ " " ++ address.1.value ++ " " ++ path ++ ".")
  let observedOn ← requiredDate (row.cell "observed_on") "observed_on"
  Reading.require (observedOn ≤ manifest.dates.sourceAsOf)
    ("Lehe vaatluse kuupäev on hilisem kui source_as_of: " ++ observedOn.isoformat ++ ".")
  return rows ++ [⟨productId, address.1, path, observedOn⟩]

/-- One turn of the loop of `_parse_product_paths`. -/
def pageStep (rows : List ProductPathRow) (row : TableRow) : Reading (List ProductPathRow) := do
  let productId ← positiveId libraries.tables (row.cell "source_product_id") "source_product_id"
  let address ← pageAddress row
  let path ← canonical libraries address.2
  pageRow libraries manifest rows row productId address path

/-- `_parse_product_paths` -/
def parseProductPaths (payload : Bytes) : Reading (List ProductPathRow) := do
  let stream ← tableStream libraries payload PRODUCT_PATHS_NAME PRODUCT_PATHS_HEADER
  forRows (pageStep libraries manifest) PRODUCT_PATHS_HEADER stream []

end Tables

/-! ## The package -/

/-- The loops of `_check_references` over facts and pages. -/
def checkKnown (known : List Nat) (message : String) (u : Unit) (productId : Nat) : Reading Unit :=
  Reading.require (productId ∈ known) (message ++ toString productId ++ ".")

/-- The last loop of `_check_references`. -/
def checkRole (roles : List (Nat × PageRole)) (page : ProductPathRow) :
    Reading (List (Nat × PageRole)) := do
  Reading.require ((page.sourceProductId, page.pageRole) ∉ roles)
    ("Tootel " ++ toString page.sourceProductId ++
    " on rollile " ++ page.pageRole.value ++ " mitu teed.")
  return roles ++ [(page.sourceProductId, page.pageRole)]

/-- `_check_references` -/
def checkReferences (package : ParsedPackage) : Reading Unit := do
  let known := package.products.map (·.sourceProductId)
  (package.dailyFacts.map (·.sourceProductId)).foldlM
    (checkKnown known "Päevafakt viitab tundmatule tootele: ") ()
  (package.productPaths.map (·.sourceProductId)).foldlM
    (checkKnown known "Toote leht viitab tundmatule tootele: ") ()
  let _ ← package.productPaths.foldlM checkRole []
  return ()

section ReadPackage

variable (libraries : Libraries) (limits : PackageLimits)

def checkFile (file : Bytes) : Reading Unit := do
  Reading.require (file.length ≠ 0) "Paketifail on tühi."
  Reading.require (file.length ≤ limits.maxPackageBytes) "Paketifail on liiga suur."
  Reading.require (libraries.isZipfile file = true) "Pakett ei ole ZIP-fail."

/-- The payload of a file that is known to be there. -/
def payloadOf (payloads : Dict String Bytes) (name : String) : Bytes := (payloads.get? name).getD []

def optionalOrders (manifest : LoadedManifest) (payloads : Dict String Bytes) :
    Reading (List DailyOrderRow) :=
  match payloads.get? DAILY_ORDERS_NAME with
  | none => .ok []
  | some payload => parseDailyOrders libraries manifest payload

def readTables (file : Bytes) (payloads : Dict String Bytes) (manifest : LoadedManifest) :
    Reading ParsedPackage := do
  let products ← parseProducts libraries manifest (payloadOf payloads PRODUCTS_NAME)
  let dailyFacts ← parseDailyFacts libraries manifest (payloadOf payloads DAILY_FACTS_NAME)
  let productPaths ← parseProductPaths libraries manifest (payloadOf payloads PRODUCT_PATHS_NAME)
  let dailyOrders ← optionalOrders libraries manifest payloads
  return ⟨libraries.sha256 file, file.length, manifest.dates, products, dailyFacts, productPaths,
    dailyOrders⟩

/-- `read_package`, of the bytes of the file. -/
def readPackage (file : Bytes) : Reading ParsedPackage := do
  checkFile libraries limits file
  let infos ← zipRead (libraries.infolist file)
  let payloads ← readMembers limits infos
  let (manifest, listed) ← loadManifest libraries payloads
  verifyManifest libraries payloads listed manifest.schemaVersion
  let parsed ← readTables libraries file payloads manifest
  checkReferences parsed
  return parsed

end ReadPackage

end Dashkoda.Shop.Package
