import Dashkoda.Core.PublicFeed
import Dashkoda.Lib.Column
import Dashkoda.Shop.Models

/-!
# Publishing a commerce package

`import_shop_package` and its writers.  Every table of rows is revised by its natural key; the
page mapping keeps each address a product ever had.
-/

open Lib

namespace Dashkoda.Shop

open Sources (Exn ImportRun JsonObject Registry SourceArtifact Time)

inductive ShopExn
  | importError (message : String)
  | integrityError (constraint : String)
  | dataError (column : String)
  | keyError (sourceProductId : Nat)
  | registry (error : Exn)
  deriving DecidableEq, Repr

/-- `str(error)` -/
def ShopExn.message : ShopExn → String
  | importError message => message
  | integrityError constraint => constraint
  | dataError column => column
  | keyError sourceProductId => toString sourceProductId
  | registry error => error.typeName

def ShopExn.typeName : ShopExn → String
  | importError _ => "ShopImportError"
  | integrityError _ => "IntegrityError"
  | dataError _ => "DataError"
  | keyError _ => "KeyError"
  | registry error => error.typeName

/-! ## What the columns keep -/

def columnValue {α : Type} (column : String) : Option α → Except ShopExn α
  | some value => .ok value
  | none => .error (.dataError column)

def requireColumn (column : String) (fits : Bool) : Except ShopExn Unit :=
  if fits then .ok () else .error (.dataError column)

def textValue (column : String) : Except ColumnError String → Except ShopExn String
  | .ok text => .ok text
  | .error _ => .error (.dataError column)

def SnapshotFields.columns (fields : SnapshotFields) : Except ShopExn SnapshotFields := do
  requireColumn "title" ('\x00' ∉ fields.title.toList)
  requireColumn "category_term_id" (inRange maxInteger fields.categoryTermId)
  let categoryName ← textValue "category_name" (Column.varchar 200 fields.categoryName)
  requireColumn "connected_event_node_id" (inRange maxBigInteger fields.connectedEventNodeId)
  let listPriceNet ← columnValue "list_price_net" (storeOptional storeMoney fields.listPriceNet)
  let memberPriceNet ← columnValue "member_price_net"
    (storeOptional storeMoney fields.memberPriceNet)
  return { fields with categoryName, listPriceNet, memberPriceNet }

def FactFields.columns (fields : FactFields) : Except ShopExn FactFields := do
  requireColumn "order_count" (fields.orderCount ≤ maxInteger)
  let units ← columnValue "units" (storeQuantity fields.units)
  let orderedValueNet ← columnValue "ordered_value_net" (storeMoney fields.orderedValueNet)
  let freeUnits ← columnValue "free_units" (storeOptional storeQuantity fields.freeUnits)
  let paidUnits ← columnValue "paid_units" (storeOptional storeQuantity fields.paidUnits)
  let unknownUnits ← columnValue "unknown_units" (storeOptional storeQuantity fields.unknownUnits)
  return { fields with units, orderedValueNet, freeUnits, paidUnits, unknownUnits }

def summaryColumns (distinctOrderCount : Nat) : Except ShopExn Nat := do
  requireColumn "distinct_order_count" (distinctOrderCount ≤ maxInteger)
  return distinctOrderCount

/-! ## The writers -/

/-- One product the package observes again. -/
def observeProduct (products : List ShopProduct) (row : ProductRow) :
    Except ShopExn (List ShopProduct) :=
  match products.find? (·.sourceProductId = row.sourceProductId) with
  | none => .ok products
  | some found =>
    if found.productType ≠ row.productType then
      .error (.importError ("Toote " ++ toString row.sourceProductId ++ " liik muutus " ++
        found.productType.value ++ " → " ++ row.productType.value ++ ". Sama ID, teine toode."))
    else if found.lastSeenOn < row.observedOn then
      .ok (Table.save products { found with lastSeenOn := row.observedOn })
    else .ok products

def newProduct (pk : Nat) (row : ProductRow) : ShopProduct :=
  ⟨pk, row.sourceProductId, row.productType, row.observedOn, row.observedOn⟩

/-- `_write_products` -/
def writeProducts (package : ParsedPackage) (products : List ShopProduct) :
    Except ShopExn (List ShopProduct) := do
  let observed ← package.products.foldlM observeProduct products
  let created := package.products.filter fun row =>
    !products.any (·.sourceProductId = row.sourceProductId)
  requireColumn "source_product_id" (created.all fun row => row.sourceProductId ≤ maxBigInteger)
  return observed ++ created.mapIdx fun i row => newProduct (Table.nextPk observed + i) row

/-- `products[row.source_product_id].pk` -/
def productPk (products : List ShopProduct) (sourceProductId : Nat) : Except ShopExn Nat :=
  match products.find? (·.sourceProductId = sourceProductId) with
  | some product => .ok product.pk
  | none => .error (.keyError sourceProductId)

section Revise

variable {κ φ : Type} [DecidableEq κ] [DecidableEq φ]

/-- A stated row that the current row of its key does not state yet, and the row it replaces. -/
def changed (rows : List (RevisedRow κ φ)) (stated : List (κ × φ)) : List (κ × φ × Option Nat) :=
  stated.filterMap fun (key, fields) =>
    match Lineage.current? key rows with
    | none => some (key, fields, none)
    | some found => if found.fields = fields then none else some (key, fields, some found.pk)

def storeChange (columns : φ → Except ShopExn φ) (change : κ × φ × Option Nat) :
    Except ShopExn (κ × φ × Option Nat) := do
  let fields ← columns change.2.1
  return (change.1, fields, change.2.2)

def revisedRow (run pk : Nat) (change : κ × φ × Option Nat) : RevisedRow κ φ :=
  ⟨pk, change.1, change.2.1, true, change.2.2, run⟩

/-- The common body of `_write_snapshots`, `_write_facts` and `_write_summaries`: retire what
changed and create its successors, under the constraint of one current row for each key. -/
def reviseRows (constraint : String) (columns : φ → Except ShopExn φ) (run : Nat)
    (stated : List (κ × φ)) (rows : List (RevisedRow κ φ)) :
    Except ShopExn (List (RevisedRow κ φ) × Nat) := do
  let changes ← (changed rows stated).mapM (storeChange columns)
  let created := changes.mapIdx fun i change => revisedRow run (Table.nextPk rows + i) change
  let rows' : List (RevisedRow κ φ) := Lineage.revise (changes.filterMap (·.2.2)) created rows
  if ((rows'.filter RevisedRow.isCurrent).map
    RevisedRow.key).Nodup then return (rows', created.length)
  else throw (.integrityError constraint)

end Revise

def ProductRow.fields (row : ProductRow) : SnapshotFields where
  title := row.title
  categoryTermId := row.categoryTermId
  categoryName := row.categoryName
  published := row.published
  publiclyListed := row.publiclyListed
  membersOnly := row.membersOnly
  listPriceNet := row.listPriceCurrentNet.map SignedDecimal.toRat
  memberPriceNet := row.memberPriceCurrentNet.map SignedDecimal.toRat
  connectedEventNodeId := row.connectedEventNodeId

def DailyFactRow.fields (row : DailyFactRow) : FactFields where
  orderCount := row.orderCount
  units := row.units.toRat
  orderedValueNet := row.orderedValueNet.toRat
  freeUnits := row.freeUnits.map SignedDecimal.toRat
  paidUnits := row.paidUnits.map SignedDecimal.toRat
  unknownUnits := row.unknownUnits

def DailyFactRow.key (row : DailyFactRow) (product : Nat) : FactKey :=
  ⟨product, row.reportDate, row.memberStatus, row.paymentClass, row.currency⟩

def statedSnapshots (package : ParsedPackage) (products : List ShopProduct) :
    Except ShopExn (List ((Nat × Date) × SnapshotFields)) :=
  package.products.mapM fun row => do
    return ((← productPk products row.sourceProductId, row.observedOn), row.fields)

def statedFacts (package : ParsedPackage) (products : List ShopProduct) :
    Except ShopExn (List (FactKey × FactFields)) :=
  package.dailyFacts.mapM fun row => do
    return (row.key (← productPk products row.sourceProductId), row.fields)

def statedSummaries (package : ParsedPackage) : List ((Date × Option ProductType) × Nat) :=
  package.dailyOrders.map fun row => ((row.reportDate, row.productType), row.distinctOrderCount)

def writeSnapshots (package : ParsedPackage) (products : List ShopProduct) (run : Nat)
    (rows : List ShopProductSnapshot) : Except ShopExn (List ShopProductSnapshot × Nat) := do
  reviseRows "shopproductsnapshot_one_current_per_day" SnapshotFields.columns run
    (← statedSnapshots package products) rows

def writeFacts (package : ParsedPackage) (products : List ShopProduct) (run : Nat)
    (rows : List ShopDailyFact) : Except ShopExn (List ShopDailyFact × Nat) := do
  reviseRows "shopdailyfact_one_current_per_cell" FactFields.columns run
    (← statedFacts package products) rows

def writeSummaries (package : ParsedPackage) (run : Nat) (rows : List ShopDailySummary) :
    Except ShopExn (List ShopDailySummary × Nat) :=
  reviseRows "shopdailysummary_one_current_per_day_and_type" summaryColumns run
    (statedSummaries package) rows

/-! ### Pages -/

/-- What the loop of `_write_paths` has saved, and what it still has to retire and create. -/
structure PathWork where
  pages : List ShopProductPage
  retired : List Nat
  created : List (Nat × ProductPathRow)

def holdsRole (product : Nat) (role : PageRole) (page : ShopProductPage) : Bool :=
  page.product = product && page.pageRole = role && page.isCurrent

/-- Save a page over its own row, under the constraint of one current page for each role. -/
def savePage (pages : List ShopProductPage) (page : ShopProductPage) :
    Except ShopExn (List ShopProductPage) :=
  if page.isCurrent && pages.any fun other =>
      holdsRole page.product page.pageRole other && other.pk != page.pk then
    .error (.integrityError "shopproductpage_one_current_per_role")
  else .ok (Table.save pages page)

def writePath (work : PathWork) (wanted : Nat × ProductPathRow) : Except ShopExn PathWork :=
  let (product, row) := wanted
  match work.pages.find? fun page =>
      page.product = product && page.pageRole = row.pageRole && page.path = row.path with
  | some found =>
    if !found.isCurrent || found.lastSeenOn < row.observedOn then
      (savePage work.pages { found with
        isCurrent := true
        lastSeenOn := max found.lastSeenOn row.observedOn }).map fun pages => { work with pages }
    else .ok work
  | none =>
    -- a different path for this role: whatever holds it now is retired after the loop
    .ok { work with
      retired := work.retired ++ (work.pages.filter (holdsRole product row.pageRole)).map (·.pk)
      created := work.created ++ [wanted] }

def newPage (run pk : Nat) (wanted : Nat × ProductPathRow) : ShopProductPage :=
  ⟨pk, wanted.1, wanted.2.pageRole, wanted.2.path, wanted.2.observedOn,
    wanted.2.observedOn, true, run⟩

def retirePage (page : ShopProductPage) : ShopProductPage := { page with isCurrent := false }

/-- A stated page with its path as the column keeps it. -/
def storePath (wanted : Nat × ProductPathRow) : Except ShopExn (Nat × ProductPathRow) := do
  let path ← textValue "path" (Column.varchar 500 wanted.2.path)
  return (wanted.1, { wanted.2 with path })

/-- The columns and the constraints `bulk_create` meets. -/
def createPages (run : Nat) (created : List (Nat × ProductPathRow)) (pages : List ShopProductPage) :
    Except ShopExn (List ShopProductPage) := do
  let stored ← created.mapM storePath
  let pages' := pages ++ stored.mapIdx fun i wanted => newPage run (Table.nextPk pages + i) wanted
  if ¬ (pages'.map fun page => (page.product, page.pageRole, page.path)).Nodup then
    throw (.integrityError "shopproductpage_unique_product_role_path")
  else if ¬ ((pages'.filter (·.isCurrent)).map fun page => (page.product, page.pageRole)).Nodup then
    throw (.integrityError "shopproductpage_one_current_per_role")
  else return pages'

def wantedPaths (package : ParsedPackage) (products : List ShopProduct) :
    Except ShopExn (List (Nat × ProductPathRow)) :=
  package.productPaths.mapM fun row => do
    return (← productPk products row.sourceProductId, row)

/-- `_write_paths`; the reader refuses two paths for one role, so that the stated rows are the
entries of `wanted`. -/
def writePaths (package : ParsedPackage) (products : List ShopProduct) (run : Nat)
    (pages : List ShopProductPage) : Except ShopExn (List ShopProductPage × Nat) := do
  let wanted ← wantedPaths package products
  let work ← wanted.foldlM writePath ⟨pages, [], []⟩
  let retired := Table.updateWhere (·.pk ∈ work.retired) retirePage work.pages
  let pages' ← createPages run work.created retired
  return (pages', wanted.length)

/-! ## The content checksum -/

def PACKAGE_SCHEMA_VERSION : String := "2.0"

def IMPORTER_NAME : String := "shop_commerce_snapshot"

structure PackageContent where
  manifest : PackageManifest
  products : List ProductRow
  dailyFacts : List DailyFactRow
  dailyOrders : List DailyOrderRow
  productPaths : List ProductPathRow
  deriving DecidableEq

/-- ISO dates are zero-padded, so that their texts sort as the dates do. -/
def ParsedPackage.content (package : ParsedPackage) : PackageContent where
  manifest := package.manifest
  products := sortOn (·.sourceProductId) package.products
  dailyFacts := sortOn (fun row => toLex (row.reportDate, toLex (row.sourceProductId,
    toLex (row.memberStatus.value, toLex (row.paymentClass.value, row.currency)))))
      package.dailyFacts
  dailyOrders := sortOn (fun row => toLex (row.reportDate, (row.productType.map
    ProductType.value).getD "")) package.dailyOrders
  productPaths := sortOn (fun row => toLex (row.sourceProductId,
    toLex (row.pageRole.value, row.path))) package.productPaths

def jsonDecimal : Option SignedDecimal → Json := Json.ofOption fun value => .str value.str

def jsonDate (date : Date) : Json := .str date.isoformat

def PackageManifest.json (manifest : PackageManifest) : Json :=
  .obj [("source_as_of", jsonDate manifest.sourceAsOf),
    ("coverage_start", jsonDate manifest.coverageStart),
    ("coverage_end", jsonDate manifest.coverageEnd),
    ("money_basis", .str "net_ex_vat"), ("order_state_filter", .str "completed"),
    ("timezone", .str "Europe/Tallinn"),
    ("member_semantics_verified", .bool manifest.memberSemanticsVerified),
    ("public_listing_semantics_verified", .bool manifest.publicListingSemanticsVerified)]

def ProductRow.json (row : ProductRow) : Json :=
  .arr [.int row.sourceProductId, .str row.productType.value, .str row.title,
    Json.ofOption .int row.categoryTermId, .str row.categoryName, Json.ofOption .bool row.published,
    Json.ofOption .bool row.publiclyListed, jsonDecimal row.listPriceCurrentNet,
    jsonDecimal row.memberPriceCurrentNet, Json.ofOption .bool row.membersOnly,
    Json.ofOption .int row.connectedEventNodeId, jsonDate row.observedOn]

def DailyFactRow.json (row : DailyFactRow) : Json :=
  .arr [jsonDate row.reportDate, .int row.sourceProductId, .str row.memberStatus.value,
    .str row.paymentClass.value, .int row.orderCount, .str row.units.str,
    .str row.orderedValueNet.str, .str row.currency, jsonDecimal row.freeUnits,
    jsonDecimal row.paidUnits]

def DailyOrderRow.json (row : DailyOrderRow) : Json :=
  .arr [jsonDate row.reportDate, .str ((row.productType.map ProductType.value).getD ""),
    .int row.distinctOrderCount]

def ProductPathRow.json (row : ProductPathRow) : Json :=
  .arr [.int row.sourceProductId, .str row.pageRole.value, .str row.path, jsonDate row.observedOn]

def PackageContent.canonical (content : PackageContent) : Json :=
  .obj [("schema_version", .str PACKAGE_SCHEMA_VERSION),
    ("manifest", content.manifest.json),
    ("products", .arr (content.products.map ProductRow.json)),
    ("daily_facts", .arr (content.dailyFacts.map DailyFactRow.json)),
    ("daily_orders", .arr (content.dailyOrders.map DailyOrderRow.json)),
    ("product_paths", .arr (content.productPaths.map ProductPathRow.json))]

/-! ## The import -/

structure ShopDb where
  registry : Registry
  clock : Time
  products : List ShopProduct
  snapshots : List ShopProductSnapshot
  pages : List ShopProductPage
  facts : List ShopDailyFact
  summaries : List ShopDailySummary
  states : List ShopSourceState
  deriving DecidableEq

def ShopDb.empty : ShopDb := ⟨⟨[], []⟩, 0, [], [], [], [], [], []⟩

structure ShopImportResult where
  importRun : Nat
  dryRun : Bool
  unchanged : Bool
  contentChecksum : String
  deriving DecidableEq, Repr

abbrev ShopRun := Proc ShopExn ShopDb

def onRegistry {α : Type} (call : Proc Exn Registry α) : ShopRun α :=
  Proc.onPart ShopDb.registry (fun registry db => { db with registry }) .registry call

def retireState (state : ShopSourceState) : ShopSourceState := { state with isCurrent := false }

/-- `_write_state` -/
def writeState (source run : Nat) (checksum : String) (package : ParsedPackage)
    (states : List ShopSourceState) : List ShopSourceState :=
  Table.updateWhere (fun state => state.source = source && state.isCurrent) retireState states ++
    [⟨Table.nextPk states, source, run, package.manifest, checksum, package.products.length,
      package.dailyFacts.length, package.productPaths.length, true⟩]

/-- Everything the publishing transaction writes besides the run; the number of rows it wrote. -/
def writePackage (source run : Nat) (checksum : String) (package : ParsedPackage) (db : ShopDb) :
    Except ShopExn (ShopDb × Nat) := do
  let products ← writeProducts package db.products
  let (snapshots, snapshotCount) ← writeSnapshots package products run db.snapshots
  let (pages, pageCount) ← writePaths package products run db.pages
  let (facts, factCount) ← writeFacts package products run db.facts
  let (summaries, summaryCount) ← writeSummaries package run db.summaries
  return ({ db with
    products
    snapshots
    pages
    facts
    summaries
    states := writeState source run checksum package db.states },
    snapshotCount + pageCount + factCount + summaryCount)

def publishPackage (source : Nat) (run : ImportRun) (checksum : String) (package : ParsedPackage) :
    ShopRun Unit :=
  Proc.atomically do
    let rowsAdded ← Proc.service fun db => writePackage source run.pk checksum package db
    let now := (← get).clock
    onRegistry (Core.completeRun run now ⟨rowsAdded, 0, 0, []⟩)

section Import

variable (digestBytes : List UInt8 → String) (source : Nat)

def contentChecksum (package : ParsedPackage) : String :=
  (Core.canonicalChecksum digestBytes package.content.canonical).sha256

def importKey (package : ParsedPackage) : String :=
  Core.digestText digestBytes
    (Sources.importKeyText IMPORTER_NAME PACKAGE_SCHEMA_VERSION package.packageSha256)

/-- `_current_state` -/
def currentState (db : ShopDb) : Option ShopSourceState := db.states.find? (·.isCurrent)

/-- `_existing_successful_run` -/
def existingSuccessfulRun (db : ShopDb) (key : String) : Option ImportRun :=
  db.registry.runs.find? fun run => run.isSuccessfulLive && run.importKey = key

/-- The run that an import which has nothing to publish is answered with. -/
def unchangedRun (db : ShopDb) (package : ParsedPackage) : Option Nat :=
  match existingSuccessfulRun db (importKey digestBytes package) with
  | some run => some run.pk
  | none =>
    match currentState db with
    | some state =>
      if state.contentChecksum = contentChecksum digestBytes package then some state.importRun
      else none
    | none => none

def sanitized (error : ShopExn) : JsonObject :=
  [("type", error.typeName), ("message", PyText.take 300
    ((PyText.strip error.message).map fun c => if c = '\n' then ' ' else c))]

/-- Open the run, publish under it or close it untouched, and record a failure. -/
def runImport (package : ParsedPackage) (dryRun : Bool) : ShopRun ShopImportResult := do
  let db ← get
  let checksum := contentChecksum digestBytes package
  let artifact := (Core.findPublishedArtifact db.registry source package.packageSha256
    IMPORTER_NAME).1
  let (_, run) ← onRegistry (Core.startRun (Core.digestText digestBytes) source
    ⟨package.packageSha256, package.packageSizeBytes⟩ artifact IMPORTER_NAME PACKAGE_SCHEMA_VERSION
    dryRun db.clock)
  tryCatch (do
      if dryRun then onRegistry (Core.completeRun run db.clock ⟨0, package.rowCount, 0, []⟩)
      else publishPackage source run checksum package
      return ⟨run.pk, dryRun, false, checksum⟩)
    fun error => do
      onRegistry (Core.failPublication run db.clock [sanitized error])
      throw (.importError error.message)

/-- `import_shop_package`, of a package the reader accepted. -/
def importShopPackage (package : ParsedPackage) (dryRun : Bool) : ShopRun ShopImportResult := do
  let db ← get
  match if dryRun then none else unchangedRun digestBytes db package with
  | some run => return ⟨run, false, true, contentChecksum digestBytes package⟩
  | none => runImport digestBytes source package dryRun

end Import

end Dashkoda.Shop
