import Dashkoda.Lib.Dict
import Dashkoda.Lib.UrlSplit
import Dashkoda.Shop.PackageCells

/-!
# The archive of the commerce package

The members of the archive under their normalised names, and the manifest that lists them.
-/

open Lib

namespace Dashkoda.Shop.Package

open Core (Uncaught JsonValue JsonDict Loaded)

abbrev Bytes := List UInt8

def MANIFEST_NAME : String := "manifest.json"
def PRODUCTS_NAME : String := "products.csv"
def DAILY_FACTS_NAME : String := "daily_facts.csv"
def PRODUCT_PATHS_NAME : String := "product_paths.csv"
def DAILY_ORDERS_NAME : String := "daily_orders.csv"

def SUPPORTED_MANIFEST_SCHEMA_VERSIONS : List String := ["1.0", "2.0"]
def SPLIT_FROM_VERSION : String := "2.0"
def MAX_COMPRESSION_RATIO : Nat := 200
def REQUIRED_MONEY_BASIS : String := "net_ex_vat"
def REQUIRED_ORDER_STATE : String := "completed"
def REQUIRED_TIMEZONE : String := "Europe/Tallinn"

structure PackageLimits where
  maxPackageBytes : Nat
  maxUncompressedBytes : Nat
  maxMemberBytes : Nat
  maxMembers : Nat

/-- The defaults of `PackageLimits`. -/
def defaultLimits : PackageLimits := ⟨25 * 1024 * 1024, 200 * 1024 * 1024, 100 * 1024 * 1024, 16⟩

/-- The `zipfile` library raises `BadZipFile`, or an encrypted or unknown member makes it raise
something else. -/
inductive ZipExn
  | badZipFile
  | other

/-- `zipfile.ZipInfo`, and what reading the member gives. -/
structure ZipInfo where
  filename : String
  externalAttr : Nat
  fileSize : Nat
  compressSize : Nat
  content : Except ZipExn Bytes

/-- The rows `csv.reader` yields, and whether it raises `csv.Error` after them. -/
structure CsvStream where
  rows : List (List String)
  raises : Bool

structure Libraries where
  isZipfile : Bytes → Bool
  infolist : Bytes → Except ZipExn (List ZipInfo)
  sha256 : Bytes → String
  loads : String → Loaded
  repr : JsonValue → String
  csv : String → CsvStream
  tables : TextTables
  netlocCheck : NetlocCheck

/-- `zipfile.BadZipFile` is turned into the contract's error. -/
def zipRead {α : Type} : Except ZipExn α → Reading α
  | .ok a => .ok a
  | .error .badZipFile => Reading.refuse "Pakett on vigane ZIP-fail."
  | .error .other => Reading.escape .zipError

/-! ## The members -/

/-- `_is_symlink` -/
def isSymlink (info : ZipInfo) : Bool := (info.externalAttr >>> 16) &&& 0o170000 = 0o120000

def isDirectory (rawName : String) : Bool := rawName.toList.getLast? = some '/'

/-- The parts of a relative `PurePosixPath`. -/
def pathParts (rawName : String) : List String :=
  ((rawName.toList.splitOn '/').map String.ofList).filter fun part => part ≠ "" ∧ part ≠ "."

def joinedParts (rawName : String) : String := PyText.join "/" (pathParts rawName)

/-- `_safe_relative_name`; a directory has none. -/
def safeRelativeName (rawName : String) : Reading (Option String) :=
  if isDirectory rawName then .ok none
  else if '\\' ∈ rawName.toList ∨ rawName.toList.head? = some '/' ∨ ".." ∈ pathParts rawName then
    Reading.refuse "Pakett sisaldab lubamatut failiteed."
  else .ok (some (joinedParts rawName))

def checkSizes (limits : PackageLimits) (info : ZipInfo) : Reading Unit := do
  Reading.require (info.fileSize ≤ limits.maxMemberBytes) "Paketi fail on liiga suur."
  Reading.require
    (info.compressSize = 0 ∨ info.fileSize ≤ MAX_COMPRESSION_RATIO * info.compressSize)
    "Paketi fail on kahtlaselt tugevalt pakitud."

/-- One turn of the first loop of `_read_members`. -/
def nameMember (limits : PackageLimits) (named : Dict String ZipInfo) (info : ZipInfo) :
    Reading (Dict String ZipInfo) := do
  Reading.require (isSymlink info = false) "Pakett sisaldab nimeviidet."
  match ← safeRelativeName info.filename with
  | none => return named
  | some name =>
    checkSizes limits info
    return named.set name info

/-- The first segment of a name that has several. -/
def rootOf (name : String) : Option String :=
  if '/' ∈ name.toList then some (String.ofList (name.toList.takeWhile (· ≠ '/'))) else none

/-- `_strip_root_prefix` -/
def stripRoot (names : List String) : Reading String :=
  if MANIFEST_NAME ∈ names.filter (fun name => rootOf name = none) then .ok ""
  else match (names.filterMap rootOf).dedup with
    | [root] => .ok (root ++ "/")
    | _ => Reading.refuse "Paketi struktuur ei ole ootuspärane: manifest.json puudub juurest."

/-- What is read of the members so far, and how many bytes it is. -/
structure Extracted where
  payloads : Dict String Bytes
  total : Nat

/-- One turn of the second loop of `_read_members`. -/
def extract (limits : PackageLimits) (root : String) (extracted : Extracted)
    (member : String × ZipInfo) :
    Reading Extracted := do
  Reading.require (root.toList <+: member.1.toList) "Pakett sisaldab mitut juurkataloogi."
  let payload ← zipRead member.2.content
  Reading.require (payload.length = member.2.fileSize)
    "Paketi faili tegelik suurus ei vasta deklareeritule."
  let total := extracted.total + payload.length
  Reading.require (total ≤ limits.maxUncompressedBytes) "Paketi lahtipakitud maht on liiga suur."
  return ⟨extracted.payloads.set (String.ofList (member.1.toList.drop root.length)) payload, total⟩

/-- The members by name, with the checks before any of them is read. -/
def nameMembers (limits : PackageLimits) (infos : List ZipInfo) :
    Reading (Dict String ZipInfo × String) := do
  Reading.require (infos.length ≤ limits.maxMembers) "Pakett sisaldab liiga palju faile."
  let named ← infos.foldlM (nameMember limits) Dict.empty
  Reading.require ((named.values.map ZipInfo.fileSize).sum ≤ limits.maxUncompressedBytes)
    "Paketi lahtipakitud maht on liiga suur."
  let root ← stripRoot named.keys
  return (named, root)

/-- `_read_members` -/
def readMembers (limits : PackageLimits) (infos : List ZipInfo) : Reading (Dict String Bytes) := do
  let (named, root) ← nameMembers limits infos
  let extracted ← named.entries.foldlM (extract limits root) ⟨Dict.empty, 0⟩
  return extracted.payloads

/-! ## The manifest -/

/-- What `_load_manifest` returns besides the listed files. -/
structure LoadedManifest where
  schemaVersion : String
  sourceName : String
  exportedAt : String
  timezone : String
  moneyBasis : String
  orderStateFilter : String
  dates : PackageManifest
  deriving DecidableEq

abbrev Listed := List (String × JsonDict)

section Manifest

variable (libraries : Libraries)

/-- `f"… {value or '-'}"` -/
def orDash (value : String) : String := if value = "" then "-" else value

/-- `str(raw.get(key, "")).strip()` -/
def declared (fields : JsonDict) (key : String) : String :=
  PyText.strip ((fields.getD key (.str "")).asText libraries.repr)

/-- `payload.decode("utf-8-sig")` -/
def decodeUtf8Sig (payload : Bytes) : Option String :=
  let body := if [0xef, 0xbb, 0xbf] <+: payload then payload.drop 3 else payload
  String.fromUTF8? ⟨body.toArray⟩

def manifestValue (payloads : Dict String Bytes) : Reading JsonValue :=
  match payloads.get? MANIFEST_NAME with
  | none => Reading.refuse "Paketist puudub manifest.json."
  | some payload =>
    match (decodeUtf8Sig payload).map libraries.loads with
    | some (.value value) => .ok value
    | some (.raised exn) => Reading.escape exn
    | _ => Reading.refuse "Manifest ei ole loetav JSON."

/-- `raw.get` is there only on a dictionary. -/
def manifestFields : JsonValue → Reading JsonDict
  | .dict fields => .ok fields
  | _ => Reading.escape .attributeError

/-- `_manifest_date` -/
def manifestDate (fields : JsonDict) (key : String) : Reading Date :=
  let value := declared libraries fields key
  if value = "" then Reading.refuse ("Manifestis puudub " ++ key ++ ".")
  else match Date.fromisoformat value with
    | some date => .ok date
    | none => Reading.refuse ("Manifesti " ++ key ++ " peab olema kujul AAAA-KK-PP.")

def manifestHead (fields : JsonDict) : Reading LoadedManifest := do
  let version := declared libraries fields "schema_version"
  Reading.require (version ∈ SUPPORTED_MANIFEST_SCHEMA_VERSIONS)
    ("Manifesti skeemi versioon ei ole toetatud: " ++ orDash version ++ ".")
  let moneyBasis := declared libraries fields "money_basis"
  Reading.require (moneyBasis = REQUIRED_MONEY_BASIS) ("Manifest peab deklareerima money_basis=" ++
    REQUIRED_MONEY_BASIS ++ ", mitte " ++ orDash moneyBasis ++ ".")
  let orderState := declared libraries fields "order_state_filter"
  Reading.require (orderState = REQUIRED_ORDER_STATE)
    ("Manifest peab deklareerima order_state_filter=" ++
    REQUIRED_ORDER_STATE ++ " (Commerce'i tellimuse olek, mitte field_order_completed), mitte " ++
    orDash orderState ++ ".")
  let zone := declared libraries fields "timezone"
  Reading.require (zone = REQUIRED_TIMEZONE)
    ("Manifest peab deklareerima timezone=" ++ REQUIRED_TIMEZONE ++
    ", mitte " ++ orDash zone ++ ".")
  let sourceAsOf ← manifestDate libraries fields "source_as_of"
  let coverageStart ← manifestDate libraries fields "coverage_start"
  let coverageEnd ← manifestDate libraries fields "coverage_end"
  Reading.require (coverageStart ≤ coverageEnd)
    "Manifesti coverage_start on hilisem kui coverage_end."
  Reading.require (coverageEnd ≤ sourceAsOf) "Manifesti coverage_end on hilisem kui source_as_of."
  return {
    schemaVersion := version
    sourceName := declared libraries fields "source_name"
    exportedAt := declared libraries fields "exported_at"
    timezone := zone
    moneyBasis := moneyBasis
    orderStateFilter := orderState
    dates := ⟨sourceAsOf, coverageStart, coverageEnd,
      (fields.getD "member_semantics_verified" (.bool false)).truthy,
      (fields.getD "public_listing_semantics_verified" (.bool false)).truthy⟩ }

/-- `_text` of a JSON value: only a text can be stripped. -/
def jsonText (value : JsonValue) : Reading String :=
  match value with
  | .str s => .ok (PyText.strip s)
  | other => if other.truthy then Reading.escape .attributeError else .ok ""

def entryFields : JsonValue → Reading JsonDict
  | .dict fields => .ok fields
  | _ => Reading.refuse "Manifesti kirje ei ole objekt."

def listFile (listed : Listed) (entry : JsonValue) : Reading Listed := do
  let fields ← entryFields entry
  let path ← jsonText (fields.getD "path" .null)
  Reading.require (path ≠ "" ∧ path ∉ listed.map Prod.fst)
    "Manifesti kirje failitee on puudu või kordub."
  return listed ++ [(path, fields)]

def fileEntries (fields : JsonDict) : Reading (List JsonValue) :=
  match fields.getD "files" .null with
  | .list (entry :: entries) => .ok (entry :: entries)
  | _ => Reading.refuse "Manifest ei loetle ühtegi faili."

/-- `_load_manifest` -/
def loadManifest (payloads : Dict String Bytes) : Reading (LoadedManifest × Listed) := do
  let raw ← manifestValue libraries payloads
  let fields ← manifestFields raw
  let manifest ← manifestHead libraries fields
  let entries ← fileEntries fields
  let listed ← entries.foldlM listFile []
  return (manifest, listed)

/-- `isinstance(expected_size, int) and len(payload) == expected_size`; a boolean is an integer. -/
def hasSize (payload : Bytes) : JsonValue → Bool
  | .int n => n = payload.length
  | .bool b => payload.length = b.toNat
  | _ => false

def listedPayload (payloads : Dict String Bytes) (path : String) : Reading Bytes :=
  match payloads.get? path with
  | none => Reading.refuse ("Manifestis loetletud fail puudub: " ++ path ++ ".")
  | some payload => .ok payload

/-- One turn of the loop of `_verify_manifest`. -/
def verifyFile (payloads : Dict String Bytes) (u : Unit) (entry : String × JsonDict) :
    Reading Unit := do
  let payload ← listedPayload payloads entry.1
  Reading.require (hasSize payload (entry.2.getD "size_bytes" .null) = true)
    ("Faili suurus ei vasta manifestile: " ++ entry.1 ++ ".")
  let sha256 ← jsonText (entry.2.getD "sha256" .null)
  Reading.require (libraries.sha256 payload = libraries.tables.classes.lower sha256)
    ("Faili kontrollsumma ei vasta manifestile: " ++ entry.1 ++ ".")

/-- `required_paths` -/
def requiredPaths (version : String) : List String :=
  [MANIFEST_NAME, PRODUCTS_NAME, DAILY_FACTS_NAME, PRODUCT_PATHS_NAME] ++
    if version = SPLIT_FROM_VERSION then [DAILY_ORDERS_NAME] else []

/-- The files that are in the archive and not listed, and those that are missing from it. -/
def verifyPresence (payloads : Dict String Bytes) (listed : Listed) (version : String) :
    Reading Unit := do
  Reading.require
    (payloads.keys.all (fun name => name ∈ listed.map Prod.fst ∨ name = MANIFEST_NAME) = true)
    "Pakett sisaldab manifestis loetlemata faile."
  match (requiredPaths version).filter (· ∉ payloads.keys) with
  | [] => return ()
  | missing :: _ => Reading.refuse ("Paketist puudub kohustuslik fail: " ++ missing ++ ".")

/-- `_verify_manifest` -/
def verifyManifest (payloads : Dict String Bytes) (listed : Listed) (version : String) :
    Reading Unit := do
  listed.foldlM (verifyFile libraries payloads) ()
  verifyPresence payloads listed version

end Manifest

end Dashkoda.Shop.Package
