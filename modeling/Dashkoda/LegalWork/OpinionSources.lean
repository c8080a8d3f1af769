import Dashkoda.LegalWork.OpinionPdf
import Dashkoda.Lib.Json

/-!
# Where opinion documents come from

The handover archive and the inbox directory behind one interface, and the manifest over both.
-/

open Lib

namespace Dashkoda.LegalWork

def LEGAL_OPINION_MAX_SOURCE_ENTRIES : Nat := 20000
def LEGAL_OPINION_MAX_ZIP_RATIO : Nat := 200
def MAX_ENTRY_NAME_LENGTH : Nat := 400

def ARCHIVE_SUFFIXES : List String := [".zip", ".rar", ".7z", ".gz", ".tar", ".tgz", ".bz2", ".xz"]
def TEMPORARY_PREFIXES : List String := ["~$", ".~", "._"]
def TEMPORARY_SUFFIXES : List String := [".part", ".crdownload", ".tmp", ".partial", ".filepart"]

/-! ## Names -/

/-- `str.lower` on the letters these names are compared with. -/
def lowered (name : String) : List Char := name.toList.map Char.toLower

def isTemporary (name : String) : Bool :=
  TEMPORARY_PREFIXES.any (fun start => start.toList.isPrefixOf (lowered name)) ||
    TEMPORARY_SUFFIXES.any (fun ending => ending.toList.isSuffixOf (lowered name))

/-- `name.replace("\\", "/")` -/
def posixName (name : String) : List Char := name.toList.map fun c => if c = '\\' then '/' else c

/-- `str.split("/")` -/
def splitSlash : List Char → List (List Char)
  | [] => [[]]
  | c :: rest =>
    if c = '/' then [] :: splitSlash rest
    else
      match splitSlash rest with
      | [] => [[c]]
      | part :: parts => (c :: part) :: parts

/-- `Path(...).name`: the last part that is not empty or a dot. -/
def pathName (path : List Char) : String :=
  String.ofList ((((splitSlash path).filter fun part => part ≠ [] ∧ part ≠ ['.']).getLast?).getD [])

/-- `Path(...).suffix.lower()`: from the last dot that has something other than dots before it. -/
def pathSuffix (path : List Char) : List Char :=
  let reversed := (lowered (pathName path)).reverse
  let suffix := reversed.takeWhile (· ≠ '.')
  let stem := (reversed.dropWhile (· ≠ '.')).drop 1
  if suffix.length = reversed.length ∨ stem.all (· = '.') then [] else '.' :: suffix.reverse

def refuse {α : Type} (message : String) : Except OpinionExn α := .error (.sourceRejected message)

/-- Reject anything that could escape, alias or explode. -/
def checkEntryName (name : String) : Except OpinionExn Unit :=
  let posix := posixName name
  if MAX_ENTRY_NAME_LENGTH < name.length then
    refuse "A source entry name is longer than the archive contract allows."
  else if posix.head? = some '/' then refuse "A source entry uses an absolute path."
  else if posix[1]? = some ':' then refuse "A source entry uses a drive-qualified path."
  else if ['.', '.'] ∈ splitSlash posix then refuse "A source entry tries to escape its container."
  else .ok ()

/-! ## The manifest -/

/-- One document's identity, without its bytes. -/
structure ManifestEntry where
  provider : SourceProvider
  key : String
  filename : String
  sha256 : String
  byteSize : Nat
  order : Nat
  deriving DecidableEq, Repr

def ManifestEntry.asDict (entry : ManifestEntry) : Json :=
  .obj [("provider", .str entry.provider.value), ("key", .str entry.key),
    ("sha256", .str entry.sha256), ("byte_size", .int entry.byteSize)]

variable (digestBytes : Bytes → String)

/-- A canonical digest over identities and content. -/
def manifestChecksum (entries : List ManifestEntry) : String :=
  let sorted :=
    sortOn (fun entry : ManifestEntry => toLex (entry.provider.value, entry.key)) entries
  digestBytes ((Json.arr (sorted.map (·.asDict))).chars.flatMap String.utf8EncodeChar)

/-- The entry of one document as its provider lists it. -/
def listed (provider : SourceProvider) (key filename : String) (payload : Bytes) (order : Nat) :
    ManifestEntry :=
  ⟨provider, key, filename, digestBytes payload, payload.length, order⟩

/-- The same bytes are the same document however many places hold a copy. -/
def addListed (entries : List ManifestEntry) (entry : ManifestEntry) : List ManifestEntry :=
  if entries.any (·.sha256 = entry.sha256) then entries
  else entries ++ [{ entry with order := entries.length }]

/-- `collect_manifest`, over what each provider lists. -/
def collectManifest (lists : List (List ManifestEntry)) : List ManifestEntry :=
  lists.flatten.foldl addListed []

/-! ## The handover archive -/

structure ZipInfo where
  filename : String
  /-- The top sixteen bits of the external attributes. -/
  mode : Nat
  fileSize : Nat
  compressSize : Nat
  /-- `archive.read(info)`, unless it raises. -/
  payload : Except OpinionExn Bytes

/-- The archive as the library opens it; `none` is a container it cannot read. -/
abbrev BootstrapZip := Option (List ZipInfo)

def UNREADABLE_ARCHIVE : String := "The bootstrap archive could not be read."

def ZipInfo.isDir (info : ZipInfo) : Bool := info.filename.toList.getLast? = some '/'

/-- Whether an entry is a document; the loop body of `_checked_entries`. -/
def checkInfo (seen : List String) (info : ZipInfo) : Except OpinionExn Bool := do
  checkEntryName info.filename
  if info.filename ∈ seen then refuse "The archive holds a duplicate entry path."
  else if info.mode &&& 0xf000 = 0xa000 then refuse "The archive holds a symbolic link."
  else if info.isDir then return false
  else
    let suffix := pathSuffix (posixName info.filename)
    if ARCHIVE_SUFFIXES.any (·.toList = suffix) then refuse "The archive holds a nested archive."
    else if LEGAL_OPINION_MAX_PDF_BYTES < info.fileSize then
      refuse "An archive entry is larger than the contract allows."
    else if 0 < info.compressSize ∧
        LEGAL_OPINION_MAX_ZIP_RATIO * info.compressSize < info.fileSize then
      refuse "An archive entry decompresses implausibly far."
    else return suffix = ".pdf".toList && !isTemporary (pathName info.filename.toList)

def checkInfos : List String → List ZipInfo → Except OpinionExn (List ZipInfo)
  | _, [] => .ok []
  | seen, info :: rest => do
    let kept ← checkInfo seen info
    let others ← checkInfos (info.filename :: seen) rest
    return if kept then info :: others else others

def checkedEntries (infos : List ZipInfo) : Except OpinionExn (List ZipInfo) :=
  if LEGAL_OPINION_MAX_SOURCE_ENTRIES < infos.length then
    refuse "The archive holds more entries than the contract allows."
  else (checkInfos [] infos).map (sortOn (·.filename))

def listInfo (order : Nat) (info : ZipInfo) : Except OpinionExn ManifestEntry := do
  let payload ← info.payload
  return listed digestBytes .bootstrapZip info.filename (pathName (posixName info.filename)) payload
    order

def zipManifest : BootstrapZip → Except OpinionExn (List ManifestEntry)
  | none => refuse UNREADABLE_ARCHIVE
  | some infos => do
    let entries ← checkedEntries infos
    entries.zipIdx.mapM fun item => listInfo digestBytes item.2 item.1

/-- A name the archive holds twice is read as its last entry. -/
def zipRead (archive : BootstrapZip) (key : String) : Except OpinionExn (Option Bytes) := do
  checkEntryName key
  match archive with
  | none => refuse UNREADABLE_ARCHIVE
  | some infos =>
    match infos.reverse.find? (·.filename = key) with
    | none => return none
    | some info =>
      if LEGAL_OPINION_MAX_PDF_BYTES < info.fileSize then
        refuse "An archive entry is larger than the contract allows."
      else info.payload.map some

/-! ## The inbox directory -/

inductive PathKind where
  | symlink
  /-- The bytes, unless they cannot be read, and whether the file has stopped growing. -/
  | file (payload : Option Bytes) (stable : Bool)
  | other
  deriving DecidableEq

structure InboxPath where
  /-- The parts below the source root. -/
  parts : List String
  kind : PathKind
  deriving DecidableEq

/-- `path.relative_to(self.root).as_posix()` -/
def InboxPath.key (path : InboxPath) : String := "/".intercalate path.parts

def InboxPath.name (path : InboxPath) : String := path.parts.getLastD ""

/-- What a source root holds; a name holds no slash, so that no two paths share a key. -/
structure Directory where
  paths : List InboxPath
  keys_nodup : (paths.map InboxPath.key).Nodup

def InboxPath.isCandidate (path : InboxPath) : Bool :=
  (match path.kind with
  | .file _ stable => stable
  | _ => false) &&
  pathSuffix path.name.toList = ".pdf".toList && !isTemporary path.name

def Directory.candidates (directory : Directory) : List InboxPath :=
  (sortOn (·.parts) directory.paths).filter (·.isCandidate)

def InboxPath.payload (path : InboxPath) : Except OpinionExn Bytes :=
  match path.kind with
  | .file (some payload) _ => .ok payload
  | _ => .error (.storage .osError)

def listPath (order : Nat) (path : InboxPath) : Except OpinionExn ManifestEntry :=
  if LEGAL_OPINION_MAX_SOURCE_ENTRIES ≤ order then
    refuse "The source directory holds more files than allowed."
  else do
    let payload ← path.payload
    return listed digestBytes .directory path.key path.name payload order

/-- A root that is no directory has no candidates. -/
def directoryManifest : Option Directory → Except OpinionExn (List ManifestEntry)
  | none => .ok []
  | some directory =>
    directory.candidates.zipIdx.mapM fun item => listPath digestBytes item.2 item.1

/-- The keys read are the ones a manifest lists. -/
def directoryRead (directory : Option Directory) (key : String) :
    Except OpinionExn (Option Bytes) := do
  checkEntryName key
  match (directory.map (·.paths)).getD [] |>.find? (·.key = key) with
  | none => return none
  | some path =>
    match path.kind with
    | .file _ _ => do
      let payload ← path.payload
      if LEGAL_OPINION_MAX_PDF_BYTES < payload.length then
        refuse "A source file is larger than the contract allows."
      else return some payload
    | _ => return none

/-! ## Both together -/

/-- What `LEGAL_OPINION_SOURCE_ROOT` holds. -/
structure Inbox where
  archive : Option BootstrapZip
  directory : Option Directory

/-- What each available provider lists, the archive first. -/
def Inbox.manifests (inbox : Inbox) : Except OpinionExn (List (List ManifestEntry)) := do
  let archived ← match inbox.archive with
    | none => pure []
    | some archive => (zipManifest digestBytes archive).map ([·])
  let loose ← directoryManifest digestBytes inbox.directory
  return archived ++ [loose]

/-- `read_entry`, for its bytes. -/
def Inbox.read (inbox : Inbox) : SourceProvider → String → Except OpinionExn (Option Bytes)
  | .bootstrapZip, key =>
    match inbox.archive with
    | none => return none
    | some archive => zipRead archive key
  | .directory, key => directoryRead inbox.directory key

end Dashkoda.LegalWork
