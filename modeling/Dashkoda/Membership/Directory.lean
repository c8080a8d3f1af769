import Dashkoda.Core.PublicFeed
import Dashkoda.Feeds.Contents
import Dashkoda.Lib.Column
import Dashkoda.Lib.Dict

/-!
# The register of the public member directory

The rows are reconciled with every set of codes that was collected, whether or not the set is a new
one.  A code that is published no longer keeps its row.
-/

open Lib

namespace Dashkoda.Membership

open Core (CollectFailure ContentIdentity FeedExn FeedResult RemoteFeedState)
open Sources (Exn ImportRun Registry SourceArtifact Time)

def DIRECTORY_IMPORTER_NAME : String := "koda_member_directory"

def DIRECTORY_DATASET_KEY : String := "koda-member-directory"

def DIRECTORY_SCHEMA_VERSION : String := "1.0"

structure MemberDirectoryEntry where
  pk : Nat
  source : Nat
  registryCode : String
  profilePath : String
  firstSeenAt : Time
  lastSeenAt : Time
  isPublished : Bool
  unpublishedAt : Option Time
  deriving DecidableEq, Repr

instance : Row MemberDirectoryEntry := ⟨MemberDirectoryEntry.pk⟩

/-! ## What is collected -/

structure DirectoryRow where
  registryCode : String
  profilePath : String
  code_length : registryCode.length ≤ 16
  path_length : profilePath.length ≤ 300
  deriving DecidableEq

theorem length_take_le (n : Nat) (text : String) : (PyText.take n text).length ≤ n := by
  unfold PyText.take
  rw [String.length_ofList, List.length_take]
  omega

/-- `DirectoryRow(registry_code=code[:16], profile_path=found[code][:300])` -/
def DirectoryRow.cut (code path : String) : DirectoryRow :=
  ⟨PyText.take 16 code, PyText.take 300 path, length_take_le 16 code, length_take_le 300 path⟩

/-- The codes that were found, each with the path of its profile, and the validators of the
answer. -/
structure DirectoryCollection where
  found : Dict String String
  etag : String
  lastModified : String

namespace DirectoryCollection

def rows (collection : DirectoryCollection) : List DirectoryRow :=
  (sortOn (·.1) collection.found.entries).map fun entry => DirectoryRow.cut entry.1 entry.2

def canonical (collection : DirectoryCollection) : Json :=
  .obj [("dataset", .str DIRECTORY_DATASET_KEY), ("schema_version", .str DIRECTORY_SCHEMA_VERSION),
    ("entries", .arr (collection.rows.map fun row =>
      .arr [.str row.registryCode, .str row.profilePath]))]

def totalRows (collection : DirectoryCollection) : Nat := collection.rows.length

end DirectoryCollection

/-! ## Reconciling -/

structure DirectoryReconciliation where
  added : Nat
  restored : Nat
  moved : Nat
  unpublished : Nat
  seen : Nat
  deriving DecidableEq, Repr

/-- The lists the loops of `reconcile_entries` fill; a created row has a code and a path. -/
structure DirectoryWork where
  created : List (String × String)
  updated : List MemberDirectoryEntry
  result : DirectoryReconciliation

/-- A known row as the loop leaves it. -/
def MemberDirectoryEntry.refreshed (entry : MemberDirectoryEntry) (path : String) (now : Time) :
    MemberDirectoryEntry :=
  { entry with
    profilePath := path
    lastSeenAt := now
    isPublished := true
    unpublishedAt := if entry.isPublished then entry.unpublishedAt else none }

def MemberDirectoryEntry.retired (entry : MemberDirectoryEntry) (now : Time) :
    MemberDirectoryEntry :=
  { entry with isPublished := false, unpublishedAt := some now }

section Reconcile

variable (source : Nat) (now : Time)

def observeCode (existing : Dict String MemberDirectoryEntry) (work : DirectoryWork)
    (item : String × String) : DirectoryWork :=
  match existing.get? item.1 with
  | none =>
    { work with
      created := work.created ++ [item]
      result := { work.result with added := work.result.added + 1 } }
  | some entry =>
    { work with
      updated := work.updated ++ [entry.refreshed item.2 now]
      result := { work.result with
        restored := work.result.restored + if entry.isPublished then 0 else 1
        moved := work.result.moved + if entry.profilePath = item.2 then 0 else 1 } }

def retireCode (observed : Dict String String) (work : DirectoryWork)
    (item : String × MemberDirectoryEntry) : DirectoryWork :=
  if item.1 ∈ observed.keys ∨ item.2.isPublished = false then work
  else
    { work with
      updated := work.updated ++ [item.2.retired now]
      result := { work.result with unpublished := work.result.unpublished + 1 } }

def existingEntries (entries : List MemberDirectoryEntry) : Dict String MemberDirectoryEntry :=
  Dict.ofList ((entries.filter (·.source = source)).map fun entry => (entry.registryCode, entry))

/-- The observed codes; of a code that is stated twice the last path counts. -/
def observedPaths (rows : List DirectoryRow) : Dict String String :=
  Dict.ofList (rows.map fun row => (row.registryCode, row.profilePath))

def reconcileWork (rows : List DirectoryRow) (entries : List MemberDirectoryEntry) :
    DirectoryWork :=
  let existing := existingEntries source entries
  let observed := observedPaths rows
  existing.entries.foldl (retireCode now observed)
    (observed.entries.foldl (observeCode now existing) ⟨[], [], ⟨0, 0, 0, 0, rows.length⟩⟩)

/-- A text column, or the exception the database raises for it. -/
def textColumn (name : String) (max : Nat) (text : String) : Except FeedExn String :=
  match Column.varchar max text with
  | .ok stored => .ok stored
  | .error _ => .error (.raised "DataError" name)

/-- The columns of a row that a text may not fit. -/
def storeEntry (entry : MemberDirectoryEntry) : Except FeedExn MemberDirectoryEntry := do
  let registryCode ← textColumn "registry_code" 16 entry.registryCode
  let profilePath ← textColumn "profile_path" 300 entry.profilePath
  return { entry with registryCode, profilePath }

/-- The row of a code that is seen for the first time. -/
def newEntry (pk : Nat) (item : String × String) : MemberDirectoryEntry :=
  ⟨pk, source, item.1, item.2, now, now, true, none⟩

/-- `bulk_create` and `bulk_update` of what the loops have gathered. -/
def writeWork (work : DirectoryWork) (entries : List MemberDirectoryEntry) :
    Except FeedExn (List MemberDirectoryEntry) := do
  let created ← (work.created.mapIdx fun i item =>
    newEntry source now (Table.nextPk entries + i) item).mapM storeEntry
  if ¬ ((entries ++ created).map fun entry => (entry.source, entry.registryCode)).Nodup then
    throw (.integrityError "memberdirectoryentry_unique_code_per_source")
  let updated ← work.updated.mapM storeEntry
  return Table.updateAll updated (entries ++ created)

/-- `reconcile_entries` -/
def reconcileEntries (rows : List DirectoryRow) (entries : List MemberDirectoryEntry) :
    Except FeedExn (List MemberDirectoryEntry × DirectoryReconciliation) :=
  let work := reconcileWork source now rows entries
  (writeWork source now work entries).map fun entries => (entries, work.result)

end Reconcile

/-! ## A run -/

structure DirectoryDb where
  registry : Registry
  clock : Time
  entries : List MemberDirectoryEntry
  state : RemoteFeedState

def DirectoryDb.empty : DirectoryDb := ⟨⟨[], []⟩, 0, [], .initial⟩

abbrev DirectoryProc := Proc FeedExn DirectoryDb

/-- A collector is given the stored validators; `none` is the answer `304`. -/
structure DirectoryRequest where
  dryRun : Bool
  collector : String → String → Except CollectFailure (Option DirectoryCollection)

/-- `SourceOutcome`, with the part of `extra` that is there. -/
structure DirectoryOutcome where
  result : FeedResult
  detail : String
  dryRun : Bool
  entries : Option Nat
  reconciliation : Option DirectoryReconciliation
  deriving DecidableEq

/-- What is outside the tables: the digest and the key of the source. -/
structure DirectorySetup where
  digestBytes : List UInt8 → String
  digest_hex : ∀ bytes, Sources.isSha256Hex (digestBytes bytes) = true
  source : Nat

section Synchronize

variable (setup : DirectorySetup)

def onDirectoryRegistry {α : Type} (call : Proc Exn Registry α) : DirectoryProc α :=
  Proc.onPart DirectoryDb.registry (fun registry db => { db with registry }) .sources call

def modifyDirectoryState (f : RemoteFeedState → RemoteFeedState) : DirectoryProc Unit := do
  modify fun db => { db with state := f db.state }

def publishedCount (db : DirectoryDb) : Nat :=
  (db.entries.filter fun entry => entry.source = setup.source && entry.isPublished).length

def DirectoryCollection.identity (collection : DirectoryCollection) : ContentIdentity :=
  Core.canonicalChecksum setup.digestBytes collection.canonical

/-- `_fail` -/
def recordDirectoryFailure (message : String) : DirectoryProc DirectoryOutcome := do
  modifyDirectoryState (·.failFeed message)
  return ⟨.failed, message, false, none, none⟩

/-- `_unchanged` -/
def recordDirectoryUnchanged (validators : Option (String × String)) (dryRun : Bool) :
    DirectoryProc DirectoryOutcome := do
  let db ← get
  if !dryRun then modifyDirectoryState (·.markUnchanged db.clock validators)
  return ⟨.unchanged, "Kataloogi kirjed ei ole muutunud.", dryRun, some (publishedCount setup db),
    none⟩

/-- `_mark_imported`: the state does not point at a row. -/
def markDirectoryImported (state : RemoteFeedState) (now : Time)
    (collection : DirectoryCollection) :
    RemoteFeedState :=
  { state with
    lastResult := .imported
    lastErrorSummary := ""
    lastSuccessfulSyncAt := some now
    lastChangedAt := some now }.storeValidators (some (collection.etag, collection.lastModified))

/-- The reconciliation of a collected set, inside a transaction of its caller. -/
def reconcile (collection : DirectoryCollection) : DirectoryProc DirectoryReconciliation :=
  Proc.service fun db => (reconcileEntries setup.source db.clock collection.rows db.entries).map
    fun reconciled => ({ db with entries := reconciled.1 }, reconciled.2)

/-- The transaction of a set that is published for the first time. -/
def publishDirectory (collection : DirectoryCollection) (run : ImportRun) :
    DirectoryProc DirectoryReconciliation := do
  let db ← get
  let reconciliation ← reconcile setup collection
  onDirectoryRegistry (Core.completeRun run db.clock
    ⟨reconciliation.added, reconciliation.seen - reconciliation.added, 0, []⟩)
  return reconciliation

/-- A call whose exception is an answer. -/
def attempt {α : Type} (call : DirectoryProc α) : DirectoryProc (Except FeedExn α) :=
  tryCatch (Except.ok <$> call) fun error => return .error error

/-- What a live run does with a set that was published before. -/
def repeatDirectory (collection : DirectoryCollection) : DirectoryProc DirectoryOutcome := do
  match ← attempt (Proc.atomically (reconcile setup collection)) with
  | .error error => recordDirectoryFailure error.describe
  | .ok reconciliation =>
    let outcome ← recordDirectoryUnchanged setup
      (some (collection.etag, collection.lastModified)) false
    return { outcome with reconciliation := some reconciliation }

/-- What a live run does with a set that is new. -/
def importDirectory (collection : DirectoryCollection) (found : Option SourceArtifact) :
    DirectoryProc DirectoryOutcome := do
  let db ← get
  match ← attempt
      (onDirectoryRegistry (Core.startRun (Core.digestText setup.digestBytes) setup.source
      (collection.identity setup) found DIRECTORY_IMPORTER_NAME DIRECTORY_SCHEMA_VERSION false
      db.clock)) with
  | .error error => recordDirectoryFailure error.describe
  | .ok opened =>
    match ← attempt (Proc.atomically (publishDirectory setup collection opened.2)) with
    | .error error =>
      onDirectoryRegistry (Core.failPublication opened.2 db.clock [[("type", error.typeName)]])
      recordDirectoryFailure error.describe
    | .ok reconciliation =>
      modifyDirectoryState (markDirectoryImported · db.clock collection)
      return ⟨.imported, "Kataloogi kirjed uuendatud: " ++ toString reconciliation.seen ++
        " avaldatud, lisandus " ++ toString reconciliation.added ++ ", kadus " ++
        toString reconciliation.unpublished ++ ".", false, some reconciliation.seen,
        some reconciliation⟩

def synchronizeCollection (collection : DirectoryCollection) (dryRun : Bool) :
    DirectoryProc DirectoryOutcome := do
  let db ← get
  let publishedNow := publishedCount setup db
  match Feeds.Membership.implausibleChange (if publishedNow = 0 then none else some publishedNow)
      collection.totalRows with
  | some reason => recordDirectoryFailure reason
  | none =>
    if dryRun then
      return ⟨.imported, "Kuivkäivitus: kataloogis " ++ toString collection.totalRows ++
        " kirjet, midagi ei salvestatud.", true, some collection.totalRows, none⟩
    else
      let (found, alreadyPublished) := Core.findPublishedArtifact db.registry setup.source
        (collection.identity setup).sha256 DIRECTORY_IMPORTER_NAME
      if alreadyPublished then repeatDirectory setup collection
      else importDirectory setup collection found

/-- `synchronize_member_directory` -/
def synchronizeMemberDirectory (request : DirectoryRequest) : DirectoryProc DirectoryOutcome := do
  let db ← get
  modifyDirectoryState (·.touchChecked db.clock)
  let conditional := publishedCount setup db ≠ 0
  match request.collector (if conditional then db.state.remoteEtag else "")
      (if conditional then db.state.remoteLastModified else "") with
  | .error failure => recordDirectoryFailure failure.describe
  | .ok none => recordDirectoryUnchanged setup none request.dryRun
  | .ok (some collection) => synchronizeCollection setup collection request.dryRun

end Synchronize

end Dashkoda.Membership
