import Dashkoda.Lib.Table
import Mathlib.Data.List.Basic
import Mathlib.Logic.Relation

/-!
# The import registry and the state machine of a run

Rows of the registry (registered originals and import runs), the legal moves of a run, and what
`full_clean` checks before a run is saved as finished.
-/

open Lib

namespace Dashkoda.Sources

/-- A microsecond count, as `timezone.now()` reads the clock. -/
abbrev Time := Nat

/-- One entry of the `errors` and `warnings` lists. -/
abbrev JsonObject := List (String × String)

inductive ImportStatus
  | pending
  | running
  | succeeded
  | failed
  deriving DecidableEq, Repr

namespace ImportStatus

def value : ImportStatus → String
  | pending => "pending"
  | running => "running"
  | succeeded => "succeeded"
  | failed => "failed"

def terminal : List ImportStatus := [succeeded, failed]

end ImportStatus

/-- `ALLOWED_TRANSITIONS`: terminal states have no successors. -/
def allowedTransitions : ImportStatus → List ImportStatus
  | .pending => [.running, .failed]
  | .running => [.succeeded, .failed]
  | .succeeded => []
  | .failed => []

structure SourceArtifact where
  pk : Nat
  source : Nat
  sha256 : String
  sizeBytes : Nat
  deriving DecidableEq, Repr

structure ImportRun where
  pk : Nat
  source : Nat
  artifact : Nat
  importerName : String
  schemaVersion : String
  importKey : String
  dryRun : Bool
  status : ImportStatus
  startedAt : Option Time
  finishedAt : Option Time
  rowsAdded : Nat
  rowsSkipped : Nat
  rowsInvalid : Nat
  warnings : List JsonObject
  errors : List JsonObject
  deriving DecidableEq, Repr

instance : Row SourceArtifact := ⟨SourceArtifact.pk⟩

instance : Row ImportRun := ⟨ImportRun.pk⟩

structure Registry where
  artifacts : List SourceArtifact
  runs : List ImportRun
  deriving DecidableEq, Repr

/-- What a model's `full_clean` complains about: a field, the model's own `clean`, or a named
constraint. -/
inductive Violation
  | field (name : String)
  | clean (message : String)
  | constraint (name : String)
  deriving DecidableEq, Repr

inductive Exn
  | invalidImportTransition (message : String)
  | artifactRejected (message : String)
  | validationError (violations : List Violation)
  | doesNotExist
  | other (typeName : String)
  deriving DecidableEq, Repr

namespace Exn

/-- `type(error).__name__` -/
def typeName : Exn → String
  | invalidImportTransition _ => "InvalidImportTransition"
  | artifactRejected _ => "ArtifactRejected"
  | validationError _ => "ValidationError"
  | doesNotExist => "DoesNotExist"
  | other name => name

end Exn

namespace ImportRun

def isTerminal (run : ImportRun) : Bool := run.status ∈ ImportStatus.terminal

/-- `_require_transition` -/
def requireTransition (run : ImportRun) (newStatus : ImportStatus) : Except Exn Unit :=
  if newStatus ∈ allowedTransitions run.status then .ok ()
  else .error (.invalidImportTransition
    ("Olekut ei saa muuta: " ++ run.status.value ++ " -> " ++ newStatus.value ++ "."))

/-- The largest value of a `PositiveIntegerField`. -/
def maxPositiveInteger : Nat := 2147483647

def charFieldViolations (name : String) (maxLength : Nat) (value : String) : List Violation :=
  if value.length = 0 ∨ maxLength < value.length then [.field name] else []

def countFieldViolations (name : String) (value : Nat) : List Violation :=
  if maxPositiveInteger < value then [.field name] else []

def fieldViolations (registry : Registry) (run : ImportRun) : List Violation :=
  (if (Table.get? registry.artifacts run.artifact).isNone then [.field "artifact"] else []) ++
  charFieldViolations "importer_name" 100 run.importerName ++
  charFieldViolations "schema_version" 32 run.schemaVersion ++
  charFieldViolations "import_key" 64 run.importKey ++
  countFieldViolations "rows_added" run.rowsAdded ++
  countFieldViolations "rows_skipped" run.rowsSkipped ++
  countFieldViolations "rows_invalid" run.rowsInvalid

/-- `ImportRun.clean` -/
def cleanViolations (registry : Registry) (run : ImportRun) : List Violation :=
  match Table.get? registry.artifacts run.artifact with
  | none => []
  | some artifact =>
    if artifact.source ≠ run.source then
      [.clean "Algfail peab kuuluma samale andmeallikale."]
    else []

/-- The condition under which `importrun_unique_successful_live_import` counts a row. -/
def isSuccessfulLive (run : ImportRun) : Bool := run.status = .succeeded && !run.dryRun

/-- Another row that is a successful live import under the same key. -/
def sameLiveImport (run other : ImportRun) : Bool :=
  other.isSuccessfulLive && other.importKey = run.importKey && other.pk != run.pk

def uniqueViolations (registry : Registry) (run : ImportRun) : List Violation :=
  if run.isSuccessfulLive && registry.runs.any run.sameLiveImport then
    [.constraint "importrun_unique_successful_live_import"]
  else []

def finishedNotBeforeStarted (run : ImportRun) : Bool :=
  match run.startedAt, run.finishedAt with
  | _, none => true
  | some started, some finished => started ≤ finished
  | none, some _ => false

def timeViolations (run : ImportRun) : List Violation :=
  (if run.finishedNotBeforeStarted then []
    else [.constraint "importrun_finished_not_before_started"]) ++
  (if run.isTerminal && run.finishedAt.isNone then
    [.constraint "importrun_terminal_requires_finished_at"] else []) ++
  (if !run.isTerminal && run.finishedAt.isSome then
    [.constraint "importrun_non_terminal_has_no_finished_at"] else [])

/-- `run.full_clean()` against the rows the connection sees. -/
def fullClean (registry : Registry) (run : ImportRun) : Except Exn Unit :=
  match run.fieldViolations registry ++ run.cleanViolations registry ++
      run.uniqueViolations registry ++ run.timeViolations with
  | [] => .ok ()
  | violations => .error (.validationError violations)

/-! ## The fields each transition sets -/

/-- The fields `start_import_run` sets. -/
def started (run : ImportRun) (now : Time) : ImportRun :=
  { run with status := .running, startedAt := run.startedAt.or (some now) }

structure Counts where
  rowsAdded : Nat
  rowsSkipped : Nat
  rowsInvalid : Nat
  warnings : List JsonObject
  deriving DecidableEq, Repr

/-- The fields `complete_import_run` sets. -/
def completed (run : ImportRun) (now : Time) (counts : Counts) : ImportRun :=
  { run with
    status := .succeeded
    startedAt := run.startedAt.or (some now)
    finishedAt := some now
    rowsAdded := counts.rowsAdded
    rowsSkipped := counts.rowsSkipped
    rowsInvalid := counts.rowsInvalid
    warnings := counts.warnings }

/-- The fields `fail_import_run` sets. -/
def failed (run : ImportRun) (now : Time) (errors : List JsonObject) : ImportRun :=
  { run with
    status := .failed
    startedAt := run.startedAt.or (some now)
    finishedAt := some now
    errors := errors }

theorem isTerminal_iff (run : ImportRun) :
    run.isTerminal = true ↔ run.status = .succeeded ∨ run.status = .failed := by
  simp [isTerminal, ImportStatus.terminal]

theorem requireTransition_ok_iff (run : ImportRun) (newStatus : ImportStatus) :
    run.requireTransition newStatus = .ok () ↔ newStatus ∈ allowedTransitions run.status := by
  unfold requireTransition
  split <;> simp_all

/-- The source's four constraints on a row, as one statement. -/
theorem fullClean_ok_iff (registry : Registry) (run : ImportRun) :
    run.fullClean registry = .ok () ↔
      run.fieldViolations registry = [] ∧ run.cleanViolations registry = [] ∧
        run.uniqueViolations registry = [] ∧ run.timeViolations = [] := by
  unfold fullClean
  split
  · rename_i h
    simpa [and_assoc] using h
  · rename_i h
    simp only [reduceCtorEq, false_iff]
    rintro ⟨hfield, hclean, hunique, htime⟩
    exact h (by simp [hfield, hclean, hunique, htime])

theorem timeViolations_eq_nil_iff (run : ImportRun) :
    run.timeViolations = [] ↔
      run.finishedNotBeforeStarted = true ∧ (run.isTerminal = run.finishedAt.isSome) := by
  unfold timeViolations
  cases run.finishedNotBeforeStarted <;> cases run.isTerminal <;> cases run.finishedAt <;> simp

end ImportRun

end Dashkoda.Sources
