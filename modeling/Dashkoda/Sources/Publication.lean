import Dashkoda.Lib.Runs
import Dashkoda.Lib.Transaction
import Dashkoda.Sources.ImportRun

/-!
# Publishing under an import run

The services that move a run, as one process executes them: on the object it holds in memory,
inside whatever transaction blocks are open.  A rollback restores the rows and leaves the object
alone, so the object can be ahead of its row; it is never behind it.
-/

open Lib

namespace Dashkoda.Sources

/-- One process: its connection, the run objects it holds (one for each row) and the clock. -/
structure Session where
  db : Tx Registry
  memory : List ImportRun
  clock : Time
  deriving DecidableEq, Repr

/-- What a service call does: it returns or raises, and leaves this session either way. -/
abbrev Outcome := Except Exn Unit × Session

namespace Session

/-- The row under a key, as this connection reads it. -/
def row? (s : Session) (pk : Nat) : Option ImportRun := Table.get? s.db.view.runs pk

/-- The row under a key, as everybody else reads it. -/
def committed? (s : Session) (pk : Nat) : Option ImportRun := Table.get? s.db.committed.runs pk

def object? (s : Session) (pk : Nat) : Option ImportRun := Table.get? s.memory pk

def hold (s : Session) (run : ImportRun) : Session := { s with memory := Table.save s.memory run }

def saveRow (s : Session) (row : ImportRun) : Session :=
  { s with db := s.db.write { s.db.view with runs := Table.save s.db.view.runs row } }

/-- `with transaction.atomic()` -/
def atomically (body : Session → Outcome) (s : Session) : Outcome :=
  match body { s with db := s.db.begin } with
  | (.ok (), s') => (.ok (), { s' with db := s'.db.commit })
  | (.error e, s') => (.error e, { s' with db := s'.db.rollback })

end Session

/-! ## The services -/

def startImportRun (run : ImportRun) (s : Session) : Outcome :=
  match run.requireTransition .running with
  | .error e => (.error e, s)
  | .ok () =>
    let run' := run.started s.clock
    let s' := s.hold run'
    -- `save(update_fields=["status", "started_at", ...])` leaves the other columns as they are
    match s'.row? run'.pk with
    | none => (.error (.other "DatabaseError"), s')
    | some row =>
      (.ok (), s'.saveRow { row with status := run'.status, startedAt := run'.startedAt })

/-- `run.full_clean(); run.save()` in a transaction of their own; the object keeps its new
attributes when the check refuses them. -/
def saveFinished (run : ImportRun) (s : Session) : Outcome :=
  (s.hold run).atomically fun s' =>
    match run.fullClean s'.db.view with
    | .error e => (.error e, s')
    | .ok () => (.ok (), s'.saveRow run)

def completeImportRun (run : ImportRun) (counts : ImportRun.Counts) (s : Session) : Outcome :=
  match run.requireTransition .succeeded with
  | .error e => (.error e, s)
  | .ok () => saveFinished (run.completed s.clock counts) s

def failImportRun (run : ImportRun) (errors : List JsonObject) (s : Session) : Outcome :=
  match run.requireTransition .failed with
  | .error e => (.error e, s)
  | .ok () => saveFinished (run.failed s.clock errors) s

def failPublication (pk : Nat) (errors : List JsonObject) (s : Session) : Outcome :=
  -- `run.refresh_from_db()`
  match s.row? pk with
  | none => (.error .doesNotExist, s)
  | some row =>
    if row.isTerminal then (.ok (), s.hold row)
    else failImportRun row errors (s.hold row)

/-- The `errors` argument of `publishing_run`. -/
inductive ErrorsArgument
  | unset
  | fixed (payload : List JsonObject)
  | derived (payload : Exn → List JsonObject)

def ErrorsArgument.payload : ErrorsArgument → Exn → List JsonObject
  | unset, error => [[("type", error.typeName)]]
  | fixed payload, _ => payload
  | derived payload, error => payload error

/-- `with publishing_run(run, errors=...)` around a body. -/
def publishingRun (pk : Nat) (errors : ErrorsArgument) (body : Session → Outcome)
    (s : Session) : Outcome :=
  match body s with
  | (.ok (), s') => (.ok (), s')
  | (.error error, s') =>
    match failPublication pk (errors.payload error) s' with
    | (.ok (), s'') => (.error error, s'')
    | (.error error', s'') => (.error error', s'')

/-! ## Any order of calls and transaction boundaries -/

inductive Act
  | tick (elapsed : Nat)
  | beginBlock
  | commitBlock
  | rollbackBlock
  | start (pk : Nat)
  | complete (pk : Nat) (counts : ImportRun.Counts)
  | fail (pk : Nat) (errors : List JsonObject)
  | failPublication (pk : Nat) (errors : List JsonObject)
  deriving DecidableEq, Repr

/-- A service called on an object the process holds. -/
def withObject (pk : Nat) (service : ImportRun → Session → Outcome) (s : Session) : Outcome :=
  match s.object? pk with
  | none => (.ok (), s)
  | some run => service run s

/-- A database error inside a service's own block is a block opened before the call and rolled
back after it. -/
def call (s : Session) : Act → Outcome
  | .tick elapsed => (.ok (), { s with clock := s.clock + elapsed })
  | .beginBlock => (.ok (), { s with db := s.db.begin })
  | .commitBlock => (.ok (), { s with db := s.db.commit })
  | .rollbackBlock => (.ok (), { s with db := s.db.rollback })
  | .start pk => withObject pk startImportRun s
  | .complete pk counts => withObject pk (fun run => completeImportRun run counts) s
  | .fail pk errors => withObject pk (fun run => failImportRun run errors) s
  | .failPublication pk errors => withObject pk (fun _ => failPublication pk errors) s

def step (s : Session) (act : Act) : Session := (call s act).2

/-! ## What a run can have become -/

/-- A path through the transition table, of any length. -/
def ImportStatus.Reaches : ImportStatus → ImportStatus → Prop :=
  Relation.ReflTransGen fun a b => b ∈ allowedTransitions a

theorem ImportStatus.reaches_of_mem {a b : ImportStatus} (h : b ∈ allowedTransitions a) :
    a.Reaches b := Relation.ReflTransGen.single h

theorem ImportStatus.reaches_terminal {a b : ImportStatus} (h : a.Reaches b)
    (hterminal : allowedTransitions a = []) : b = a := by
  rcases Relation.ReflTransGen.cases_head h with heq | ⟨c, hc, _⟩
  · exact heq.symm
  · rw [hterminal] at hc
    cases hc

theorem allowedTransitions_of_isTerminal {run : ImportRun} (h : run.isTerminal = true) :
    allowedTransitions run.status = [] := by
  rcases run.isTerminal_iff.mp h with hstatus | hstatus <;> rw [hstatus] <;> rfl

/-- Every row of the older registry is there in the newer one, no further back. -/
def Registry.Progress (older newer : Registry) : Prop :=
  ∀ pk row, Table.get? older.runs pk = some row →
    ∃ row', Table.get? newer.runs pk = some row' ∧ row.status.Reaches row'.status

instance : IsPreorder Registry Registry.Progress where
  refl _ _ row h := ⟨row, h, Relation.ReflTransGen.refl⟩
  trans _ _ _ h₁ h₂ pk row h := by
    obtain ⟨row₁, hrow₁, hreach₁⟩ := h₁ pk row h
    obtain ⟨row₂, hrow₂, hreach₂⟩ := h₂ pk row₁ hrow₁
    exact ⟨row₂, hrow₂, hreach₁.trans hreach₂⟩

/-- A row that passes every check but the uniqueness of a successful import, with times that
have been. -/
structure RowClean (registry : Registry) (clock : Time) (row : ImportRun) : Prop where
  fields : row.fieldViolations registry = []
  clean : row.cleanViolations registry = []
  times : row.timeViolations = []
  past : ∀ started, row.startedAt = some started → started ≤ clock

/-- The object is ahead of its row, and could be saved as finished while it is open. -/
structure ObjectAhead (registry : Registry) (clock : Time) (object : ImportRun) : Prop where
  row : ∃ row, Table.get? registry.runs object.pk = some row ∧ row.status.Reaches object.status
  clean : object.isTerminal = false → RowClean registry clock object

structure Session.Inv (artifacts : List SourceArtifact) (s : Session) : Prop where
  chain : s.db.Chain Registry.Progress
  artifacts : s.db.All fun registry => registry.artifacts = artifacts
  rows : s.db.All fun registry =>
    ∀ pk row, Table.get? registry.runs pk = some row → RowClean registry s.clock row
  objects : s.db.All fun registry =>
    ∀ pk object, s.object? pk = some object → ObjectAhead registry s.clock object

/-! ## One service call -/

section Rows

variable {registry registry' : Registry} {clock clock' : Time} {row : ImportRun}

theorem RowClean.of_artifacts (h : RowClean registry clock row)
    (hartifacts : registry'.artifacts = registry.artifacts) : RowClean registry' clock row := by
  refine ⟨?_, ?_, h.times, h.past⟩
  · unfold ImportRun.fieldViolations
    rw [hartifacts]
    exact h.fields
  · unfold ImportRun.cleanViolations
    rw [hartifacts]
    exact h.clean

theorem RowClean.later (h : RowClean registry clock row) (hle : clock ≤ clock') :
    RowClean registry clock' row :=
  ⟨h.fields, h.clean, h.times, fun started hstarted => Nat.le_trans (h.past started hstarted) hle⟩

theorem RowClean.finishedAt_isSome (h : RowClean registry clock row) :
    row.finishedAt.isSome = row.isTerminal :=
  ((ImportRun.timeViolations_eq_nil_iff row).mp h.times).2.symm

theorem RowClean.finishedAt_none (h : RowClean registry clock row)
    (hopen : row.isTerminal = false) : row.finishedAt = none := by
  have hsome := h.finishedAt_isSome
  rw [hopen] at hsome
  exact Option.not_isSome_iff_eq_none.mp (by rw [hsome]; decide)

/-- A start time taken from the row or from the clock is not after the clock. -/
theorem RowClean.startedAt_or_le (h : RowClean registry clock row) {started : Time}
    (hstarted : row.startedAt.or (some clock) = some started) : started ≤ clock := by
  cases hrow : row.startedAt with
  | none =>
    rw [hrow] at hstarted
    exact Nat.le_of_eq (Option.some.inj hstarted).symm
  | some first =>
    rw [hrow] at hstarted
    exact h.past started (hrow.trans hstarted)

theorem ImportRun.timeViolations_of_open (hopen : row.isTerminal = false)
    (hfinished : row.finishedAt = none) : row.timeViolations = [] := by
  rw [ImportRun.timeViolations_eq_nil_iff]
  constructor
  · simp [ImportRun.finishedNotBeforeStarted, hfinished]
  · rw [hopen, hfinished]
    rfl

/-- The row `start_import_run` writes over an open row. -/
theorem RowClean.started (h : RowClean registry clock row) (hopen : row.isTerminal = false)
    {startedAt : Option Time} (hpast : ∀ started, startedAt = some started → started ≤ clock) :
    RowClean registry clock { row with status := .running, startedAt := startedAt } :=
  ⟨h.fields, h.clean, ImportRun.timeViolations_of_open rfl (h.finishedAt_none hopen), hpast⟩

theorem RowClean.failed (h : RowClean registry clock row) (errors : List JsonObject) :
    RowClean registry clock (row.failed clock errors) := by
  refine ⟨h.fields, h.clean, ?_, fun started hstarted => h.startedAt_or_le hstarted⟩
  rw [ImportRun.timeViolations_eq_nil_iff]
  constructor
  · cases hrow : row.startedAt with
    | none => simp [ImportRun.failed, ImportRun.finishedNotBeforeStarted, hrow]
    | some first =>
      simpa [ImportRun.failed, ImportRun.finishedNotBeforeStarted, hrow] using h.past first hrow
  · rfl

/-- Nothing `full_clean` checks can refuse to record a failure. -/
theorem RowClean.fullClean_failed (h : RowClean registry clock row) (errors : List JsonObject) :
    (row.failed clock errors).fullClean registry = .ok () := by
  rw [ImportRun.fullClean_ok_iff]
  exact ⟨h.fields, h.clean, rfl, (h.failed errors).times⟩

theorem RowClean.of_fullClean (hclean : row.fullClean registry = .ok ())
    (hpast : ∀ started, row.startedAt = some started → started ≤ clock) :
    RowClean registry clock row := by
  obtain ⟨hfields, hmodel, -, htimes⟩ := (ImportRun.fullClean_ok_iff registry row).mp hclean
  exact ⟨hfields, hmodel, htimes, hpast⟩

theorem ImportStatus.not_terminal_of_reaches {a b : ImportRun} (h : a.status.Reaches b.status)
    (hopen : b.isTerminal = false) : a.isTerminal = false := by
  by_contra hterminal
  have ha : a.isTerminal = true := by simpa using hterminal
  have heq := ImportStatus.reaches_terminal h (allowedTransitions_of_isTerminal ha)
  rw [ImportRun.isTerminal, heq, ← ImportRun.isTerminal, ha] at hopen
  cases hopen

theorem ImportRun.open_of_requireTransition {run : ImportRun} {newStatus : ImportStatus}
    (h : run.requireTransition newStatus = .ok ()) : run.isTerminal = false := by
  rw [ImportRun.requireTransition_ok_iff] at h
  by_contra hterminal
  rw [allowedTransitions_of_isTerminal (by simpa using hterminal)] at h
  cases h

end Rows

namespace Session

variable {A : List SourceArtifact} {s : Session}

@[simp] theorem hold_db (s : Session) (run : ImportRun) : (s.hold run).db = s.db := rfl

@[simp] theorem hold_clock (s : Session) (run : ImportRun) : (s.hold run).clock = s.clock := rfl

@[simp] theorem hold_row? (s : Session) (run : ImportRun) (pk : Nat) :
    (s.hold run).row? pk = s.row? pk := rfl

@[simp] theorem hold_object?_same (s : Session) (run : ImportRun) :
    (s.hold run).object? run.pk = some run := Table.get?_save_same _ _

@[simp] theorem saveRow_clock (s : Session) (row : ImportRun) : (s.saveRow row).clock = s.clock :=
  rfl

@[simp] theorem saveRow_object? (s : Session) (row : ImportRun) (pk : Nat) :
    (s.saveRow row).object? pk = s.object? pk := rfl

@[simp] theorem saveRow_row?_same (s : Session) (row : ImportRun) :
    (s.saveRow row).row? row.pk = some row := Table.get?_save_same _ _

theorem object?_pk {pk : Nat} {object : ImportRun} (h : s.object? pk = some object) :
    object.pk = pk := Table.pk_of_get? h

theorem row?_pk {pk : Nat} {row : ImportRun} (h : s.row? pk = some row) : row.pk = pk :=
  Table.pk_of_get? h

/-- A step that keeps the invariant and moves no committed row back. -/
structure Moves (A : List SourceArtifact) (s s' : Session) : Prop where
  inv : s'.Inv A
  committed : Registry.Progress s.db.committed s'.db.committed

theorem Inv.stays (h : s.Inv A) : s.Moves A s := ⟨h, refl_of Registry.Progress _⟩

theorem Moves.trans {s' s'' : Session} (h : s.Moves A s') (h' : s'.Moves A s'') :
    s.Moves A s'' := ⟨h'.inv, trans_of Registry.Progress h.committed h'.committed⟩

/-- An object may take any attributes that keep it ahead of every version of its row. -/
theorem Inv.hold (h : s.Inv A) {object : ImportRun}
    (hahead : s.db.All fun registry => ObjectAhead registry s.clock object) :
    s.Moves A (s.hold object) := by
  refine ⟨⟨h.chain, h.artifacts, h.rows, fun registry hregistry pk held hheld => ?_⟩,
    refl_of Registry.Progress _⟩
  by_cases hpk : object.pk = pk
  · subst hpk
    rw [hold_object?_same] at hheld
    exact Option.some.inj hheld ▸ hahead registry hregistry
  · have hsame : (s.hold object).object? pk = s.object? pk := Table.get?_save_ne _ _ hpk
    exact h.objects registry hregistry pk held (hsame ▸ hheld)

/-- A row may be overwritten by one that is further on and not past the object. -/
theorem Inv.saveRow (h : s.Inv A) {old row object : ImportRun} (hold : s.row? row.pk = some old)
    (hreach : old.status.Reaches row.status) (hclean : RowClean s.db.view s.clock row)
    (hobject : s.object? row.pk = some object) (hahead : row.status.Reaches object.status) :
    s.Moves A (s.saveRow row) := by
  have hsame (pk : Nat) (hpk : row.pk ≠ pk) :
      Table.get? (Table.save s.db.view.runs row) pk = Table.get? s.db.view.runs pk :=
    Table.get?_save_ne _ _ hpk
  have hprogress : Registry.Progress s.db.view (s.saveRow row).db.view := by
    intro pk earlier hearlier
    by_cases hpk : row.pk = pk
    · subst hpk
      have : earlier = old := Option.some.inj (hearlier.symm.trans hold)
      exact ⟨row, Table.get?_save_same _ _, this ▸ hreach⟩
    · exact ⟨earlier, (hsame pk hpk).trans hearlier, Relation.ReflTransGen.refl⟩
  refine ⟨⟨h.chain.write hprogress, h.artifacts.write h.artifacts.view, h.rows.write ?_,
    h.objects.write ?_⟩, h.chain.committed_le_write hprogress⟩
  · intro pk row' hrow'
    by_cases hpk : row.pk = pk
    · subst hpk
      have : row = row' := Option.some.inj ((Table.get?_save_same _ row).symm.trans hrow')
      subst this
      exact hclean.of_artifacts rfl
    · exact (h.rows.view pk row' ((hsame pk hpk).symm.trans hrow')).of_artifacts rfl
  · intro pk held hheld
    have hprevious := h.objects.view pk held hheld
    refine ⟨?_, fun hopen => (hprevious.clean hopen).of_artifacts rfl⟩
    rw [object?_pk hheld]
    by_cases hpk : row.pk = pk
    · subst hpk
      have : held = object := Option.some.inj (hheld.symm.trans hobject)
      exact ⟨row, Table.get?_save_same _ _, this ▸ hahead⟩
    · obtain ⟨row', hrow', hreach'⟩ := hprevious.row
      rw [object?_pk hheld] at hrow'
      exact ⟨row', (hsame pk hpk).trans hrow', hreach'⟩

/-- The row of a held object, in every state a rollback can bring back. -/
theorem Inv.row_behind (h : s.Inv A) {pk : Nat} {object : ImportRun}
    (hobject : s.object? pk = some object) {registry : Registry}
    (hregistry : registry ∈ s.db.states) :
    ∃ row, Table.get? registry.runs pk = some row ∧ row.status.Reaches object.status := by
  obtain ⟨row, hrow, hreach⟩ := (h.objects registry hregistry pk object hobject).row
  exact ⟨row, object?_pk hobject ▸ hrow, hreach⟩

end Session

/-! ## Every call keeps the object ahead -/

theorem saveFinished_eq (run : ImportRun) (s : Session) :
    saveFinished run s =
      match run.fullClean s.db.view with
      | .error e => (.error e, s.hold run)
      | .ok () => (.ok (), (s.hold run).saveRow run) := by
  unfold saveFinished Session.atomically
  simp only [Tx.begin_view, Session.hold_db]
  cases run.fullClean s.db.view <;> rfl

section Services

variable {A : List SourceArtifact} {s : Session} {pk : Nat} {run : ImportRun}

/-- Finishing a held, open run in memory, and in its row when the check passes. -/
theorem saveFinished_moves (h : s.Inv A) {object : ImportRun}
    (hobject : s.object? run.pk = some object) (hreach : object.status.Reaches run.status)
    (hterminal : run.isTerminal = true)
    (hpast : ∀ started, run.startedAt = some started → started ≤ s.clock) :
    s.Moves A (saveFinished run s).2 := by
  have hahead : s.db.All fun registry => ObjectAhead registry s.clock run := by
    intro registry hregistry
    obtain ⟨row, hrow, hrowReach⟩ := h.row_behind hobject hregistry
    refine ⟨⟨row, hrow, hrowReach.trans hreach⟩, fun hopen => ?_⟩
    rw [hterminal] at hopen
    cases hopen
  rw [saveFinished_eq]
  cases hclean : run.fullClean s.db.view with
  | error e => exact h.hold hahead
  | ok _ =>
    obtain ⟨row, hrow, hrowReach⟩ := h.row_behind hobject s.db.view_mem_states
    have hheld := h.hold hahead
    exact hheld.trans (hheld.inv.saveRow hrow (hrowReach.trans hreach)
      (RowClean.of_fullClean hclean hpast) (Session.hold_object?_same s run)
      Relation.ReflTransGen.refl)

/-- An object that may still move passes its own checks. -/
theorem object_clean (h : s.Inv A) (hobject : s.object? pk = some run)
    (hopen : run.isTerminal = false) : RowClean s.db.view s.clock run :=
  (h.objects.view pk run hobject).clean hopen

theorem startImportRun_moves (h : s.Inv A) (hobject : s.object? pk = some run) :
    s.Moves A (startImportRun run s).2 := by
  have hpk := Session.object?_pk hobject
  subst hpk
  unfold startImportRun
  cases htransition : run.requireTransition .running with
  | error e => exact h.stays
  | ok _ =>
    have hopen := ImportRun.open_of_requireTransition htransition
    have hclean := object_clean h hobject hopen
    have hreach : run.status.Reaches .running :=
      ImportStatus.reaches_of_mem ((run.requireTransition_ok_iff _).mp htransition)
    have hpast : ∀ started, (run.started s.clock).startedAt = some started → started ≤ s.clock :=
      fun started hstarted => hclean.startedAt_or_le hstarted
    have hheld : s.Moves A (s.hold (run.started s.clock)) := by
      refine h.hold fun registry hregistry => ⟨?_, fun _ => ?_⟩
      · obtain ⟨row, hrow, hrowReach⟩ := h.row_behind hobject hregistry
        exact ⟨row, hrow, hrowReach.trans hreach⟩
      · exact (((h.objects registry hregistry run.pk run hobject).clean hopen).started hopen hpast)
    obtain ⟨row, hrow, hrowReach⟩ := h.row_behind hobject s.db.view_mem_states
    have hrow' : (s.hold (run.started s.clock)).row? (run.started s.clock).pk = some row := hrow
    have hrowPk : row.pk = run.pk := Table.pk_of_get? hrow
    have hrowOpen := ImportStatus.not_terminal_of_reaches hrowReach hopen
    simp only [hrow']
    have hobject' : (s.hold (run.started s.clock)).object? row.pk = some (run.started s.clock) := by
      rw [hrowPk]
      exact Session.hold_object?_same s (run.started s.clock)
    refine hheld.trans (hheld.inv.saveRow (hrowPk.symm ▸ hrow) (hrowReach.trans hreach) ?_ hobject'
      Relation.ReflTransGen.refl)
    exact (h.rows.view run.pk row hrow).started hrowOpen hpast

theorem completeImportRun_moves (h : s.Inv A) (hobject : s.object? pk = some run)
    (counts : ImportRun.Counts) : s.Moves A (completeImportRun run counts s).2 := by
  have hpk := Session.object?_pk hobject
  subst hpk
  unfold completeImportRun
  cases htransition : run.requireTransition .succeeded with
  | error e => exact h.stays
  | ok _ =>
    have hclean := object_clean h hobject (ImportRun.open_of_requireTransition htransition)
    exact @saveFinished_moves A s (run.completed s.clock counts) h _ hobject
      (ImportStatus.reaches_of_mem ((run.requireTransition_ok_iff _).mp htransition)) rfl
      fun started hstarted => hclean.startedAt_or_le hstarted

theorem failImportRun_moves (h : s.Inv A) (hobject : s.object? pk = some run)
    (errors : List JsonObject) : s.Moves A (failImportRun run errors s).2 := by
  have hpk := Session.object?_pk hobject
  subst hpk
  unfold failImportRun
  cases htransition : run.requireTransition .failed with
  | error e => exact h.stays
  | ok _ =>
    have hclean := object_clean h hobject (ImportRun.open_of_requireTransition htransition)
    exact @saveFinished_moves A s (run.failed s.clock errors) h _ hobject
      (ImportStatus.reaches_of_mem ((run.requireTransition_ok_iff _).mp htransition)) rfl
      fun started hstarted => hclean.startedAt_or_le hstarted

/-- `refresh_from_db` puts the object back on its row. -/
theorem refresh_moves (h : s.Inv A) {object : ImportRun} (hobject : s.object? pk = some object)
    {row : ImportRun} (hrow : s.row? pk = some row) : s.Moves A (s.hold row) := by
  have hclean := h.rows.view pk row hrow
  refine h.hold fun registry hregistry => ⟨?_, fun _ => ?_⟩
  · obtain ⟨earlier, hearlier, -⟩ := h.row_behind hobject hregistry
    obtain ⟨row', hrow', hreach⟩ := h.chain.le_view hregistry pk earlier hearlier
    have : row' = row := Option.some.inj (hrow'.symm.trans hrow)
    rw [Session.row?_pk hrow]
    exact ⟨earlier, hearlier, this ▸ hreach⟩
  · exact hclean.of_artifacts ((h.artifacts registry hregistry).trans h.artifacts.view.symm)

/-- Recording a failure on an open, clean object succeeds. -/
theorem failImportRun_ok (hclean : RowClean s.db.view s.clock run) (hopen : run.isTerminal = false)
    (errors : List JsonObject) :
    failImportRun run errors s =
      (.ok (), (s.hold (run.failed s.clock errors)).saveRow (run.failed s.clock errors)) := by
  have hallowed : run.requireTransition .failed = .ok () := by
    rw [ImportRun.requireTransition_ok_iff]
    cases hstatus : run.status <;> simp [ImportRun.isTerminal, ImportStatus.terminal, hstatus]
      at hopen <;> decide
  unfold failImportRun
  rw [hallowed]
  simp only [saveFinished_eq, hclean.fullClean_failed errors]

/-- What `fail_publication` does, in full: a finished row is only read back, an open one is
closed as failed. -/
theorem failPublication_eq (h : s.Inv A) {object : ImportRun} (hobject : s.object? pk = some object)
    (errors : List JsonObject) :
    ∃ row, s.row? pk = some row ∧
      failPublication pk errors s =
        (.ok (), if row.isTerminal then s.hold row
          else ((s.hold row).hold (row.failed s.clock errors)).saveRow
            (row.failed s.clock errors)) := by
  obtain ⟨row, hrow, -⟩ := h.row_behind hobject s.db.view_mem_states
  refine ⟨row, hrow, ?_⟩
  have hrow' : s.row? pk = some row := hrow
  unfold failPublication
  simp only [hrow']
  by_cases hterminal : row.isTerminal = true
  · simp only [hterminal, if_true]
  · have hopen : row.isTerminal = false := by simpa using hterminal
    rw [if_neg hterminal, if_neg hterminal]
    exact failImportRun_ok (s := s.hold row) (h.rows.view pk row hrow) hopen errors

theorem failPublication_moves (h : s.Inv A) {object : ImportRun}
    (hobject : s.object? pk = some object) (errors : List JsonObject) :
    s.Moves A (failPublication pk errors s).2 := by
  unfold failPublication
  split
  · exact h.stays
  · rename_i row hrow
    have hrefreshed := refresh_moves h hobject hrow
    split
    · exact hrefreshed
    · exact hrefreshed.trans
        (failImportRun_moves hrefreshed.inv (Session.hold_object?_same s row) errors)

theorem withObject_moves (h : s.Inv A) {service : ImportRun → Session → Outcome}
    (hservice : ∀ run, s.object? pk = some run → s.Moves A (service run s).2) :
    s.Moves A (withObject pk service s).2 := by
  unfold withObject
  cases hobject : s.object? pk with
  | none => exact h.stays
  | some run => exact hservice run hobject

end Services

theorem step_moves {A : List SourceArtifact} (s : Session) (act : Act) (h : s.Inv A) :
    s.Moves A (step s act) := by
  cases act with
  | tick elapsed =>
    have hlater : s.clock ≤ s.clock + elapsed := Nat.le_add_right _ _
    exact ⟨⟨h.chain, h.artifacts,
      h.rows.mono fun _ hrows pk row hrow => (hrows pk row hrow).later hlater,
      h.objects.mono fun _ hobjects pk object hobject =>
        ⟨(hobjects pk object hobject).row,
          fun hopen => ((hobjects pk object hobject).clean hopen).later hlater⟩⟩,
      refl_of Registry.Progress _⟩
  | beginBlock =>
    refine ⟨⟨h.chain.begin, h.artifacts.begin, h.rows.begin, h.objects.begin⟩, ?_⟩
    exact (Tx.committed_begin s.db).symm ▸ refl_of Registry.Progress _
  | commitBlock =>
    exact ⟨⟨h.chain.commit, h.artifacts.commit, h.rows.commit, h.objects.commit⟩,
      h.chain.committed_le_commit⟩
  | rollbackBlock =>
    refine ⟨⟨h.chain.rollback, h.artifacts.rollback, h.rows.rollback, h.objects.rollback⟩, ?_⟩
    exact (Tx.committed_rollback s.db).symm ▸ refl_of Registry.Progress _
  | start pk => exact withObject_moves h fun run hrun => startImportRun_moves h hrun
  | complete pk counts =>
    exact withObject_moves h fun run hrun => completeImportRun_moves h hrun counts
  | fail pk errors => exact withObject_moves h fun run hrun => failImportRun_moves h hrun errors
  | failPublication pk errors =>
    exact withObject_moves h fun run hrun => failPublication_moves h hrun errors

/-! ## Whole runs -/

/-- A process that has just read its runs: no block is open and each object equals its row. -/
structure Session.Loaded (s : Session) : Prop where
  saved : s.db.saved = []
  objects : ∀ pk object, s.object? pk = some object → s.row? pk = some object
  rows : ∀ pk row, s.row? pk = some row → RowClean s.db.view s.clock row

theorem Session.Loaded.inv {s : Session} (h : s.Loaded) : s.Inv s.db.view.artifacts := by
  have hdb : s.db = Tx.idle s.db.view := by
    rw [Tx.idle, ← h.saved]
  have hall {P : Registry → Prop} (hview : P s.db.view) : s.db.All P := by
    rw [hdb]
    exact Tx.all_idle hview
  refine ⟨hdb ▸ Tx.chain_idle _, hall rfl, hall h.rows, hall fun pk object hobject => ?_⟩
  have hrow := h.objects pk object hobject
  refine ⟨⟨object, ?_, Relation.ReflTransGen.refl⟩, fun _ => h.rows pk object hrow⟩
  rw [Session.object?_pk hobject]
  exact hrow

theorem run_inv {s₀ : Session} (h₀ : s₀.Loaded) (acts : List Act) :
    (run step s₀ acts).Inv s₀.db.view.artifacts :=
  run_keeps (fun s act h => (step_moves s act h).inv) acts h₀.inv

/-- The process can record a failure wherever it stands: afterwards object and row agree and are
closed. -/
theorem failPublication_closes {A : List SourceArtifact} {s : Session} (h : s.Inv A) {pk : Nat}
    (hobject : (s.object? pk).isSome) (errors : List JsonObject) :
    ∃ row, (failPublication pk errors s).1 = .ok () ∧ row.isTerminal = true ∧
      (failPublication pk errors s).2.row? pk = some row ∧
      (failPublication pk errors s).2.object? pk = some row ∧
      (failPublication pk errors s).2.db.saved = s.db.saved := by
  obtain ⟨object, hobject⟩ := Option.isSome_iff_exists.mp hobject
  obtain ⟨row, hrow, heq⟩ := failPublication_eq h hobject errors
  have hpk := Session.row?_pk hrow
  subst hpk
  rw [heq]
  by_cases hterminal : row.isTerminal = true
  · rw [if_pos hterminal]
    exact ⟨row, rfl, hterminal, hrow, Session.hold_object?_same s row, rfl⟩
  · rw [if_neg hterminal]
    refine ⟨row.failed s.clock errors, rfl, rfl, ?_, ?_, rfl⟩
    · exact Session.saveRow_row?_same _ (row.failed s.clock errors)
    · exact Session.hold_object?_same (s.hold row) (row.failed s.clock errors)

theorem publishingRun_reraises {pk : Nat} {errors : ErrorsArgument} {body : Session → Outcome}
    {before s : Session} {error : Exn} (hbody : body before = (.error error, s))
    (hclosed : (failPublication pk (errors.payload error) s).1 = .ok ()) :
    publishingRun pk errors body before =
      (.error error, (failPublication pk (errors.payload error) s).2) := by
  have hout : failPublication pk (errors.payload error) s =
      (.ok (), (failPublication pk (errors.payload error) s).2) := Prod.ext hclosed rfl
  unfold publishingRun
  rw [hbody]
  dsimp only
  rw [hout]

/-- In every run of calls, commits and rollbacks: a committed status moves only along the
transition table, by several moves at once when one commit publishes them together or a rolled
back one is remembered by the object; a finished run keeps its status; a committed row has a
finish time exactly when it is finished; recording a failure always succeeds and closes the run;
and the failure that ended a publication is the one its caller sees. -/
theorem importRun_stateMachine (s₀ : Session) (h₀ : s₀.Loaded) (acts : List Act) (act : Act) :
    let s := run step s₀ acts
    (∀ pk row, s.committed? pk = some row → ∃ row', (step s act).committed? pk = some row' ∧
      row.status.Reaches row'.status ∧ (row.isTerminal = true → row'.status = row.status)) ∧
    (∀ pk row, s.committed? pk = some row → (row.finishedAt.isSome ↔ row.isTerminal = true)) ∧
    (∀ pk errors, (s.object? pk).isSome → ∃ s' row,
      failPublication pk errors s = (.ok (), s') ∧ row.isTerminal = true ∧
      s'.object? pk = some row ∧ s'.row? pk = some row ∧
      (s.db.saved = [] → s'.committed? pk = some row)) ∧
    (∀ pk errors body before error, (s.object? pk).isSome → body before = (.error error, s) →
      ∃ s' row, publishingRun pk errors body before = (.error error, s') ∧
        row.isTerminal = true ∧ s'.object? pk = some row ∧ s'.row? pk = some row ∧
        (s.db.saved = [] → s'.committed? pk = some row)) := by
  intro s
  have hinv : s.Inv s₀.db.view.artifacts := run_inv h₀ acts
  have hcommitted {s' : Session} {pk : Nat} {row : ImportRun} (hsaved : s'.db.saved = s.db.saved)
      (hrow : s'.row? pk = some row) (hidle : s.db.saved = []) : s'.committed? pk = some row := by
    rw [Session.committed?, Tx.committed_of_saved_nil _ (hsaved.trans hidle)]
    exact hrow
  refine ⟨fun pk row hrow => ?_, fun pk row hrow => ?_, fun pk errors hobject => ?_,
    fun pk errors body before error hobject hbody => ?_⟩
  · obtain ⟨row', hrow', hreach⟩ := (step_moves s act hinv).committed pk row hrow
    exact ⟨row', hrow', hreach, fun hterminal =>
      ImportStatus.reaches_terminal hreach (allowedTransitions_of_isTerminal hterminal)⟩
  · rw [(hinv.rows.committed pk row hrow).finishedAt_isSome]
  · obtain ⟨row, hok, hterminal, hrow, hheld, hsaved⟩ := failPublication_closes hinv hobject errors
    exact ⟨_, row, Prod.ext hok rfl, hterminal, hheld, hrow, hcommitted hsaved hrow⟩
  · obtain ⟨row, hok, hterminal, hrow, hheld, hsaved⟩ :=
      failPublication_closes hinv hobject (errors.payload error)
    exact ⟨_, row, publishingRun_reraises hbody hok, hterminal, hheld, hrow,
      hcommitted hsaved hrow⟩

/-- A run that is about to be started, alone in its registry. -/
def waitingRun : ImportRun where
  pk := 1
  source := 1
  artifact := 1
  importerName := "shop-workbook"
  schemaVersion := "1.0"
  importKey := "3f"
  dryRun := false
  status := .pending
  startedAt := none
  finishedAt := none
  rowsAdded := 0
  rowsSkipped := 0
  rowsInvalid := 0
  warnings := []
  errors := []

def waitingSession : Session where
  db := Tx.idle ⟨[⟨1, 1, "9a", 120⟩], [waitingRun]⟩
  memory := [waitingRun]
  clock := 50

theorem waitingSession_loaded : waitingSession.Loaded := by
  refine ⟨rfl, fun pk object hobject => hobject, fun pk row hrow => ?_⟩
  have : row = waitingRun := List.mem_singleton.mp (Table.mem_of_get? hrow)
  subst this
  exact ⟨by decide, by decide, by decide, fun started hstarted => by cases hstarted⟩

theorem importRun_stateMachine_waiting :
    waitingSession.Loaded ∧
      ((waitingSession.object? 1).isSome → ∃ s' row,
        failPublication 1 [] waitingSession = (.ok (), s') ∧ row.isTerminal = true ∧
        s'.object? 1 = some row ∧ s'.row? 1 = some row ∧
        (waitingSession.db.saved = [] → s'.committed? 1 = some row)) :=
  ⟨waitingSession_loaded,
    (importRun_stateMachine waitingSession waitingSession_loaded [] .beginBlock).2.2.1 1 []⟩

/-- The start is rolled back, the object stays running, and its completion takes the committed
row from pending to succeeded in one move, which the table does not have. -/
theorem committedStatus_skips_running :
    ¬ ∀ (s₀ : Session) (acts : List Act) (act : Act) (pk : Nat) (row row' : ImportRun),
      s₀.Loaded → (run step s₀ acts).committed? pk = some row →
      (step (run step s₀ acts) act).committed? pk = some row' →
      row'.status = row.status ∨ row'.status ∈ allowedTransitions row.status := by
  intro hclaim
  have hskip := hclaim waitingSession [.beginBlock, .start 1, .rollbackBlock]
    (.complete 1 ⟨3, 0, 0, []⟩) 1 waitingRun
    { waitingRun with
      status := .succeeded, startedAt := some 50, finishedAt := some 50, rowsAdded := 3 }
    waitingSession_loaded (by decide) (by decide)
  revert hskip
  decide

end Dashkoda.Sources
