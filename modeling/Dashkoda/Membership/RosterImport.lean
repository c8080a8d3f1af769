import Dashkoda.Core.FeedAttribution
import Dashkoda.Core.PublicFeed
import Dashkoda.Lib.Calendar
import Dashkoda.Lib.Runs
import Dashkoda.Lib.Succession

/-!
# Importing a roster

The member register and the composition are read from an export of the members.  One reading is in
force at a time: another file replaces it only where the operator says so, the reading it replaces
is kept, and a file that was imported before is not imported again.
-/

open Lib

namespace Dashkoda.Membership.Roster

open Core (importedBefore NothingPublished RunOpened RunPublished)
open Sources (Exn ImportRun JsonObject Registry SourceArtifact Time)

inductive RosterExn
  | importError (message : String)
  | integrityError (constraint : String)
  | dataError (column : String)
  | registry (error : Exn)
  | other (typeName : String)
  deriving DecidableEq, Repr

structure RosterReading (ρ : Type) where
  rows : List ρ
  rowsRead : Nat
  warnings : List JsonObject

/-- What the register and the composition do not share. -/
structure RosterImporter (ρ : Type) where
  source : Nat
  importerName : String
  schemaVersion : String
  names : Core.ImporterNames importerName schemaVersion
  read : List UInt8 → Date → Except RosterExn (RosterReading ρ)
  /-- What the database raises about the columns and the constraints of the rows. -/
  refusal : RosterReading ρ → Option RosterExn
  rowsSkipped : RosterReading ρ → Nat
  failureCode : String
  alreadyImported : String
  failed : String

structure RosterSnapshot (ρ : Type) where
  pk : Nat
  importRun : Nat
  snapshotDate : Date
  sourceSha256 : String
  sourceRowCount : Nat
  isCurrent : Bool
  supersededBy : Option Nat
  rows : List ρ

instance {ρ : Type} : Succeeding (RosterSnapshot ρ) where
  pk := RosterSnapshot.pk
  isCurrent := RosterSnapshot.isCurrent
  successor := RosterSnapshot.supersededBy
  retire next snapshot := { snapshot with isCurrent := false, supersededBy := some next }
  pk_retire _ _ := rfl
  isCurrent_retire _ _ := rfl
  successor_retire _ _ := rfl

structure RosterDb (ρ : Type) where
  registry : Registry
  clock : Time
  snapshots : List (RosterSnapshot ρ)

def RosterDb.empty {ρ : Type} : RosterDb ρ := ⟨⟨[], []⟩, 0, []⟩

structure RosterResult where
  importRun : Nat
  dryRun : Bool
  unchanged : Bool
  sourceSha256 : String
  snapshotDate : Date
  rowsRead : Nat
  rowsWritten : Nat
  superseded : Nat
  diagnostics : List JsonObject
  deriving DecidableEq

abbrev RosterRun (ρ : Type) := Proc RosterExn (RosterDb ρ)

section Import

variable {ρ : Type}

def onRegistry {α : Type} (call : Proc Exn Registry α) : RosterRun ρ α :=
  Proc.onPart RosterDb.registry (fun registry db => { db with registry }) .registry call

def standDown (snapshot : RosterSnapshot ρ) : RosterSnapshot ρ :=
  { snapshot with isCurrent := false }

def nameSuccessor (next : Nat) (snapshot : RosterSnapshot ρ) : RosterSnapshot ρ :=
  { snapshot with supersededBy := some next }

def newSnapshot (pk run : Nat) (sha256 : String) (snapshotDate : Date) (reading : RosterReading ρ) :
    RosterSnapshot ρ :=
  ⟨pk, run, snapshotDate, sha256, reading.rowsRead, true, none, reading.rows⟩

variable (importer : RosterImporter ρ) (digestBytes : List UInt8 → String)

/-- `_retire_current`, and what the transaction writes besides the end of the run. -/
def writeSnapshot (run : Nat) (sha256 : String) (snapshotDate : Date) (supersedePrevious : Bool)
    (reading : RosterReading ρ) (snapshots : List (RosterSnapshot ρ)) :
    Except RosterExn (List (RosterSnapshot ρ) × Nat) :=
  let retiring := snapshots.filter (·.isCurrent)
  if retiring.isEmpty = false ∧ supersedePrevious = false then
    .error (.importError importer.alreadyImported)
  else
    -- retired before the new one is written, under the constraint of one current snapshot
    let stood := Table.updateWhere (·.isCurrent) standDown snapshots
    let created := newSnapshot (Table.nextPk snapshots) run sha256 snapshotDate reading
    if stood.any (·.sourceSha256 = sha256) then .error (.integrityError "unique_source_file")
    else if stood.any (·.isCurrent) then .error (.integrityError "one_current_per_source")
    else match importer.refusal reading with
      | some error => .error error
      | none =>
        .ok (Table.updateWhere (fun snapshot => snapshot.pk ∈ retiring.map (·.pk))
          (nameSuccessor created.pk)
          (stood ++ [created]), retiring.length)

def publishReading (run : ImportRun) (sha256 : String) (snapshotDate : Date)
    (supersedePrevious : Bool)
    (reading : RosterReading ρ) : RosterRun ρ Nat :=
  Proc.atomically do
    let superseded ← Proc.service fun db =>
      (writeSnapshot importer run.pk sha256 snapshotDate supersedePrevious reading db.snapshots).map
          fun written =>
        ({ db with snapshots := written.1 }, written.2)
    let now := (← get).clock
    onRegistry (Core.completeRun run now
      ⟨reading.rows.length + 1, importer.rowsSkipped reading, 0, reading.warnings⟩)
    return superseded

def keyOf (sha256 : String) : String :=
  Core.digestText digestBytes
    (Sources.importKeyText importer.importerName importer.schemaVersion sha256)

/-- `_existing_successful_run` -/
def existingSuccessfulRun (registry : Registry) (importKey : String) : Option ImportRun :=
  (registry.runs.filter fun run => run.isSuccessfulLive && run.importKey = importKey).getLast?

/-- What an exception of the transaction becomes. -/
def outwardError : RosterExn → RosterExn
  | .importError message => .importError message
  | _ => .importError importer.failed

/-- Publish or only check what was read, under an import run. -/
def importReading (content : List UInt8) (snapshotDate : Date) (dryRun supersedePrevious : Bool)
    (reading : RosterReading ρ) : RosterRun ρ RosterResult := do
  let db ← get
  let sha256 := digestBytes content
  let artifact :=
    (Core.findPublishedArtifact db.registry importer.source sha256 importer.importerName).1
  let (_, run) ← onRegistry
    (Core.startRun (Core.digestText digestBytes) importer.source ⟨sha256, content.length⟩ artifact
    importer.importerName importer.schemaVersion dryRun db.clock)
  tryCatch (do
      if dryRun then
        onRegistry (Core.completeRun run db.clock ⟨0, reading.rowsRead, 0, reading.warnings⟩)
        return ⟨run.pk, true, false, sha256, snapshotDate, reading.rowsRead, 0, 0, reading.warnings⟩
      else
        let superseded ← publishReading importer run sha256 snapshotDate supersedePrevious reading
        return ⟨run.pk, false, false, sha256, snapshotDate, reading.rowsRead,
          reading.rows.length, superseded,
          reading.warnings⟩)
    fun error => do
      onRegistry (Core.failPublication run db.clock [[("code", importer.failureCode)]])
      throw (outwardError importer error)

/-- `import_member_register`, and `import_composition_snapshot`. -/
def importRoster (content : List UInt8) (snapshotDate : Date) (dryRun supersedePrevious : Bool) :
    RosterRun ρ RosterResult := do
  let db ← get
  let sha256 := digestBytes content
  match if dryRun then none else existingSuccessfulRun db.registry
      (keyOf importer digestBytes sha256) with
  | some run => return ⟨run.pk, false, true, sha256, snapshotDate, 0, 0, 0, []⟩
  | none =>
    let reading ← Proc.ofExcept (importer.read content snapshotDate)
    importReading importer digestBytes content snapshotDate dryRun supersedePrevious reading

end Import

/-! ## What is written -/

section Write

variable {ρ : Type} {importer : RosterImporter ρ} {snapshots : List (RosterSnapshot ρ)}

theorem mem_stood {snapshot : RosterSnapshot ρ}
    (h : snapshot ∈ Table.updateWhere (·.isCurrent) standDown snapshots) :
    ∃ old ∈ snapshots, snapshot.sourceSha256 = old.sourceSha256 ∧ snapshot.isCurrent = false := by
  obtain ⟨old, hold, rfl⟩ := Table.mem_updateWhere.mp h
  refine ⟨old, hold, ?_⟩
  by_cases hcurrent : old.isCurrent = true
  · rw [if_pos hcurrent]
    exact ⟨rfl, rfl⟩
  · rw [if_neg hcurrent]
    exact ⟨rfl, Bool.eq_false_iff.mpr hcurrent⟩

theorem any_stood_iff {sha256 : String} :
    (Table.updateWhere (·.isCurrent) standDown snapshots).any (·.sourceSha256 = sha256) = false ↔
      ∀ old ∈ snapshots, old.sourceSha256 ≠ sha256 := by
  have hsha (old : RosterSnapshot ρ) : (if old.isCurrent then standDown old else old).sourceSha256 =
      old.sourceSha256 := by
    split <;> rfl
  unfold Table.updateWhere
  rw [List.any_map, List.any_eq_false]
  simp only [Function.comp_apply, hsha, decide_eq_true_eq]

theorem any_isCurrent_stood : (Table.updateWhere (·.isCurrent) standDown snapshots).any
    (·.isCurrent) = false := by
  rw [List.any_eq_false]
  intro snapshot hsnapshot
  obtain ⟨old, -, -, hretired⟩ := mem_stood hsnapshot
  rw [hretired]
  exact Bool.false_ne_true

/-- Standing down first and naming the successor afterwards is one replacement. -/
theorem nameSuccessor_stood (hkeys : Table.UniqueKeys snapshots) (created : RosterSnapshot ρ)
    (hpk : created.pk = Table.nextPk snapshots) :
    Table.updateWhere (fun snapshot => snapshot.pk ∈ (snapshots.filter (·.isCurrent)).map (·.pk))
      (nameSuccessor created.pk)
        (Table.updateWhere (·.isCurrent) standDown snapshots ++ [created]) =
      Succession.replaceBy created snapshots := by
  have hretiring {old : RosterSnapshot ρ} (hold : old ∈ snapshots) :
      old.pk ∈ (snapshots.filter (·.isCurrent)).map (·.pk) ↔ old.isCurrent = true := by
    rw [List.mem_map]
    constructor
    · rintro ⟨other, hother, hsame⟩
      obtain ⟨hmem, hcurrent⟩ := List.mem_filter.mp hother
      rw [← Table.eq_of_pk_eq hkeys hmem hold hsame]
      exact hcurrent
    · exact fun hcurrent => ⟨old, List.mem_filter.mpr ⟨hold, hcurrent⟩, rfl⟩
  have hfresh : created.pk ∉ (snapshots.filter (·.isCurrent)).map (·.pk) := by
    rw [List.mem_map]
    rintro ⟨other, hother, hsame⟩
    exact Table.ne_nextPk (List.mem_filter.mp hother).1 (hsame.trans hpk)
  unfold Table.updateWhere Succession.replaceBy
  rw [List.map_append, List.map_map, List.map_singleton, if_neg (by simpa using hfresh)]
  congr 1
  refine List.map_congr_left fun old hold => ?_
  by_cases hcurrent : old.isCurrent = true
  · have hmem : (standDown old).pk ∈ (snapshots.filter (·.isCurrent)).map (·.pk) :=
      (hretiring hold).mpr hcurrent
    have hnew : (if Succeeding.isCurrent old then Succeeding.retire (Row.pk created) old else old) =
        nameSuccessor created.pk (standDown old) := if_pos hcurrent
    simp only [Function.comp_apply, hcurrent, if_true]
    rw [if_pos (decide_eq_true hmem), hnew]
  · have hmem := (hretiring hold).not.mpr hcurrent
    have hkept : (if Succeeding.isCurrent old then Succeeding.retire (Row.pk created) old else
      old) = old := if_neg hcurrent
    simp only [Function.comp_apply, hcurrent, Bool.false_eq_true, if_false]
    rw [if_neg (by simpa using hmem), hkept]

/-- When a snapshot can be written, and that it takes the place of the one in force. -/
theorem writeSnapshot_eq_ok_iff (hkeys : Table.UniqueKeys snapshots) {run superseded : Nat}
    {sha256 : String} {snapshotDate : Date} {supersedePrevious : Bool} {reading : RosterReading ρ}
    {written : List (RosterSnapshot ρ)} :
    writeSnapshot importer run sha256 snapshotDate supersedePrevious reading snapshots =
      .ok (written, superseded) ↔
      (snapshots.any (·.isCurrent) = true → supersedePrevious = true) ∧
      (∀ old ∈ snapshots, old.sourceSha256 ≠ sha256) ∧
        importer.refusal reading = none ∧ superseded = (snapshots.filter (·.isCurrent)).length ∧
        written = Succession.replaceBy
          (newSnapshot (Table.nextPk snapshots) run sha256 snapshotDate reading) snapshots := by
  have hempty : (snapshots.filter (·.isCurrent)).isEmpty = false ↔
      snapshots.any (·.isCurrent) = true := by
    rw [List.isEmpty_eq_false_iff_exists_mem, List.any_eq_true]
    simp only [List.mem_filter]
  have hreplaced := nameSuccessor_stood hkeys
    (newSnapshot (Table.nextPk snapshots) run sha256 snapshotDate reading) rfl
  unfold writeSnapshot
  dsimp only
  rw [any_isCurrent_stood, hreplaced]
  by_cases hrefused : (snapshots.filter (·.isCurrent)).isEmpty = false ∧ supersedePrevious = false
  · rw [if_pos hrefused]
    refine iff_of_false (fun h => nomatch h) fun h => ?_
    have hsupersede := h.1 (hempty.mp hrefused.1)
    rw [hrefused.2] at hsupersede
    cases hsupersede
  · have hallowed : snapshots.any (·.isCurrent) = true → supersedePrevious = true :=
      fun hcurrent => Bool.not_eq_false _ ▸ fun hnot => hrefused ⟨hempty.mpr hcurrent, hnot⟩
    rw [if_neg hrefused]
    cases hsha : (Table.updateWhere (·.isCurrent) standDown snapshots).any
        (·.sourceSha256 = sha256) with
    | true =>
      rw [if_pos rfl]
      refine iff_of_false (fun h => nomatch h) fun h => ?_
      rw [any_stood_iff.mpr h.2.1] at hsha
      cases hsha
    | false =>
      rw [if_neg Bool.false_ne_true, if_neg Bool.false_ne_true]
      have hfree := any_stood_iff.mp hsha
      cases hrefusal : importer.refusal reading with
      | some error => exact iff_of_false (fun h => nomatch h) fun h => nomatch h.2.2.1
      | none =>
        constructor
        · intro h
          obtain ⟨hwritten, hsuperseded⟩ := Prod.mk.inj (Except.ok.inj h)
          exact ⟨hallowed, hfree, rfl, hsuperseded.symm, hwritten.symm⟩
        · rintro ⟨-, -, -, rfl, rfl⟩
          rfl

end Write

/-! ## Dry runs -/

section DryRun

variable {r r' : Registry} {run : ImportRun} {digest : String → String} {source : Nat}
  {identity : Core.ContentIdentity}
  {importerName schemaVersion : String} {now : Time}

/-- A dry run stands at the end of the runs. -/
structure DryRunOpened (r : Registry) (run : ImportRun) (r' : Registry) : Prop where
  sound : r'.Sound
  artifacts : r.artifacts <+: r'.artifacts
  runs : r'.runs = r.runs ++ [run]
  pk : run.pk = Table.nextPk r.runs
  dryRun : run.dryRun = true

theorem not_live_of_dryRun (h : run.dryRun = true) : run.isSuccessfulLive = false := by
  unfold ImportRun.isSuccessfulLive
  rw [h]
  exact Bool.and_false _

/-- Whatever is saved over a dry run, nothing is published. -/
theorem DryRunOpened.save (h : DryRunOpened r run r') {row : ImportRun} (hpk : row.pk = run.pk)
    (hdry : row.dryRun = true) : NothingPublished r (r'.saveRun row) := by
  refine ⟨h.sound.saveRun row, h.artifacts, [row], ?_, fun x hx => ?_⟩
  · show Table.save r'.runs row = _
    rw [h.runs]
    refine Table.save_append_of_fresh (fun old hold heq => ?_) hpk.symm
    exact Table.ne_nextPk hold (heq.trans (hpk.trans h.pk))
  · rw [List.mem_singleton.mp hx]
    exact not_live_of_dryRun hdry

theorem DryRunOpened.nothingPublished (h : DryRunOpened r run r') : NothingPublished r r' := by
  refine ⟨h.sound, h.artifacts, [run], h.runs, fun x hx => ?_⟩
  rw [List.mem_singleton.mp hx]
  exact not_live_of_dryRun h.dryRun

theorem startRun_dryRun (h : r.Sound) (hhex : Sources.isSha256Hex identity.sha256 = true) :
    (Core.startRun digest source identity
      (Core.findPublishedArtifact r source identity.sha256 importerName).1
        importerName schemaVersion true now).wp
      (fun opened r' => DryRunOpened r opened.2 r') (fun _ r' => NothingPublished r r') r := by
  unfold Core.startRun
  simp only [Proc.wp_bind, Proc.wp_pure]
  refine Proc.wp_mono (Core.artifactFor_grows h hhex) ?_ ?_
  · rintro artifact r₀ ⟨hsound, hartifacts, hruns, -⟩
    unfold Core.openRun
    rw [Proc.wp_bind]
    apply Proc.wp_service
    · intro r₁ pending hbuilt
      obtain ⟨-, hpending, -, rfl⟩ := Sources.buildImportRun_eq_ok_iff.mp hbuilt
      have hpk : pending.pk = Table.nextPk r₀.runs := by
        rw [hpending]
        rfl
      have hdry : pending.dryRun = true := by
        rw [hpending]
        rfl
      have hopened : DryRunOpened r pending { r₀ with runs := r₀.runs ++ [pending] } :=
        ⟨hsound.addRun hpk, hartifacts, congrArg (· ++ [pending]) hruns, hruns ▸ hpk, hdry⟩
      apply Proc.wp_service
      · intro r₂ run hstarted
        obtain ⟨-, rfl, rfl⟩ := Sources.startRun_eq_ok_iff.mp hstarted
        refine ⟨hopened.sound.saveRun _, hartifacts, ?_, hopened.pk, hdry⟩
        show Table.save (r₀.runs ++ [pending]) (pending.started now) = _
        rw [hruns]
        exact Table.save_append_of_fresh
          (fun old hold heq => Table.ne_nextPk hold (heq.trans hopened.pk)) rfl
      · exact fun _ _ => hopened.nothingPublished
    · exact fun _ _ =>
        ⟨hsound, hartifacts, [], by rw [hruns, List.append_nil], fun _ hx => nomatch hx⟩
  · rintro _ r₀ rfl
    exact NothingPublished.refl h

theorem DryRunOpened.complete (h : DryRunOpened r run r') (counts : ImportRun.Counts) :
    (Core.completeRun run now counts).wp (fun _ r'' => NothingPublished r r'')
      (fun _ r'' => r'' = r') r' := by
  unfold Core.completeRun
  apply Proc.wp_service
  · intro r'' _ hok
    obtain ⟨registry, hcomplete, heq⟩ := map_eq_ok_iff.mp hok
    cases heq
    obtain ⟨-, -, rfl⟩ := Sources.completeRun_eq_ok_iff.mp hcomplete
    exact h.save rfl h.dryRun
  · exact fun _ _ => rfl

theorem DryRunOpened.fail (h : DryRunOpened r run r') (errors : List JsonObject) :
    (Core.failPublication run now errors).wp (fun _ r'' => NothingPublished r r'')
      (fun _ r'' => NothingPublished r r'') r' := by
  unfold Core.failPublication
  apply Proc.wp_service
  · intro r'' _ hok
    obtain ⟨registry, hfail, heq⟩ := map_eq_ok_iff.mp hok
    cases heq
    have hfound : Table.get? r'.runs run.pk = some run := by
      apply Table.get?_of_mem h.sound.runs
      rw [h.runs]
      exact List.mem_append_right _ List.mem_cons_self
    unfold Sources.failPublicationRow at hfail
    rw [hfound] at hfail
    dsimp only at hfail
    split at hfail
    · cases hfail
      exact h.nothingPublished
    · split at hfail
      · cases hfail
      · split at hfail
        · cases hfail
        · cases hfail
          exact h.save rfl h.dryRun
  · exact fun _ _ => h.nothingPublished

end DryRun

/-! ## What an import leaves -/

section Import

variable {ρ : Type} {importer : RosterImporter ρ} {digestBytes : List UInt8 → String}
  {db db' : RosterDb ρ}
  {content : List UInt8} {snapshotDate : Date}

/-- The snapshots stand in one line, and the keys of their files are those imported before. -/
structure RosterDb.Sound (importer : RosterImporter ρ) (digestBytes : List UInt8 → String)
    (db : RosterDb ρ) : Prop where
  registry : db.registry.Sound
  keys : Table.UniqueKeys db.snapshots
  line : Succession.Line db.snapshots
  published : ∀ key, importedBefore db.registry key = true ↔
    ∃ snapshot ∈ db.snapshots, keyOf importer digestBytes snapshot.sourceSha256 = key

theorem sound_empty : RosterDb.Sound importer digestBytes (RosterDb.empty : RosterDb ρ) where
  registry := ⟨List.nodup_nil, List.nodup_nil⟩
  keys := List.nodup_nil
  line := trivial
  published _ := ⟨fun h => (nomatch h), fun h => (nomatch h)⟩

/-- Only the registry has changed, and nothing was published in it. -/
structure Untouched (db db' : RosterDb ρ) : Prop where
  registry : NothingPublished db.registry db'.registry
  snapshots : db'.snapshots = db.snapshots

theorem RosterDb.Sound.of_untouched (h : db.Sound importer digestBytes) (hsame : Untouched db db') :
    db'.Sound importer digestBytes where
  registry := hsame.registry.sound
  keys := hsame.snapshots ▸ h.keys
  line := hsame.snapshots ▸ h.line
  published key := by
    rw [hsame.registry.importedBefore, hsame.snapshots]
    exact h.published key

theorem isSome_existingSuccessfulRun (registry : Registry) (key : String) :
    (existingSuccessfulRun registry key).isSome = importedBefore registry key := by
  unfold existingSuccessfulRun importedBefore
  rw [Bool.eq_iff_iff, List.getLast?_isSome, ne_eq, List.filter_eq_nil_iff, List.any_eq_true]
  simp only [not_forall, not_not, exists_prop]

/-- The new snapshot, and that it alone is in force. -/
structure Replaced (importer : RosterImporter ρ) (digestBytes : List UInt8 → String)
    (content : List UInt8) (snapshotDate : Date) (reading : RosterReading ρ)
    (db db' : RosterDb ρ) : Prop where
  registry : RunPublished db.registry (keyOf importer digestBytes (digestBytes content))
    db'.registry
  snapshots : ∃ run, db'.snapshots = Succession.replaceBy
    (newSnapshot (Table.nextPk db.snapshots) run (digestBytes content) snapshotDate reading)
      db.snapshots

theorem RosterDb.Sound.of_replaced {reading : RosterReading ρ} (h : db.Sound importer digestBytes)
    (hreplaced : Replaced importer digestBytes content snapshotDate reading db db') :
      db'.Sound importer digestBytes := by
  obtain ⟨run, hsnapshots⟩ := hreplaced.snapshots
  have hsha : db'.snapshots.map (·.sourceSha256) =
      db.snapshots.map (·.sourceSha256) ++ [digestBytes content] := by
    rw [hsnapshots]
    exact Succession.map_replaceBy fun _ _ => rfl
  refine ⟨hreplaced.registry.sound, ?_, ?_, fun key => ?_⟩
  · rw [hsnapshots]
    exact Succession.uniqueKeys_replaceBy h.keys fun old hold => Table.ne_nextPk hold
  · rw [hsnapshots]
    exact h.line.replaceBy rfl rfl
  · have hexists (snapshots : List (RosterSnapshot ρ)) :
        (∃ snapshot ∈ snapshots, keyOf importer digestBytes snapshot.sourceSha256 = key) ↔
          ∃ sha256 ∈ snapshots.map (·.sourceSha256), keyOf importer digestBytes sha256 = key := by
      simp
    rw [hreplaced.registry.importedBefore, hexists, hsha, Bool.or_eq_true, h.published key, hexists,
      decide_eq_true_eq]
    simp only [List.mem_append, List.mem_singleton, or_and_right, exists_or, exists_eq_left]

/-- What the database asks of a reading before it is in force. -/
structure Writable (importer : RosterImporter ρ) (supersedePrevious : Bool)
    (reading : RosterReading ρ) (db : RosterDb ρ) :
    Prop where
  superseding : db.snapshots.any (·.isCurrent) = true → supersedePrevious = true
  accepted : importer.refusal reading = none
  counts :
    Core.CountsFit ⟨reading.rows.length + 1, importer.rowsSkipped reading, 0, reading.warnings⟩

theorem completeRun_unfit {r : Registry} {run : ImportRun} {now : Time} {counts : ImportRun.Counts}
    (h : ¬ Core.CountsFit counts) : (Core.completeRun run now counts).wp (fun _ _ => False)
      (fun _ r' => r' = r) r := by
  have hcount {name : String} {value : Nat}
      (hfit : ImportRun.countFieldViolations name value = []) :
      value ≤ ImportRun.maxPositiveInteger := by
    unfold ImportRun.countFieldViolations at hfit
    by_cases hlarge : ImportRun.maxPositiveInteger < value
    · rw [if_pos hlarge] at hfit
      cases hfit
    · exact Nat.not_lt.mp hlarge
  unfold Core.completeRun
  apply Proc.wp_service
  · intro r' _ hok
    obtain ⟨registry, hcomplete, -⟩ := map_eq_ok_iff.mp hok
    obtain ⟨-, hclean, -⟩ := Sources.completeRun_eq_ok_iff.mp hcomplete
    have hfields := ((ImportRun.fullClean_ok_iff _ _).mp hclean).1
    unfold ImportRun.fieldViolations at hfields
    simp only [List.append_eq_nil_iff] at hfields
    exact h ⟨hcount hfields.1.1.2, hcount hfields.1.2, hcount hfields.2⟩
  · exact fun _ _ => rfl

/-- Under an open run, the transaction writes the reading exactly where it is writable. -/
theorem publishReading_spec {r : Registry} {key : String} {run : ImportRun}
    {supersedePrevious : Bool} {reading : RosterReading ρ} (hkeys : Table.UniqueKeys db.snapshots)
    (hgrown : RunOpened r key run db.registry)
    (hopened : Core.Opened r key db.clock run db.registry) (hnew : importedBefore r key = false)
    (hfree : ∀ old ∈ db.snapshots, old.sourceSha256 ≠ digestBytes content) :
    (publishReading importer run (digestBytes content) snapshotDate supersedePrevious reading).wp
      (fun _ db' => Writable importer supersedePrevious reading db ∧
        RunPublished r key db'.registry ∧
        db'.snapshots = Succession.replaceBy
          (newSnapshot (Table.nextPk db.snapshots) run.pk (digestBytes content)
          snapshotDate reading) db.snapshots)
      (fun _ db' => ¬ Writable importer supersedePrevious reading db ∧ db' = db) db := by
  unfold publishReading
  rw [Proc.wp_atomically]
  beta_reduce
  rw [Proc.wp_bind]
  apply Proc.wp_service
  · intro db₁ superseded hok
    obtain ⟨⟨written, count⟩, hwritten, heq⟩ := map_eq_ok_iff.mp hok
    cases heq
    obtain ⟨hsupersede, -, hrefusal, -, rfl⟩ := (writeSnapshot_eq_ok_iff hkeys).mp hwritten
    rw [Proc.wp_bind, Proc.wp_get]
    dsimp only
    unfold onRegistry
    rw [Proc.wp_bind, Proc.wp_onPart]
    by_cases hcounts :
      Core.CountsFit ⟨reading.rows.length + 1, importer.rowsSkipped reading, 0, reading.warnings⟩
    · refine Proc.wp_mono (Proc.wp_and (hgrown.complete _) (hopened.completes hcounts hnew)) ?_ ?_
      · exact fun _ _ hdone => ⟨⟨hsupersede, hrefusal, hcounts⟩, hdone.1, rfl⟩
      · exact fun _ _ hraised => hraised.2.elim
    · refine Proc.wp_mono (completeRun_unfit hcounts)
        (fun _ _ hfalse => hfalse.elim) fun _ _ _ => ?_
      exact ⟨fun hwritable => hcounts hwritable.counts, rfl⟩
  · intro error hraised
    refine ⟨fun hwritable => ?_, rfl⟩
    have hwrites : writeSnapshot importer run.pk (digestBytes content) snapshotDate
        supersedePrevious reading db.snapshots =
        .ok (_, _) :=
      (writeSnapshot_eq_ok_iff hkeys).mpr
        ⟨hwritable.superseding, hfree, hwritable.accepted, rfl, rfl⟩
    rw [hwrites] at hraised
    cases hraised

/-- A reading that can be put in force: its file can be registered, and the database accepts it. -/
def Publishable (importer : RosterImporter ρ) (digestBytes : List UInt8 → String)
    (content : List UInt8) (supersedePrevious : Bool) (reading : RosterReading ρ)
    (db : RosterDb ρ) : Prop :=
  Core.identityAccepted db.registry importer.source ⟨digestBytes content, content.length⟩ = true ∧
    Writable importer supersedePrevious reading db

theorem wp_recordFailure {r : Registry} {key : String} {run : ImportRun}
    (h : RunOpened r key run db.registry) (error : RosterExn) (errors : List JsonObject)
    (now : Time) {α : Type} :
    (do
        onRegistry (Core.failPublication run now errors)
        throw (outwardError importer error) : RosterRun ρ α).wp (fun _ _ => False)
      (fun _ db' => NothingPublished r db'.registry ∧ db'.snapshots = db.snapshots) db := by
  unfold onRegistry
  rw [Proc.wp_bind, Proc.wp_onPart]
  refine Proc.wp_mono (h.fail errors) (fun _ registry hnothing => ?_) fun _ registry hnothing =>
    ⟨hnothing, rfl⟩
  rw [Proc.wp_throw]
  exact ⟨hnothing, rfl⟩

/-- A live run puts the reading in force exactly where it is publishable, and otherwise publishes
nothing. -/
theorem importReading_live (hdigest : ∀ bytes, Sources.isSha256Hex (digestBytes bytes) = true)
    (h : db.Sound importer digestBytes) {supersedePrevious : Bool} {reading : RosterReading ρ}
    (hnew : importedBefore db.registry (keyOf importer digestBytes (digestBytes content)) = false) :
    (importReading importer digestBytes content snapshotDate false supersedePrevious reading).wp
      (fun result db' => result.dryRun = false ∧ result.unchanged = false ∧
        Publishable importer digestBytes content supersedePrevious reading db ∧
        Replaced importer digestBytes content snapshotDate reading db db')
      (fun _ db' => ¬ Publishable importer digestBytes content supersedePrevious reading db ∧
        Untouched db db') db := by
  have hhex := hdigest content
  have hfree (old : RosterSnapshot ρ) (hold : old ∈ db.snapshots) :
      old.sourceSha256 ≠ digestBytes content := by
    intro hsame
    have hbefore := (h.published _).mpr ⟨old, hold, congrArg (keyOf importer digestBytes) hsame⟩
    rw [hnew] at hbefore
    cases hbefore
  unfold importReading
  rw [Proc.wp_bind, Proc.wp_get]
  dsimp only
  have hgrows :
      (Core.startRun (Core.digestText digestBytes) importer.source
        ⟨digestBytes content, content.length⟩
      (Core.findPublishedArtifact db.registry importer.source
        (digestBytes content) importer.importerName).1
      importer.importerName importer.schemaVersion false db.clock).wp _ _ db.registry :=
    Core.startRun_grows h.registry hhex rfl
  rw [Proc.wp_bind]
  unfold onRegistry
  rw [Proc.wp_onPart]
  cases haccepted : Core.identityAccepted db.registry importer.source
      ⟨digestBytes content, content.length⟩ with
  | false =>
    refine Proc.wp_mono (Core.startRun_refuses haccepted hhex) (fun _ _ hfalse => hfalse.elim) ?_
    rintro _ registry rfl
    refine ⟨fun hpublishable => ?_, .refl h.registry, rfl⟩
    rw [hpublishable.1] at haccepted
    cases haccepted
  | true =>
    have hlength : (keyOf importer digestBytes (digestBytes content)).length = 64 :=
      (Core.isSha256Hex_iff.mp (hdigest _)).1
    have hopens :
        (Core.startRun (Core.digestText digestBytes) importer.source
          ⟨digestBytes content, content.length⟩
        (Core.findPublishedArtifact db.registry importer.source
          (digestBytes content) importer.importerName).1
        importer.importerName importer.schemaVersion false db.clock).wp _ _ db.registry :=
      Core.startRun_opens h.registry haccepted hhex importer.names rfl hlength
    refine Proc.wp_mono (Proc.wp_and hgrows hopens) ?_ fun _ _ hraised => hraised.2.elim
    rintro ⟨artifact, run⟩ registry ⟨hgrown, hopened⟩
    dsimp only
    rw [Proc.wp_tryCatch, if_neg Bool.false_ne_true, Proc.wp_bind]
    have hpublish :
        (publishReading importer run (digestBytes content) snapshotDate supersedePrevious
          reading).wp _ _
        { db with registry } := publishReading_spec h.keys hgrown hopened hnew hfree
    refine Proc.wp_mono hpublish ?_ ?_
    · rintro superseded db' ⟨hwritable, hpublished, hsnapshots⟩
      rw [Proc.wp_pure]
      exact ⟨rfl, rfl, ⟨haccepted, hwritable.superseding, hwritable.accepted, hwritable.counts⟩,
        hpublished, run.pk, hsnapshots⟩
    · rintro error db' ⟨hnot, rfl⟩
      have hrun : RunOpened db.registry _ run (RosterDb.registry { db with registry }) := hgrown
      refine Proc.wp_mono (wp_recordFailure hrun error _ _) (fun _ _ hfalse => hfalse.elim) ?_
      rintro _ db' ⟨hnothing, hsnapshots⟩
      refine ⟨fun hpublishable => hnot ?_, hnothing, hsnapshots⟩
      exact ⟨hpublishable.2.superseding, hpublishable.2.accepted, hpublishable.2.counts⟩

/-- A dry run publishes nothing, whether it returns or raises. -/
theorem importReading_dryRun (hdigest : ∀ bytes, Sources.isSha256Hex (digestBytes bytes) = true)
    (h : db.Sound importer digestBytes) {supersedePrevious : Bool} {reading : RosterReading ρ} :
    (importReading importer digestBytes content snapshotDate true supersedePrevious reading).wp
      (fun result db' => result.dryRun = true ∧ Untouched db db')
        (fun _ db' => Untouched db db') db := by
  have hhex := hdigest content
  unfold importReading
  rw [Proc.wp_bind, Proc.wp_get]
  dsimp only
  rw [Proc.wp_bind]
  unfold onRegistry
  rw [Proc.wp_onPart]
  have hstart :
      (Core.startRun (Core.digestText digestBytes) importer.source
        ⟨digestBytes content, content.length⟩
      (Core.findPublishedArtifact db.registry importer.source
        (digestBytes content) importer.importerName).1
      importer.importerName importer.schemaVersion true db.clock).wp _ _ db.registry :=
        startRun_dryRun h.registry hhex
  refine Proc.wp_mono hstart ?_ fun _ registry hnothing => ⟨hnothing, rfl⟩
  rintro ⟨artifact, run⟩ registry hopened
  dsimp only
  rw [Proc.wp_tryCatch, if_pos rfl, Proc.wp_bind, Proc.wp_onPart]
  refine Proc.wp_mono (hopened.complete _) ?_ ?_
  · intro _ completed hnothing
    rw [Proc.wp_pure]
    exact ⟨rfl, hnothing, rfl⟩
  · rintro error _ rfl
    rw [Proc.wp_bind, Proc.wp_onPart]
    refine Proc.wp_mono (hopened.fail _) (fun _ failed hnothing => ?_) fun _ failed hnothing =>
      ⟨hnothing, rfl⟩
    rw [Proc.wp_throw]
    exact ⟨hnothing, rfl⟩

theorem importRoster_dryRun (hdigest : ∀ bytes, Sources.isSha256Hex (digestBytes bytes) = true)
    (h : db.Sound importer digestBytes) {supersedePrevious : Bool} :
    (importRoster importer digestBytes content snapshotDate true supersedePrevious).wp
      (fun result db' => result.dryRun = true ∧ Untouched db db')
        (fun _ db' => Untouched db db') db := by
  unfold importRoster
  rw [Proc.wp_bind, Proc.wp_get]
  dsimp only
  rw [if_pos rfl]
  dsimp only
  rw [Proc.wp_bind]
  apply Proc.wp_ofExcept
  · exact fun reading _ => importReading_dryRun hdigest h
  · exact fun error _ => ⟨.refl h.registry, rfl⟩

/-- A new file that can be read and put in force. -/
def Importable (importer : RosterImporter ρ) (digestBytes : List UInt8 → String)
    (content : List UInt8) (snapshotDate : Date) (supersedePrevious : Bool)
    (reading : RosterReading ρ)
    (db : RosterDb ρ) : Prop :=
  importedBefore db.registry (keyOf importer digestBytes (digestBytes content)) = false ∧
    importer.read content snapshotDate = .ok reading ∧
    Publishable importer digestBytes content supersedePrevious reading db

/-- A live import finds the file imported, or puts its reading in force, or publishes nothing. -/
theorem importRoster_live (hdigest : ∀ bytes, Sources.isSha256Hex (digestBytes bytes) = true)
    (h : db.Sound importer digestBytes) {supersedePrevious : Bool} :
    (importRoster importer digestBytes content snapshotDate false supersedePrevious).wp
      (fun result db' => result.dryRun = false ∧
        (result.unchanged = true ∧ importedBefore db.registry
          (keyOf importer digestBytes (digestBytes content)) = true ∧
            db' = db ∨
          result.unchanged = false ∧ ∃ reading,
            Importable importer digestBytes content snapshotDate supersedePrevious reading db ∧
            Replaced importer digestBytes content snapshotDate reading db db'))
      (fun _ db' => importedBefore db.registry
        (keyOf importer digestBytes (digestBytes content)) = false ∧
        (∀ reading, ¬ Importable importer digestBytes content snapshotDate supersedePrevious
          reading db) ∧
        Untouched db db') db := by
  have hbefore := isSome_existingSuccessfulRun db.registry
    (keyOf importer digestBytes (digestBytes content))
  unfold importRoster
  rw [Proc.wp_bind, Proc.wp_get]
  dsimp only
  rw [if_neg Bool.false_ne_true]
  cases hrun : existingSuccessfulRun db.registry
      (keyOf importer digestBytes (digestBytes content)) with
  | some run =>
    rw [hrun] at hbefore
    dsimp only
    rw [Proc.wp_pure]
    exact ⟨rfl, Or.inl ⟨rfl, hbefore.symm, rfl⟩⟩
  | none =>
    rw [hrun] at hbefore
    have hnew : importedBefore db.registry (keyOf importer digestBytes (digestBytes content)) =
      false := hbefore.symm
    dsimp only
    rw [Proc.wp_bind]
    apply Proc.wp_ofExcept
    · intro reading hread
      refine Proc.wp_mono (importReading_live hdigest h hnew) ?_ ?_
      · rintro result db' ⟨hlive, hchanged, hpublishable, hreplaced⟩
        exact ⟨hlive, Or.inr ⟨hchanged, reading, ⟨hnew, hread, hpublishable⟩, hreplaced⟩⟩
      · rintro error db' ⟨hnot, huntouched⟩
        refine ⟨hnew, fun other himportable => hnot ?_, huntouched⟩
        have hsame : other = reading := Except.ok.inj (himportable.2.1.symm.trans hread)
        exact hsame ▸ himportable.2.2
    · intro error hread
      refine ⟨hnew, fun reading himportable => ?_, .refl h.registry, rfl⟩
      have hok := himportable.2.1
      rw [hread] at hok
      cases hok

end Import

/-! ## Over all imports -/

section History

variable {ρ : Type}

/-- What a snapshot holds of the file it was read from. -/
structure RosterStatement (ρ : Type) where
  sha256 : String
  snapshotDate : Date
  rowsRead : Nat
  rows : List ρ

def stated (snapshot : RosterSnapshot ρ) : RosterStatement ρ :=
  ⟨snapshot.sourceSha256, snapshot.snapshotDate, snapshot.sourceRowCount, snapshot.rows⟩

inductive RosterAction
  | importFile (content : List UInt8) (snapshotDate : Date) (dryRun supersedePrevious : Bool)
  | wait (elapsed : Time)

structure RosterHistory (ρ : Type) where
  db : RosterDb ρ
  /-- What was read by the imports that reported new rows, the oldest first. -/
  log : List (RosterStatement ρ)

variable (importer : RosterImporter ρ) (digestBytes : List UInt8 → String)

def statementOf (content : List UInt8) (snapshotDate : Date) (reading : RosterReading ρ) :
    RosterStatement ρ :=
  ⟨digestBytes content, snapshotDate, reading.rowsRead, reading.rows⟩

/-- What an import reports as new by the way it ends. -/
def announced (content : List UInt8) (snapshotDate : Date) : Except RosterExn RosterResult →
    List (RosterStatement ρ)
  | .error _ => []
  | .ok result =>
    if result.dryRun || result.unchanged then []
    else match importer.read content snapshotDate with
      | .error _ => []
      | .ok reading => [statementOf digestBytes content snapshotDate reading]

def rosterStep (history : RosterHistory ρ) : RosterAction → RosterHistory ρ
  | .wait elapsed => { history with db := { history.db with clock := history.db.clock + elapsed } }
  | .importFile content snapshotDate dryRun supersedePrevious =>
    let ended := importRoster importer digestBytes content snapshotDate dryRun
      supersedePrevious history.db
    ⟨ended.2, history.log ++ announced importer digestBytes content snapshotDate ended.1⟩

def rosterAfter (actions : List RosterAction) : RosterHistory ρ :=
  Lib.run (rosterStep importer digestBytes) ⟨.empty, []⟩ actions

/-- The keys of the files that were reported as new. -/
def RosterHistory.importedKeys (history : RosterHistory ρ) : List String :=
  history.log.map fun statement => keyOf importer digestBytes statement.sha256

structure RosterHistory.Kept (history : RosterHistory ρ) : Prop where
  sound : history.db.Sound importer digestBytes
  stated : history.db.snapshots.map stated = history.log
  once : (history.importedKeys importer digestBytes).Nodup

variable {importer digestBytes} {history : RosterHistory ρ} {content : List UInt8}
  {snapshotDate : Date}
  {supersedePrevious : Bool}

theorem RosterHistory.Kept.mem_importedKeys_iff (h : history.Kept importer digestBytes)
    (key : String) :
    key ∈ history.importedKeys importer digestBytes ↔
    importedBefore history.db.registry key = true := by
  unfold RosterHistory.importedKeys
  rw [h.sound.published key, ← h.stated, List.map_map, List.mem_map]
  rfl

theorem RosterHistory.Kept.of_untouched (h : history.Kept importer digestBytes) {db' : RosterDb ρ}
    (huntouched : Untouched history.db db') :
      RosterHistory.Kept importer digestBytes ⟨db', history.log ++ []⟩ := by
  rw [List.append_nil]
  exact ⟨h.sound.of_untouched huntouched, huntouched.snapshots ▸ h.stated, h.once⟩

theorem RosterHistory.Kept.of_replaced (h : history.Kept importer digestBytes) {db' : RosterDb ρ}
    {reading : RosterReading ρ}
    (hnew : importedBefore history.db.registry
      (keyOf importer digestBytes (digestBytes content)) = false)
    (hreplaced : Replaced importer digestBytes content snapshotDate reading history.db db') :
    RosterHistory.Kept importer digestBytes
      ⟨db', history.log ++ [statementOf digestBytes content snapshotDate reading]⟩ := by
  refine ⟨h.sound.of_replaced hreplaced, ?_, ?_⟩
  · obtain ⟨run, hsnapshots⟩ := hreplaced.snapshots
    show db'.snapshots.map Roster.stated = _
    rw [hsnapshots, Succession.map_replaceBy fun _ _ => rfl, h.stated]
    rfl
  · have hfresh : keyOf importer digestBytes (digestBytes content) ∉ history.importedKeys importer
        digestBytes := by
      rw [h.mem_importedKeys_iff, hnew]
      exact Bool.false_ne_true
    have hkeys : RosterHistory.importedKeys importer digestBytes
        ⟨db', history.log ++ [statementOf digestBytes content snapshotDate reading]⟩ =
        history.importedKeys importer digestBytes ++
        [keyOf importer digestBytes (digestBytes content)] := by
      unfold RosterHistory.importedKeys
      rw [List.map_append]
      rfl
    rw [hkeys]
    exact List.nodup_append.mpr ⟨h.once, List.nodup_singleton _, fun key hkey other hother heq =>
      hfresh (List.mem_singleton.mp hother ▸ heq ▸ hkey)⟩

theorem rosterStep_keeps (hdigest : ∀ bytes, Sources.isSha256Hex (digestBytes bytes) = true)
    (h : history.Kept importer digestBytes) (action : RosterAction) :
    (rosterStep importer digestBytes history action).Kept importer digestBytes := by
  cases action with
  | wait elapsed =>
    exact ⟨⟨h.sound.registry, h.sound.keys, h.sound.line, h.sound.published⟩, h.stated, h.once⟩
  | importFile content snapshotDate dryRun supersedePrevious =>
    unfold rosterStep
    dsimp only
    cases dryRun with
    | true =>
      have hdry : (importRoster importer digestBytes content snapshotDate true supersedePrevious).wp
          _ _ history.db :=
        importRoster_dryRun hdigest h.sound
      rcases hended : importRoster importer digestBytes content snapshotDate true supersedePrevious
          history.db with
        ⟨outcome, db'⟩
      cases outcome with
      | error error => exact h.of_untouched (hdry.error hended)
      | ok result =>
        obtain ⟨hresult, huntouched⟩ := hdry.ok hended
        unfold announced
        dsimp only
        rw [hresult, Bool.true_or, if_pos rfl]
        exact h.of_untouched huntouched
    | false =>
      have hlive :
          (importRoster importer digestBytes content snapshotDate false supersedePrevious).wp _ _
            history.db :=
        importRoster_live hdigest h.sound
      rcases hended : importRoster importer digestBytes content snapshotDate false supersedePrevious
          history.db with
        ⟨outcome, db'⟩
      cases outcome with
      | error error => exact h.of_untouched (hlive.error hended).2.2
      | ok result =>
        obtain ⟨hresult, ⟨hunchanged, -, rfl⟩ | ⟨hchanged, reading, himportable, hreplaced⟩⟩ :=
          hlive.ok hended
        · unfold announced
          dsimp only
          rw [hunchanged, Bool.or_true, if_pos rfl]
          exact h.of_untouched ⟨.refl h.sound.registry, rfl⟩
        · unfold announced
          dsimp only
          rw [hresult, hchanged, Bool.or_false, if_neg Bool.false_ne_true, himportable.2.1]
          exact h.of_replaced himportable.1 hreplaced

theorem kept_empty : RosterHistory.Kept importer digestBytes (⟨.empty, []⟩ : RosterHistory ρ) :=
  ⟨sound_empty, rfl, List.nodup_nil⟩

theorem rosterAfter_keeps (hdigest : ∀ bytes, Sources.isSha256Hex (digestBytes bytes) = true)
    (actions : List RosterAction) : (rosterAfter importer digestBytes actions).Kept importer
      digestBytes := by
  have hstep (history : RosterHistory ρ) (action : RosterAction)
      (h : history.Kept importer digestBytes) :=
    rosterStep_keeps hdigest h action
  exact run_keeps hstep actions kept_empty

/-- How a live import ends, by what was imported before it. -/
theorem RosterHistory.Kept.live (hdigest : ∀ bytes, Sources.isSha256Hex (digestBytes bytes) = true)
    (h : history.Kept importer digestBytes) (content : List UInt8) (snapshotDate : Date)
    (supersedePrevious : Bool) :
    let ended := importRoster importer digestBytes content snapshotDate false
      supersedePrevious history.db
    let known := keyOf importer digestBytes (digestBytes content) ∈ history.importedKeys
      importer digestBytes
    ((∃ result, ended.1 = .ok result ∧ result.unchanged = true) ↔ known) ∧
    ((∃ result, ended.1 = .ok result ∧ result.unchanged = false) ↔
      ¬ known ∧ ∃ reading, importer.read content snapshotDate = .ok reading ∧
        Publishable importer digestBytes content supersedePrevious reading history.db) ∧
    (ended.2.snapshots = history.db.snapshots ∨ ∃ result, ended.1 = .ok result ∧
      result.unchanged = false) := by
  have hknown := h.mem_importedKeys_iff (keyOf importer digestBytes (digestBytes content))
  have hlive : (importRoster importer digestBytes content snapshotDate false supersedePrevious).wp _
      _ history.db :=
    importRoster_live hdigest h.sound
  dsimp only
  rw [hknown, Bool.not_eq_true]
  rcases hended : importRoster importer digestBytes content snapshotDate false supersedePrevious
      history.db with
    ⟨outcome, db'⟩
  cases outcome with
  | error error =>
    obtain ⟨hnew, hnot, huntouched⟩ := hlive.error hended
    rw [hnew]
    refine ⟨iff_of_false (fun ⟨_, hok, _⟩ => (nomatch hok)) Bool.false_ne_true,
      iff_of_false (fun ⟨_, hok, _⟩ => (nomatch hok)) ?_, Or.inl huntouched.snapshots⟩
    exact fun ⟨_, reading, hread, hpublishable⟩ => hnot reading ⟨hnew, hread, hpublishable⟩
  | ok result =>
    obtain ⟨-, ⟨hunchanged, hbefore, rfl⟩ | ⟨hchanged, reading, himportable, -⟩⟩ := hlive.ok hended
    · rw [hbefore]
      refine ⟨iff_of_true ⟨result, rfl, hunchanged⟩ rfl, iff_of_false ?_ fun hnew =>
        (nomatch hnew.1), Or.inl rfl⟩
      rintro ⟨_, hok, hchanged⟩
      rw [← Except.ok.inj hok, hunchanged] at hchanged
      cases hchanged
    · rw [himportable.1]
      refine ⟨iff_of_false ?_ Bool.false_ne_true,
        iff_of_true ⟨result, rfl, hchanged⟩ ⟨rfl, reading, himportable.2⟩,
        Or.inr ⟨result, rfl, hchanged⟩⟩
      rintro ⟨_, hok, hunchanged⟩
      rw [← Except.ok.inj hok, hchanged] at hunchanged
      cases hunchanged

/-- What was reported as new was read from its file, and the database took it. -/
def Reported (importer : RosterImporter ρ) (digestBytes : List UInt8 → String)
    (statement : RosterStatement ρ) : Prop :=
  ∃ content reading, importer.read content statement.snapshotDate = .ok reading ∧
    importer.refusal reading = none ∧
    statement = statementOf digestBytes content statement.snapshotDate reading

theorem announced_reported (hdigest : ∀ bytes, Sources.isSha256Hex (digestBytes bytes) = true)
    (h : history.Kept importer digestBytes) {dryRun : Bool} {statement : RosterStatement ρ}
    (hmem : statement ∈ announced importer digestBytes content snapshotDate
      (importRoster importer digestBytes content snapshotDate dryRun supersedePrevious
        history.db).1) :
    Reported importer digestBytes statement := by
  rcases hended : importRoster importer digestBytes content snapshotDate dryRun supersedePrevious
      history.db with
    ⟨outcome, db'⟩
  rw [hended] at hmem
  cases outcome with
  | error error => cases hmem
  | ok result =>
    unfold announced at hmem
    dsimp only at hmem
    split at hmem
    · cases hmem
    · rename_i hnew
      rw [Bool.or_eq_true, not_or, Bool.not_eq_true, Bool.not_eq_true] at hnew
      cases dryRun with
      | true =>
        have hdry :
            (importRoster importer digestBytes content snapshotDate true supersedePrevious).wp _ _
              history.db :=
          importRoster_dryRun hdigest h.sound
        have hdryRun := (hdry.ok hended).1
        rw [hnew.1] at hdryRun
        cases hdryRun
      | false =>
        have himported := (h.live hdigest content snapshotDate supersedePrevious).2.1
        rw [hended] at himported
        obtain ⟨-, reading, hread, hpublishable⟩ := himported.mp ⟨result, rfl, hnew.2⟩
        rw [hread] at hmem
        rw [List.mem_singleton.mp hmem]
        exact ⟨content, reading, hread, hpublishable.2.accepted, rfl⟩

theorem rosterAfter_reported (hdigest : ∀ bytes, Sources.isSha256Hex (digestBytes bytes) = true)
    (actions : List RosterAction) :
    ∀ statement ∈ (rosterAfter importer digestBytes actions).log,
      Reported importer digestBytes statement := by
  have hstep (history : RosterHistory ρ) (action : RosterAction)
      (h : history.Kept importer digestBytes ∧
        ∀ statement ∈ history.log, Reported importer digestBytes statement) :
      (rosterStep importer digestBytes history action).Kept importer digestBytes ∧
        ∀ statement ∈ (rosterStep importer digestBytes history action).log,
          Reported importer digestBytes statement := by
    refine ⟨rosterStep_keeps hdigest h.1 action, ?_⟩
    cases action with
    | wait elapsed => exact h.2
    | importFile content snapshotDate dryRun supersedePrevious =>
      intro statement hmem
      cases List.mem_append.mp hmem with
      | inl hold => exact h.2 statement hold
      | inr hnew => exact announced_reported hdigest h.1 hnew
  exact (run_keeps hstep actions ⟨kept_empty, fun _ hmem => (nomatch hmem)⟩).2

/-- After any imports and dry runs, in any order, the snapshots are what the imports reported as
new, one after another and no file twice; the last alone is in force and each other one names the
next.  The next live import leaves a file alone exactly where it was imported before, and puts it in
force exactly where it was not and its reading can be published. -/
theorem roster_history (hdigest : ∀ bytes, Sources.isSha256Hex (digestBytes bytes) = true)
    (actions : List RosterAction) :
    let history : RosterHistory ρ := rosterAfter importer digestBytes actions
    history.db.snapshots.map stated = history.log ∧ Succession.Line history.db.snapshots ∧
    (history.db.snapshots.filter (·.isCurrent)).map stated = history.log.getLast?.toList ∧
    (history.importedKeys importer digestBytes).Nodup ∧
    ∀ content snapshotDate supersedePrevious,
      let ended := importRoster importer digestBytes content snapshotDate false
        supersedePrevious history.db
      let known := keyOf importer digestBytes (digestBytes content) ∈ history.importedKeys
        importer digestBytes
      ((∃ result, ended.1 = .ok result ∧ result.unchanged = true) ↔ known) ∧
      ((∃ result, ended.1 = .ok result ∧ result.unchanged = false) ↔
        ¬ known ∧ ∃ reading, importer.read content snapshotDate = .ok reading ∧
          Publishable importer digestBytes content supersedePrevious reading history.db) ∧
      (ended.2.snapshots = history.db.snapshots ∨ ∃ result, ended.1 = .ok result ∧
        result.unchanged = false) := by
  have h : (rosterAfter importer digestBytes actions).Kept importer digestBytes :=
    rosterAfter_keeps hdigest actions
  refine ⟨h.stated, h.sound.line, ?_, h.once, fun content snapshotDate supersedePrevious => ?_⟩
  · have hcurrents : (rosterAfter importer digestBytes actions).db.snapshots.filter
        (·.isCurrent) = _ :=
      h.sound.line.currents
    rw [hcurrents, ← h.stated, List.getLast?_map, Option.toList_map]
  · exact h.live hdigest content snapshotDate supersedePrevious

/-- One digit, weighted by position, in place of a digest. -/
def sampleDigest (bytes : List UInt8) : String :=
  String.ofList
    (List.replicate 64
      (Json.hexDigit (bytes.foldl (fun hash byte => (hash * 2 + byte.toNat) % 13) 0 % 16)))

theorem sampleDigest_hex (bytes : List UInt8) :
    Sources.isSha256Hex (sampleDigest bytes) = true := by
  have halphabet : ((List.range 16).all fun digit =>
    Json.hexDigit digit ∈ Sources.sha256HexAlphabet) = true := by decide
  rw [Core.isSha256Hex_iff]
  unfold sampleDigest
  rw [String.length_ofList, String.toList_ofList, List.length_replicate]
  refine ⟨rfl, fun c hc => ?_⟩
  rw [List.eq_of_mem_replicate hc]
  exact of_decide_eq_true
    (List.all_eq_true.mp halphabet _ (List.mem_range.mpr (Nat.mod_lt _ (by decide))))

def sampleImporter : RosterImporter UInt8 where
  source := 1
  importerName := "sample-roster"
  schemaVersion := "1"
  names := ⟨by decide, by decide, by decide, by decide⟩
  read content _ := .ok ⟨content, content.length, []⟩
  refusal _ := none
  rowsSkipped _ := 0
  failureCode := "sample_import_failed"
  alreadyImported := "already imported"
  failed := "failed"

def sampleActions : List RosterAction :=
  [.importFile [1] (.of 2026 1 1) false false, .wait 60, .importFile [2] (.of 2026 2 1) true false,
    .importFile [2] (.of 2026 2 1) false true, .importFile [1] (.of 2026 3 1) false true]

set_option maxRecDepth 10000 in
theorem roster_history_sample :
    let history := rosterAfter sampleImporter sampleDigest sampleActions
    history.log.map (·.rows) = [[1], [2]] ∧ history.db.snapshots.map stated = history.log ∧
      (history.db.snapshots.filter (·.isCurrent)).map stated = history.log.getLast?.toList := by
  have hlog : (rosterAfter sampleImporter sampleDigest sampleActions).log.map (·.rows) =
    [[1], [2]] := by decide +kernel
  obtain ⟨hstated, -, hcurrent, -⟩ :=
    @roster_history UInt8 sampleImporter sampleDigest sampleDigest_hex sampleActions
  exact ⟨hlog, hstated, hcurrent⟩

/-! ## Rehearsals -/

/-- The action is a dry run, or only waits. -/
def RosterAction.rehearses : RosterAction → Bool
  | .importFile _ _ dryRun _ => dryRun
  | .wait _ => true

/-- What a rehearsal can have changed: it may have registered files. -/
structure Rehearsed (before after : RosterHistory ρ) : Prop where
  artifacts : before.db.registry.artifacts <+: after.db.registry.artifacts
  snapshots : after.db.snapshots = before.db.snapshots
  log : after.log = before.log

theorem rosterStep_rehearses (hdigest : ∀ bytes, Sources.isSha256Hex (digestBytes bytes) = true)
    (h : history.Kept importer digestBytes) {action : RosterAction}
    (hrehearses : action.rehearses = true) :
    Rehearsed history (rosterStep importer digestBytes history action) := by
  cases action with
  | wait elapsed => exact ⟨List.prefix_refl _, rfl, rfl⟩
  | importFile content snapshotDate dryRun supersedePrevious =>
    have hdryRun : dryRun = true := hrehearses
    have hdry : (importRoster importer digestBytes content snapshotDate true supersedePrevious).wp _
        _ history.db :=
      importRoster_dryRun hdigest h.sound
    unfold rosterStep
    dsimp only
    rw [hdryRun]
    rcases hended : importRoster importer digestBytes content snapshotDate true supersedePrevious
        history.db with
      ⟨outcome, db'⟩
    cases outcome with
    | error error =>
      have huntouched := hdry.error hended
      exact ⟨huntouched.registry.artifacts, huntouched.snapshots, List.append_nil _⟩
    | ok result =>
      obtain ⟨hresult, huntouched⟩ := hdry.ok hended
      refine ⟨huntouched.registry.artifacts, huntouched.snapshots, ?_⟩
      unfold announced
      dsimp only
      rw [hresult, Bool.true_or, if_pos rfl, List.append_nil]

theorem Rehearsed.trans {first second third : RosterHistory ρ} (h : Rehearsed first second)
    (h' : Rehearsed second third) :
    Rehearsed first third :=
  ⟨h.artifacts.trans h'.artifacts, h'.snapshots.trans h.snapshots, h'.log.trans h.log⟩

/-- What can be published stays so through rehearsals. -/
theorem Rehearsed.publishable {after : RosterHistory ρ} {reading : RosterReading ρ}
    (h : Rehearsed history after) (hhex : Sources.isSha256Hex (digestBytes content) = true)
    (hpublishable : Publishable importer digestBytes content supersedePrevious reading history.db) :
    Publishable importer digestBytes content supersedePrevious reading after.db := by
  obtain ⟨haccepted, hsuperseding, hrefusal, hcounts⟩ := hpublishable
  exact ⟨Core.identityAccepted_of_prefix h.artifacts hhex haccepted, h.snapshots ▸ hsuperseding,
    hrefusal, hcounts⟩

/-- Dry runs, of whatever files and however many, change no snapshot, and a live import that would
have returned before them returns after them with the same answer. -/
theorem rehearsals_leave_imports (hdigest : ∀ bytes, Sources.isSha256Hex (digestBytes bytes) = true)
    (actions rehearsals : List RosterAction)
    (hrehearses : ∀ action ∈ rehearsals, action.rehearses = true) :
    let before : RosterHistory ρ := rosterAfter importer digestBytes actions
    let after : RosterHistory ρ := rosterAfter importer digestBytes (actions ++ rehearsals)
    after.db.snapshots = before.db.snapshots ∧ after.log = before.log ∧
    ∀ content snapshotDate supersedePrevious result,
      (importRoster importer digestBytes content snapshotDate false supersedePrevious before.db).1 =
        .ok result →
      ∃ result', (importRoster importer digestBytes content snapshotDate false supersedePrevious
        after.db).1 = .ok result' ∧
        result'.unchanged = result.unchanged := by
  have hbefore : (rosterAfter importer digestBytes actions).Kept importer digestBytes :=
    rosterAfter_keeps hdigest actions
  have hafter : (rosterAfter importer digestBytes (actions ++ rehearsals)).Kept importer
      digestBytes :=
    rosterAfter_keeps hdigest (actions ++ rehearsals)
  have hrehearsed : Rehearsed (rosterAfter importer digestBytes actions)
      (rosterAfter importer digestBytes (actions ++ rehearsals)) := by
    have hstep (history : RosterHistory ρ) (action : RosterAction) (hmem : action ∈ rehearsals)
        (h : history.Kept importer digestBytes ∧
          Rehearsed (rosterAfter importer digestBytes actions) history) :
        (rosterStep importer digestBytes history action).Kept importer digestBytes ∧
          Rehearsed (rosterAfter importer digestBytes actions)
            (rosterStep importer digestBytes history action) :=
      ⟨rosterStep_keeps hdigest h.1 action,
        h.2.trans (rosterStep_rehearses hdigest h.1 (hrehearses action hmem))⟩
    have hrun := run_keeps_of_mem rehearsals hstep ⟨hbefore, List.prefix_refl _, rfl, rfl⟩
    unfold rosterAfter at hrun ⊢
    rw [run_append]
    exact hrun.2
  refine ⟨hrehearsed.snapshots, hrehearsed.log,
    fun content snapshotDate supersedePrevious result hresult => ?_⟩
  have hkeys : (rosterAfter importer digestBytes (actions ++ rehearsals)).importedKeys importer
      digestBytes =
      (rosterAfter importer digestBytes actions).importedKeys importer digestBytes := by
    unfold RosterHistory.importedKeys
    rw [hrehearsed.log]
  obtain ⟨hknown, hnew, -⟩ := hbefore.live hdigest content snapshotDate supersedePrevious
  obtain ⟨hknown', hnew', -⟩ := hafter.live hdigest content snapshotDate supersedePrevious
  rw [hkeys] at hknown' hnew'
  cases hunchanged : result.unchanged with
  | true => exact hknown'.mpr (hknown.mp ⟨result, hresult, hunchanged⟩)
  | false =>
    obtain ⟨hfresh, reading, hread, hpublishable⟩ := hnew.mp ⟨result, hresult, hunchanged⟩
    exact hnew'.mpr ⟨hfresh, reading, hread, hrehearsed.publishable (hdigest content) hpublishable⟩

/-- The file of a rehearsal is imported after it as it would have been before. -/
theorem rehearsals_leave_imports_sample :
    let before := rosterAfter sampleImporter sampleDigest
      [.importFile [1] (.of 2026 1 1) false false]
    let after := rosterAfter sampleImporter sampleDigest
      ([.importFile [1] (.of 2026 1 1) false false] ++ [.importFile [2] (.of 2026 2 1) true false])
    after.db.snapshots = before.db.snapshots ∧ after.log = before.log ∧
      ∃ result, (importRoster sampleImporter sampleDigest [2] (.of 2026 2 1) false true
        after.db).1 = .ok result ∧ result.unchanged = false := by
  intro before after
  obtain ⟨hsnapshots, hlog, himports⟩ := @rehearsals_leave_imports UInt8 sampleImporter sampleDigest
    sampleDigest_hex [.importFile [1] (.of 2026 1 1) false false]
    [.importFile [2] (.of 2026 2 1) true false]
    (fun action haction => by rw [List.mem_singleton.mp haction]; rfl)
  have hlive : (importRoster sampleImporter sampleDigest [2] (.of 2026 2 1) false true
      before.db).1.toOption.map (·.unchanged) = some false := by decide +kernel
  refine ⟨hsnapshots, hlog, ?_⟩
  cases hended : (importRoster sampleImporter sampleDigest [2] (.of 2026 2 1) false true
      before.db).1 with
  | error error =>
    rw [hended] at hlive
    cases hlive
  | ok result =>
    rw [hended] at hlive
    obtain ⟨result', hresult', hsame⟩ := himports [2] (.of 2026 2 1) true result hended
    exact ⟨result', hresult', hsame.trans (Option.some.inj hlive)⟩

end History

end Dashkoda.Membership.Roster
