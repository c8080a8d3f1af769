import Dashkoda.Lib.PyText
import Dashkoda.Sources.Publication

/-!
# Registering content and opening runs

The registry services a collector calls from inside its own transaction, as functions on the
registry: a refused call leaves nothing behind.
-/

open Lib

namespace Dashkoda.Sources

/-- `settings.SOURCE_ARTIFACT_MAX_BYTES` -/
def sourceArtifactMaxBytes : Nat := 25 * 1024 * 1024

def sha256HexLength : Nat := 64

def sha256HexAlphabet : List Char := "0123456789abcdef".toList

def isSha256Hex (checksum : String) : Bool :=
  checksum.length = sha256HexLength && checksum.toList.all (· ∈ sha256HexAlphabet)

def hasContent (registry : Registry) (source : Nat) (sha256 : String) : Bool :=
  registry.artifacts.any fun artifact => artifact.source = source && artifact.sha256 = sha256

def validateContentIdentity (registry : Registry) (source : Nat) (sha256 : String)
    (sizeBytes : Nat) : Except Exn (String × Nat) :=
  let checksum := PyText.strip sha256
  if !isSha256Hex checksum then
    .error (.artifactRejected "Kontrollsumma peab olema 64 väiketähelist kuueteistkümnendmärki.")
  else if sizeBytes = 0 then
    .error (.artifactRejected "Kontrollsummaga algfaili suurus peab olema suurem kui null.")
  else if sourceArtifactMaxBytes < sizeBytes then
    .error (.artifactRejected ("Fail on liiga suur: " ++ toString sizeBytes ++
      " baiti. Lubatud kuni " ++ toString sourceArtifactMaxBytes ++ " baiti."))
  else if hasContent registry source checksum then
    .error (.artifactRejected "Selle allika all on sama sisuga fail juba registreeritud.")
  else .ok (checksum, sizeBytes)

/-- A reference registered without a checksum has no content identity. -/
def contentIdentity (registry : Registry) (source : Nat) (sha256 : String) (sizeBytes : Nat) :
    Except Exn (String × Nat) :=
  if sha256 = "" then .ok ("", 0) else validateContentIdentity registry source sha256 sizeBytes

def registerExternalReference (registry : Registry) (source : Nat) (sha256 : String)
    (sizeBytes : Nat) : Except Exn (Registry × SourceArtifact) :=
  match contentIdentity registry source sha256 sizeBytes with
  | .error e => .error e
  | .ok (checksum, size) =>
    let artifact : SourceArtifact := ⟨Table.nextPk registry.artifacts, source, checksum, size⟩
    .ok ({ registry with artifacts := registry.artifacts ++ [artifact] }, artifact)

def importKeyText (importerName schemaVersion artifactSha256 : String) : String :=
  "\x1f".intercalate [PyText.strip importerName, PyText.strip schemaVersion,
    String.ofList ((PyText.stripChars artifactSha256.toList).map Char.toLower)]

def calculateImportKey (sha256 : String → String)
    (importerName schemaVersion artifactSha256 : String) :
    Except Exn String :=
  if artifactSha256 = "" then
    .error (.validationError [.clean "Impordivõti nõuab algfaili kontrollsummat."])
  else .ok (sha256 (importKeyText importerName schemaVersion artifactSha256))

/-- The run `build_import_run` creates. -/
def ImportRun.ofArtifact (pk : Nat) (artifact : SourceArtifact)
    (importerName schemaVersion importKey : String) (dryRun : Bool) : ImportRun where
  pk
  source := artifact.source
  artifact := artifact.pk
  importerName
  schemaVersion
  importKey
  dryRun
  status := .pending
  startedAt := none
  finishedAt := none
  rowsAdded := 0
  rowsSkipped := 0
  rowsInvalid := 0
  warnings := []
  errors := []

def buildImportRun (sha256 : String → String) (registry : Registry) (artifact : SourceArtifact)
    (importerName schemaVersion : String) (dryRun : Bool) : Except Exn (Registry × ImportRun) :=
  if artifact.sha256 = "" then
    .error (.validationError
      [.clean "Ilma kontrollsummata algfaili ei saa importida: sisu identiteet puudub."])
  else
    match calculateImportKey sha256 importerName schemaVersion artifact.sha256 with
    | .error e => .error e
    | .ok importKey =>
      let run := ImportRun.ofArtifact (Table.nextPk registry.runs) artifact importerName
        schemaVersion importKey dryRun
      match run.fullClean registry with
      | .error e => .error e
      | .ok () => .ok ({ registry with runs := registry.runs ++ [run] }, run)

def Registry.saveRun (registry : Registry) (run : ImportRun) : Registry :=
  { registry with runs := Table.save registry.runs run }

/-- `start_import_run` on a run that agrees with its row. -/
def startRun (registry : Registry) (run : ImportRun) (now : Time) :
    Except Exn (Registry × ImportRun) :=
  match run.requireTransition .running with
  | .error e => .error e
  | .ok () => .ok (registry.saveRun (run.started now), run.started now)

/-- `complete_import_run` on a run that agrees with its row. -/
def completeRun (registry : Registry) (run : ImportRun) (now : Time) (counts : ImportRun.Counts) :
    Except Exn Registry :=
  match run.requireTransition .succeeded with
  | .error e => .error e
  | .ok () =>
    match (run.completed now counts).fullClean registry with
    | .error e => .error e
    | .ok () => .ok (registry.saveRun (run.completed now counts))

/-- `fail_publication`: the row is read back, and closed unless it is finished. -/
def failPublicationRow (registry : Registry) (pk : Nat) (now : Time) (errors : List JsonObject) :
    Except Exn Registry :=
  match Table.get? registry.runs pk with
  | none => .error .doesNotExist
  | some row =>
    if row.isTerminal then .ok registry
    else
      match row.requireTransition .failed with
      | .error e => .error e
      | .ok () =>
        match (row.failed now errors).fullClean registry with
        | .error e => .error e
        | .ok () => .ok (registry.saveRun (row.failed now errors))

/-! ## What each call leaves -/

section Calls

variable {registry registry' : Registry} {sha256 : String → String} {artifact : SourceArtifact}
  {run run' : ImportRun} {now : Time} {importerName schemaVersion : String} {dryRun : Bool}

theorem validateContentIdentity_eq_ok_iff {source sizeBytes : Nat} {checksum : String}
    {identity : String × Nat} :
    validateContentIdentity registry source checksum sizeBytes = .ok identity ↔
      isSha256Hex (PyText.strip checksum) = true ∧ sizeBytes ≠ 0 ∧
        sizeBytes ≤ sourceArtifactMaxBytes ∧
        hasContent registry source (PyText.strip checksum) = false ∧
        identity = (PyText.strip checksum, sizeBytes) := by
  unfold validateContentIdentity
  dsimp only
  by_cases hhex : isSha256Hex (PyText.strip checksum) = true
  · by_cases hzero : sizeBytes = 0
    · simp [hhex, hzero]
    · by_cases hlarge : sourceArtifactMaxBytes < sizeBytes
      · simp [hhex, hzero, hlarge, Nat.not_le.mpr hlarge]
      · have hle : sizeBytes ≤ sourceArtifactMaxBytes := by omega
        cases hcontent : hasContent registry source (PyText.strip checksum) with
        | true => simp [hhex, hzero, hlarge]
        | false => simp [hhex, hzero, hlarge, hle, eq_comm]
  · simp [hhex]

theorem registerExternalReference_eq_ok_iff {source sizeBytes : Nat} {checksum : String} :
    registerExternalReference registry source checksum sizeBytes = .ok (registry', artifact) ↔
      ∃ identity, contentIdentity registry source checksum sizeBytes = .ok identity ∧
        artifact = ⟨Table.nextPk registry.artifacts, source, identity.1, identity.2⟩ ∧
        registry' = { registry with artifacts := registry.artifacts ++ [artifact] } := by
  unfold registerExternalReference
  cases contentIdentity registry source checksum sizeBytes with
  | error e => simp
  | ok identity =>
    simp only [Except.ok.injEq, Prod.mk.injEq, exists_eq_left']
    constructor
    · rintro ⟨rfl, rfl⟩
      exact ⟨rfl, rfl⟩
    · rintro ⟨rfl, rfl⟩
      exact ⟨rfl, rfl⟩

theorem buildImportRun_eq_ok_iff :
    buildImportRun sha256 registry artifact importerName schemaVersion dryRun =
      .ok (registry', run) ↔
      artifact.sha256 ≠ "" ∧
        run = .ofArtifact (Table.nextPk registry.runs) artifact importerName schemaVersion
          (sha256 (importKeyText importerName schemaVersion artifact.sha256)) dryRun ∧
        run.fullClean registry = .ok () ∧
        registry' = { registry with runs := registry.runs ++ [run] } := by
  unfold buildImportRun calculateImportKey
  by_cases hsha : artifact.sha256 = ""
  · simp [hsha]
  · simp only [hsha, if_false]
    cases hclean : ImportRun.fullClean registry (.ofArtifact (Table.nextPk registry.runs) artifact
      importerName schemaVersion (sha256 (importKeyText importerName schemaVersion artifact.sha256))
      dryRun) with
    | error e =>
      simp only [reduceCtorEq, false_iff]
      rintro ⟨-, rfl, hok, -⟩
      rw [hclean] at hok
      cases hok
    | ok _ =>
      simp only [Except.ok.injEq, Prod.mk.injEq]
      constructor
      · rintro ⟨rfl, rfl⟩
        exact ⟨hsha, rfl, hclean, rfl⟩
      · rintro ⟨-, rfl, -, rfl⟩
        exact ⟨rfl, rfl⟩

theorem startRun_eq_ok_iff :
    startRun registry run now = .ok (registry', run') ↔
      .running ∈ allowedTransitions run.status ∧ run' = run.started now ∧
        registry' = registry.saveRun run' := by
  unfold startRun
  cases htransition : run.requireTransition .running with
  | error e =>
    simp only [reduceCtorEq, false_iff]
    rintro ⟨hallowed, -⟩
    rw [(run.requireTransition_ok_iff _).mpr hallowed] at htransition
    cases htransition
  | ok _ =>
    simp only [Except.ok.injEq, Prod.mk.injEq]
    constructor
    · rintro ⟨rfl, rfl⟩
      exact ⟨(run.requireTransition_ok_iff _).mp htransition, rfl, rfl⟩
    · rintro ⟨-, rfl, rfl⟩
      exact ⟨rfl, rfl⟩

theorem completeRun_eq_ok_iff {counts : ImportRun.Counts} :
    completeRun registry run now counts = .ok registry' ↔
      .succeeded ∈ allowedTransitions run.status ∧
        (run.completed now counts).fullClean registry = .ok () ∧
        registry' = registry.saveRun (run.completed now counts) := by
  unfold completeRun
  cases htransition : run.requireTransition .succeeded with
  | error e =>
    simp only [reduceCtorEq, false_iff]
    rintro ⟨hallowed, -⟩
    rw [(run.requireTransition_ok_iff _).mpr hallowed] at htransition
    cases htransition
  | ok _ =>
    have hallowed := (run.requireTransition_ok_iff _).mp htransition
    cases hclean : (run.completed now counts).fullClean registry with
    | error e => simp
    | ok _ => simp [hallowed, eq_comm]

/-- Recording a failure leaves the registry alone or saves one row. -/
theorem failPublicationRow_eq_ok {pk : Nat} {errors : List JsonObject}
    (hok : failPublicationRow registry pk now errors = .ok registry') :
    registry' = registry ∨ ∃ row ∈ registry.runs, row.isTerminal = false ∧
      registry' = registry.saveRun (row.failed now errors) := by
  unfold failPublicationRow at hok
  split at hok
  · cases hok
  · rename_i row hrow
    split at hok
    · cases hok
      exact Or.inl rfl
    · rename_i hopen
      split at hok
      · cases hok
      · split at hok
        · cases hok
        · cases hok
          exact Or.inr ⟨row, Table.mem_of_get? hrow, by simpa using hopen, rfl⟩

end Calls

structure Registry.Sound (registry : Registry) : Prop where
  artifacts : Table.UniqueKeys registry.artifacts
  runs : Table.UniqueKeys registry.runs

section Sound

variable {registry : Registry}

theorem Registry.Sound.addArtifact (h : registry.Sound) {artifact : SourceArtifact}
    (hpk : artifact.pk = Table.nextPk registry.artifacts) :
    Registry.Sound { registry with artifacts := registry.artifacts ++ [artifact] } :=
  ⟨Table.uniqueKeys_append h.artifacts fun _ hr heq =>
    Table.ne_nextPk hr (heq.trans hpk), h.runs⟩

theorem Registry.Sound.addRun (h : registry.Sound) {run : ImportRun}
    (hpk : run.pk = Table.nextPk registry.runs) :
    Registry.Sound { registry with runs := registry.runs ++ [run] } :=
  ⟨h.artifacts, Table.uniqueKeys_append h.runs fun _ hr heq =>
    Table.ne_nextPk hr (heq.trans hpk)⟩

theorem Registry.Sound.saveRun (h : registry.Sound) (run : ImportRun) :
    (registry.saveRun run).Sound := ⟨h.artifacts, Table.uniqueKeys_save h.runs run⟩

end Sound

end Dashkoda.Sources
