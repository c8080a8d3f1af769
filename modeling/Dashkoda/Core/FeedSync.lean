import Dashkoda.Lib.Currency
import Dashkoda.Lib.Except
import Dashkoda.Lib.Proc
import Dashkoda.Sources.Registry

/-!
# Bookkeeping shared by the public feeds

A feed records the check, finds the artifact of the content it collected, opens an import run,
publishes inside it and records the outcome.
-/

open Lib

namespace Dashkoda.Core

open Sources (Exn ImportRun JsonObject Registry SourceArtifact Time)

/-- How a source's last check ended; `stillBuilding` is the opinion catalogue's own outcome. -/
inductive FeedResult
  | neverRun
  | imported
  | unchanged
  | failed
  | stillBuilding
  deriving DecidableEq, Repr

structure FeedState where
  lastCheckedAt : Option Time
  lastSuccessfulSyncAt : Option Time
  lastChangedAt : Option Time
  lastResult : FeedResult
  lastErrorSummary : String
  currentSnapshot : Option Nat
  deriving DecidableEq, Repr

namespace FeedState

/-- The row `get_feed_state` creates on first use. -/
def initial : FeedState := ⟨none, none, none, .neverRun, "", none⟩

def touchChecked (state : FeedState) (now : Time) : FeedState :=
  { state with lastCheckedAt := some now }

def markImported (state : FeedState) (now : Time) (published : Nat) : FeedState :=
  { state with
    lastResult := .imported
    lastErrorSummary := ""
    lastSuccessfulSyncAt := some now
    lastChangedAt := some now
    currentSnapshot := some published }

def markUnchanged (state : FeedState) (now : Time) : FeedState :=
  { state with lastResult := .unchanged, lastErrorSummary := "", lastSuccessfulSyncAt := some now }

def failFeed (state : FeedState) (message : String) : FeedState :=
  { state with lastResult := .failed, lastErrorSummary := PyText.take 500 message }

end FeedState

/-- `describe_error`, from the exception's class name and its text. -/
def describeError (typeName message : String) : String :=
  (typeName ++ ": " ++ message).map fun c => if c = '\n' then ' ' else c

/-- The content registered under the source, and whether a live run has published it. -/
def findPublishedArtifact (registry : Registry) (source : Nat) (sha256 importerName : String) :
    Option SourceArtifact × Bool :=
  match registry.artifacts.find? fun artifact =>
      artifact.source = source && artifact.sha256 = sha256 with
  | none => (none, false)
  | some artifact => (some artifact, registry.runs.any fun run =>
      run.artifact = artifact.pk && run.importerName = importerName && run.isSuccessfulLive)

structure ContentIdentity where
  sha256 : String
  sizeBytes : Nat
  deriving DecidableEq, Repr

/-- `existing_artifact or register_external_reference(...)` -/
def artifactFor (source : Nat) (collection : ContentIdentity) :
    Option SourceArtifact → Proc Exn Registry SourceArtifact
  | some artifact => pure artifact
  | none => Proc.service fun registry =>
      Sources.registerExternalReference registry source collection.sha256 collection.sizeBytes

def openRun (sha256 : String → String) (artifact : SourceArtifact)
    (importerName schemaVersion : String) (dryRun : Bool) (now : Time) :
    Proc Exn Registry ImportRun := do
  let run ← Proc.service fun registry =>
    Sources.buildImportRun sha256 registry artifact importerName schemaVersion dryRun
  Proc.service fun registry => Sources.startRun registry run now

/-- Register the artifact, or reuse the existing one, and open a started run. -/
def startRun (sha256 : String → String) (source : Nat) (collection : ContentIdentity)
    (existingArtifact : Option SourceArtifact) (importerName schemaVersion : String) (dryRun : Bool)
    (now : Time) : Proc Exn Registry (SourceArtifact × ImportRun) := do
  let artifact ← artifactFor source collection existingArtifact
  let run ← openRun sha256 artifact importerName schemaVersion dryRun now
  return (artifact, run)

def completeRun (run : ImportRun) (now : Time) (counts : ImportRun.Counts) :
    Proc Exn Registry Unit :=
  Proc.service fun registry => (Sources.completeRun registry run now counts).map fun r => (r, ())

/-- The clean-up of `publishing_run`. -/
def failPublication (run : ImportRun) (now : Time) (errors : List JsonObject) :
    Proc Exn Registry Unit :=
  Proc.service fun registry =>
    (Sources.failPublicationRow registry run.pk now errors).map fun r => (r, ())

/-! ## The registry stays sound -/

section Keeps

variable {registry : Registry} {sha256 : String → String} {source : Nat}
  {collection : ContentIdentity} {importerName schemaVersion : String} {dryRun : Bool} {now : Time}

theorem artifactFor_sound (h : registry.Sound) (existing : Option SourceArtifact) :
    (artifactFor source collection existing).wp (fun _ r => r.Sound) (fun _ r => r.Sound)
      registry := by
  cases existing with
  | some artifact => exact h
  | none =>
    apply Proc.wp_service
    · intro r artifact hok
      obtain ⟨identity, -, hartifact, rfl⟩ := Sources.registerExternalReference_eq_ok_iff.mp hok
      exact h.addArtifact (by rw [hartifact])
    · exact fun _ _ => h

theorem openRun_sound (h : registry.Sound) (artifact : SourceArtifact) :
    (openRun sha256 artifact importerName schemaVersion dryRun now).wp
      (fun _ r => r.Sound) (fun _ r => r.Sound) registry := by
  unfold openRun
  rw [Proc.wp_bind]
  apply Proc.wp_service
  · intro r run hok
    obtain ⟨-, hrun, -, rfl⟩ := Sources.buildImportRun_eq_ok_iff.mp hok
    have hr := h.addRun (show run.pk = _ by rw [hrun]; rfl)
    apply Proc.wp_service
    · intro r' run' hok'
      obtain ⟨-, -, rfl⟩ := Sources.startRun_eq_ok_iff.mp hok'
      exact hr.saveRun run'
    · exact fun _ _ => hr
  · exact fun _ _ => h

theorem startRun_sound (h : registry.Sound) (existing : Option SourceArtifact) :
    (startRun sha256 source collection existing importerName schemaVersion dryRun now).wp
      (fun _ r => r.Sound) (fun _ r => r.Sound) registry := by
  unfold startRun
  simp only [Proc.wp_bind, Proc.wp_pure]
  apply Proc.wp_mono (artifactFor_sound h existing)
  · exact fun artifact r hr => openRun_sound hr artifact
  · exact fun _ _ hr => hr

theorem completeRun_sound (h : registry.Sound) (run : ImportRun) (counts : ImportRun.Counts) :
    (completeRun run now counts).wp (fun _ r => r.Sound) (fun _ r => r.Sound) registry := by
  unfold completeRun
  apply Proc.wp_service
  · intro r _ hok
    obtain ⟨r', hcomplete, heq⟩ := map_eq_ok_iff.mp hok
    cases heq
    obtain ⟨-, -, rfl⟩ := Sources.completeRun_eq_ok_iff.mp hcomplete
    exact h.saveRun _
  · exact fun _ _ => h

theorem failPublication_sound (h : registry.Sound) (run : ImportRun) (errors : List JsonObject) :
    (failPublication run now errors).wp (fun _ r => r.Sound) (fun _ r => r.Sound) registry := by
  unfold failPublication
  apply Proc.wp_service
  · intro r _ hok
    obtain ⟨r', hfail, heq⟩ := map_eq_ok_iff.mp hok
    cases heq
    cases Sources.failPublicationRow_eq_ok hfail with
    | inl hsame => exact hsame ▸ h
    | inr hrow =>
      obtain ⟨row, -, -, rfl⟩ := hrow
      exact h.saveRun _
  · exact fun _ _ => h

end Keeps

/-! ## When a publication goes through -/

def importedBefore (registry : Registry) (importKey : String) : Bool :=
  registry.runs.any fun run => run.isSuccessfulLive && run.importKey = importKey

def identityAccepted (registry : Registry) (source : Nat) (collection : ContentIdentity) : Bool :=
  Sources.hasContent registry source collection.sha256 ||
    (Sources.validateContentIdentity registry source collection.sha256 collection.sizeBytes).isOk

/-- What an importer is called and what it produces, short enough for their columns. -/
structure ImporterNames (importerName schemaVersion : String) : Prop where
  name_pos : importerName.length ≠ 0
  name_le : importerName.length ≤ 100
  schema_pos : schemaVersion.length ≠ 0
  schema_le : schemaVersion.length ≤ 32

/-- The registry right after a live run has been opened. -/
structure Opened (registry : Registry) (importKey : String) (now : Time) (run : ImportRun)
    (r : Registry) : Prop where
  sound : r.Sound
  clean : Sources.RowClean r now run
  pk : run.pk = Table.nextPk registry.runs
  runs : r.runs = registry.runs ++ [run]
  importKey : run.importKey = importKey
  running : run.status = .running
  live : run.dryRun = false
  startedAt : run.startedAt = some now

section Opens

variable {registry : Registry} {sha256 : String → String} {source : Nat}
  {collection : ContentIdentity} {importerName schemaVersion : String} {now : Time}
  {artifact : SourceArtifact} {run : ImportRun} {r : Registry} {importKey : String}

theorem fullClean_ofArtifact (hnames : ImporterNames importerName schemaVersion)
    (hkey : importKey.length = 64) (hfound : Table.get? r.artifacts artifact.pk = some artifact)
    (pk : Nat) :
    (ImportRun.ofArtifact pk artifact importerName schemaVersion importKey false).fullClean r =
      .ok () := by
  have hfield (name : String) (max : Nat) (value : String) (hpos : value.length ≠ 0)
      (hle : value.length ≤ max) : ImportRun.charFieldViolations name max value = [] :=
    if_neg (by omega)
  have hkeyField : ImportRun.charFieldViolations "import_key" 64 importKey = [] :=
    hfield _ _ _ (by omega) (by omega)
  rw [ImportRun.fullClean_ok_iff]
  refine ⟨?_, ?_, rfl, rfl⟩
  · unfold ImportRun.fieldViolations ImportRun.ofArtifact
    rw [hfound, hfield _ _ _ hnames.name_pos hnames.name_le,
      hfield _ _ _ hnames.schema_pos hnames.schema_le, hkeyField]
    rfl
  · unfold ImportRun.cleanViolations ImportRun.ofArtifact
    rw [hfound]
    exact if_neg (fun hne => hne rfl)

theorem openRun_opens (h : r.Sound) (hruns : r.runs = registry.runs) (hmem : artifact ∈ r.artifacts)
    (hsha : artifact.sha256 ≠ "")
    (hnames : ImporterNames importerName schemaVersion)
    (hkey : sha256 (Sources.importKeyText importerName schemaVersion artifact.sha256) = importKey)
    (hlength : importKey.length = 64) :
    (openRun sha256 artifact importerName schemaVersion false now).wp
      (fun run r' => Opened registry importKey now run r') (fun _ _ => False) r := by
  let pending := ImportRun.ofArtifact (Table.nextPk r.runs) artifact importerName schemaVersion
    importKey false
  have hclean : pending.fullClean r = .ok () := fullClean_ofArtifact hnames hlength
    (Table.get?_of_mem h.artifacts hmem) (Table.nextPk r.runs)
  have hrow : Sources.RowClean r now pending :=
    Sources.RowClean.of_fullClean hclean fun started hstarted => by cases hstarted
  have hsound := h.addRun (show pending.pk = Table.nextPk r.runs from rfl)
  unfold openRun
  rw [Proc.wp_bind]
  apply Proc.wp_service_ok (Sources.buildImportRun_eq_ok_iff.mpr
    ⟨hsha, (show pending = _ by rw [hkey]), hclean, rfl⟩)
  apply Proc.wp_service_ok (Sources.startRun_eq_ok_iff.mpr
    ⟨show .running ∈ Sources.allowedTransitions .pending by decide, rfl, rfl⟩)
  refine ⟨hsound.saveRun _, ?_, congrArg Table.nextPk hruns, ?_, rfl, rfl, rfl, rfl⟩
  · exact (hrow.started rfl fun started hstarted => hrow.startedAt_or_le hstarted).of_artifacts rfl
  · rw [← hruns]
    exact Table.save_append_of_fresh (fun x hx => Table.ne_nextPk hx) rfl

theorem strip_of_isSha256Hex {checksum : String} (h : Sources.isSha256Hex checksum = true) :
    PyText.strip checksum = checksum := by
  apply PyText.strip_of_not_isSpace
  intro c hc
  have hspace : (Sources.sha256HexAlphabet.all fun d => PyText.isSpace d = false) =
    true := by decide
  unfold Sources.isSha256Hex at h
  rw [Bool.and_eq_true] at h
  have hdigit : c ∈ Sources.sha256HexAlphabet := of_decide_eq_true (List.all_eq_true.mp h.2 c hc)
  exact of_decide_eq_true (List.all_eq_true.mp hspace c hdigit)

theorem ne_empty_of_isSha256Hex {checksum : String} (h : Sources.isSha256Hex checksum = true) :
    checksum ≠ "" := by
  rintro rfl
  revert h
  decide

/-- Content of a permitted size is accepted. -/
theorem identityAccepted_of_size (hhex : Sources.isSha256Hex collection.sha256 = true)
    (hzero : collection.sizeBytes ≠ 0)
    (hmax : collection.sizeBytes ≤ Sources.sourceArtifactMaxBytes) :
    identityAccepted registry source collection = true := by
  unfold identityAccepted
  cases hcontent : Sources.hasContent registry source collection.sha256 with
  | true => rfl
  | false =>
    have hstrip := strip_of_isSha256Hex hhex
    have hvalid := Sources.validateContentIdentity_eq_ok_iff.mpr
      ⟨hstrip.symm ▸ hhex, hzero, hmax, hstrip.symm ▸ hcontent, rfl⟩
    rw [hvalid]
    rfl

/-- Content that was accepted stays accepted while artifacts are only added. -/
theorem identityAccepted_of_prefix {registry' : Registry}
    (h : registry.artifacts <+: registry'.artifacts)
    (hhex : Sources.isSha256Hex collection.sha256 = true)
    (haccepted : identityAccepted registry source collection = true) :
    identityAccepted registry' source collection = true := by
  unfold identityAccepted at haccepted ⊢
  rw [Bool.or_eq_true] at haccepted ⊢
  cases hnew : Sources.hasContent registry' source collection.sha256 with
  | true => exact Or.inl rfl
  | false =>
    have hold : Sources.hasContent registry source collection.sha256 = false := by
      rw [Bool.eq_false_iff]
      intro hfound
      obtain ⟨artifact, hartifact, hsame⟩ := List.any_eq_true.mp hfound
      rw [show Sources.hasContent registry' source collection.sha256 = true from
        List.any_eq_true.mpr ⟨artifact, h.subset hartifact, hsame⟩] at hnew
      cases hnew
    have hstrip := strip_of_isSha256Hex hhex
    right
    have hvalid := haccepted.resolve_left (by rw [hold]; exact Bool.false_ne_true)
    unfold Sources.validateContentIdentity at hvalid ⊢
    dsimp only at hvalid ⊢
    rw [hstrip, hold] at hvalid
    rw [hstrip, hnew]
    exact hvalid

/-- Accepted content has an artifact to open a run for. -/
theorem artifactFor_found (h : registry.Sound)
    (haccepted : identityAccepted registry source collection = true)
    (hhex : Sources.isSha256Hex collection.sha256 = true) :
    (artifactFor source collection
        (findPublishedArtifact registry source collection.sha256 importerName).1).wp
      (fun artifact r => r.Sound ∧ r.runs = registry.runs ∧ artifact ∈ r.artifacts ∧
        artifact.sha256 = collection.sha256)
      (fun _ _ => False) registry := by
  unfold findPublishedArtifact
  cases hfind : registry.artifacts.find? fun artifact =>
      artifact.source = source && artifact.sha256 = collection.sha256 with
  | some artifact =>
    have hfound := List.find?_some hfind
    rw [Bool.and_eq_true, decide_eq_true_iff, decide_eq_true_iff] at hfound
    exact ⟨h, rfl, List.mem_of_find?_eq_some hfind, hfound.2⟩
  | none =>
    have hnew : Sources.hasContent registry source collection.sha256 = false := by
      unfold Sources.hasContent
      rw [List.any_eq_false]
      exact List.find?_eq_none.mp hfind
    unfold identityAccepted at haccepted
    rw [hnew, Bool.false_or] at haccepted
    cases hidentity : Sources.validateContentIdentity registry source collection.sha256
        collection.sizeBytes with
    | error e =>
      rw [hidentity] at haccepted
      cases haccepted
    | ok identity =>
      have hsame : identity.1 = collection.sha256 := by
        obtain ⟨-, -, -, -, rfl⟩ := Sources.validateContentIdentity_eq_ok_iff.mp hidentity
        exact strip_of_isSha256Hex hhex
      have hcontent : Sources.contentIdentity registry source collection.sha256
          collection.sizeBytes = .ok identity := by
        unfold Sources.contentIdentity
        rw [if_neg (ne_empty_of_isSha256Hex hhex), hidentity]
      apply Proc.wp_service_ok (Sources.registerExternalReference_eq_ok_iff.mpr
        ⟨identity, hcontent, rfl, rfl⟩)
      exact ⟨h.addArtifact rfl, rfl, List.mem_append_right _ List.mem_cons_self, hsame⟩

theorem startRun_opens (h : registry.Sound)
    (haccepted : identityAccepted registry source collection = true)
    (hhex : Sources.isSha256Hex collection.sha256 = true)
    (hnames : ImporterNames importerName schemaVersion)
    (hkey : sha256 (Sources.importKeyText importerName schemaVersion collection.sha256) = importKey)
    (hlength : importKey.length = 64) :
    (startRun sha256 source collection
        (findPublishedArtifact registry source collection.sha256 importerName).1
        importerName schemaVersion false now).wp
      (fun opened r => Opened registry importKey now opened.2 r) (fun _ _ => False) registry := by
  unfold startRun
  simp only [Proc.wp_bind, Proc.wp_pure]
  apply Proc.wp_mono (artifactFor_found h haccepted hhex)
  · rintro artifact r ⟨hsound, hruns, hmem, hsha⟩
    exact openRun_opens hsound hruns hmem (hsha ▸ ne_empty_of_isSha256Hex hhex) hnames
      (hsha ▸ hkey) hlength
  · exact fun _ _ hfalse => hfalse

def CountsFit (counts : ImportRun.Counts) : Prop :=
  counts.rowsAdded ≤ ImportRun.maxPositiveInteger ∧
    counts.rowsSkipped ≤ ImportRun.maxPositiveInteger ∧
    counts.rowsInvalid ≤ ImportRun.maxPositiveInteger

theorem Opened.fields_completed (h : Opened registry importKey now run r)
    {counts : ImportRun.Counts} (hcounts : CountsFit counts) :
    (run.completed now counts).fieldViolations r = [] := by
  have hcount (name : String) (value : Nat) (hle : value ≤ ImportRun.maxPositiveInteger) :
      ImportRun.countFieldViolations name value = [] := if_neg (by omega)
  have hfields := h.clean.fields
  unfold ImportRun.fieldViolations at hfields ⊢
  simp only [List.append_eq_nil_iff] at hfields ⊢
  exact ⟨⟨⟨hfields.1.1.1, hcount _ _ hcounts.1⟩, hcount _ _ hcounts.2.1⟩, hcount _ _ hcounts.2.2⟩

theorem Opened.times_completed (h : Opened registry importKey now run r)
    (counts : ImportRun.Counts) : (run.completed now counts).timeViolations = [] := by
  rw [ImportRun.timeViolations_eq_nil_iff]
  refine ⟨?_, rfl⟩
  unfold ImportRun.finishedNotBeforeStarted ImportRun.completed
  rw [h.startedAt]
  exact decide_eq_true (le_refl now)

/-- The uniqueness check at completion looks at the runs that were there before. -/
theorem unique_completed_iff (hruns : r.runs = registry.runs ++ [run])
    (hpk : run.pk = Table.nextPk registry.runs) (hkey : run.importKey = importKey)
    (hrunning : run.status = .running) (hdryRun : run.dryRun = false) (counts : ImportRun.Counts) :
    (run.completed now counts).uniqueViolations r = [] ↔
      importedBefore registry importKey = false := by
  have hlive : (run.completed now counts).isSuccessfulLive = true := by
    unfold ImportRun.isSuccessfulLive ImportRun.completed
    rw [hdryRun]
    rfl
  have hself : run.isSuccessfulLive = false := by
    unfold ImportRun.isSuccessfulLive
    rw [hrunning]
    rfl
  have hany : r.runs.any (run.completed now counts).sameLiveImport =
      importedBefore registry importKey := by
    unfold importedBefore
    rw [hruns, List.any_append, List.any_cons, List.any_nil, Bool.or_false]
    have hnew : (run.completed now counts).sameLiveImport run = false := by
      unfold ImportRun.sameLiveImport
      rw [hself, Bool.false_and, Bool.false_and]
    rw [hnew, Bool.or_false, Bool.eq_iff_iff, List.any_eq_true, List.any_eq_true]
    apply exists_congr
    intro old
    apply and_congr_right
    intro hold
    have hother : (old.pk != run.pk) = true := by
      rw [bne_iff_ne, hpk]
      exact Table.ne_nextPk hold
    unfold ImportRun.sameLiveImport
    change (old.isSuccessfulLive && decide (old.importKey = run.importKey) && (old.pk != run.pk)) =
      true ↔ _
    rw [hother, Bool.and_true, hkey]
  unfold ImportRun.uniqueViolations
  rw [hlive, Bool.true_and, hany]
  cases importedBefore registry importKey <;> simp

theorem Opened.fullClean_completed_iff (h : Opened registry importKey now run r)
    {counts : ImportRun.Counts} (hcounts : CountsFit counts) :
    (run.completed now counts).fullClean r = .ok () ↔
    importedBefore registry importKey = false := by
  rw [ImportRun.fullClean_ok_iff,
    unique_completed_iff h.runs h.pk h.importKey h.running h.live counts]
  have hclean : (run.completed now counts).cleanViolations r = [] := h.clean.clean
  constructor
  · exact fun hall => hall.2.2.1
  · exact fun hnew => ⟨h.fields_completed hcounts, hclean, hnew, h.times_completed counts⟩

/-- Completing a run whose content no live run has published before. -/
theorem Opened.completes (h : Opened registry importKey now run r) {counts : ImportRun.Counts}
    (hcounts : CountsFit counts) (hnew : importedBefore registry importKey = false) :
    (completeRun run now counts).wp
      (fun _ r' => r'.Sound ∧ r'.runs = registry.runs ++ [run.completed now counts])
      (fun _ _ => False) r := by
  have hallowed : .succeeded ∈ Sources.allowedTransitions run.status := by
    rw [h.running]
    decide
  have hok := Sources.completeRun_eq_ok_iff.mpr
    ⟨hallowed, (h.fullClean_completed_iff hcounts).mpr hnew, rfl⟩
  have hmap : (Sources.completeRun r run now counts).map (fun r' => (r', ())) =
      .ok (r.saveRun (run.completed now counts), ()) := map_eq_ok_iff.mpr ⟨_, hok, rfl⟩
  unfold completeRun
  apply Proc.wp_service_ok hmap
  refine ⟨h.sound.saveRun _, ?_⟩
  change Table.save r.runs (run.completed now counts) = _
  rw [h.runs]
  apply Table.save_append_of_fresh
  · intro old hold
    change old.pk ≠ run.pk
    rw [h.pk]
    exact Table.ne_nextPk hold
  · rfl

/-- Content that a live run has published before cannot complete another one. -/
theorem Opened.refuses (h : Opened registry importKey now run r) {counts : ImportRun.Counts}
    (hcounts : CountsFit counts) (hbefore : importedBefore registry importKey = true) :
    (completeRun run now counts).wp (fun _ _ => False) (fun _ r' => r' = r) r := by
  have hrefused : ∀ r', Sources.completeRun r run now counts ≠ .ok r' := by
    intro r' hok
    obtain ⟨-, hclean, -⟩ := Sources.completeRun_eq_ok_iff.mp hok
    rw [h.fullClean_completed_iff hcounts, hbefore] at hclean
    cases hclean
  unfold completeRun
  cases hrun : Sources.completeRun r run now counts with
  | ok r' => exact absurd hrun (hrefused r')
  | error e =>
    have hmap : (Sources.completeRun r run now counts).map (fun r' => (r', ())) = .error e := by
      rw [hrun]
      rfl
    exact Proc.wp_service_error hmap rfl

end Opens

/-! ## What a publication leaves in the registry -/

/-- Nothing was published: the rows that were added hold no live success. -/
structure NothingPublished (r r' : Registry) : Prop where
  sound : r'.Sound
  artifacts : r.artifacts <+: r'.artifacts
  runs : ∃ added, r'.runs = r.runs ++ added ∧ ∀ run ∈ added, run.isSuccessfulLive = false

/-- A live run stands at the end of the runs, unfinished. -/
structure RunOpened (r : Registry) (importKey : String) (run : ImportRun) (r' : Registry) :
    Prop where
  sound : r'.Sound
  artifacts : r.artifacts <+: r'.artifacts
  runs : r'.runs = r.runs ++ [run]
  pk : run.pk = Table.nextPk r.runs
  importKey : run.importKey = importKey
  running : run.status = .running
  live : run.dryRun = false

/-- One live run was added, and it succeeded as the first under its key. -/
structure RunPublished (r : Registry) (importKey : String) (r' : Registry) : Prop where
  new : importedBefore r importKey = false
  sound : r'.Sound
  artifacts : r.artifacts <+: r'.artifacts
  runs : ∃ run, r'.runs = r.runs ++ [run] ∧ run.isSuccessfulLive = true ∧ run.importKey = importKey

section Publications

variable {r r' r'' : Registry} {importKey : String} {run : ImportRun} {sha256 : String → String}
  {source : Nat} {collection : ContentIdentity} {importerName schemaVersion : String} {now : Time}

theorem NothingPublished.refl (h : r.Sound) : NothingPublished r r :=
  ⟨h, List.prefix_refl _, [], (List.append_nil _).symm, fun _ hrun => (by cases hrun)⟩

theorem NothingPublished.importedBefore (h : NothingPublished r r') (key : String) :
    importedBefore r' key = importedBefore r key := by
  obtain ⟨added, hruns, hadded⟩ := h.runs
  have hnone : (added.any fun run => run.isSuccessfulLive && run.importKey = key) = false := by
    rw [List.any_eq_false]
    intro run hrun
    rw [hadded run hrun, Bool.false_and]
    exact Bool.false_ne_true
  unfold Core.importedBefore
  rw [hruns, List.any_append, hnone, Bool.or_false]

theorem RunPublished.importedBefore (h : RunPublished r importKey r') (key : String) :
    Core.importedBefore r' key = (Core.importedBefore r key || decide (importKey = key)) := by
  obtain ⟨run, hruns, hlive, hkey⟩ := h.runs
  unfold Core.importedBefore
  rw [hruns, List.any_append, List.any_cons, List.any_nil, Bool.or_false, hlive,
    Bool.true_and, hkey]

theorem RunOpened.nothingPublished (h : RunOpened r importKey run r') : NothingPublished r r' := by
  refine ⟨h.sound, h.artifacts, [run], h.runs, fun x hx => ?_⟩
  rw [List.mem_singleton.mp hx]
  unfold ImportRun.isSuccessfulLive
  rw [h.running]
  rfl

/-- A row saved under the key of the opened run takes its place. -/
theorem RunOpened.save (h : RunOpened r importKey run r') {row : ImportRun}
    (hpk : row.pk = run.pk) :
    (r'.saveRun row).runs = r.runs ++ [row] := by
  change Table.save r'.runs row = _
  rw [h.runs]
  apply Table.save_append_of_fresh
  · intro old hold
    change old.pk ≠ row.pk
    rw [hpk, h.pk]
    exact Table.ne_nextPk hold
  · exact hpk.symm

theorem artifactFor_grows (h : r.Sound) (hhex : Sources.isSha256Hex collection.sha256 = true) :
    (artifactFor source collection
        (findPublishedArtifact r source collection.sha256 importerName).1).wp
      (fun artifact r' => r'.Sound ∧ r.artifacts <+: r'.artifacts ∧ r'.runs = r.runs ∧
        artifact.sha256 = collection.sha256)
      (fun _ r' => r' = r) r := by
  unfold findPublishedArtifact
  cases hfind : r.artifacts.find? fun artifact =>
      artifact.source = source && artifact.sha256 = collection.sha256 with
  | some artifact =>
    have hfound := List.find?_some hfind
    rw [Bool.and_eq_true, decide_eq_true_iff, decide_eq_true_iff] at hfound
    exact ⟨h, List.prefix_refl _, rfl, hfound.2⟩
  | none =>
    apply Proc.wp_service
    · intro r' artifact hok
      obtain ⟨identity, hidentity, hartifact, rfl⟩ :=
        Sources.registerExternalReference_eq_ok_iff.mp hok
      refine ⟨h.addArtifact (by rw [hartifact]), List.prefix_append _ _, rfl, ?_⟩
      unfold Sources.contentIdentity at hidentity
      rw [if_neg (ne_empty_of_isSha256Hex hhex)] at hidentity
      obtain ⟨-, -, -, -, hsame⟩ := Sources.validateContentIdentity_eq_ok_iff.mp hidentity
      rw [hartifact, hsame]
      exact strip_of_isSha256Hex hhex
    · exact fun _ _ => rfl

theorem openRun_grows {artifact : SourceArtifact} (h : r'.Sound)
    (hartifacts : r.artifacts <+: r'.artifacts) (hruns : r'.runs = r.runs)
    (hkey : sha256 (Sources.importKeyText importerName schemaVersion artifact.sha256) = importKey) :
    (openRun sha256 artifact importerName schemaVersion false now).wp
      (fun run r'' => RunOpened r importKey run r'') (fun _ r'' => NothingPublished r r'') r' := by
  unfold openRun
  rw [Proc.wp_bind]
  apply Proc.wp_service
  · intro r₁ run hok
    obtain ⟨-, hrun, -, rfl⟩ := Sources.buildImportRun_eq_ok_iff.mp hok
    have hpk : run.pk = Table.nextPk r'.runs := by rw [hrun]; rfl
    have hsound := h.addRun hpk
    have hfields : run.importKey = importKey ∧ run.dryRun = false ∧
        run.isSuccessfulLive = false := by
      rw [hrun, ← hkey]
      exact ⟨rfl, rfl, rfl⟩
    apply Proc.wp_service
    · intro r₂ run' hok'
      obtain ⟨-, rfl, rfl⟩ := Sources.startRun_eq_ok_iff.mp hok'
      refine ⟨hsound.saveRun _, hartifacts, ?_, ?_, hfields.1, rfl, hfields.2.1⟩
      · rw [← hruns]
        exact Table.save_append_of_fresh (fun x hx => fun heq =>
          Table.ne_nextPk hx (heq.trans hpk)) rfl
      · rw [← hruns]
        exact hpk
    · intro e _
      refine ⟨hsound, hartifacts, [run], by rw [← hruns], fun x hx => ?_⟩
      rw [List.mem_singleton.mp hx]
      exact hfields.2.2
  · exact fun e _ => ⟨h, hartifacts, [], by rw [hruns, List.append_nil], fun x hx => (by cases hx)⟩

/-- Opening a live run for collected content, registered or not. -/
theorem startRun_grows (h : r.Sound) (hhex : Sources.isSha256Hex collection.sha256 = true)
    (hkey : sha256 (Sources.importKeyText importerName schemaVersion collection.sha256) =
      importKey) :
    (startRun sha256 source collection
        (findPublishedArtifact r source collection.sha256 importerName).1
        importerName schemaVersion false now).wp
      (fun opened r' => RunOpened r importKey opened.2 r')
        (fun _ r' => NothingPublished r r') r := by
  unfold startRun
  simp only [Proc.wp_bind, Proc.wp_pure]
  apply Proc.wp_mono (artifactFor_grows h hhex)
  · rintro artifact r' ⟨hsound, hartifacts, hruns, hsha⟩
    exact openRun_grows hsound hartifacts hruns (hsha ▸ hkey)
  · rintro e r' rfl
    exact NothingPublished.refl h

theorem RunOpened.complete (h : RunOpened r importKey run r') (counts : ImportRun.Counts) :
    (completeRun run now counts).wp (fun _ r'' => RunPublished r importKey r'')
      (fun _ r'' => r'' = r') r' := by
  unfold completeRun
  apply Proc.wp_service
  · intro r'' _ hok
    obtain ⟨registry, hcomplete, heq⟩ := map_eq_ok_iff.mp hok
    cases heq
    obtain ⟨-, hclean, rfl⟩ := Sources.completeRun_eq_ok_iff.mp hcomplete
    have hunique := ((ImportRun.fullClean_ok_iff _ _).mp hclean).2.2.1
    have hnew := (unique_completed_iff h.runs h.pk h.importKey h.running h.live counts).mp hunique
    refine ⟨hnew, h.sound.saveRun _, h.artifacts, run.completed now counts,
      h.save rfl, ?_, h.importKey⟩
    unfold ImportRun.isSuccessfulLive ImportRun.completed
    rw [h.live]
    rfl
  · exact fun _ _ => rfl

theorem RunOpened.fail (h : RunOpened r importKey run r') (errors : List JsonObject) :
    (failPublication run now errors).wp (fun _ r'' => NothingPublished r r'')
      (fun _ r'' => NothingPublished r r'') r' := by
  unfold failPublication
  apply Proc.wp_service
  · intro r'' _ hok
    obtain ⟨registry, hfail, heq⟩ := map_eq_ok_iff.mp hok
    cases heq
    have hfound : Table.get? r'.runs run.pk = some run := by
      apply Table.get?_of_mem h.sound.runs
      rw [h.runs]
      exact List.mem_append_right _ List.mem_cons_self
    unfold Sources.failPublicationRow at hfail
    rw [hfound] at hfail
    dsimp only at hfail
    split at hfail
    · cases hfail
      exact h.nothingPublished
    · split at hfail
      · cases hfail
      · split at hfail
        · cases hfail
        · cases hfail
          refine ⟨h.sound.saveRun _, h.artifacts, [run.failed now errors],
            h.save rfl, fun x hx => ?_⟩
          rw [List.mem_singleton.mp hx]
          rfl
  · exact fun _ _ => h.nothingPublished

end Publications

end Dashkoda.Core
