import Dashkoda.Core.PublicFeed
import Dashkoda.Lib.Decimal

/-!
# A public workbook, from the download to the snapshot

Two feeds collect a workbook from a sharing link.  The attempt downloads it, recognises bytes it has
published before, and otherwise imports them: parse, compare with what is published, write.
-/

open Lib
open Lib.Currency (currents current? publish)

namespace Dashkoda.Core

open Sources (Exn ImportRun JsonObject Registry SourceArtifact Time)

/-! ## The collapse guard -/

def percent (q : ℚ) : String := toString (Decimal.roundHalfEven (q * 100)) ++ "%"

/-- Why an import that would publish far fewer rows is refused. -/
def collapseReason (minimumRatio : ℚ) (currentCount : Option Nat) (incomingCount : Nat)
    (noun : String) (allowCollapse : Bool) : Option String :=
  if allowCollapse then none
  else
    match currentCount with
    | none => none
    | some current =>
      if current = 0 then none
      else if current ≤ incomingCount then none
      else if minimumRatio ≤ (incomingCount : ℚ) / current then none
      else some
        ("Import lükati tagasi: uues töövihikus on " ++ toString incomingCount ++ " " ++ noun ++
        ", praegu avaldatud hetktõmmises " ++ toString current ++ ". See on " ++
        percent ((incomingCount : ℚ) / current) ++ " varasemast ja jääb alla lubatud " ++
        percent minimumRatio ++ " piiri. Varem avaldatud andmed jäid puutumata. " ++
        "Kui vähenemine on tegelik, käivita import võtmega --allow-collapse.")

/-! ## One import -/

structure WorkbookImporter (κ : Type) extends FeedFacts where
  /-- `parse_workbook`, with the contract it found broken. -/
  parse : List UInt8 → Except FeedExn κ
  minimumRatio : ℚ
  /-- The importer's own exception, which a broken contract is raised as. -/
  importError : String
  noun : String
  rowCount : κ → Nat
  warnings : κ → List JsonObject
  /-- The constraints and columns the rows of the snapshot would break. -/
  violations : κ → List String
  /-- The date the outcome reports. -/
  stamp : κ → String

structure ImportResult (κ : Type) where
  snapshot : Option (Publication κ)
  dryRun : Bool
  rowsAdded : Nat
  warnings : List JsonObject

/-- `_sanitized` -/
def sanitized (error : FeedExn) : JsonObject :=
  [("type", error.typeName), ("message", PyText.take 300 ((PyText.strip error.message).map
    fun c => if c = '\n' then ' ' else c))]

section Import

variable {κ : Type} (digestBytes : List UInt8 → String) (importer : WorkbookImporter κ)

def importRows (artifact : SourceArtifact) (run : ImportRun) (workbook : List UInt8)
    (dryRun allowCollapse : Bool) : FeedRun κ (ImportResult κ) :=
  match importer.parse workbook with
  | .error error => throw error
  | .ok parsed => do
    let db ← get
    let published := (currentPublication? importer.source db).map (importer.rowCount ·.content)
    match collapseReason importer.minimumRatio published (importer.rowCount parsed) importer.noun
        allowCollapse with
    | some refusal => throw (.raised importer.importError refusal)
    | none =>
      if dryRun then
        onRegistry (completeRun run db.clock
          ⟨0, importer.rowCount parsed, 0, importer.warnings parsed⟩)
        return ⟨none, true, 0, importer.warnings parsed⟩
      else
        let snapshot ← Proc.atomically (writePublication importer.toFeedFacts
          (importer.violations parsed)
          ⟨importer.rowCount parsed, 0, 0, importer.warnings parsed⟩ artifact run parsed)
        return ⟨some snapshot, false, importer.rowCount parsed, importer.warnings parsed⟩

/-- A broken contract leaves the importer as the importer's own error. -/
def wrapContract : FeedExn → FeedExn
  | .raised "WorkbookContractError" message => .raised importer.importError message
  | error => error

/-- Import one registered artifact from the bytes the caller holds. -/
def importArtifact (artifact : SourceArtifact) (workbook : List UInt8)
    (dryRun allowCollapse : Bool) :
    FeedRun κ (ImportResult κ) := do
  let db ← get
  let run ← onRegistry (openRun (digestText digestBytes) artifact importer.importerName
    importer.schemaVersion dryRun db.clock)
  tryCatch (importRows importer artifact run workbook dryRun allowCollapse) fun error => do
    onRegistry (failPublication run db.clock [sanitized error])
    throw (wrapContract importer error)

end Import

/-! ## One attempt -/

inductive FetchFailure where
  | urlNotConfigured (message : String)
  | download (message : String)
  | unexpected (typeName message : String)
  deriving DecidableEq, Repr

inductive AttemptStage where
  | download
  | importing
  deriving DecidableEq, Repr

inductive WorkbookAttempt (κ : Type) where
  | failed (message : String) (stage : AttemptStage)
  | unchanged (download : ContentIdentity)
  | imported (download : ContentIdentity) (result : ImportResult κ)

structure SyncOutcome where
  result : FeedResult
  detail : String
  snapshotId : Option Nat
  stamp : Option String
  rowsImported : Nat
  dryRun : Bool
  warnings : List JsonObject
  deriving DecidableEq, Repr

section Attempt

variable {κ : Type} (digestBytes : List UInt8 → String) (importer : WorkbookImporter κ)

def downloadIdentity (workbook : List UInt8) : ContentIdentity :=
  ⟨digestBytes workbook, workbook.length⟩

def registerAndImport (workbook : List UInt8) (existing : Option SourceArtifact)
    (dryRun allowCollapse : Bool) : FeedRun κ (ImportResult κ) := do
  let artifact ← onRegistry (artifactFor importer.source (downloadIdentity digestBytes workbook)
    existing)
  importArtifact digestBytes importer artifact workbook dryRun allowCollapse

/-- Import the workbook that arrived, unless its bytes were published before. -/
def attemptImport (workbook : List UInt8) (dryRun allowCollapse : Bool) :
    FeedRun κ (WorkbookAttempt κ) := do
  let db ← get
  let download := downloadIdentity digestBytes workbook
  let found := findPublishedArtifact db.registry importer.source download.sha256
    importer.importerName
  if found.2 then return .unchanged download
  else
    tryCatch
      (WorkbookAttempt.imported download <$>
        registerAndImport digestBytes importer workbook found.1 dryRun allowCollapse)
      fun error => pure (.failed error.describe .importing)

/-- An unset address is the operator's mistake and is raised; every other failure is an outcome. -/
def attemptWorkbookSync (fetched : Except FetchFailure (List UInt8)) (dryRun allowCollapse : Bool) :
    FeedRun κ (WorkbookAttempt κ) :=
  match fetched with
  | .error (.urlNotConfigured message) => throw (.raised "PublicUrlNotConfigured" message)
  | .error (.download message) => pure (.failed message .download)
  | .error (.unexpected typeName message) =>
    pure (.failed (describeError typeName message) .download)
  | .ok workbook => attemptImport digestBytes importer workbook dryRun allowCollapse

/-- What the attempt means for the feed's state and its outcome. -/
def recordAttempt (attempt : WorkbookAttempt κ) (dryRun : Bool) : FeedRun κ SyncOutcome := do
  let db ← get
  match attempt with
  | .failed message _ =>
    modifyState (·.failFeed message)
    return ⟨.failed, message, none, none, 0, false, []⟩
  | .unchanged download =>
    if !dryRun then
      modifyState fun state =>
        { state.markUnchanged db.clock none with remoteSizeBytes := some download.sizeBytes }
    return ⟨.unchanged, "Töövihik ei ole pärast eelmist importi muutunud.",
      db.state.currentSnapshot,
      none, 0, dryRun, []⟩
  | .imported download result =>
    match result.snapshot with
    | none =>
      return ⟨.imported, "Kuivkäivitus: töövihik on kehtiv, andmeid ei avaldatud.", none, none, 0,
        true, result.warnings⟩
    | some snapshot =>
      modifyState fun state =>
        { state.markImported db.clock snapshot.pk none with
          remoteSizeBytes := some download.sizeBytes }
      return ⟨.imported, "Uus hetkeseis avaldatud.", some snapshot.pk,
        some (importer.stamp snapshot.content), result.rowsAdded, false, result.warnings⟩

def synchronizePublicWorkbook (fetched : Except FetchFailure (List UInt8))
    (dryRun allowCollapse : Bool) : FeedRun κ SyncOutcome := do
  let db ← get
  modifyState (·.touchChecked db.clock)
  let attempt ← attemptWorkbookSync digestBytes importer fetched dryRun allowCollapse
  recordAttempt importer attempt dryRun

end Attempt

/-! ## What a live run shows -/

section Shows

variable {κ : Type} {digestBytes : List UInt8 → String} {feeds : List FeedFacts}
  {importer : WorkbookImporter κ} {workbook : List UInt8} {allowCollapse : Bool}
  {artifact : SourceArtifact} {run : ImportRun} {registry : Registry} {db : FeedDb κ}

def WorkbookImporter.importKey (importer : WorkbookImporter κ) (digestBytes : List UInt8 → String)
    (workbook : List UInt8) : String :=
  digestText digestBytes (importer.keyText (downloadIdentity digestBytes workbook).sha256)

/-- The source's single current snapshot holds the rows of the workbook. -/
def WorkbookImporter.States (importer : WorkbookImporter κ) (workbook : List UInt8)
    (db : FeedDb κ) :
    Prop :=
  ∃ parsed, importer.parse workbook = .ok parsed ∧ IsCurrent importer.source parsed db

/-- The rows of the workbook may replace the current ones. -/
def WorkbookImporter.Importable (importer : WorkbookImporter κ) (workbook : List UInt8)
    (allowCollapse : Bool) (db : FeedDb κ) : Prop :=
  ∃ parsed, importer.parse workbook = .ok parsed ∧
    collapseReason importer.minimumRatio
      ((currentPublication? importer.source db).map (importer.rowCount ·.content))
      (importer.rowCount parsed) importer.noun allowCollapse = none ∧
    importer.violations parsed = [] ∧
    CountsFit ⟨importer.rowCount parsed, 0, 0, importer.warnings parsed⟩

/-- Nothing but an earlier publication could keep the workbook from being published. -/
structure WorkbookImporter.Publishable (importer : WorkbookImporter κ)
    (digestBytes : List UInt8 → String) (workbook : List UInt8) (allowCollapse : Bool)
    (db : FeedDb κ) : Prop where
  accepted : identityAccepted db.registry importer.source
    (downloadIdentity digestBytes workbook) = true
  importable : importer.Importable workbook allowCollapse db

/-- A run that did not fail leaves the workbook's rows as the current ones, and a workbook that is
publishable does not fail. -/
def WorkbookImporter.Shows (importer : WorkbookImporter κ) (workbook : List UInt8)
    (publishable : Prop) (outcome : SyncOutcome) (db' : FeedDb κ) : Prop :=
  (outcome.result ≠ .failed → importer.States workbook db') ∧
    (publishable → outcome.result ≠ .failed)

/-- An opened live run publishes the rows, or leaves the store as it found it. -/
theorem importRows_publishes
    (hopened : Opened registry (importer.importKey digestBytes workbook) db.clock run db.registry)
    (hgrown : RunOpened registry (importer.importKey digestBytes workbook) run db.registry)
    (hnew : importedBefore registry (importer.importKey digestBytes workbook) = false) :
    (importRows importer artifact run workbook false allowCollapse).wp
      (fun result db' => (∃ snapshot, result.snapshot = some snapshot) ∧
        importer.States workbook db')
      (fun _ db' => db' = db ∧ ¬ importer.Importable workbook allowCollapse db) db := by
  unfold importRows
  cases hparse : importer.parse workbook with
  | error error =>
    refine ⟨rfl, fun himportable => ?_⟩
    obtain ⟨parsed, hparsed, -⟩ := himportable
    cases hparse.symm.trans hparsed
  | ok parsed =>
    dsimp only
    rw [Proc.wp_bind, Proc.wp_get]
    dsimp only
    cases hcollapse : collapseReason importer.minimumRatio
        ((currentPublication? importer.source db).map (importer.rowCount ·.content))
        (importer.rowCount parsed) importer.noun allowCollapse with
    | some refusal =>
      refine ⟨rfl, fun himportable => ?_⟩
      obtain ⟨parsed', hparsed, hallowed, -⟩ := himportable
      cases hparse.symm.trans hparsed
      cases hcollapse.symm.trans hallowed
    | none =>
      dsimp only
      rw [if_neg Bool.false_ne_true, Proc.wp_bind, Proc.wp_atomically]
      have hpublishes : (writePublication importer.toFeedFacts (importer.violations parsed)
          ⟨importer.rowCount parsed, 0, 0, importer.warnings parsed⟩ artifact run
            parsed).wp _ _ db :=
        writePublication_publishes hgrown
      by_cases hwritable : importer.violations parsed = [] ∧
          CountsFit ⟨importer.rowCount parsed, 0, 0, importer.warnings parsed⟩
      · have hsucceeds : (writePublication importer.toFeedFacts (importer.violations parsed)
            ⟨importer.rowCount parsed, 0, 0, importer.warnings parsed⟩ artifact run
              parsed).wp _ _ db :=
          writePublication_succeeds hopened hwritable.1 hwritable.2 hnew
        apply Proc.wp_mono (Proc.wp_and hsucceeds hpublishes)
        · exact fun snapshot _ hpost => ⟨⟨snapshot, rfl⟩, parsed, hparse, hpost.2.1⟩
        · exact fun _ _ hraised => hraised.1.elim
      · apply Proc.wp_mono hpublishes
        · exact fun snapshot _ hpost => ⟨⟨snapshot, rfl⟩, parsed, hparse, hpost.1⟩
        · intro _ _ _
          refine ⟨rfl, fun himportable => ?_⟩
          obtain ⟨parsed', hparsed, -, hstorable⟩ := himportable
          cases hparse.symm.trans hparsed
          exact hwritable hstorable

/-- New bytes are published, or there was another reason to refuse them. -/
theorem registerAndImport_publishes
    (hhex : ∀ bytes, Sources.isSha256Hex (digestBytes bytes) = true)
    (hnames : ImporterNames importer.importerName importer.schemaVersion)
    (h : Attributed (digestText digestBytes) feeds db.registry)
    (hnew : importedBefore db.registry (importer.importKey digestBytes workbook) = false) :
    (registerAndImport digestBytes importer workbook
        (findPublishedArtifact db.registry importer.source
          (downloadIdentity digestBytes workbook).sha256 importer.importerName).1 false
        allowCollapse).wp
      (fun result db' => (∃ snapshot, result.snapshot = some snapshot) ∧
        importer.States workbook db')
      (fun _ _ => ¬ importer.Publishable digestBytes workbook allowCollapse db) db := by
  have hidentity : Sources.isSha256Hex (downloadIdentity digestBytes workbook).sha256 =
    true := hhex _
  have hlength : (importer.importKey digestBytes workbook).length = 64 :=
    (isSha256Hex_iff.mp (hhex _)).1
  unfold registerAndImport
  rw [Proc.wp_bind]
  cases haccepted : identityAccepted db.registry importer.source
      (downloadIdentity digestBytes workbook) with
  | false =>
    apply Proc.wp_mono (wp_onRegistry (artifactFor_refuses haccepted hidentity))
    · exact fun _ _ hpost => hpost.2.elim
    · exact fun _ _ _ hpublishable =>
        Bool.false_ne_true (haccepted.symm.trans hpublishable.accepted)
  | true =>
    apply Proc.wp_mono (wp_onRegistry (Proc.wp_and (artifactFor_found h.sound haccepted hidentity)
      (artifactFor_grows h.sound hidentity)))
    · intro artifact db₁ hfound
      obtain ⟨hframe₁, ⟨hsound, hruns, hmem, hsha⟩, -, hstart, -, -⟩ := hfound
      unfold importArtifact
      rw [Proc.wp_bind, Proc.wp_get]
      dsimp only
      rw [Proc.wp_bind]
      have hkey : digestText digestBytes (Sources.importKeyText importer.importerName
          importer.schemaVersion artifact.sha256) = importer.importKey digestBytes workbook := by
        rw [hsha]
        rfl
      have hopens : (openRun (digestText digestBytes) artifact importer.importerName
          importer.schemaVersion false db₁.clock).wp _ _ db₁.registry :=
        openRun_opens hsound hruns hmem (hsha ▸ ne_empty_of_isSha256Hex hidentity) hnames
          hkey hlength
      have hgrows : (openRun (digestText digestBytes) artifact importer.importerName
          importer.schemaVersion false db₁.clock).wp _ _ db₁.registry :=
        openRun_grows hsound hstart hruns hkey
      apply Proc.wp_mono (wp_onRegistry (Proc.wp_and hopens hgrows))
      · intro run db₂ hrun
        obtain ⟨hframe₂, hopened, hgrown⟩ := hrun
        have hclock : db₂.clock = db₁.clock := by rw [hframe₂]
        have hcurrent : currentPublication? importer.source db₂ =
            currentPublication? importer.source db := by rw [hframe₂, hframe₁]; rfl
        rw [Proc.wp_tryCatch]
        apply Proc.wp_mono (importRows_publishes (hclock ▸ hopened) hgrown hnew)
        · exact fun _ _ hpost => hpost
        · intro error db₃ hraised
          obtain ⟨rfl, hnot⟩ := hraised
          rw [Proc.wp_bind]
          apply Proc.wp_mono (wp_onRegistry (hopened.fails [sanitized error]))
          · intro _ _ _ hpublishable
            apply hnot
            obtain ⟨parsed, hparsed, hallowed, hstorable⟩ := hpublishable.importable
            exact ⟨parsed, hparsed, hcurrent ▸ hallowed, hstorable⟩
          · intro _ _ hfailed
            obtain ⟨-, _, -, hfalse⟩ := hfailed
            exact hfalse.elim
      · intro _ _ hraised
        obtain ⟨-, _, -, hfalse⟩ := hraised
        exact hfalse.1.elim
    · intro _ _ hraised
      obtain ⟨-, _, -, hfalse⟩ := hraised
      exact hfalse.1.elim

/-- A live run that downloaded a workbook shows it, unless its bytes were published before and
its rows are not the current ones now. -/
theorem synchronizePublicWorkbook_shows_iff
    (hhex : ∀ bytes, Sources.isSha256Hex (digestBytes bytes) = true)
    (hnames : ImporterNames importer.importerName importer.schemaVersion)
    (htexts : TextsApart feeds) (hfacts : importer.toFeedFacts ∈ feeds)
    (h : Attributed (digestText digestBytes) feeds db.registry)
    (hapart : KeysApart (digestText digestBytes) feeds db.registry importer.toFeedFacts
      (downloadIdentity digestBytes workbook).sha256) :
    (synchronizePublicWorkbook digestBytes importer (.ok workbook) false allowCollapse).wp
        (importer.Shows workbook (importer.Publishable digestBytes workbook allowCollapse db))
        (fun _ _ => False) db ↔
      (publishedBefore db.registry importer.toFeedFacts
        (downloadIdentity digestBytes workbook).sha256 = true → importer.States workbook db) := by
  unfold synchronizePublicWorkbook attemptWorkbookSync attemptImport modifyState
  rw [Proc.wp_bind, Proc.wp_get]
  dsimp only
  rw [Proc.wp_bind, Proc.wp_modify, Proc.wp_bind, Proc.wp_bind, Proc.wp_get]
  dsimp only
  -- the check recorded first changes neither what is published nor the registry
  let checked : FeedDb κ := { db with state := db.state.touchChecked db.clock }
  cases hpublished : publishedBefore db.registry importer.toFeedFacts
      (downloadIdentity digestBytes workbook).sha256 with
  | true =>
    have hfound : (findPublishedArtifact db.registry importer.source
        (downloadIdentity digestBytes workbook).sha256 importer.importerName).2 = true := hpublished
    rw [if_pos hfound, Proc.wp_pure]
    unfold recordAttempt modifyState
    rw [Proc.wp_bind, Proc.wp_get]
    dsimp only
    rw [if_pos (show (!false) = true from rfl), Proc.wp_bind, Proc.wp_modify, Proc.wp_pure]
    constructor
    · exact fun hshows _ => hshows.1 fun hfailed => by cases hfailed
    · exact fun hstates => ⟨fun _ => hstates rfl, fun _ hfailed => by cases hfailed⟩
  | false =>
    have hfound : ¬ (findPublishedArtifact db.registry importer.source
        (downloadIdentity digestBytes workbook).sha256 importer.importerName).2 = true :=
      Bool.eq_false_iff.mp hpublished
    have hnew : importedBefore db.registry (importer.importKey digestBytes workbook) = false := by
      rw [Bool.eq_false_iff]
      intro hbefore
      have htaken := h.publishedBefore htexts hfacts (hhex _) hapart hbefore
      exact Bool.false_ne_true (hpublished.symm.trans htaken)
    have hchecked : Attributed (digestText digestBytes) feeds checked.registry := h
    have himports : (registerAndImport digestBytes importer workbook
        (findPublishedArtifact db.registry importer.source
          (downloadIdentity digestBytes workbook).sha256 importer.importerName).1 false
        allowCollapse).wp _ _ checked := registerAndImport_publishes hhex hnames hchecked hnew
    rw [if_neg hfound]
    refine ⟨fun _ hfalse => (by cases hfalse), fun _ => ?_⟩
    rw [Proc.wp_tryCatch, Proc.wp_map]
    apply Proc.wp_mono himports
    · intro result db' hdone
      obtain ⟨⟨snapshot, hsnapshot⟩, hstates⟩ := hdone
      unfold recordAttempt modifyState
      rw [Proc.wp_bind, Proc.wp_get]
      dsimp only
      rw [hsnapshot]
      dsimp only
      rw [Proc.wp_bind, Proc.wp_modify, Proc.wp_pure]
      exact ⟨fun _ => hstates, fun _ hfailed => by cases hfailed⟩
    · intro error db' hnot
      rw [Proc.wp_pure]
      unfold recordAttempt modifyState
      rw [Proc.wp_bind, Proc.wp_get]
      dsimp only
      rw [Proc.wp_bind, Proc.wp_modify, Proc.wp_pure]
      refine ⟨fun hresult => (hresult rfl).elim, fun hpublishable => ?_⟩
      exact (hnot ⟨hpublishable.accepted, hpublishable.importable⟩).elim

end Shows

/-! ## What every run leaves in the registry -/

section Attribution

variable {κ : Type} {digestBytes : List UInt8 → String} {feeds : List FeedFacts}
  {importer : WorkbookImporter κ} {artifact : SourceArtifact} {run : ImportRun} {db : FeedDb κ}

theorem importRows_keeps (h : db.Attributed digestBytes feeds)
    (hfacts : importer.toFeedFacts ∈ feeds) (hartifact : artifact ∈ db.registry.artifacts)
    (hmade : MadeBy (digestText digestBytes) importer.toFeedFacts artifact run)
    (workbook : List UInt8) (dryRun allowCollapse : Bool) :
    (importRows importer artifact run workbook dryRun allowCollapse).wp
      (fun _ db' => db'.Attributed digestBytes feeds)
      (fun _ db' => db'.Attributed digestBytes feeds) db := by
  unfold importRows
  cases importer.parse workbook with
  | error error => exact h
  | ok parsed =>
    dsimp only
    rw [Proc.wp_bind, Proc.wp_get]
    dsimp only
    cases collapseReason importer.minimumRatio
        ((currentPublication? importer.source db).map (importer.rowCount ·.content))
        (importer.rowCount parsed) importer.noun allowCollapse with
    | some refusal => exact h
    | none =>
      dsimp only
      rw [Proc.wp_ite]
      constructor
      · intro _
        rw [Proc.wp_bind]
        exact Proc.wp_mono (completeRun_keeps h hfacts hartifact hmade _ _) (fun _ _ hkept => hkept)
          fun _ _ hkept => hkept
      · intro _
        rw [Proc.wp_bind, Proc.wp_atomically]
        exact Proc.wp_mono (writePublication_keeps h hfacts hartifact hmade)
          (fun _ _ hkept => hkept) fun _ _ _ => h

theorem importArtifact_keeps (h : db.Attributed digestBytes feeds)
    (hfacts : importer.toFeedFacts ∈ feeds) (hartifact : artifact ∈ db.registry.artifacts)
    (hsource : artifact.source = importer.source) (workbook : List UInt8)
    (dryRun allowCollapse : Bool) :
    (importArtifact digestBytes importer artifact workbook dryRun allowCollapse).wp
      (fun _ db' => db'.Attributed digestBytes feeds)
      (fun _ db' => db'.Attributed digestBytes feeds) db := by
  unfold importArtifact
  rw [Proc.wp_bind, Proc.wp_get]
  dsimp only
  rw [Proc.wp_bind]
  have hopen : (openRun (digestText digestBytes) artifact importer.importerName
      importer.schemaVersion dryRun db.clock).wp _ _ db.registry :=
    openRun_attributed h hfacts hartifact hsource
  apply Proc.wp_mono (wp_onRegistry hopen)
  · intro run db₁ hrun
    obtain ⟨-, hkept, hmem, hmade⟩ := hrun
    rw [Proc.wp_tryCatch]
    apply Proc.wp_mono (importRows_keeps hkept hfacts hmem hmade workbook dryRun allowCollapse)
    · exact fun _ _ hdone => hdone
    · intro error db₂ hdone
      rw [Proc.wp_bind]
      exact Proc.wp_mono (failPublication_keeps hdone run _ _) (fun _ _ hclosed => hclosed)
        fun _ _ hclosed => hclosed
  · intro _ _ hraised
    obtain ⟨-, _, -, hkept⟩ := hraised
    exact hkept

/-- A run of a workbook feed leaves the registry with runs of the feeds only. -/
theorem keeps_synchronizePublicWorkbook
    (hhex : ∀ bytes, Sources.isSha256Hex (digestBytes bytes) = true)
    (hfacts : importer.toFeedFacts ∈ feeds) (fetched : Except FetchFailure (List UInt8))
    (dryRun allowCollapse : Bool) :
    Proc.Keeps (FeedDb.Attributed digestBytes feeds)
      (synchronizePublicWorkbook digestBytes importer fetched dryRun allowCollapse) := by
  have himport (workbook : List UInt8) : Proc.Keeps (FeedDb.Attributed digestBytes feeds)
      (attemptImport digestBytes importer workbook dryRun allowCollapse) := by
    intro db h
    unfold attemptImport
    rw [Proc.wp_bind, Proc.wp_get]
    dsimp only
    rw [Proc.wp_ite]
    refine ⟨fun _ => h, fun _ => ?_⟩
    rw [Proc.wp_tryCatch, Proc.wp_map]
    unfold registerAndImport
    rw [Proc.wp_bind]
    have hartifact : (artifactFor importer.source (downloadIdentity digestBytes workbook)
        (findPublishedArtifact db.registry importer.source
          (downloadIdentity digestBytes workbook).sha256 importer.importerName).1).wp _ _
        db.registry := @artifactFor_attributed _ _ importer.toFeedFacts _ _ h (hhex _)
    apply Proc.wp_mono (wp_onRegistry hartifact)
    · intro artifact db₁ hfound
      obtain ⟨-, hkept, -, hmem, hsource, -⟩ := hfound
      exact Proc.wp_mono (importArtifact_keeps hkept hfacts hmem hsource workbook dryRun
        allowCollapse) (fun _ _ hdone => hdone) fun _ _ hdone => hdone
    · intro _ db₁ hraised
      obtain ⟨hframe, _, -, hsame⟩ := hraised
      change db₁.Attributed digestBytes feeds
      unfold FeedDb.Attributed
      rw [hsame]
      exact h
  have hrecord (attempt : WorkbookAttempt κ) : Proc.Keeps (FeedDb.Attributed digestBytes feeds)
      (recordAttempt importer attempt dryRun) := by
    unfold recordAttempt
    refine Proc.keeps_bind Proc.keeps_get fun db => ?_
    cases attempt with
    | failed message stage => exact Proc.keeps_bind (keeps_modifyState _) fun _ => Proc.keeps_pure _
    | unchanged download =>
      cases dryRun with
      | true => exact Proc.keeps_pure _
      | false => exact Proc.keeps_bind (keeps_modifyState _) fun _ => Proc.keeps_pure _
    | imported download result =>
      dsimp only
      cases result.snapshot with
      | none => exact Proc.keeps_pure _
      | some snapshot => exact Proc.keeps_bind (keeps_modifyState _) fun _ => Proc.keeps_pure _
  unfold synchronizePublicWorkbook
  refine Proc.keeps_bind Proc.keeps_get fun db => ?_
  refine Proc.keeps_bind (keeps_modifyState _) fun _ => ?_
  refine Proc.keeps_bind ?_ hrecord
  unfold attemptWorkbookSync
  cases fetched with
  | ok workbook => exact himport workbook
  | error failure =>
    cases failure with
    | urlNotConfigured message => exact Proc.keeps_throw _
    | download message => exact Proc.keeps_pure _
    | unexpected typeName message => exact Proc.keeps_pure _

end Attribution

end Dashkoda.Core
