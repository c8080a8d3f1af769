import Dashkoda.Core.FeedAttribution
import Dashkoda.Lib.Json

/-!
# A public feed, from the check to the outcome

A run records the check, collects, recognises content it has published before by its checksum, and
otherwise publishes what it collected inside an import run.
-/

open Lib
open Lib.Currency (currents current? publish)

namespace Dashkoda.Core

open Sources (Exn ImportRun Registry SourceArtifact Time)

/-- What a feed publishes at a time, a snapshot or an observation, with the content it states. -/
structure Publication (κ : Type) where
  pk : Nat
  source : Nat
  artifact : Nat
  importRun : Nat
  observedAt : Time
  content : κ
  isCurrent : Bool

instance {κ : Type} : Published (Publication κ) where
  pk := Publication.pk
  publishedAt := Publication.observedAt
  isCurrent := Publication.isCurrent
  setCurrent flag row := { row with isCurrent := flag }
  pk_setCurrent _ _ := rfl
  publishedAt_setCurrent _ _ := rfl
  isCurrent_setCurrent _ _ := rfl

/-- The state of a feed, with what it keeps of the last answer. -/
structure RemoteFeedState extends FeedState where
  remoteEtag : String
  remoteLastModified : String
  /-- Kept by the workbook feeds, which have no validators. -/
  remoteSizeBytes : Option Nat
  deriving DecidableEq, Repr

namespace RemoteFeedState

def initial : RemoteFeedState := ⟨.initial, "", "", none⟩

/-- `etag` is `None` for a feed without conditional requests, and for a `304`. -/
def storeValidators (state : RemoteFeedState) : Option (String × String) → RemoteFeedState
  | none => state
  | some (etag, lastModified) => { state with
      remoteEtag := PyText.take 200 etag
      remoteLastModified := PyText.take 100 lastModified }

def touchChecked (state : RemoteFeedState) (now : Time) : RemoteFeedState :=
  { state with toFeedState := state.toFeedState.touchChecked now }

def markImported (state : RemoteFeedState) (now : Time) (published : Nat)
    (validators : Option (String × String)) : RemoteFeedState :=
  { state with toFeedState := state.toFeedState.markImported now published }.storeValidators
    validators

def markUnchanged (state : RemoteFeedState) (now : Time) (validators : Option (String × String)) :
    RemoteFeedState :=
  { state with toFeedState := state.toFeedState.markUnchanged now }.storeValidators validators

def failFeed (state : RemoteFeedState) (message : String) : RemoteFeedState :=
  { state with toFeedState := state.toFeedState.failFeed message }

end RemoteFeedState

/-- What one feed owns: its publications and its state. -/
structure FeedTable (κ : Type) where
  published : List (Publication κ)
  state : RemoteFeedState

def FeedTable.empty {κ : Type} : FeedTable κ := ⟨[], .initial⟩

/-- What one feed sees: its own tables beside the registry all feeds share. -/
structure FeedDb (κ : Type) extends FeedTable κ where
  registry : Registry
  clock : Time

/-- An exception of a run: the registry's, or another by its class and its text. -/
inductive FeedExn where
  | sources (error : Exn)
  | integrityError (constraint : String)
  | raised (typeName message : String)
  deriving DecidableEq, Repr

namespace FeedExn

def typeName : FeedExn → String
  | sources error => error.typeName
  | integrityError _ => "IntegrityError"
  | raised typeName _ => typeName

/-- The text of an exception; of a database error only the constraint. -/
def message : FeedExn → String
  | sources (.invalidImportTransition message) => message
  | sources (.artifactRejected message) => message
  | sources _ => ""
  | integrityError constraint => constraint
  | raised _ message => message

def describe (error : FeedExn) : String := describeError error.typeName error.message

end FeedExn

/-- Why nothing was collected: the collector's own error, or anything else. -/
inductive CollectFailure where
  | collection (message : String)
  | unexpected (typeName message : String)
  deriving DecidableEq, Repr

def CollectFailure.describe : CollectFailure → String
  | collection message => message
  | unexpected typeName message => describeError typeName message

structure Collected (κ : Type) where
  content : κ
  validators : Option (String × String)

/-- A collector is given the stored validators; `none` is the answer `304`. -/
abbrev Collector (κ : Type) := String → String → Except CollectFailure (Option (Collected κ))

structure FeedMessages where
  dryRun : String
  imported : String
  unchanged : String
  deriving DecidableEq, Repr

structure PublicFeed (κ : Type) extends FeedFacts where
  /-- The normalised document whose checksum identifies the content. -/
  canonical : κ → Json
  /-- Why content is not plausible after the content that is current. -/
  refusal : Option κ → κ → Option String
  /-- The constraints and columns the rows of the content would break. -/
  violations : κ → List String
  rowsAdded : κ → Nat
  /-- The figure the outcome reports. -/
  total : κ → Nat
  messages : FeedMessages

structure SourceOutcome where
  result : FeedResult
  detail : String
  dryRun : Bool
  total : Nat
  deriving DecidableEq, Repr

/-- `canonical_checksum`: the digest and the length of the canonical form. -/
def canonicalChecksum (digestBytes : List UInt8 → String) (payload : Json) : ContentIdentity :=
  let encoded := payload.chars.flatMap String.utf8EncodeChar
  ⟨digestBytes encoded, encoded.length⟩

/-- `hashlib.sha256(text.encode("utf-8")).hexdigest()` -/
def digestText (digestBytes : List UInt8 → String) (text : String) : String :=
  digestBytes (text.toList.flatMap String.utf8EncodeChar)

def PublicFeed.identity {κ : Type} (feed : PublicFeed κ) (digestBytes : List UInt8 → String)
    (content : κ) : ContentIdentity := canonicalChecksum digestBytes (feed.canonical content)

abbrev FeedRun (κ : Type) := Proc FeedExn (FeedDb κ)

section Run

variable {κ : Type} (digestBytes : List UInt8 → String)

def onRegistry {α : Type} (x : Proc Exn Registry α) : FeedRun κ α :=
  Proc.onPart (·.registry) (fun registry db => { db with registry }) .sources x

def raiseViolations : List String → FeedRun κ Unit
  | [] => pure ()
  | constraint :: _ => throw (.integrityError constraint)

def modifyState (f : RemoteFeedState → RemoteFeedState) : FeedRun κ PUnit :=
  modify fun db => { db with state := f db.state }

/-- `.filter(source=source, is_current=True).first()` -/
def currentPublication? (source : Nat) (db : FeedDb κ) : Option (Publication κ) :=
  current? (db.published.filter (·.source = source))

/-- What a live run writes: the rows, which become the current ones, and the end of its run. -/
def writePublication (facts : FeedFacts) (violations : List String) (counts : ImportRun.Counts)
    (artifact : SourceArtifact) (run : ImportRun) (content : κ) : FeedRun κ (Publication κ) := do
  let db ← get
  let publication : Publication κ :=
    { pk := Table.nextPk db.published
      source := facts.source
      artifact := artifact.pk
      importRun := run.pk
      observedAt := db.clock
      content
      isCurrent := false }
  raiseViolations violations
  modify fun db =>
    { db with published := publish (·.source = facts.source) publication db.published }
  onRegistry (completeRun run db.clock counts)
  return publication

/-- The transaction of a publication; when it fails, its run is closed as failed. -/
def publishRun (facts : FeedFacts) (violations : List String) (counts : ImportRun.Counts)
    (artifact : SourceArtifact) (run : ImportRun) (content : κ) :
    FeedRun κ (Except FeedExn (Publication κ)) := do
  let db ← get
  tryCatch
    (Except.ok <$> Proc.atomically (writePublication facts violations counts artifact run content))
    fun error => do
      onRegistry (failPublication run db.clock [[("type", error.typeName)]])
      return .error error

/-- `start_run`, with what it raised as an answer. -/
def tryStartRun (facts : FeedFacts) (identity : ContentIdentity) (existing : Option SourceArtifact)
    (dryRun : Bool) :
    FeedRun κ (Except FeedExn (SourceArtifact × ImportRun)) := do
  let db ← get
  tryCatch
    (Except.ok <$> onRegistry (startRun (digestText digestBytes) facts.source identity existing
      facts.importerName facts.schemaVersion dryRun db.clock))
    fun error => pure (.error error)

/-- `_fail` -/
def recordFailure (message : String) : FeedRun κ SourceOutcome := do
  modifyState (·.failFeed message)
  return ⟨.failed, message, false, 0⟩

/-- `_unchanged` -/
def recordUnchanged (feed : PublicFeed κ) (validators : Option (String × String)) (dryRun : Bool) :
    FeedRun κ SourceOutcome := do
  let db ← get
  let current := db.state.currentSnapshot.bind (Table.get? db.published)
  if !dryRun then modifyState (·.markUnchanged db.clock validators)
  return ⟨.unchanged, feed.messages.unchanged, dryRun, (current.map (feed.total ·.content)).getD 0⟩

/-- Publish what was collected, inside the run that was opened for it. -/
def publishCollected (feed : PublicFeed κ) (opened : SourceArtifact × ImportRun)
    (collection : Collected κ) : FeedRun κ SourceOutcome := do
  let content := collection.content
  let db ← get
  let written ← publishRun feed.toFeedFacts (feed.violations content)
    ⟨feed.rowsAdded content, 0, 0, []⟩ opened.1 opened.2 content
  match written with
  | .error error => recordFailure error.describe
  | .ok publication =>
    modifyState (·.markImported db.clock publication.pk collection.validators)
    return ⟨.imported, feed.messages.imported, false, feed.total content⟩

def finishRun (feed : PublicFeed κ) (current : Option κ) (collection : Collected κ)
    (dryRun : Bool) :
    FeedRun κ SourceOutcome := do
  let db ← get
  let content := collection.content
  let identity := feed.identity digestBytes content
  let found := findPublishedArtifact db.registry feed.source identity.sha256 feed.importerName
  if found.2 then recordUnchanged feed collection.validators dryRun
  else
    match feed.refusal current content with
    | some reason => recordFailure reason
    | none =>
      let opened ← tryStartRun digestBytes feed.toFeedFacts identity found.1 dryRun
      match opened with
      | .error error => recordFailure error.describe
      | .ok opened =>
        if dryRun then
          onRegistry (completeRun opened.2 db.clock ⟨0, feed.rowsAdded content, 0, []⟩)
          return ⟨.imported, feed.messages.dryRun, true, feed.total content⟩
        else publishCollected feed opened collection

/-- The validators a run sends: those stored, as long as something is published. -/
def sentValidators (source : Nat) (db : FeedDb κ) : String × String :=
  if (currentPublication? source db).isSome then (db.state.remoteEtag, db.state.remoteLastModified)
  else ("", "")

/-- One run of a feed, from the check to the outcome. -/
def synchronizeFeed (feed : PublicFeed κ) (collect : Collector κ) (dryRun : Bool) :
    FeedRun κ SourceOutcome := do
  let db ← get
  modifyState (·.touchChecked db.clock)
  let sent := sentValidators feed.source db
  match collect sent.1 sent.2 with
  | .error failure => recordFailure failure.describe
  | .ok none => recordUnchanged feed none dryRun
  | .ok (some collection) =>
    finishRun digestBytes feed ((currentPublication? feed.source db).map (·.content))
      collection dryRun

end Run

/-! ## What a publication writes -/

section Publications

variable {κ : Type} {digestBytes : List UInt8 → String} {facts : FeedFacts}
  {violations : List String} {counts : ImportRun.Counts} {artifact : SourceArtifact}
  {run : ImportRun}
  {content : κ} {registry : Registry} {importKey : String} {db : FeedDb κ}

theorem wp_onRegistry {α : Type} {x : Proc Exn Registry α} {post : α → Registry → Prop}
    {raised : Exn → Registry → Prop} (h : x.wp post raised db.registry) :
    (onRegistry x).wp
      (fun a db' => db' = { db with registry := db'.registry } ∧ post a db'.registry)
      (fun e db' => db' = { db with registry := db'.registry } ∧
        ∃ error, e = .sources error ∧ raised error db'.registry) db := by
  unfold onRegistry
  rw [Proc.wp_onPart]
  exact Proc.wp_mono h (fun _ _ hpost => ⟨rfl, hpost⟩) fun error _ hraised =>
    ⟨rfl, error, rfl, hraised⟩

/-- The content is what the source's single current row states. -/
def IsCurrent (source : Nat) (content : κ) (db : FeedDb κ) : Prop :=
  ∃ row, currents (db.published.filter (·.source = source)) = [row] ∧ row.content = content

theorem isCurrent_publish (publication : Publication κ)
    (hpk : publication.pk = Table.nextPk db.published) (hsource : publication.source = facts.source)
    (r : Registry) :
    IsCurrent facts.source publication.content { db with
      published := publish (·.source = facts.source) publication db.published
      registry := r } := by
  refine ⟨Published.setCurrent true publication, ?_, rfl⟩
  apply Currency.currents_publish_scope
  · intro row hrow
    change row.pk < publication.pk
    rw [hpk]
    exact Table.pk_lt_nextPk hrow
  · exact fun _ _ => rfl
  · exact decide_eq_true hsource

/-- Where the transaction goes through, the content is current and its key was free. -/
theorem writePublication_publishes (hopened : RunOpened registry importKey run db.registry) :
    (writePublication facts violations counts artifact run content).wp
      (fun _ db' => IsCurrent facts.source content db' ∧ importedBefore registry importKey = false)
      (fun _ _ => True) db := by
  unfold writePublication
  rw [Proc.wp_bind, Proc.wp_get]
  dsimp only
  rw [Proc.wp_bind]
  cases violations with
  | cons constraint rest => trivial
  | nil =>
    unfold raiseViolations
    rw [Proc.wp_pure, Proc.wp_bind, Proc.wp_modify]
    beta_reduce
    have hcomplete : (completeRun run db.clock counts).wp _ _ db.registry := hopened.complete _
    unfold onRegistry
    rw [Proc.wp_bind, Proc.wp_onPart]
    apply Proc.wp_mono hcomplete
    · intro _ registry' hpublished
      rw [Proc.wp_pure]
      exact ⟨isCurrent_publish _ rfl rfl _, hpublished.new⟩
    · exact fun _ _ _ => trivial

/-- Storable content goes through under a free key. -/
theorem writePublication_succeeds (hopened : Opened registry importKey db.clock run db.registry)
    (hstorable : violations = []) (hcounts : CountsFit counts)
    (hnew : importedBefore registry importKey = false) :
    (writePublication facts violations counts artifact run content).wp (fun _ _ => True)
      (fun _ _ => False) db := by
  have hcomplete : (completeRun run db.clock counts).wp _ _ db.registry :=
    hopened.completes hcounts hnew
  unfold writePublication
  rw [Proc.wp_bind, Proc.wp_get]
  dsimp only
  rw [hstorable, Proc.wp_bind]
  unfold raiseViolations
  rw [Proc.wp_pure, Proc.wp_bind, Proc.wp_modify]
  beta_reduce
  unfold onRegistry
  rw [Proc.wp_bind, Proc.wp_onPart]
  exact Proc.wp_mono hcomplete (fun _ _ _ => trivial) fun _ _ hfalse => hfalse

/-- A publication returns: with the content current, or with the reason why not. -/
theorem publishRun_publishes (hopened : Opened registry importKey db.clock run db.registry)
    (hgrown : RunOpened registry importKey run db.registry) :
    (publishRun facts violations counts artifact run content).wp
      (fun written db' =>
        (∀ publication, written = .ok publication → IsCurrent facts.source content db' ∧
          importedBefore registry importKey = false) ∧
        (violations = [] → CountsFit counts →
          importedBefore registry importKey = false → ∃ publication, written = .ok publication))
      (fun _ _ => False) db := by
  unfold publishRun
  rw [Proc.wp_bind, Proc.wp_get]
  dsimp only
  rw [Proc.wp_tryCatch, Proc.wp_map, Proc.wp_atomically]
  -- the exception of a transaction that could not fail is excluded in the second half
  have hfailed : ∀ (error : FeedExn), ¬ (violations = [] ∧
      CountsFit counts ∧ importedBefore registry importKey = false) →
      Proc.wp (do
          onRegistry (failPublication run db.clock [[("type", error.typeName)]])
          return (.error error : Except FeedExn (Publication κ)))
        (fun written db' =>
          (∀ publication, written = .ok publication → IsCurrent facts.source content db' ∧
            importedBefore registry importKey = false) ∧
          (violations = [] → CountsFit counts →
            importedBefore registry importKey = false → ∃ publication, written = .ok publication))
        (fun _ _ => False) db := by
    intro error hnot
    rw [Proc.wp_bind]
    apply Proc.wp_mono (wp_onRegistry (hopened.fails _))
    · intro _ db' _
      rw [Proc.wp_pure]
      refine ⟨fun publication heq => (by cases heq), fun hstorable hfits hnew => ?_⟩
      exact (hnot ⟨hstorable, hfits, hnew⟩).elim
    · intro _ _ hraised
      obtain ⟨-, _, -, hfalse⟩ := hraised
      exact hfalse
  by_cases hwritable : violations = [] ∧ CountsFit counts ∧
      importedBefore registry importKey = false
  · have hgoes : (writePublication facts violations counts artifact run content).wp
        (fun _ _ => True) (fun _ _ => False) db :=
      writePublication_succeeds hopened hwritable.1 hwritable.2.1 hwritable.2.2
    apply Proc.wp_mono (Proc.wp_and hgoes (writePublication_publishes hgrown))
    · intro publication db' hpost
      exact ⟨fun _ _ => hpost.2, fun _ _ _ => ⟨publication, rfl⟩⟩
    · exact fun _ _ hraised => hraised.1.elim
  · apply Proc.wp_mono (writePublication_publishes hgrown)
    · intro publication db' hpost
      exact ⟨fun _ _ => hpost, fun _ _ _ => ⟨publication, rfl⟩⟩
    · exact fun error _ _ => hfailed error hwritable

/-- Opening a live run either finds the run open, or leaves the store as it was. -/
theorem tryStartRun_opens {feeds : List FeedFacts} {identity : ContentIdentity}
    (h : Attributed (digestText digestBytes) feeds db.registry)
    (hhex : ∀ bytes, Sources.isSha256Hex (digestBytes bytes) = true)
    (hidentity : Sources.isSha256Hex identity.sha256 = true)
    (hnames : ImporterNames facts.importerName facts.schemaVersion) :
    (tryStartRun digestBytes facts identity
        (findPublishedArtifact db.registry facts.source identity.sha256 facts.importerName).1
        false).wp
      (fun opened db' => db' = { db with registry := db'.registry } ∧
        ((∃ pair, opened = .ok pair ∧
            Opened db.registry (digestText digestBytes (facts.keyText identity.sha256))
              db.clock pair.2
              db'.registry ∧
            RunOpened db.registry (digestText digestBytes (facts.keyText identity.sha256)) pair.2
              db'.registry) ∨
          (∃ error, opened = .error error) ∧
            identityAccepted db.registry facts.source identity = false))
      (fun _ _ => False) db := by
  unfold tryStartRun
  rw [Proc.wp_bind, Proc.wp_get]
  dsimp only
  rw [Proc.wp_tryCatch, Proc.wp_map]
  cases haccepted : identityAccepted db.registry facts.source identity with
  | true =>
    have hlength : (digestText digestBytes (facts.keyText identity.sha256)).length = 64 :=
      (isSha256Hex_iff.mp (hhex _)).1
    have hopens : (startRun (digestText digestBytes) facts.source identity
        (findPublishedArtifact db.registry facts.source identity.sha256 facts.importerName).1
        facts.importerName facts.schemaVersion false db.clock).wp _ _ db.registry :=
      startRun_opens h.sound haccepted hidentity hnames rfl hlength
    have hgrows : (startRun (digestText digestBytes) facts.source identity
        (findPublishedArtifact db.registry facts.source identity.sha256 facts.importerName).1
        facts.importerName facts.schemaVersion false db.clock).wp _ _ db.registry :=
      startRun_grows h.sound hidentity rfl
    apply Proc.wp_mono (wp_onRegistry (Proc.wp_and hopens hgrows))
    · exact fun pair db' hpost => ⟨hpost.1, Or.inl ⟨pair, rfl, hpost.2⟩⟩
    · intro _ _ hraised
      obtain ⟨-, _, -, hfalse⟩ := hraised
      exact hfalse.1.elim
  | false =>
    apply Proc.wp_mono (wp_onRegistry (startRun_refuses haccepted hidentity))
    · exact fun _ _ hpost => hpost.2.elim
    · intro error db' hraised
      rw [Proc.wp_pure]
      exact ⟨hraised.1, Or.inr ⟨⟨error, rfl⟩, rfl⟩⟩

end Publications

/-! ## What a live run shows -/

section Shows

variable {κ : Type} {digestBytes : List UInt8 → String} {feeds : List FeedFacts}
  {feed : PublicFeed κ} {content : κ} {validators : Option (String × String)}
  {collect : Collector κ} {dryRun : Bool} {db : FeedDb κ}

/-- The source's single current row states the content, as far as the normalised document goes. -/
def PublicFeed.States (feed : PublicFeed κ) (content : κ) (db : FeedDb κ) : Prop :=
  ∃ stated, IsCurrent feed.source stated db ∧ feed.canonical stated = feed.canonical content

/-- Nothing but an earlier publication could keep the content from being published. -/
structure PublicFeed.Publishable (feed : PublicFeed κ) (digestBytes : List UInt8 → String)
    (content : κ) (db : FeedDb κ) : Prop where
  unrefused : feed.refusal ((currentPublication? feed.source db).map (·.content)) content = none
  accepted : identityAccepted db.registry feed.source (feed.identity digestBytes content) = true
  storable : feed.violations content = []
  fits : CountsFit ⟨feed.rowsAdded content, 0, 0, []⟩

/-- A run that did not fail leaves what it collected as the current content, and content that is
publishable does not fail. -/
def PublicFeed.Shows (feed : PublicFeed κ) (content : κ) (publishable : Prop)
    (outcome : SourceOutcome) (db' : FeedDb κ) : Prop :=
  (outcome.result ≠ .failed → feed.States content db') ∧ (publishable → outcome.result ≠ .failed)

/-- Publishing what was collected fails exactly where the content is not publishable or its key is
taken. -/
theorem PublicFeed.publishCollected_publishes {opened : SourceArtifact × ImportRun}
    {before : FeedDb κ} {publishable : Prop}
    (hguard : publishable → feed.Publishable digestBytes content before)
    (hopened : Opened before.registry
      (digestText digestBytes (feed.keyText (feed.identity digestBytes content).sha256)) db.clock
      opened.2 db.registry)
    (hgrown : RunOpened before.registry
      (digestText digestBytes (feed.keyText (feed.identity digestBytes content).sha256))
      opened.2 db.registry) :
    (publishCollected feed opened ⟨content, validators⟩).wp
      (fun outcome db' =>
        (outcome.result ≠ .failed → feed.States content db' ∧ importedBefore before.registry
          (digestText digestBytes (feed.keyText (feed.identity digestBytes content).sha256)) =
            false) ∧
        (importedBefore before.registry
            (digestText digestBytes (feed.keyText (feed.identity digestBytes content).sha256)) =
              false →
          publishable → outcome.result ≠ .failed))
      (fun _ _ => False) db := by
  unfold publishCollected
  rw [Proc.wp_bind, Proc.wp_get]
  dsimp only
  rw [Proc.wp_bind]
  apply Proc.wp_mono (publishRun_publishes hopened hgrown)
  · intro written db' hwritten
    cases written with
    | error error =>
      unfold recordFailure modifyState
      dsimp only
      rw [Proc.wp_bind, Proc.wp_modify, Proc.wp_pure]
      refine ⟨fun hresult => (hresult rfl).elim, fun hnew hpublishable => ?_⟩
      obtain ⟨_, heq⟩ := hwritten.2 (hguard hpublishable).storable (hguard hpublishable).fits hnew
      cases heq
    | ok publication =>
      unfold modifyState
      dsimp only
      rw [Proc.wp_bind, Proc.wp_modify, Proc.wp_pure]
      obtain ⟨hcurrent, hnew⟩ := hwritten.1 publication rfl
      exact ⟨fun _ => ⟨⟨content, hcurrent, rfl⟩, hnew⟩, fun _ _ hfailed => by cases hfailed⟩
  · exact fun _ _ hfalse => hfalse

/-- Content published before is reported unchanged, whatever is current by now. -/
theorem PublicFeed.finishRun_unchanged {current : Option κ} {publishable : Prop}
    (hpublished : publishedBefore db.registry feed.toFeedFacts
      (feed.identity digestBytes content).sha256 = true) :
    (finishRun digestBytes feed current ⟨content, validators⟩ false).wp
        (feed.Shows content publishable) (fun _ _ => False) db ↔ feed.States content db := by
  have hfound : (findPublishedArtifact db.registry feed.source
      (feed.identity digestBytes content).sha256 feed.importerName).2 = true := hpublished
  unfold finishRun
  rw [Proc.wp_bind, Proc.wp_get]
  dsimp only
  rw [if_pos hfound]
  unfold recordUnchanged modifyState
  rw [Proc.wp_bind, Proc.wp_get]
  simp only [Bool.not_false, if_true]
  rw [Proc.wp_bind, Proc.wp_modify, Proc.wp_pure]
  constructor
  · intro hshows
    exact hshows.1 fun hfailed => by cases hfailed
  · exact fun hstates => ⟨fun _ => hstates, fun _ hfailed => by cases hfailed⟩

theorem PublicFeed.finishRun_publishes {publishable : Prop}
    (hguard : publishable → feed.Publishable digestBytes content db)
    (hhex : ∀ bytes, Sources.isSha256Hex (digestBytes bytes) = true)
    (hnames : ImporterNames feed.importerName feed.schemaVersion)
    (h : Attributed (digestText digestBytes) feeds db.registry)
    (hpublished : publishedBefore db.registry feed.toFeedFacts
      (feed.identity digestBytes content).sha256 = false)
    (hnew : importedBefore db.registry
      (digestText digestBytes (feed.keyText (feed.identity digestBytes content).sha256)) = false) :
    (finishRun digestBytes feed ((currentPublication? feed.source db).map (·.content))
        ⟨content, validators⟩ false).wp
      (feed.Shows content publishable) (fun _ _ => False) db := by
  have hnot : ¬ (findPublishedArtifact db.registry feed.source
      (feed.identity digestBytes content).sha256 feed.importerName).2 = true :=
    Bool.eq_false_iff.mp hpublished
  unfold finishRun
  rw [Proc.wp_bind, Proc.wp_get]
  dsimp only
  rw [if_neg hnot]
  cases hrefusal : feed.refusal ((currentPublication? feed.source db).map (·.content)) content with
  | some reason =>
    unfold recordFailure modifyState
    dsimp only
    rw [Proc.wp_bind, Proc.wp_modify, Proc.wp_pure]
    refine ⟨fun hresult => (hresult rfl).elim, fun hpublishable => ?_⟩
    have hunrefused := (hguard hpublishable).unrefused
    rw [hrefusal] at hunrefused
    cases hunrefused
  | none =>
    dsimp only
    rw [Proc.wp_bind]
    have hopens : (tryStartRun digestBytes feed.toFeedFacts (feed.identity digestBytes content)
        (findPublishedArtifact db.registry feed.source (feed.identity digestBytes content).sha256
          feed.importerName).1 false).wp _ _ db := tryStartRun_opens h hhex (hhex _) hnames
    apply Proc.wp_mono hopens
    · intro opened db₁ hopened
      obtain ⟨hframe, hcase⟩ := hopened
      cases hcase with
      | inl hok =>
        obtain ⟨pair, rfl, hrun, hgrown⟩ := hok
        have hclock : db₁.clock = db.clock := by rw [hframe]
        apply Proc.wp_mono (PublicFeed.publishCollected_publishes hguard (hclock ▸ hrun) hgrown)
        · exact fun _ _ hpost => ⟨fun hresult => (hpost.1 hresult).1, hpost.2 hnew⟩
        · exact fun _ _ hfalse => hfalse
      | inr hrefused =>
        obtain ⟨⟨error, rfl⟩, haccepted⟩ := hrefused
        unfold recordFailure modifyState
        dsimp only
        rw [Proc.wp_bind, Proc.wp_modify, Proc.wp_pure]
        refine ⟨fun hresult => (hresult rfl).elim, fun hpublishable => ?_⟩
        exact (Bool.false_ne_true (haccepted.symm.trans (hguard hpublishable).accepted)).elim
    · exact fun _ _ hfalse => hfalse

/-- A live run that collected content shows it, unless it was published before and is not what is
current now. -/
theorem PublicFeed.synchronizeFeed_shows_iff
    (hhex : ∀ bytes, Sources.isSha256Hex (digestBytes bytes) = true)
    (hnames : ImporterNames feed.importerName feed.schemaVersion) (htexts : TextsApart feeds)
    (hfacts : feed.toFeedFacts ∈ feeds) (h : Attributed (digestText digestBytes) feeds db.registry)
    (hapart : KeysApart (digestText digestBytes) feeds db.registry feed.toFeedFacts
      (feed.identity digestBytes content).sha256)
    (hcollect : collect (sentValidators feed.source db).1 (sentValidators feed.source db).2 =
      .ok (some ⟨content, validators⟩)) :
    (synchronizeFeed digestBytes feed collect false).wp
        (feed.Shows content (feed.Publishable digestBytes content db)) (fun _ _ => False) db ↔
      (publishedBefore db.registry feed.toFeedFacts
        (feed.identity digestBytes content).sha256 = true →
        feed.States content db) := by
  unfold synchronizeFeed modifyState
  rw [Proc.wp_bind, Proc.wp_get]
  dsimp only
  rw [Proc.wp_bind, Proc.wp_modify, hcollect]
  dsimp only
  -- the check recorded first changes neither what is published nor the registry
  let checked : FeedDb κ := { db with state := db.state.touchChecked db.clock }
  cases hpublished : publishedBefore db.registry feed.toFeedFacts
      (feed.identity digestBytes content).sha256 with
  | true =>
    have hunchanged :
        (finishRun digestBytes feed ((currentPublication? feed.source db).map (·.content))
        ⟨content, validators⟩ false).wp
          (feed.Shows content (feed.Publishable digestBytes content db))
        (fun _ _ => False) checked ↔ feed.States content checked :=
      PublicFeed.finishRun_unchanged hpublished
    exact ⟨fun hshows _ => hunchanged.mp hshows, fun hstates => hunchanged.mpr (hstates rfl)⟩
  | false =>
    have hnew : importedBefore db.registry
        (digestText digestBytes (feed.keyText (feed.identity digestBytes content).sha256)) =
          false := by
      rw [Bool.eq_false_iff]
      intro hbefore
      have htaken := h.publishedBefore htexts hfacts (hhex _) hapart hbefore
      exact Bool.false_ne_true (hpublished.symm.trans htaken)
    have hguard (hpublishable : feed.Publishable digestBytes content db) :
        feed.Publishable digestBytes content checked :=
      ⟨hpublishable.unrefused, hpublishable.accepted, hpublishable.storable, hpublishable.fits⟩
    have hshows : (finishRun digestBytes feed ((currentPublication? feed.source db).map (·.content))
        ⟨content, validators⟩ false).wp _ _ checked :=
      PublicFeed.finishRun_publishes hguard hhex hnames h hpublished hnew
    exact ⟨fun _ hfalse => (by cases hfalse), fun _ => hshows⟩

end Shows

/-! ## What every run leaves in the registry -/

section Attribution

variable {κ : Type} {digestBytes : List UInt8 → String} {feeds : List FeedFacts} {facts : FeedFacts}

/-- The registry holds the feeds' runs only. -/
def FeedDb.Attributed (digestBytes : List UInt8 → String) (feeds : List FeedFacts) (db : FeedDb κ) :
    Prop := Core.Attributed (digestText digestBytes) feeds db.registry

theorem keeps_modifyState (f : RemoteFeedState → RemoteFeedState) :
    Proc.Keeps (@FeedDb.Attributed κ digestBytes feeds) (modifyState f) :=
  Proc.keeps_modify fun _ h => h

theorem keeps_recordFailure (message : String) :
    Proc.Keeps (@FeedDb.Attributed κ digestBytes feeds) (recordFailure message) :=
  Proc.keeps_bind (keeps_modifyState _) fun _ => Proc.keeps_pure _

theorem keeps_recordUnchanged (feed : PublicFeed κ) (validators : Option (String × String))
    (dryRun : Bool) :
    Proc.Keeps (FeedDb.Attributed digestBytes feeds) (recordUnchanged feed validators dryRun) := by
  unfold recordUnchanged
  refine Proc.keeps_bind Proc.keeps_get fun db => ?_
  cases dryRun with
  | true => exact Proc.keeps_pure _
  | false => exact Proc.keeps_bind (keeps_modifyState _) fun _ => Proc.keeps_pure _

section Opened

variable {artifact : SourceArtifact} {run : ImportRun} {identity : ContentIdentity} {dryRun : Bool}
  {violations : List String} {counts : ImportRun.Counts} {content : κ} {db : FeedDb κ}

theorem tryStartRun_attributed (h : db.Attributed digestBytes feeds) (hfacts : facts ∈ feeds)
    (hidentity : Sources.isSha256Hex identity.sha256 = true) :
    (tryStartRun digestBytes facts identity
        (findPublishedArtifact db.registry facts.source identity.sha256 facts.importerName).1
        dryRun).wp
      (fun opened db' => db'.Attributed digestBytes feeds ∧ ∀ pair, opened = .ok pair →
        pair.1 ∈ db'.registry.artifacts ∧ MadeBy (digestText digestBytes) facts pair.1 pair.2)
      (fun _ db' => db'.Attributed digestBytes feeds) db := by
  have hstart : (startRun (digestText digestBytes) facts.source identity
      (findPublishedArtifact db.registry facts.source identity.sha256 facts.importerName).1
      facts.importerName facts.schemaVersion dryRun db.clock).wp _ _ db.registry :=
    startRun_attributed h hfacts hidentity
  unfold tryStartRun
  rw [Proc.wp_bind, Proc.wp_get]
  dsimp only
  rw [Proc.wp_tryCatch, Proc.wp_map]
  apply Proc.wp_mono (wp_onRegistry hstart)
  · intro pair db' hpost
    refine ⟨hpost.2.1, fun pair' heq => ?_⟩
    cases heq
    exact hpost.2.2
  · intro error db' hraised
    obtain ⟨-, _, -, hkept⟩ := hraised
    rw [Proc.wp_pure]
    exact ⟨hkept, fun pair heq => (by cases heq)⟩

theorem completeRun_keeps (h : db.Attributed digestBytes feeds) (hfacts : facts ∈ feeds)
    (hartifact : artifact ∈ db.registry.artifacts)
    (hmade : MadeBy (digestText digestBytes) facts artifact run) (now : Time)
    (counts : ImportRun.Counts) :
    (onRegistry (completeRun run now counts)).wp (fun _ db' => db'.Attributed digestBytes feeds)
      (fun _ db' => db'.Attributed digestBytes feeds) db := by
  apply Proc.wp_mono (wp_onRegistry (completeRun_attributed h hfacts hartifact hmade counts))
  · exact fun _ _ hpost => hpost.2
  · intro _ _ hraised
    obtain ⟨-, _, -, hkept⟩ := hraised
    exact hkept

theorem failPublication_keeps (h : db.Attributed digestBytes feeds) (run : ImportRun) (now : Time)
    (errors : List Sources.JsonObject) :
    (onRegistry (failPublication run now errors)).wp (fun _ db' => db'.Attributed digestBytes feeds)
      (fun _ db' => db'.Attributed digestBytes feeds) db := by
  apply Proc.wp_mono (wp_onRegistry (failPublication_attributed h run errors))
  · exact fun _ _ hpost => hpost.2
  · intro _ _ hraised
    obtain ⟨-, _, -, hkept⟩ := hraised
    exact hkept

theorem writePublication_keeps (h : db.Attributed digestBytes feeds) (hfacts : facts ∈ feeds)
    (hartifact : artifact ∈ db.registry.artifacts)
    (hmade : MadeBy (digestText digestBytes) facts artifact run) :
    (writePublication facts violations counts artifact run content).wp
      (fun _ db' => db'.Attributed digestBytes feeds) (fun _ _ => True) db := by
  unfold writePublication
  rw [Proc.wp_bind, Proc.wp_get]
  dsimp only
  rw [Proc.wp_bind]
  cases violations with
  | cons constraint rest => trivial
  | nil =>
    unfold raiseViolations
    rw [Proc.wp_pure, Proc.wp_bind, Proc.wp_modify]
    beta_reduce
    unfold onRegistry
    rw [Proc.wp_bind, Proc.wp_onPart]
    exact Proc.wp_mono (completeRun_attributed h hfacts hartifact hmade _) (fun _ _ hkept => hkept)
      fun _ _ _ => trivial

theorem publishRun_keeps (h : db.Attributed digestBytes feeds) (hfacts : facts ∈ feeds)
    (hartifact : artifact ∈ db.registry.artifacts)
    (hmade : MadeBy (digestText digestBytes) facts artifact run) :
    (publishRun facts violations counts artifact run content).wp
      (fun _ db' => db'.Attributed digestBytes feeds)
      (fun _ db' => db'.Attributed digestBytes feeds) db := by
  unfold publishRun
  rw [Proc.wp_bind, Proc.wp_get]
  dsimp only
  rw [Proc.wp_tryCatch, Proc.wp_map, Proc.wp_atomically]
  apply Proc.wp_mono (writePublication_keeps h hfacts hartifact hmade)
  · exact fun _ _ hkept => hkept
  · intro error _ _
    -- the transaction is undone, so the clean-up starts from the store before it
    rw [Proc.wp_bind]
    exact Proc.wp_mono (failPublication_keeps h run _ _) (fun _ _ hkept => hkept)
      fun _ _ hkept => hkept

/-- What a run does once it is open: a dry run ends it, a live run publishes inside it. -/
theorem keeps_finishOpened {feed : PublicFeed κ} {pair : SourceArtifact × ImportRun}
    {collection : Collected κ} {now : Time} {ended : SourceOutcome}
    (h : db.Attributed digestBytes feeds) (hfacts : feed.toFeedFacts ∈ feeds)
    (hartifact : pair.1 ∈ db.registry.artifacts)
    (hmade : MadeBy (digestText digestBytes) feed.toFeedFacts pair.1 pair.2) :
    Proc.wp (if dryRun then (do
          onRegistry (completeRun pair.2 now counts)
          return ended)
        else publishCollected feed pair collection)
      (fun _ db' => db'.Attributed digestBytes feeds)
      (fun _ db' => db'.Attributed digestBytes feeds) db := by
  rw [Proc.wp_ite]
  constructor
  · intro _
    rw [Proc.wp_bind]
    exact Proc.wp_mono (completeRun_keeps h hfacts hartifact hmade _ _) (fun _ _ hdone => hdone)
      fun _ _ hdone => hdone
  · intro _
    unfold publishCollected
    rw [Proc.wp_bind, Proc.wp_get]
    dsimp only
    rw [Proc.wp_bind]
    apply Proc.wp_mono (publishRun_keeps h hfacts hartifact hmade)
    · intro written db₂ hdone
      cases written with
      | error error => exact keeps_recordFailure error.describe db₂ hdone
      | ok publication =>
        exact Proc.keeps_bind (keeps_modifyState _) (fun _ => Proc.keeps_pure _) db₂ hdone
    · exact fun _ _ hdone => hdone

end Opened

/-- A run of a feed leaves the registry with runs of the feeds only. -/
theorem keeps_synchronizeFeed {feed : PublicFeed κ}
    (hhex : ∀ bytes, Sources.isSha256Hex (digestBytes bytes) = true)
    (hfacts : feed.toFeedFacts ∈ feeds) (collect : Collector κ) (dryRun : Bool) :
    Proc.Keeps (FeedDb.Attributed digestBytes feeds)
      (synchronizeFeed digestBytes feed collect dryRun) := by
  have hfinish (current : Option κ) (collection : Collected κ) :
      Proc.Keeps (FeedDb.Attributed digestBytes feeds)
        (finishRun digestBytes feed current collection dryRun) := by
    intro db h
    unfold finishRun
    rw [Proc.wp_bind, Proc.wp_get]
    dsimp only
    rw [Proc.wp_ite]
    refine ⟨fun _ => keeps_recordUnchanged feed _ _ db h, fun _ => ?_⟩
    cases feed.refusal current collection.content with
    | some reason => exact keeps_recordFailure reason db h
    | none =>
      dsimp only
      rw [Proc.wp_bind]
      have hopens : (tryStartRun digestBytes feed.toFeedFacts
          (feed.identity digestBytes collection.content)
          (findPublishedArtifact db.registry feed.source
            (feed.identity digestBytes collection.content).sha256 feed.importerName).1 dryRun).wp
          _ _ db := tryStartRun_attributed h hfacts (hhex _)
      apply Proc.wp_mono hopens
      · intro opened db₁ hopened
        obtain ⟨hkept, hpair⟩ := hopened
        cases opened with
        | error error => exact keeps_recordFailure error.describe db₁ hkept
        | ok pair =>
          obtain ⟨hartifact, hmade⟩ := hpair pair rfl
          exact keeps_finishOpened hkept hfacts hartifact hmade
      · exact fun _ _ hkept => hkept
  unfold synchronizeFeed
  refine Proc.keeps_bind Proc.keeps_get fun db => ?_
  refine Proc.keeps_bind (keeps_modifyState _) fun _ => ?_
  dsimp only
  cases collect (sentValidators feed.source db).1 (sentValidators feed.source db).2 with
  | error failure => exact keeps_recordFailure _
  | ok answer =>
    cases answer with
    | none => exact keeps_recordUnchanged feed none dryRun
    | some collection => exact hfinish _ collection

end Attribution

end Dashkoda.Core
