import Dashkoda.Visibility.Models

/-!
# One day of a collector

A day that changed is published as a new revision inside an import run.  The connection can be lost,
and the process stopped, at every statement.
-/

open Lib

namespace Dashkoda.Visibility

open Core (ContentIdentity CountsFit FeedFacts ImporterNames NothingPublished Opened RunOpened
  RunPublished identityAccepted importedBefore)
open Sources (Exn ImportRun JsonObject Registry SourceArtifact Time)

structure CollectionCounts where
  requests : Nat
  retries : Nat
  deriving DecidableEq, Repr

/-! ## Statements that may not come through -/

inductive DayStatement
  | registerArtifact
  | buildRun
  | startRun
  | lockCurrent
  | saveSnapshot
  | saveRows
  | moveCurrent
  | completeRun
  | failRun
  deriving DecidableEq, Repr

/-- What is raised in place of a statement, if anything. -/
abbrev DayOutage := DayStatement → Option VisibilityExn

def DayOutage.calm : DayOutage := fun _ => none

def reach (outage : DayOutage) (statement : DayStatement) : VisibilityRun Unit :=
  match outage statement with
  | some error => throw error
  | none => pure ()

theorem wp_reach {outage : DayOutage} {statement : DayStatement} {post : Unit → VisibilityDb → Prop}
    {raised : VisibilityExn → VisibilityDb → Prop} {db : VisibilityDb} (hpost : post () db)
    (hraised : ∀ e, raised e db) :
    (reach outage statement).wp post raised db := by
  unfold reach
  cases outage statement with
  | some error => exact hraised error
  | none => exact hpost

@[simp] theorem reach_calm (statement : DayStatement) :
    reach DayOutage.calm statement = pure () := rfl

/-- An exception in place of a statement on the state of the feed. -/
def raiseIf : Option VisibilityExn → VisibilityRun Unit
  | some error => throw error
  | none => pure ()

theorem wp_raiseIf_none {post : Unit → VisibilityDb → Prop}
    {raised : VisibilityExn → VisibilityDb → Prop} :
    (raiseIf none).wp post raised = post () := rfl

theorem keeps_raiseIf {Inv : VisibilityDb → Prop} (error : Option VisibilityExn) :
    Proc.Keeps Inv (raiseIf error) := by
  cases error with
  | none => exact Proc.keeps_pure _
  | some error => exact Proc.keeps_throw _

/-! ## Opening and closing a run -/

section Run

variable (setup : VisibilitySetup) (outage : DayOutage)

/-- Reuse or register the artifact of the content, and open a live run. -/
def openRun (facts : FeedFacts) (identity : ContentIdentity) :
    VisibilityRun (SourceArtifact × ImportRun) := do
  let db ← get
  let found := (Core.findPublishedArtifact db.registry facts.source identity.sha256
    facts.importerName).1
  reach outage .registerArtifact
  let artifact ← onRegistry (Core.artifactFor facts.source identity found)
  reach outage .buildRun
  let run ← onRegistry (Proc.service fun registry => Sources.buildImportRun
    (Core.digestText setup.digestBytes) registry artifact facts.importerName facts.schemaVersion
    false)
  reach outage .startRun
  let run ← onRegistry (Proc.service fun registry => Sources.startRun registry run db.clock)
  return (artifact, run)

/-- What `publishing_run` does about an exception before it goes on. -/
def closeRun (errors : List JsonObject) (run : ImportRun) (now : Time) (error : VisibilityExn) :
    VisibilityRun Unit :=
  if error = .interrupted then pure ()
  else do
    reach outage .failRun
    onRegistry (Core.failPublication run now errors)

/-- `publishing_run` around a transaction that ends with `complete_import_run`. -/
def publishingRun {α : Type} (errors : List JsonObject) (run : ImportRun) (rowsAdded : Nat)
    (write : VisibilityRun α) : VisibilityRun α := do
  let db ← get
  Proc.onError
    (Proc.atomically do
      let written ← write
      reach outage .completeRun
      onRegistry (Core.completeRun run db.clock ⟨rowsAdded, 0, 0, []⟩)
      return written)
    (closeRun outage errors run db.clock)

/-- Publish content inside a run of its own. -/
def publishDaily {α : Type} (facts : FeedFacts) (errors : List JsonObject)
    (identity : ContentIdentity) (rowsAdded : Nat)
    (write : SourceArtifact × ImportRun → VisibilityRun α) : VisibilityRun α := do
  let opened ← openRun setup outage facts identity
  publishingRun outage errors opened.2 rowsAdded (write opened)

end Run

/-- The import key of content that a collector publishes. -/
def importKeyOf (setup : VisibilitySetup) (facts : FeedFacts)
    (identity : ContentIdentity) : String :=
  Core.digestText setup.digestBytes (facts.keyText identity.sha256)

section Ends

variable {setup : VisibilitySetup} {outage : DayOutage} {facts : FeedFacts}
  {identity : ContentIdentity} {errors : List JsonObject} {rowsAdded : Nat} {α : Type}
  {db : VisibilityDb}

def SameTables (db db' : VisibilityDb) : Prop := db' = { db with registry := db'.registry }

theorem SameTables.refl (db : VisibilityDb) : SameTables db db := rfl

theorem SameTables.registry {db db' : VisibilityDb} (h : SameTables db db') (registry : Registry) :
    SameTables db { db' with registry } := by
  unfold SameTables at h ⊢
  rw [h]

/-- Nothing new is registered but content with the checksum. -/
def RegistersOnly (r : Registry) (sha256 : String) (r' : Registry) : Prop :=
  ∀ artifact ∈ r'.artifacts, artifact ∈ r.artifacts ∨ artifact.sha256 = sha256

/-- A pending run stands at the end of the runs. -/
structure RunBuilt (r : Registry) (importKey sha256 : String) (run : ImportRun) (r' : Registry) :
    Prop where
  sound : r'.Sound
  artifacts : r.artifacts <+: r'.artifacts
  registers : RegistersOnly r sha256 r'
  runs : r'.runs = r.runs ++ [run]
  pk : run.pk = Table.nextPk r.runs
  importKey : run.importKey = importKey
  pending : run.status = .pending
  live : run.dryRun = false

theorem RunBuilt.nothingPublished {r r' : Registry} {importKey sha256 : String} {run : ImportRun}
    (h : RunBuilt r importKey sha256 run r') : NothingPublished r r' := by
  refine ⟨h.sound, h.artifacts, [run], h.runs, fun x hx => ?_⟩
  rw [List.mem_singleton.mp hx]
  unfold ImportRun.isSuccessfulLive
  rw [h.pending]
  rfl

theorem artifactFor_registers (hhex : Sources.isSha256Hex identity.sha256 = true) (r : Registry)
    (found : Option SourceArtifact) :
    (Core.artifactFor facts.source identity found).wp
      (fun _ r' => RegistersOnly r identity.sha256 r') (fun _ _ => True) r := by
  cases found with
  | some artifact => exact fun _ hin => Or.inl hin
  | none =>
    apply Proc.wp_service
    · intro r' artifact hok other hother
      obtain ⟨content, hcontent, hartifact, rfl⟩ :=
        Sources.registerExternalReference_eq_ok_iff.mp hok
      cases List.mem_append.mp hother with
      | inl hold => exact Or.inl hold
      | inr hnew =>
        unfold Sources.contentIdentity at hcontent
        rw [if_neg (Core.ne_empty_of_isSha256Hex hhex)] at hcontent
        obtain ⟨-, -, -, -, hsame⟩ := Sources.validateContentIdentity_eq_ok_iff.mp hcontent
        rw [List.mem_singleton.mp hnew, hartifact, hsame]
        exact Or.inr (Core.strip_of_isSha256Hex hhex)
    · exact fun _ _ => trivial

theorem buildImportRun_builds {r r' : Registry} {artifact : SourceArtifact} (h : r'.Sound)
    (hartifacts : r.artifacts <+: r'.artifacts) (hregisters : RegistersOnly r identity.sha256 r')
    (hruns : r'.runs = r.runs) (hsha : artifact.sha256 = identity.sha256) :
    (Proc.service fun registry =>
      Sources.buildImportRun (Core.digestText setup.digestBytes) registry
        artifact facts.importerName facts.schemaVersion false).wp
      (fun run r'' => RunBuilt r (importKeyOf setup facts identity) identity.sha256 run r'')
      (fun _ r'' => NothingPublished r r'') r' := by
  apply Proc.wp_service
  · intro r'' run hok
    obtain ⟨-, hrun, -, rfl⟩ := Sources.buildImportRun_eq_ok_iff.mp hok
    have hpk : run.pk = Table.nextPk r'.runs := by rw [hrun]; rfl
    refine ⟨h.addRun hpk, hartifacts, hregisters, by rw [← hruns], hruns ▸ hpk, ?_, ?_, ?_⟩
    · rw [hrun, hsha]
      rfl
    · rw [hrun]
      rfl
    · rw [hrun]
      rfl
  · exact fun _ _ =>
      ⟨h, hartifacts, [], by rw [hruns, List.append_nil], fun _ hrun => (by cases hrun)⟩

theorem startRun_starts {r r' : Registry} {importKey : String} {run : ImportRun} {now : Time}
    (h : RunBuilt r importKey identity.sha256 run r') :
    (Proc.service fun registry => Sources.startRun registry run now).wp
      (fun started r'' => RunOpened r importKey started r'' ∧
        RegistersOnly r identity.sha256 r'')
      (fun _ r'' => NothingPublished r r'') r' := by
  apply Proc.wp_service
  · intro r'' started hok
    obtain ⟨-, rfl, rfl⟩ := Sources.startRun_eq_ok_iff.mp hok
    refine ⟨⟨h.sound.saveRun _, h.artifacts, ?_, h.pk, h.importKey, rfl, h.live⟩, h.registers⟩
    show Table.save r'.runs _ = _
    rw [h.runs]
    exact Table.save_append_of_fresh (fun old hold heq => Table.ne_nextPk hold (heq.trans h.pk)) rfl
  · exact fun _ _ => h.nothingPublished

/-- A run that is opened stands last in the registry; otherwise nothing is published. -/
theorem openRun_ends (h : db.registry.Sound)
    (hhex : Sources.isSha256Hex identity.sha256 = true) :
    (openRun setup outage facts identity).wp
      (fun opened db' => SameTables db db' ∧
        RunOpened db.registry (importKeyOf setup facts identity) opened.2 db'.registry ∧
        RegistersOnly db.registry identity.sha256 db'.registry)
      (fun _ db' => SameTables db db' ∧ NothingPublished db.registry db'.registry) db := by
  have hnothing : NothingPublished db.registry db.registry := NothingPublished.refl h
  unfold openRun
  rw [Proc.wp_bind, Proc.wp_get]
  dsimp only
  rw [Proc.wp_bind]
  apply wp_reach _ fun _ => ⟨SameTables.refl db, hnothing⟩
  rw [Proc.wp_bind, wp_onRegistry]
  apply Proc.wp_mono (Proc.wp_and (Core.artifactFor_grows h hhex) (artifactFor_registers hhex _ _))
  · rintro artifact r ⟨⟨hsound, hartifacts, hruns, hsha⟩, hregisters⟩
    have hregistered : NothingPublished db.registry r :=
      ⟨hsound, hartifacts, [], by rw [hruns, List.append_nil], fun _ hrun => (by cases hrun)⟩
    rw [Proc.wp_bind]
    apply wp_reach _ fun _ => ⟨rfl, hregistered⟩
    rw [Proc.wp_bind, wp_onRegistry]
    apply Proc.wp_mono (buildImportRun_builds hsound hartifacts hregisters hruns hsha)
    · intro run r₁ hbuilt
      rw [Proc.wp_bind]
      apply wp_reach _ fun _ => ⟨rfl, hbuilt.nothingPublished⟩
      rw [Proc.wp_bind, wp_onRegistry]
      apply Proc.wp_mono (startRun_starts hbuilt)
      · exact fun started r₂ hstarted => ⟨rfl, hstarted⟩
      · exact fun _ _ hraised => ⟨rfl, hraised⟩
    · exact fun _ _ hraised => ⟨rfl, hraised⟩
  · rintro e r ⟨rfl, -⟩
    exact ⟨rfl, hnothing⟩

/-- Without an outage the run is opened as every feed opens its own. -/
theorem wp_openRun_calm {post : SourceArtifact × ImportRun → VisibilityDb → Prop}
    {raised : VisibilityExn → VisibilityDb → Prop} :
    (openRun setup .calm facts identity).wp post raised db =
      (onRegistry (Core.startRun (Core.digestText setup.digestBytes) facts.source identity
        (Core.findPublishedArtifact db.registry facts.source identity.sha256 facts.importerName).1
        facts.importerName facts.schemaVersion false db.clock)).wp post raised db := by
  unfold openRun Core.startRun Core.openRun
  simp only [reach_calm, Proc.wp_bind, Proc.wp_get, Proc.wp_pure, wp_onRegistry]

/-- Accepted content is opened as a run that can be completed. -/
theorem openRun_opens (h : db.registry.Sound) (hhex : Sources.isSha256Hex identity.sha256 = true)
    (hnames : ImporterNames facts.importerName facts.schemaVersion)
    (haccepted : identityAccepted db.registry facts.source identity = true) :
    (openRun setup .calm facts identity).wp
      (fun opened db' => SameTables db db' ∧ Opened db.registry (importKeyOf setup facts identity)
        db.clock opened.2 db'.registry) (fun _ _ => False) db := by
  have hlength : (importKeyOf setup facts identity).length = 64 := by
    have hkey :=
      setup.digest_hex ((facts.keyText identity.sha256).toList.flatMap String.utf8EncodeChar)
    unfold Sources.isSha256Hex at hkey
    exact of_decide_eq_true (Bool.and_eq_true_iff.mp hkey).1
  rw [wp_openRun_calm, wp_onRegistry]
  apply Proc.wp_mono (Core.startRun_opens h haccepted hhex hnames rfl hlength)
  · exact fun opened r hopened => ⟨rfl, hopened⟩
  · exact fun _ _ hfalse => hfalse

/-- A run is not opened for content that is not accepted. -/
theorem openRun_accepts (hhex : Sources.isSha256Hex identity.sha256 = true) :
    (openRun setup .calm facts identity).wp
      (fun _ _ => identityAccepted db.registry facts.source identity = true)
        (fun _ _ => True) db := by
  rw [wp_openRun_calm, wp_onRegistry]
  cases haccepted : identityAccepted db.registry facts.source identity with
  | true => exact Proc.wp_of_forall (fun _ _ => rfl) fun _ _ => trivial
  | false =>
    apply Proc.wp_mono (Core.startRun_refuses haccepted hhex)
    · exact fun _ _ hfalse => hfalse.elim
    · exact fun _ _ _ => trivial

/-! ## A publication as a whole -/

theorem completeRun_registers {r : Registry} (run : ImportRun) (now : Time)
    (counts : ImportRun.Counts) :
    (Core.completeRun run now counts).wp
      (fun _ r' => r'.artifacts = r.artifacts ∧ CountsFit counts) (fun _ _ => True) r := by
  unfold Core.completeRun
  apply Proc.wp_service
  · intro r' _ hok
    obtain ⟨registry, hcomplete, heq⟩ := map_eq_ok_iff.mp hok
    cases heq
    obtain ⟨-, hclean, rfl⟩ := Sources.completeRun_eq_ok_iff.mp hcomplete
    refine ⟨rfl, ?_⟩
    have hfields := ((ImportRun.fullClean_ok_iff _ _).mp hclean).1
    have hcount (name : String) (value : Nat)
        (hnone : ImportRun.countFieldViolations name value = []) :
        value ≤ ImportRun.maxPositiveInteger := by
      by_contra hlarge
      unfold ImportRun.countFieldViolations at hnone
      rw [if_pos (not_le.mp hlarge)] at hnone
      cases hnone
    unfold ImportRun.fieldViolations at hfields
    simp only [List.append_eq_nil_iff] at hfields
    exact ⟨hcount _ _ hfields.1.1.2, hcount _ _ hfields.1.2, hcount _ _ hfields.2⟩
  · exact fun _ _ => trivial

variable {write : SourceArtifact × ImportRun → VisibilityRun α} {Post : α → VisibilityDb → Prop}

/-- A publication writes everything inside one completed run, or it publishes nothing. -/
theorem publishDaily_ends (h : db.registry.Sound)
    (hhex : Sources.isSha256Hex identity.sha256 = true)
    (hpost : ∀ a db' registry, Post a db' → Post a { db' with registry })
    (hwrite : ∀ opened db₁, SameTables db db₁ → (write opened).wp
      (fun a db₂ => db₂.registry = db₁.registry ∧ Post a db₂) (fun _ _ => True) db₁) :
    (publishDaily setup outage facts errors identity rowsAdded write).wp
      (fun a db' => Post a db' ∧
        RunPublished db.registry (importKeyOf setup facts identity) db'.registry ∧
        RegistersOnly db.registry identity.sha256 db'.registry)
      (fun _ db' => SameTables db db' ∧ NothingPublished db.registry db'.registry) db := by
  unfold publishDaily publishingRun
  rw [Proc.wp_bind]
  apply Proc.wp_mono (openRun_ends h hhex)
  · rintro opened db₁ ⟨hsame, hopened, hregisters⟩
    -- whatever is raised inside, the tables are those from before, and the run is closed or not
    have hfailed (error : VisibilityExn) : (closeRun outage errors opened.2 db₁.clock error).wp
        (fun _ db' => SameTables db db' ∧ NothingPublished db.registry db'.registry)
        (fun _ db' => SameTables db db' ∧ NothingPublished db.registry db'.registry) db₁ := by
      have hleft : SameTables db db₁ ∧ NothingPublished db.registry db₁.registry :=
        ⟨hsame, hopened.nothingPublished⟩
      unfold closeRun
      rw [Proc.wp_ite]
      refine ⟨fun _ => hleft, fun _ => ?_⟩
      rw [Proc.wp_bind]
      apply wp_reach _ fun _ => hleft
      rw [wp_onRegistry]
      apply Proc.wp_mono (hopened.fail errors)
      · exact fun _ r hnothing => ⟨hsame.registry r, hnothing⟩
      · exact fun _ r hnothing => ⟨hsame.registry r, hnothing⟩
    rw [Proc.wp_bind, Proc.wp_get]
    dsimp only
    rw [Proc.wp_onError, Proc.wp_atomically]
    beta_reduce
    rw [Proc.wp_bind]
    apply Proc.wp_mono (hwrite opened db₁ hsame)
    · rintro a db₂ ⟨hregistry, hwritten⟩
      rw [Proc.wp_bind]
      refine wp_reach ?_ fun e => hfailed e
      rw [Proc.wp_bind, wp_onRegistry]
      have hcomplete := Proc.wp_and (hopened.complete ⟨rowsAdded, 0, 0, []⟩)
        (@completeRun_registers db₁.registry opened.2 db₁.clock ⟨rowsAdded, 0, 0, []⟩)
      rw [← hregistry] at hcomplete
      apply Proc.wp_mono hcomplete
      · rintro _ r ⟨hpublished, hartifacts, -⟩
        refine ⟨hpost a db₂ r hwritten, hpublished, fun artifact hin => ?_⟩
        apply hregisters
        rw [← hregistry, ← hartifacts]
        exact hin
      · exact fun e _ _ => hfailed (.registry e)
    · exact fun e _ _ => hfailed e
  · exact fun _ _ hraised => hraised

/-- New content that is accepted and can be written goes through. -/
theorem publishDaily_succeeds (h : db.registry.Sound)
    (hhex : Sources.isSha256Hex identity.sha256 = true)
    (hnames : ImporterNames facts.importerName facts.schemaVersion)
    (haccepted : identityAccepted db.registry facts.source identity = true)
    (hfits : CountsFit ⟨rowsAdded, 0, 0, []⟩)
    (hnew : importedBefore db.registry (importKeyOf setup facts identity) = false)
    (hwrite : ∀ opened db₁, SameTables db db₁ → (write opened).wp
      (fun _ db₂ => db₂.registry = db₁.registry) (fun _ _ => False) db₁) :
    (publishDaily setup .calm facts errors identity rowsAdded write).wp (fun _ _ => True)
      (fun _ _ => False) db := by
  unfold publishDaily publishingRun
  rw [Proc.wp_bind]
  apply Proc.wp_mono (openRun_opens h hhex hnames haccepted)
  · rintro opened db₁ ⟨hsame, hopened⟩
    have hclock : db₁.clock = db.clock := by rw [hsame]
    rw [Proc.wp_bind, Proc.wp_get]
    dsimp only
    rw [Proc.wp_onError, Proc.wp_atomically]
    beta_reduce
    rw [Proc.wp_bind]
    apply Proc.wp_mono (hwrite opened db₁ hsame)
    · intro a db₂ hregistry
      rw [reach_calm, Proc.wp_bind, Proc.wp_pure, Proc.wp_bind, wp_onRegistry, hclock]
      beta_reduce
      rw [hregistry]
      apply Proc.wp_mono (hopened.completes hfits hnew)
      · exact fun _ _ _ => trivial
      · exact fun _ _ hfalse => hfalse.elim
    · exact fun _ _ hfalse => hfalse.elim
  · exact fun _ _ hfalse => hfalse

/-- Only accepted content whose rows can be counted goes through. -/
theorem publishDaily_accepts (hhex : Sources.isSha256Hex identity.sha256 = true) :
    (publishDaily setup .calm facts errors identity rowsAdded write).wp
      (fun _ _ => identityAccepted db.registry facts.source identity = true ∧
        CountsFit ⟨rowsAdded, 0, 0, []⟩)
      (fun _ _ => True) db := by
  unfold publishDaily publishingRun
  rw [Proc.wp_bind]
  apply Proc.wp_mono (openRun_accepts hhex)
  · intro opened db₁ haccepted
    rw [Proc.wp_bind, Proc.wp_get]
    dsimp only
    rw [Proc.wp_onError, Proc.wp_atomically]
    beta_reduce
    rw [Proc.wp_bind]
    have hfailed (error : VisibilityExn) : (closeRun .calm errors opened.2 db₁.clock error).wp
        (fun _ _ => True) (fun _ _ => True) db₁ :=
      Proc.wp_of_forall (fun _ _ => trivial) fun _ _ => trivial
    apply Proc.wp_of_forall
    · intro a db₂
      rw [reach_calm, Proc.wp_bind, Proc.wp_pure, Proc.wp_bind, wp_onRegistry]
      apply Proc.wp_mono (completeRun_registers opened.2 db₁.clock ⟨rowsAdded, 0, 0, []⟩)
      · exact fun _ _ hdone => ⟨haccepted, hdone.2⟩
      · exact fun e _ _ => hfailed (.registry e)
    · exact fun e _ => hfailed e
  · exact fun _ _ _ => trivial

end Ends

end Dashkoda.Visibility
