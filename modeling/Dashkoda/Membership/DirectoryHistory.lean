import Dashkoda.Lib.Runs
import Dashkoda.Membership.DirectoryRegister

/-!
# The directory after any history of runs

What is published is what the last run that went through had collected, and nothing that was once
known is forgotten.
-/

open Lib
open Lib.CarryForward (lasting showing)

namespace Dashkoda.Membership

open Core (FeedExn FeedResult)
open Sources (Exn ImportRun Registry Time)

inductive DirectoryAction
  | synchronize (request : DirectoryRequest)
  | elapse (duration : Nat)

def directoryStep (setup : DirectorySetup) (db : DirectoryDb) : DirectoryAction → DirectoryDb
  | .synchronize request => (synchronizeMemberDirectory setup request db).2
  | .elapse duration => { db with clock := db.clock + duration }

def directoryAfter (setup : DirectorySetup) (history : List DirectoryAction) : DirectoryDb :=
  run (directoryStep setup) DirectoryDb.empty history

/-! ## What a run applies -/

section Applied

variable (setup : DirectorySetup)

/-- What the collector brings back for the validators that are sent. -/
def DirectoryRequest.collected (request : DirectoryRequest) (db : DirectoryDb) :
    Option DirectoryCollection :=
  let conditional := publishedCount setup db ≠ 0
  match request.collector (if conditional then db.state.remoteEtag else "")
      (if conditional then db.state.remoteLastModified else "") with
  | .ok (some collection) => some collection
  | _ => none

/-- A live run that ends without failure has applied what it collected. -/
def DirectoryRequest.appliedBy (request : DirectoryRequest) (db : DirectoryDb)
    (outcome : DirectoryOutcome) : Option DirectoryCollection :=
  if outcome.result = .failed ∨ request.dryRun = true then none else request.collected setup db

/-- The set a run applies: none if it fails, raises, is dry or is answered that nothing changed. -/
def DirectoryRequest.applied (request : DirectoryRequest) (db : DirectoryDb) :
    Option DirectoryCollection :=
  match (synchronizeMemberDirectory setup request db).1 with
  | .ok outcome => request.appliedBy setup db outcome
  | .error _ => none

/-- The directory together with the rows of the set that was last collected. -/
structure WatchedDirectory where
  db : DirectoryDb
  lastCollected : List DirectoryRow

def watchStep (watched : WatchedDirectory) (action : DirectoryAction) : WatchedDirectory where
  db := directoryStep setup watched.db action
  lastCollected :=
    match action with
    | .synchronize request =>
      ((request.applied setup watched.db).map DirectoryCollection.rows).getD watched.lastCollected
    | .elapse _ => watched.lastCollected

def watchedAfter (history : List DirectoryAction) : WatchedDirectory :=
  run (watchStep setup) ⟨DirectoryDb.empty, []⟩ history

/-- The rows of the set that was last collected; before the first one no code is published. -/
def lastCollected (history : List DirectoryAction) : List DirectoryRow :=
  (watchedAfter setup history).lastCollected

theorem watchedAfter_db (history : List DirectoryAction) :
    (watchedAfter setup history).db = directoryAfter setup history := by
  unfold watchedAfter directoryAfter
  generalize ([] : List DirectoryRow) = rows
  generalize DirectoryDb.empty = db
  induction history generalizing db rows with
  | nil => rfl
  | cons action rest ih => exact ih _ _

end Applied

/-! ## How a run leaves the rows -/

/-- The rows and the clock are as they were. -/
def SameEntries (db db' : DirectoryDb) : Prop := db'.entries = db.entries ∧ db'.clock = db.clock

/-- The rows are those of a reconciliation with the set. -/
def ReconciledWith (setup : DirectorySetup) (collection : DirectoryCollection)
    (db db' : DirectoryDb) :
    Prop :=
  (∃ reconciliation, reconcileEntries setup.source db.clock collection.rows db.entries =
    .ok (db'.entries, reconciliation)) ∧ db'.clock = db.clock

/-- What a run leaves, by the set it applies. -/
def AppliedTo (setup : DirectorySetup) (db : DirectoryDb) (db' : DirectoryDb) :
    Option DirectoryCollection → Prop
  | none => SameEntries db db'
  | some collection => ReconciledWith setup collection db db'

section Runs

variable {setup : DirectorySetup} {db db' : DirectoryDb} {collection : DirectoryCollection}
  {request : DirectoryRequest}

theorem SameEntries.refl (db : DirectoryDb) : SameEntries db db := ⟨rfl, rfl⟩

/-- A call on the registry does not touch the rows. -/
theorem onDirectoryRegistry_same {α : Type} (call : Proc Exn Registry α) (h : SameEntries db db') :
    (onDirectoryRegistry call).wp (fun _ db₂ => SameEntries db db₂)
      (fun _ db₂ => SameEntries db db₂)
      db' := by
  unfold onDirectoryRegistry
  rw [Proc.wp_onPart]
  exact Proc.wp_of_forall (fun _ _ => h) fun _ _ => h

theorem wp_modifyDirectoryState {f : Core.RemoteFeedState → Core.RemoteFeedState}
    {post : Unit → DirectoryDb → Prop} {raised : FeedExn → DirectoryDb → Prop} :
    (modifyDirectoryState f).wp post raised = fun db =>
      post () { db with state := f db.state } := rfl

theorem wp_attempt {α : Type} {call : DirectoryProc α}
    {post : Except FeedExn α → DirectoryDb → Prop}
    {raised : FeedExn → DirectoryDb → Prop} :
    (attempt call).wp post raised =
      call.wp (fun a => post (.ok a)) (fun error => post (.error error)) := by
  unfold attempt
  rw [Proc.wp_tryCatch, Proc.wp_map]
  rfl

theorem recordDirectoryFailure_fails (message : String) (h : SameEntries db db') :
    (recordDirectoryFailure message).wp
      (fun outcome db₂ => outcome.result = .failed ∧ SameEntries db db₂)
      (fun _ _ => False) db' := by
  unfold recordDirectoryFailure
  rw [Proc.wp_bind, wp_modifyDirectoryState, Proc.wp_pure]
  exact ⟨rfl, h⟩

theorem recordDirectoryUnchanged_ends (validators : Option (String × String)) (dryRun : Bool) :
    (recordDirectoryUnchanged setup validators dryRun).wp
      (fun outcome db₂ => outcome.result = .unchanged ∧ SameEntries db db₂)
        (fun _ _ => False) db := by
  unfold recordDirectoryUnchanged
  rw [Proc.wp_bind, Proc.wp_get]
  dsimp only
  cases dryRun with
  | true => exact ⟨rfl, rfl, rfl⟩
  | false => exact ⟨rfl, rfl, rfl⟩

theorem reconcile_reconciles (h : SameEntries db db') :
    (reconcile setup collection).wp (fun _ db₂ => ReconciledWith setup collection db db₂)
      (fun _ db₂ => SameEntries db db₂) db' := by
  unfold reconcile
  apply Proc.wp_service
  · intro db₂ reconciliation hok
    obtain ⟨reconciled, hreconciled, heq⟩ := map_eq_ok_iff.mp hok
    cases heq
    rw [h.1, h.2] at hreconciled
    exact ⟨⟨reconciled.2, hreconciled⟩, h.2⟩
  · exact fun _ _ => h

/-- How a live run ends that has a plausible set: with the set applied, or failed. -/
def EndsApplied (setup : DirectorySetup) (collection : DirectoryCollection) (db : DirectoryDb)
    (outcome : DirectoryOutcome) (db' : DirectoryDb) : Prop :=
  if outcome.result = .failed then SameEntries db db' else ReconciledWith setup collection db db'

theorem recordDirectoryFailure_ends (message : String) (h : SameEntries db db') :
    (recordDirectoryFailure message).wp (EndsApplied setup collection db)
      (fun _ db₂ => SameEntries db db₂) db' :=
  Proc.wp_mono (recordDirectoryFailure_fails message h)
    (fun _ _ hfailed => (if_pos hfailed.1).mpr hfailed.2) fun _ _ hfalse => hfalse.elim

theorem repeatDirectory_ends (h : SameEntries db db') :
    (repeatDirectory setup collection).wp (EndsApplied setup collection db)
      (fun _ db₂ => SameEntries db db₂) db' := by
  unfold repeatDirectory
  rw [Proc.wp_bind, wp_attempt, Proc.wp_atomically]
  apply Proc.wp_mono (reconcile_reconciles h)
  · intro reconciliation db₁ hreconciled
    dsimp only
    rw [Proc.wp_bind]
    apply Proc.wp_mono (@recordDirectoryUnchanged_ends setup db₁ _ _)
    · rintro outcome db₂ ⟨hunchanged, hsame⟩
      rw [Proc.wp_pure]
      refine (if_neg ?_).mpr ⟨?_, hsame.2.trans hreconciled.2⟩
      · dsimp only
        rw [hunchanged]
        exact fun hfailed => by cases hfailed
      · rw [hsame.1]
        exact hreconciled.1
    · exact fun _ _ hfalse => hfalse.elim
  · exact fun error _ _ => recordDirectoryFailure_ends _ h

theorem publishDirectory_reconciles (run : ImportRun) (h : SameEntries db db') :
    (publishDirectory setup collection run).wp (fun _ db₂ => ReconciledWith setup collection db db₂)
      (fun _ _ => True) db' := by
  unfold publishDirectory
  rw [Proc.wp_bind, Proc.wp_get]
  dsimp only
  rw [Proc.wp_bind]
  apply Proc.wp_mono (reconcile_reconciles h)
  · intro reconciliation db₁ hreconciled
    rw [Proc.wp_bind]
    apply Proc.wp_mono (onDirectoryRegistry_same _ (SameEntries.refl db₁))
    · rintro _ db₂ hsame
      rw [Proc.wp_pure]
      unfold ReconciledWith
      rw [hsame.1, hsame.2]
      exact hreconciled
    · exact fun _ _ _ => trivial
  · exact fun _ _ _ => trivial

theorem importDirectory_ends (found : Option Sources.SourceArtifact) (h : SameEntries db db') :
    (importDirectory setup collection found).wp (EndsApplied setup collection db)
      (fun _ db₂ => SameEntries db db₂) db' := by
  unfold importDirectory
  rw [Proc.wp_bind, Proc.wp_get]
  dsimp only
  rw [Proc.wp_bind, wp_attempt]
  apply Proc.wp_mono (onDirectoryRegistry_same _ h)
  · intro opened db₁ hsame
    dsimp only
    rw [Proc.wp_bind, wp_attempt, Proc.wp_atomically]
    apply Proc.wp_mono (publishDirectory_reconciles opened.2 hsame)
    · intro reconciliation db₂ hreconciled
      dsimp only
      rw [Proc.wp_bind, wp_modifyDirectoryState, Proc.wp_pure]
      exact (if_neg fun hfailed => by cases hfailed).mpr hreconciled
    · -- the transaction is rolled back
      intro error _ _
      dsimp only
      rw [Proc.wp_bind]
      apply Proc.wp_mono (onDirectoryRegistry_same _ hsame)
      · exact fun _ _ hfailed => recordDirectoryFailure_ends _ hfailed
      · exact fun _ _ hfailed => hfailed
  · exact fun error _ hsame => recordDirectoryFailure_ends _ hsame

theorem synchronizeCollection_ends (dryRun : Bool) (h : SameEntries db db') :
    (synchronizeCollection setup collection dryRun).wp
      (fun outcome db₂ => if dryRun then SameEntries db db₂ else
        EndsApplied setup collection db outcome db₂)
      (fun _ db₂ => SameEntries db db₂) db' := by
  unfold synchronizeCollection
  rw [Proc.wp_bind, Proc.wp_get]
  dsimp only
  split
  · apply Proc.wp_mono (recordDirectoryFailure_fails _ h)
    · intro outcome db₂ hfailed
      cases dryRun with
      | true => exact hfailed.2
      | false => exact (if_pos hfailed.1).mpr hfailed.2
    · exact fun _ _ hfalse => hfalse.elim
  · cases dryRun with
    | true => exact h
    | false =>
      rw [if_neg Bool.false_ne_true]
      split
      · exact repeatDirectory_ends h
      · exact importDirectory_ends _ h

/-- A run applies the set it says, or leaves the rows alone. -/
theorem synchronizeMemberDirectory_ends (setup : DirectorySetup) (request : DirectoryRequest)
    (db : DirectoryDb) : (synchronizeMemberDirectory setup request db).2.clock = db.clock ∧
      AppliedTo setup db (synchronizeMemberDirectory setup request db).2
        (request.applied setup db) := by
  have hends : (synchronizeMemberDirectory setup request).wp
      (fun outcome db' => AppliedTo setup db db' (request.appliedBy setup db outcome))
      (fun _ db' => SameEntries db db') db := by
    unfold synchronizeMemberDirectory
    rw [Proc.wp_bind, Proc.wp_get]
    dsimp only
    rw [Proc.wp_bind, wp_modifyDirectoryState]
    have hsame : SameEntries db { db with state := db.state.touchChecked db.clock } := ⟨rfl, rfl⟩
    unfold DirectoryRequest.appliedBy DirectoryRequest.collected
    dsimp only
    split
    · rename_i failure hfailure
      apply Proc.wp_mono (recordDirectoryFailure_fails _ hsame)
      · intro outcome db' hfailed
        rw [if_pos (Or.inl hfailed.1)]
        exact hfailed.2
      · exact fun _ _ hfalse => hfalse.elim
    · -- the answer that nothing changed brings no set
      rename_i hanswer
      apply Proc.wp_mono (@recordDirectoryUnchanged_ends setup _ _ _)
      · intro outcome db' hunchanged
        rw [hanswer, ite_self]
        exact ⟨hunchanged.2.1, hunchanged.2.2⟩
      · exact fun _ _ hfalse => hfalse.elim
    · rename_i collection hanswer
      apply Proc.wp_mono (synchronizeCollection_ends request.dryRun hsame)
      · intro outcome db' hcollected
        rw [hanswer]
        cases hdry : request.dryRun with
        | true =>
          rw [hdry] at hcollected
          rw [if_pos (Or.inr rfl)]
          exact hcollected
        | false =>
          rw [hdry, if_neg Bool.false_ne_true] at hcollected
          unfold EndsApplied at hcollected
          by_cases hfailed : outcome.result = .failed
          · rw [if_pos (Or.inl hfailed)]
            exact (if_pos hfailed).mp hcollected
          · rw [if_neg (by rintro (h | h); exacts [hfailed h, Bool.false_ne_true h])]
            exact (if_neg hfailed).mp hcollected
      · exact fun _ _ hsame => hsame
  unfold DirectoryRequest.applied
  unfold Proc.wp at hends
  cases hrun : synchronizeMemberDirectory setup request db with
  | mk answer db' =>
    rw [hrun] at hends
    cases answer with
    | error error => exact ⟨hends.2, hends⟩
    | ok outcome =>
      refine ⟨?_, hends⟩
      dsimp only at hends
      cases happlied : request.appliedBy setup db outcome with
      | none =>
        rw [happlied] at hends
        exact hends.2
      | some collection =>
        rw [happlied] at hends
        exact hends.2

end Runs

/-! ## What a reconciliation keeps -/

structure MemberDirectoryEntry.KeptAs (entry later : MemberDirectoryEntry) : Prop where
  pk : later.pk = entry.pk
  source : later.source = entry.source
  registryCode : later.registryCode = entry.registryCode
  firstSeenAt : later.firstSeenAt = entry.firstSeenAt
  lastSeenAt : entry.lastSeenAt ≤ later.lastSeenAt

theorem MemberDirectoryEntry.KeptAs.refl (entry : MemberDirectoryEntry) : entry.KeptAs entry :=
  ⟨rfl, rfl, rfl, rfl, le_refl _⟩

theorem MemberDirectoryEntry.KeptAs.trans {entry later last : MemberDirectoryEntry}
    (h : entry.KeptAs later) (h' : later.KeptAs last) : entry.KeptAs last :=
  ⟨h'.pk.trans h.pk, h'.source.trans h.source, h'.registryCode.trans h.registryCode,
    h'.firstSeenAt.trans h.firstSeenAt, h.lastSeenAt.trans h'.lastSeenAt⟩

section Rows

variable {source : Nat} {now : Time} {rows : List DirectoryRow}
  {entries : List MemberDirectoryEntry}
  {entry : MemberDirectoryEntry} {observed : Dict String String}

theorem carryRow_seen (h : entry.lastSeenAt ≤ now) :
    (carryRow source now observed entry).lastSeenAt ≤ now := by
  unfold carryRow MemberDirectoryEntry.carried
  split
  · split
    · exact le_refl now
    · split
      · exact h
      · exact h
  · exact h

theorem carryRow_keptAs (h : entry.lastSeenAt ≤ now) :
    entry.KeptAs (carryRow source now observed entry) :=
  ⟨carryRow_identity.1, carryRow_identity.2.1, carryRow_identity.2.2.1, carryRow_identity.2.2.2,
    carryRow_lastSeen h⟩

theorem registerOf_of_mem (h : DirectorySound entries) (hentry : entry ∈ entries)
    (hsource : entry.source = source) :
    registerOf source entries entry.registryCode = some entry.sighting := by
  unfold registerOf
  cases hfound : entries.find? fun other =>
      other.source = source && other.registryCode = entry.registryCode with
  | none => exact absurd ⟨hsource, rfl⟩ (found_no_code.mp hfound entry hentry)
  | some other =>
    obtain ⟨hother, hsame, hcode⟩ := found_code hfound
    rw [List.inj_on_of_nodup_map h.codes hother hentry
      (Prod.ext (hsame.trans hsource.symm) hcode)]
    rfl

/-- The rows of the published codes, seen once more. -/
def seenAgain (source : Nat) (now : Time) (entry : MemberDirectoryEntry) : MemberDirectoryEntry :=
  if entry.source = source ∧ entry.isPublished = true then
    { entry with lastSeenAt := now } else entry

/-- Reconciling with what the rows show already only notes when it was seen. -/
theorem reconciled_again (h : DirectorySound entries)
    (hshows : ∀ code, showing (registerOf source entries code) = (observedPaths rows).get? code) :
    entries.map (carryRow source now (observedPaths rows)) ++ newEntries source now rows entries =
      entries.map (seenAgain source now) := by
  have hnone : newEntries source now rows entries = [] := by
    rw [List.eq_nil_iff_forall_not_mem]
    intro entry hentry
    obtain ⟨_, path, -, hobserved, hunknown⟩ := mem_newEntries hentry
    have hshown := (hshows entry.registryCode).trans hobserved
    unfold registerOf at hshown
    rw [found_no_code.mpr] at hshown
    · cases hshown
    · intro old hold hsame
      rw [(get?_existingEntries h).mpr ⟨hold, hsame⟩] at hunknown
      cases hunknown
  rw [hnone, List.append_nil]
  refine List.map_congr_left fun entry hentry => ?_
  unfold carryRow seenAgain
  by_cases hsource : entry.source = source
  · have hshown := hshows entry.registryCode
    rw [registerOf_of_mem h hentry hsource] at hshown
    have hflags := h.flags entry hentry
    rw [if_pos hsource, ← hshown]
    cases hgone : entry.unpublishedAt with
    | none =>
      rw [hgone, Option.isNone_none] at hflags
      rw [if_pos ⟨hsource, hflags⟩]
      simp [showing, MemberDirectoryEntry.sighting, MemberDirectoryEntry.carried,
        MemberDirectoryEntry.refreshed, hgone, hflags]
    | some moment =>
      rw [hgone, Option.isNone_some] at hflags
      rw [if_neg fun hpublished => Bool.false_ne_true (hflags.symm.trans hpublished.2)]
      simp [showing, MemberDirectoryEntry.sighting, MemberDirectoryEntry.carried, hgone, hflags]
  · rw [if_neg hsource, if_neg fun hboth => hsource hboth.1]

end Rows

/-! ## What every history keeps -/

/-- The rows show the set that was last collected, and none was last seen later than now. -/
structure WatchedDirectory.Sound (setup : DirectorySetup) (watched : WatchedDirectory) : Prop where
  rows : DirectorySound watched.db.entries
  shows : ∀ code, showing (registerOf setup.source watched.db.entries code) =
    (observedPaths watched.lastCollected).get? code
  seen : ∀ entry ∈ watched.db.entries, entry.lastSeenAt ≤ watched.db.clock

section Histories

variable {setup : DirectorySetup} {watched : WatchedDirectory} {history : List DirectoryAction}

theorem ReconciledWith.rows {collection : DirectoryCollection} {db db' : DirectoryDb}
    (h : ReconciledWith setup collection db db') (hrows : DirectorySound db.entries) :
    db'.entries = db.entries.map (carryRow setup.source db.clock (observedPaths collection.rows)) ++
      newEntries setup.source db.clock collection.rows db.entries ∧ DirectorySound db'.entries := by
  obtain ⟨⟨_, hok⟩, -⟩ := h
  exact reconcileEntries_eq_ok hrows hok

/-- One step keeps the rows in line, and keeps a later version of every row. -/
theorem watchStep_sound (h : watched.Sound setup) (action : DirectoryAction) :
    (watchStep setup watched action).Sound setup ∧ ∀ entry ∈ watched.db.entries,
      ∃ later ∈ (watchStep setup watched action).db.entries, entry.KeptAs later := by
  cases action with
  | elapse duration =>
    refine ⟨⟨h.rows, h.shows, fun entry hentry => ?_⟩, fun entry hentry =>
      ⟨entry, hentry, .refl entry⟩⟩
    exact (h.seen entry hentry).trans (Nat.le_add_right _ _)
  | synchronize request =>
    obtain ⟨hclock, happlied⟩ := synchronizeMemberDirectory_ends setup request watched.db
    unfold watchStep directoryStep
    dsimp only
    cases hset : request.applied setup watched.db with
    | none =>
      rw [hset] at happlied
      refine ⟨⟨?_, ?_, ?_⟩, ?_⟩
      · rw [happlied.1]
        exact h.rows
      · rw [happlied.1]
        exact h.shows
      · rw [happlied.1, hclock]
        exact h.seen
      · rw [happlied.1]
        exact fun entry hentry => ⟨entry, hentry, .refl entry⟩
    | some collection =>
      rw [hset] at happlied
      obtain ⟨hentries, hrows⟩ := ReconciledWith.rows happlied h.rows
      refine ⟨⟨hrows, fun code => ?_, fun entry hentry => ?_⟩, fun entry hentry => ?_⟩
      · rw [hentries, registerOf_reconciled h.rows code, CarryForward.showing_observe]
        rfl
      · rw [hclock]
        rw [hentries] at hentry
        cases List.mem_append.mp hentry with
        | inl hold =>
          obtain ⟨old, hin, rfl⟩ := List.mem_map.mp hold
          exact carryRow_seen (h.seen old hin)
        | inr hnew =>
          obtain ⟨_, _, heq, -⟩ := mem_newEntries hnew
          rw [heq]
          exact le_refl _
      · rw [hentries]
        exact ⟨_, List.mem_append_left _ (List.mem_map_of_mem hentry),
          carryRow_keptAs (h.seen entry hentry)⟩

theorem watchedAfter_sound (setup : DirectorySetup) (history : List DirectoryAction) :
    (watchedAfter setup history).Sound setup := by
  have hstart : WatchedDirectory.Sound setup ⟨DirectoryDb.empty, []⟩ := by
    refine ⟨⟨List.nodup_nil, List.nodup_nil, ?_, ?_⟩, fun _ => rfl, ?_⟩
    all_goals exact fun _ hentry => (by cases hentry)
  exact @run_keeps _ _ (watchStep setup) (WatchedDirectory.Sound setup)
    (fun _ action h => (watchStep_sound h action).1) history _ hstart

/-- No row is ever lost. -/
theorem rows_kept (setup : DirectorySetup) (history more : List DirectoryAction) :
    ∀ entry ∈ (directoryAfter setup history).entries,
      ∃ later ∈ (directoryAfter setup (history ++ more)).entries, entry.KeptAs later := by
  rw [← watchedAfter_db, ← watchedAfter_db]
  unfold watchedAfter
  rw [run_append]
  have hstart := watchedAfter_sound setup history
  unfold watchedAfter at hstart
  generalize run (watchStep setup) ⟨DirectoryDb.empty, []⟩ history = watched at hstart
  induction more generalizing watched with
  | nil => exact fun entry hentry => ⟨entry, hentry, .refl entry⟩
  | cons action rest ih =>
    obtain ⟨hsound, hkept⟩ := watchStep_sound hstart action
    intro entry hentry
    obtain ⟨later, hlater, hfirst⟩ := hkept entry hentry
    obtain ⟨last, hlast, hrest⟩ := ih _ hsound later hlater
    exact ⟨last, hlast, hfirst.trans hrest⟩

/-! ## Runs that go through -/

theorem keeps_onDirectoryRegistry {α : Type} {call : Proc Exn Registry α}
    (h : Proc.Keeps Registry.Sound call) :
    Proc.Keeps (fun db : DirectoryDb => db.registry.Sound) (onDirectoryRegistry call) := by
  intro db hdb
  unfold onDirectoryRegistry
  rw [Proc.wp_onPart]
  exact Proc.wp_mono (h _ hdb) (fun _ _ hsound => hsound) fun _ _ hsound => hsound

theorem keeps_reconcile (collection : DirectoryCollection) :
    Proc.Keeps (fun db : DirectoryDb => db.registry.Sound) (reconcile setup collection) := by
  intro db hdb
  unfold reconcile
  apply Proc.wp_service
  · intro db' _ hok
    obtain ⟨_, -, heq⟩ := map_eq_ok_iff.mp hok
    cases heq
    exact hdb
  · exact fun _ _ => hdb

theorem keeps_modifyDirectoryState (f : Core.RemoteFeedState → Core.RemoteFeedState) :
    Proc.Keeps (fun db : DirectoryDb => db.registry.Sound) (modifyDirectoryState f) :=
  Proc.keeps_modify fun _ h => h

theorem keeps_attempt {α : Type} {call : DirectoryProc α}
    (h : Proc.Keeps (fun db : DirectoryDb => db.registry.Sound) call) :
    Proc.Keeps (fun db : DirectoryDb => db.registry.Sound) (attempt call) :=
  Proc.keeps_tryCatch (Proc.keeps_map _ h) fun _ => Proc.keeps_pure _

theorem keeps_recordDirectoryFailure (message : String) :
    Proc.Keeps (fun db : DirectoryDb => db.registry.Sound) (recordDirectoryFailure message) :=
  Proc.keeps_bind (keeps_modifyDirectoryState _) fun _ => Proc.keeps_pure _

theorem keeps_recordDirectoryUnchanged (validators : Option (String × String)) (dryRun : Bool) :
    Proc.Keeps (fun db : DirectoryDb => db.registry.Sound)
      (recordDirectoryUnchanged setup validators dryRun) := by
  refine Proc.keeps_bind Proc.keeps_get fun db => ?_
  cases dryRun with
  | true => exact Proc.keeps_pure _
  | false => exact Proc.keeps_bind (keeps_modifyDirectoryState _) fun _ => Proc.keeps_pure _

theorem keeps_synchronizeMemberDirectory (request : DirectoryRequest) :
    Proc.Keeps (fun db : DirectoryDb => db.registry.Sound)
      (synchronizeMemberDirectory setup request) := by
  unfold synchronizeMemberDirectory
  refine Proc.keeps_bind Proc.keeps_get fun db =>
    Proc.keeps_bind (keeps_modifyDirectoryState _) fun _ => ?_
  dsimp only
  split
  · exact keeps_recordDirectoryFailure _
  · exact keeps_recordDirectoryUnchanged _ _
  · rename_i collection _
    unfold synchronizeCollection
    refine Proc.keeps_bind Proc.keeps_get fun db => ?_
    dsimp only
    split
    · exact keeps_recordDirectoryFailure _
    · refine Proc.keeps_ite (Proc.keeps_pure _) (Proc.keeps_ite ?_ ?_)
      · refine Proc.keeps_bind (keeps_attempt (Proc.keeps_atomically (keeps_reconcile _)))
          fun answer => ?_
        cases answer with
        | error error => exact keeps_recordDirectoryFailure _
        | ok _ =>
          exact Proc.keeps_bind (keeps_recordDirectoryUnchanged _ _) fun _ => Proc.keeps_pure _
      · refine Proc.keeps_bind Proc.keeps_get fun db => Proc.keeps_bind (keeps_attempt
          (keeps_onDirectoryRegistry fun _ hsound => Core.startRun_sound hsound _)) fun answer => ?_
        cases answer with
        | error error => exact keeps_recordDirectoryFailure _
        | ok opened =>
          refine Proc.keeps_bind
            (keeps_attempt (Proc.keeps_atomically (Proc.keeps_bind Proc.keeps_get
            fun _ => Proc.keeps_bind (keeps_reconcile _) fun _ => Proc.keeps_bind
              (keeps_onDirectoryRegistry fun _ hsound => Core.completeRun_sound hsound _ _)
              fun _ => Proc.keeps_pure _))) fun answer => ?_
          cases answer with
          | error error =>
            exact Proc.keeps_bind (keeps_onDirectoryRegistry fun _ hsound =>
              Core.failPublication_sound hsound _ _) fun _ => keeps_recordDirectoryFailure _
          | ok _ => exact Proc.keeps_bind (keeps_modifyDirectoryState _) fun _ => Proc.keeps_pure _

theorem directoryAfter_registry (setup : DirectorySetup) (history : List DirectoryAction) :
    (directoryAfter setup history).registry.Sound := by
  refine @run_keeps _ _ (directoryStep setup) (fun db => db.registry.Sound) (fun db action h => ?_)
    history _ ⟨List.nodup_nil, List.nodup_nil⟩
  cases action with
  | synchronize request => exact (keeps_synchronizeMemberDirectory request db h).left
  | elapse duration => exact h

/-- The import key of a set. -/
def directoryKey (setup : DirectorySetup) (collection : DirectoryCollection) : String :=
  Core.digestText setup.digestBytes (Sources.importKeyText DIRECTORY_IMPORTER_NAME
    DIRECTORY_SCHEMA_VERSION (collection.identity setup).sha256)

/-- Nothing keeps a set from being applied: its size is plausible, its texts can be stored, and it
was published before or can be registered and published as a new one. -/
structure Applicable (setup : DirectorySetup) (db : DirectoryDb)
    (collection : DirectoryCollection) :
    Prop where
  acceptable : Feeds.Membership.implausibleChange
    (if publishedCount setup db = 0 then none else some (publishedCount setup db))
    collection.totalRows = none
  storable : collection.Storable
  importable :
      (Core.findPublishedArtifact db.registry setup.source (collection.identity setup).sha256
      DIRECTORY_IMPORTER_NAME).2 = true ∨
    Core.identityAccepted db.registry setup.source (collection.identity setup) = true ∧
      collection.totalRows ≤ ImportRun.maxPositiveInteger ∧
      Core.importedBefore db.registry (directoryKey setup collection) = false

theorem directory_names : Core.ImporterNames DIRECTORY_IMPORTER_NAME DIRECTORY_SCHEMA_VERSION :=
  ⟨by decide, by decide, by decide, by decide⟩

section Counts

variable {source : Nat} {now : Time} {existing : Dict String MemberDirectoryEntry}
  {observed : Dict String String}

theorem foldl_observeCode_counts (items : List (String × String)) (work : DirectoryWork) :
    (items.foldl (observeCode now existing) work).result.seen = work.result.seen ∧
      (items.foldl (observeCode now existing) work).result.added ≤
        work.result.added + items.length := by
  induction items generalizing work with
  | nil => exact ⟨rfl, le_refl _⟩
  | cons item rest ih =>
    obtain ⟨hseen, hadded⟩ := ih (observeCode now existing work item)
    have hstep : (observeCode now existing work item).result.seen = work.result.seen ∧
        (observeCode now existing work item).result.added ≤ work.result.added + 1 := by
      unfold observeCode
      split
      · exact ⟨rfl, le_refl _⟩
      · exact ⟨rfl, Nat.le_succ _⟩
    rw [List.foldl_cons, List.length_cons]
    exact ⟨hseen.trans hstep.1, by omega⟩

theorem foldl_retireCode_counts (items : List (String × MemberDirectoryEntry))
    (work : DirectoryWork) :
    (items.foldl (retireCode now observed) work).result.seen = work.result.seen ∧
      (items.foldl (retireCode now observed) work).result.added = work.result.added := by
  induction items generalizing work with
  | nil => exact ⟨rfl, rfl⟩
  | cons item rest ih =>
    obtain ⟨hseen, hadded⟩ := ih (retireCode now observed work item)
    rw [List.foldl_cons, hseen, hadded]
    unfold retireCode
    split
    · exact ⟨rfl, rfl⟩
    · exact ⟨rfl, rfl⟩

/-- Every row is counted as seen, and no more codes are new than there are rows. -/
theorem reconcileWork_counts (rows : List DirectoryRow) (entries : List MemberDirectoryEntry) :
    (reconcileWork source now rows entries).result.seen = rows.length ∧
      (reconcileWork source now rows entries).result.added ≤ rows.length := by
  have hlength : (observedPaths rows).entries.length ≤ rows.length := by
    have hkeys : (observedPaths rows).keys.Nodup := (observedPaths rows).keys_nodup
    have hsub : (observedPaths rows).keys ⊆ rows.map (·.registryCode) := by
      intro code hcode
      obtain ⟨path, hpath⟩ := Dict.mem_keys.mp hcode
      obtain ⟨row, hrow, hsame, -⟩ := exists_row_of_observedPaths (Dict.get?_eq_some_iff.mpr hpath)
      exact List.mem_map.mpr ⟨row, hrow, hsame⟩
    have hle := (List.subperm_of_subset hkeys hsub).length_le
    rw [List.length_map] at hle
    rwa [Dict.keys, List.length_map] at hle
  unfold reconcileWork
  dsimp only
  obtain ⟨hseen, hadded⟩ := @foldl_retireCode_counts now (observedPaths rows)
    (existingEntries source entries).entries ((observedPaths rows).entries.foldl
      (observeCode now (existingEntries source entries)) ⟨[], [], ⟨0, 0, 0, 0, rows.length⟩⟩)
  obtain ⟨hseen', hadded'⟩ := @foldl_observeCode_counts now (existingEntries source entries)
    (observedPaths rows).entries ⟨[], [], ⟨0, 0, 0, 0, rows.length⟩⟩
  dsimp only at hseen' hadded'
  rw [hseen, hseen', hadded]
  exact ⟨rfl, by omega⟩

end Counts

section Applicable

variable {db db' : DirectoryDb} {collection : DirectoryCollection}

/-- A set whose texts can be stored is reconciled, and its counts fit. -/
theorem reconcile_returns (hrows : DirectorySound db'.entries) (hstorable : collection.Storable) :
    (reconcile setup collection).wp (fun reconciliation db₂ => db₂.registry = db'.registry ∧
      reconciliation.seen = collection.totalRows ∧ reconciliation.added ≤ collection.totalRows)
      (fun _ _ => False) db' := by
  obtain ⟨reconciled, hok⟩ :=
    @exists_reconcileEntries setup.source db'.clock collection.rows _ hrows
    hstorable
  have hmap : (reconcileEntries setup.source db'.clock collection.rows db'.entries).map
      (fun reconciled => ({ db' with entries := reconciled.1 }, reconciled.2)) =
        .ok ({ db' with entries := reconciled.1 }, reconciled.2) := map_eq_ok_iff.mpr ⟨_, hok, rfl⟩
  unfold reconcile
  apply Proc.wp_service_ok hmap
  obtain ⟨_, -, rfl⟩ := map_eq_ok_iff.mp hok
  exact ⟨rfl, reconcileWork_counts _ _⟩

theorem repeatDirectory_returns (hrows : DirectorySound db'.entries)
    (hstorable : collection.Storable) :
    (repeatDirectory setup collection).wp (fun outcome _ => outcome.result ≠ .failed)
      (fun _ _ => False) db' := by
  unfold repeatDirectory
  rw [Proc.wp_bind, wp_attempt, Proc.wp_atomically]
  apply Proc.wp_mono (reconcile_returns hrows hstorable)
  · intro reconciliation db₁ _
    dsimp only
    rw [Proc.wp_bind]
    apply Proc.wp_mono (@recordDirectoryUnchanged_ends setup db₁ _ _)
    · rintro outcome db₂ ⟨hunchanged, -⟩
      rw [Proc.wp_pure]
      dsimp only
      rw [hunchanged]
      exact fun hfailed => by cases hfailed
    · exact fun _ _ hfalse => hfalse.elim
  · exact fun _ _ hfalse => hfalse.elim

theorem importDirectory_returns (hrows : DirectorySound db'.entries)
    (hregistry : db'.registry.Sound) (hstorable : collection.Storable)
    (haccepted : Core.identityAccepted db'.registry setup.source (collection.identity setup) = true)
    (hcount : collection.totalRows ≤ ImportRun.maxPositiveInteger)
    (hnew : Core.importedBefore db'.registry (directoryKey setup collection) = false) :
    (importDirectory setup collection (Core.findPublishedArtifact db'.registry setup.source
        (collection.identity setup).sha256 DIRECTORY_IMPORTER_NAME).1).wp
      (fun outcome _ => outcome.result ≠ .failed) (fun _ _ => False) db' := by
  have hhex : Sources.isSha256Hex (collection.identity setup).sha256 = true := setup.digest_hex _
  have hlength : (directoryKey setup collection).length = 64 :=
    (Core.isSha256Hex_iff.mp (setup.digest_hex _)).1
  unfold importDirectory
  rw [Proc.wp_bind, Proc.wp_get]
  dsimp only
  rw [Proc.wp_bind, wp_attempt]
  unfold onDirectoryRegistry
  rw [Proc.wp_onPart]
  apply Proc.wp_mono (Core.startRun_opens hregistry haccepted hhex directory_names rfl hlength)
  · intro opened registry hopened
    dsimp only
    rw [Proc.wp_bind, wp_attempt, Proc.wp_atomically]
    beta_reduce
    unfold publishDirectory onDirectoryRegistry
    rw [Proc.wp_bind, Proc.wp_get]
    dsimp only
    rw [Proc.wp_bind]
    apply Proc.wp_mono (@reconcile_returns setup { db' with registry } collection hrows hstorable)
    · rintro reconciliation db₂ ⟨hsame, hseen, hadded⟩
      rw [Proc.wp_bind, Proc.wp_onPart]
      beta_reduce
      rw [hsame]
      apply Proc.wp_mono
        (hopened.completes ⟨by dsimp only; omega, by dsimp only; omega, Nat.zero_le _⟩ hnew)
      · intro _ _ _
        rw [Proc.wp_pure, Proc.wp_bind, wp_modifyDirectoryState, Proc.wp_pure]
        exact fun hfailed => by cases hfailed
      · exact fun _ _ hfalse => hfalse.elim
    · exact fun _ _ hfalse => hfalse.elim
  · exact fun _ _ hfalse => hfalse.elim

/-- After any history, a live run that collects an applicable set applies it. -/
theorem applied_of_applicable (setup : DirectorySetup) (history : List DirectoryAction)
    (request : DirectoryRequest) (collection : DirectoryCollection) (hlive : request.dryRun = false)
    (hcollected : request.collected setup (directoryAfter setup history) = some collection)
    (happlicable : Applicable setup (directoryAfter setup history) collection) :
    request.applied setup (directoryAfter setup history) = some collection := by
  have hrows := (watchedAfter_sound setup history).rows
  rw [watchedAfter_db] at hrows
  have hregistry := directoryAfter_registry setup history
  generalize directoryAfter setup history = db at *
  have hreturns : (synchronizeMemberDirectory setup request).wp
      (fun outcome _ => outcome.result ≠ .failed) (fun _ _ => False) db := by
    have hcollector := hcollected
    unfold DirectoryRequest.collected at hcollector
    unfold synchronizeMemberDirectory
    rw [Proc.wp_bind, Proc.wp_get]
    dsimp only at hcollector ⊢
    rw [Proc.wp_bind, wp_modifyDirectoryState]
    split at hcollector
    · rename_i brought hanswer
      cases hcollector
      rw [hanswer]
      unfold synchronizeCollection
      dsimp only
      rw [Proc.wp_bind, Proc.wp_get]
      have hacceptable := happlicable.acceptable
      unfold publishedCount at hacceptable ⊢
      dsimp only at hacceptable ⊢
      rw [hacceptable, hlive]
      dsimp only
      rw [if_neg Bool.false_ne_true]
      split
      · exact repeatDirectory_returns hrows happlicable.storable
      · rename_i hnot
        obtain ⟨haccepted, hcount, hnew⟩ := happlicable.importable.resolve_left hnot
        exact @importDirectory_returns setup
          { db with state := db.state.touchChecked db.clock } _ hrows
          hregistry happlicable.storable haccepted hcount hnew
    · cases hcollector
  obtain ⟨outcome, db', hrun, hpassed⟩ := hreturns.returns
  unfold DirectoryRequest.applied DirectoryRequest.appliedBy
  rw [hrun]
  dsimp only
  rw [if_neg (by rw [hlive]; rintro (h | h); exacts [hpassed h, Bool.false_ne_true h])]
  exact hcollected

end Applicable

/-! ## The register carried forward -/

def Publishes (setup : DirectorySetup) (db : DirectoryDb) (code path : String) : Prop :=
  ∃ entry ∈ db.entries, entry.source = setup.source ∧ entry.registryCode = code ∧
    entry.profilePath = path ∧ entry.isPublished = true

theorem publishes_iff {db : DirectoryDb} (h : DirectorySound db.entries) {code path : String} :
    Publishes setup db code path ↔ showing (registerOf setup.source db.entries code) =
      some path := by
  constructor
  · rintro ⟨entry, hentry, hsource, rfl, rfl, hpublished⟩
    have hflags := h.flags entry hentry
    rw [hpublished] at hflags
    rw [registerOf_of_mem h hentry hsource]
    exact if_pos hflags.symm
  · intro hshown
    unfold registerOf at hshown
    cases hfound : db.entries.find? fun entry =>
        entry.source = setup.source && entry.registryCode = code with
    | none =>
      rw [hfound] at hshown
      cases hshown
    | some entry =>
      obtain ⟨hentry, hsource, hcode⟩ := found_code hfound
      rw [hfound] at hshown
      have hshown : (if entry.unpublishedAt.isNone then some entry.profilePath else none) =
          some path :=
        hshown
      split at hshown
      · rename_i hnone
        exact ⟨entry, hentry, hsource, hcode, Option.some.inj hshown,
          (h.flags entry hentry).trans hnone⟩
      · cases hshown

/-- What holds of the directory after a history of runs. -/
structure CarriedForward (setup : DirectorySetup) (history : List DirectoryAction) : Prop where
  /-- The published codes and their paths are those of the last collected set. -/
  published : ∀ code path, Publishes setup (directoryAfter setup history) code path ↔
    (observedPaths (lastCollected setup history)).get? code = some path
  /-- One row stands for a code. -/
  codes : ((directoryAfter setup history).entries.map fun entry =>
    (entry.source, entry.registryCode)).Nodup
  kept : ∀ more, ∀ entry ∈ (directoryAfter setup history).entries,
    ∃ later ∈ (directoryAfter setup (history ++ more)).entries, entry.KeptAs later
  flags : ∀ entry ∈ (directoryAfter setup history).entries,
    entry.isPublished = false ↔ entry.unpublishedAt.isSome = true
  /-- A run that applies no set leaves every row as it is. -/
  untouched : ∀ request : DirectoryRequest, request.applied setup
    (directoryAfter setup history) = none →
    (directoryAfter setup (history ++ [.synchronize request])).entries =
      (directoryAfter setup history).entries
  /-- A run that applies the same set again only notes when it saw it. -/
  repeated : ∀ (request : DirectoryRequest) (collection : DirectoryCollection),
    request.applied setup (directoryAfter setup history) = some collection →
    observedPaths collection.rows = observedPaths (lastCollected setup history) →
    (directoryAfter setup (history ++ [.synchronize request])).entries =
      (directoryAfter setup history).entries.map
        (seenAgain setup.source (directoryAfter setup history).clock)

/-- After any history of runs, whatever they collected and however they ended, the directory is the
register of the last set that was collected, carried forward. -/
theorem directory_carriedForward (setup : DirectorySetup) (history : List DirectoryAction) :
    CarriedForward setup history := by
  have hsound := watchedAfter_sound setup history
  obtain ⟨hrows, hshows, hseen⟩ := hsound
  rw [watchedAfter_db] at hrows hshows hseen
  have hlast (request : DirectoryRequest) :
      directoryAfter setup (history ++ [.synchronize request]) =
        (synchronizeMemberDirectory setup request (directoryAfter setup history)).2 := by
    unfold directoryAfter
    rw [run_append]
    rfl
  refine ⟨fun code path => ?_, hrows.codes, rows_kept setup history, fun entry hentry => ?_,
    fun request hnone => ?_, fun request collection happlied hsame => ?_⟩
  · rw [publishes_iff hrows, hshows code]
    rfl
  · rw [hrows.flags entry hentry]
    cases entry.unpublishedAt <;> simp
  · have hends := (synchronizeMemberDirectory_ends setup request (directoryAfter setup history)).2
    rw [hnone] at hends
    rw [hlast]
    exact hends.1
  · have hends := (synchronizeMemberDirectory_ends setup request (directoryAfter setup history)).2
    rw [happlied] at hends
    rw [hlast, (ReconciledWith.rows hends hrows).1]
    apply reconciled_again hrows
    rw [hsame]
    exact hshows

end Histories

end Dashkoda.Membership
