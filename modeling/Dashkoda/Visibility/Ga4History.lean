import Dashkoda.Lib.Runs
import Dashkoda.Visibility.Ga4Days

/-!
# Any history of reconciliations

Whatever the windows, the collectors and the failures were, the revisions of each day are in order
and never lose a kind of detail.
-/

open Lib

namespace Dashkoda.Visibility

open Sources (Time)

inductive Ga4Action
  | synchronize (outage : Ga4Outage) (request : Ga4Request)
  | backfill (outage : Ga4Outage) (start : Date) (request : Ga4Request)
  | elapse (now : Time)

def ga4Step (setup : VisibilitySetup) (db : VisibilityDb) : Ga4Action → VisibilityDb
  | .synchronize outage request => (synchronizeGa4 setup outage request db).2
  | .backfill outage start request => (backfillGa4 setup outage start request db).2
  | .elapse now => { db with clock := now }

def ga4After (setup : VisibilitySetup) (history : List Ga4Action) : VisibilityDb :=
  run (ga4Step setup) VisibilityDb.empty history

structure Ga4Sound (db : VisibilityDb) : Prop where
  registry : db.registry.Sound
  snapshots : SnapshotsSound KeepsDetail db.ga4.snapshots

section Keeps

variable {setup : VisibilitySetup} {outage : Ga4Outage} {before : VisibilityDb}

/-- Each day that had a current snapshot has one that keeps its detail. -/
def DetailKept (setup : VisibilitySetup) (before db : VisibilityDb) : Prop :=
  ∀ day current, currentDay setup before day = some current →
    ∃ later, currentDay setup db day = some later ∧ KeepsDetail current.content later.content

theorem DetailKept.refl (db : VisibilityDb) : DetailKept setup db db :=
  fun _ current hcurrent => ⟨current, hcurrent, KeepsDetail.refl _⟩

/-- What every state after `before` has. -/
structure After (setup : VisibilitySetup) (before db : VisibilityDb) :
    Prop extends Ga4Sound db where
  kept : DetailKept setup before db

theorem DayPublished.after {reading : DayReading} {db db' : VisibilityDb}
    (h : DayPublished setup reading db db') (hafter : After setup before db) :
    After setup before db' := by
  obtain ⟨draft, hwritten⟩ := h.written
  refine ⟨⟨h.registry.sound, hwritten.sound h.changed hafter.snapshots⟩,
    fun day current hcurrent => ?_⟩
  obtain ⟨later, hlater, hkeeps⟩ := hafter.kept day current hcurrent
  by_cases hday : day = reading.reportDate
  · subst hday
    refine ⟨_, hwritten.current h.changed hafter.snapshots, hkeeps.trans ?_⟩
    apply hwritten.extends_ h.changed
    rw [hwritten.source, hwritten.day]
    exact hlater
  · exact ⟨later, (hwritten.current_other hafter.snapshots hday).trans hlater, hkeeps⟩

theorem After.sameTables {db db' : VisibilityDb} (h : After setup before db)
    (hsame : SameTables db db') (hsound : db'.registry.Sound) : After setup before db' := by
  unfold SameTables at hsame
  refine ⟨⟨hsound, ?_⟩, ?_⟩
  · rw [hsame]
    exact h.snapshots
  · rw [hsame]
    exact h.kept

theorem keeps_publishDay (outage : DayOutage) (dryRun : Bool) (counts : SyncCounts)
    (reading : DayReading) :
    Proc.Keeps (After setup before) (publishDay setup outage dryRun counts reading) := by
  intro db h
  cases dryRun with
  | true =>
    apply Proc.wp_mono (publishDay_dryRun counts)
    · exact fun _ _ hsame => hsame ▸ h
    · exact fun _ _ hfalse => hfalse.elim
  | false =>
    apply Proc.wp_mono (publishDay_ends h.registry counts)
    · intro _ db' hpost
      cases hpost with
      | inl hsettled => exact hsettled.2 ▸ h
      | inr hpublished => exact hpublished.after h
    · exact fun _ _ hraised => h.sameTables hraised.1 hraised.2.sound

theorem keeps_publishDays (dryRun : Bool) (readings : List DayReading) (report : SyncReport) :
    Proc.Keeps (After setup before) (publishDays setup outage dryRun report readings) := by
  induction readings generalizing report with
  | nil => exact Proc.keeps_pure _
  | cons reading rest ih =>
    unfold publishDays
    refine Proc.keeps_bind (Proc.keeps_tryCatch (Proc.keeps_map _ (keeps_publishDay _ _ _ _))
      fun _ => Proc.keeps_pure _) fun published => ?_
    split
    · exact ih _
    · exact Proc.keeps_throw _
    · exact Proc.keeps_pure _

theorem keeps_publishChunks (request : Ga4Request) (yielded : List (Date × Date))
    (report : SyncReport) :
    Proc.Keeps (After setup before) (publishChunks setup outage request report yielded) := by
  induction yielded generalizing report with
  | nil => exact Proc.keeps_pure _
  | cons chunk rest ih =>
    unfold publishChunks
    dsimp only
    split
    · exact Proc.keeps_pure _
    · refine Proc.keeps_bind (keeps_publishDays _ _ _) fun ended => ?_
      cases ended with
      | done report => exact ih report
      | failed message report => exact Proc.keeps_pure _

theorem keeps_modifyGa4State (f : DailyFeedState → DailyFeedState) :
    Proc.Keeps (After setup before) (modifyGa4State f) := by
  unfold modifyGa4State
  exact Proc.keeps_modify fun _ h => ⟨⟨h.registry, h.snapshots⟩, h.kept⟩

theorem keeps_recordGa4Failure (message : String) (report : Option SyncReport) :
    Proc.Keeps (After setup before) (recordGa4Failure outage message report) :=
  Proc.keeps_bind (keeps_raiseIf _) fun _ =>
    Proc.keeps_bind (keeps_modifyGa4State _) fun _ => Proc.keeps_pure _

theorem keeps_recordGa4Outcome (counts : SyncCounts) (stop : Date) :
    Proc.Keeps (After setup before) (recordGa4Outcome setup outage counts stop) :=
  Proc.keeps_bind (keeps_raiseIf _) fun _ => Proc.keeps_bind Proc.keeps_get fun _ =>
    Proc.keeps_bind (keeps_modifyGa4State _) fun _ => keeps_modifyGa4State _

theorem keeps_synchronizeGa4 (request : Ga4Request) :
    Proc.Keeps (After setup before) (synchronizeGa4 setup outage request) := by
  unfold synchronizeGa4
  split
  · exact Proc.keeps_throw _
  · apply Proc.keeps_ite
    · exact Proc.keeps_pure _
    · refine Proc.keeps_bind (keeps_raiseIf _) fun _ => Proc.keeps_bind Proc.keeps_get fun _ =>
        Proc.keeps_bind (keeps_modifyGa4State _) fun _ => ?_
      split
      · exact keeps_recordGa4Failure _ _
      · refine Proc.keeps_bind (keeps_publishChunks _ _ _) fun ended => ?_
        cases ended with
        | failed message report => exact keeps_recordGa4Failure message report
        | done report =>
          refine Proc.keeps_bind (keeps_raiseIf _) fun _ => Proc.keeps_ite ?_ (Proc.keeps_pure _)
          exact Proc.keeps_bind (keeps_recordGa4Outcome _ _) fun _ => Proc.keeps_pure _

theorem keeps_backfillGa4 (start : Date) (request : Ga4Request) :
    Proc.Keeps (After setup before) (backfillGa4 setup outage start request) := by
  unfold backfillGa4
  split
  · exact Proc.keeps_throw _
  · exact keeps_synchronizeGa4 _

theorem ga4Step_after (db : VisibilityDb) (action : Ga4Action) (h : After setup before db) :
    After setup before (ga4Step setup db action) := by
  cases action with
  | synchronize outage request => exact (keeps_synchronizeGa4 request db h).left
  | backfill outage start request => exact (keeps_backfillGa4 start request db h).left
  | elapse now => exact ⟨⟨h.registry, h.snapshots⟩, h.kept⟩

theorem ga4After_sound (setup : VisibilitySetup) (history : List Ga4Action) :
    Ga4Sound (ga4After setup history) := by
  have hempty : After setup VisibilityDb.empty VisibilityDb.empty :=
    ⟨⟨⟨List.nodup_nil, List.nodup_nil⟩, Lineage.sound_nil⟩, DetailKept.refl _⟩
  exact (run_keeps ga4Step_after history hempty).toGa4Sound

/-- What a day showed in detail, it shows in every later state. -/
theorem ga4After_detailKept (setup : VisibilitySetup) (earlier later : List Ga4Action) :
    DetailKept setup (ga4After setup earlier) (ga4After setup (earlier ++ later)) := by
  have hstart : After setup (ga4After setup earlier) (ga4After setup earlier) :=
    ⟨ga4After_sound setup earlier, DetailKept.refl _⟩
  unfold ga4After
  rw [run_append]
  exact (run_keeps ga4Step_after later hstart).kept

end Keeps

/-- In every state, the revisions of each day are in order and none loses a kind of detail, and no
kind of detail that a day was shown with is lost later on. -/
theorem reporting_days_inOrder (setup : VisibilitySetup) (history : List Ga4Action) (day : Date) :
    (Lineage.history (setup.source .ga4, day) (ga4After setup history).ga4.snapshots = [] ∨
      InOrder (Lineage.history (setup.source .ga4, day) (ga4After setup history).ga4.snapshots)) ∧
    (Lineage.history (setup.source .ga4, day) (ga4After setup history).ga4.snapshots).Pairwise
      (fun a b => KeepsDetail a.content b.content) ∧
    ∀ earlier later, history = earlier ++ later → ∀ current,
      currentDay setup (ga4After setup earlier) day = some current →
        ∃ now, currentDay setup (ga4After setup history) day = some now ∧
          KeepsDetail current.content now.content := by
  have hsound := (ga4After_sound setup history).snapshots
  refine ⟨?_, ?_, ?_⟩
  · by_cases hrows : Lineage.history (setup.source .ga4, day)
        (ga4After setup history).ga4.snapshots = []
    · exact Or.inl hrows
    · exact Or.inr (history_inOrder hsound _ day hrows)
  · exact (linked_extends (fun _ _ _ h h' => h.trans h') (hsound.linked _)).2
  · rintro earlier later rfl current hcurrent
    exact ga4After_detailKept setup earlier later day current hcurrent

end Dashkoda.Visibility
