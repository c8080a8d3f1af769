import Dashkoda.Lib.Runs
import Dashkoda.Visibility.SmailyReadings

/-!
# When a reading of the lists arrives

After any history of readings a live run goes through if its reading is the current one of the day,
or if it was never published before.
-/

open Lib

namespace Dashkoda.Visibility

open Core (NothingPublished)
open Sources (Time)

inductive SmailyAction
  | synchronize (outage : SmailyOutage) (request : SmailyRequest)
  | elapse (now : Time)

def smailyStep (setup : VisibilitySetup) (db : VisibilityDb) : SmailyAction → VisibilityDb
  | .synchronize outage request => (synchronizeSmaily setup outage request db).2
  | .elapse now => { db with clock := now }

def smailyAfter (setup : VisibilitySetup) (history : List SmailyAction) : VisibilityDb :=
  run (smailyStep setup) VisibilityDb.empty history

def SmailyRequest.collected (request : SmailyRequest) : List SegmentReading :=
  match request.collector.ready, request.collector.collectSegments request.day with
  | .ok (), .ok (reading, _) => [reading]
  | _, _ => []

def SmailyAction.collected : SmailyAction → List SegmentReading
  | .synchronize _ request => request.collected
  | .elapse _ => []

/-- The readings of a history. -/
def collectedBy (history : List SmailyAction) : List SegmentReading :=
  history.flatMap SmailyAction.collected

/-! ## What every history leaves -/

/-- Each current revision holds one of the readings, whose figures are in use. -/
structure SmailySound (setup : VisibilitySetup) (readings : List SegmentReading)
    (db : VisibilityDb) : Prop where
  registry : db.registry.Sound
  snapshots : SnapshotsSound AnyReading db.smaily.snapshots
  observations : ObservationsSound db.observations
  backed : ∀ day current, currentReading setup db day = some current →
    ∃ reading ∈ readings, reading.observedOn = day ∧
      current.checksum = (reading.canonicalDigest setup).sha256 ∧ reading.Distinct ∧
        FiguresInUse setup db reading

section Keeps

variable {setup : VisibilitySetup} {readings : List SegmentReading} {db db' : VisibilityDb}
  {reading : SegmentReading} {outage : SmailyOutage}

theorem SmailySound.sameTables (h : SmailySound setup readings db) (hsame : SameTables db db')
    (hsound : db'.registry.Sound) : SmailySound setup readings db' := by
  unfold SameTables at hsame
  refine ⟨hsound, ?_, ?_, ?_⟩
  · rw [hsame]
    exact h.snapshots
  · rw [hsame]
    exact h.observations
  · rw [hsame]
    exact h.backed

/-- A published reading is the one behind the current revision of its day. -/
theorem ReadingPublished.sound (hpublished : ReadingPublished setup reading db db')
    (h : SmailySound setup readings db) (hreading : reading ∈ readings) :
    SmailySound setup readings db' := by
  obtain ⟨draft, hwritten⟩ := hpublished.written
  refine ⟨hpublished.registry.sound, hwritten.sound h.snapshots, hwritten.observations, ?_⟩
  intro day current hcurrent
  by_cases hday : day = reading.observedOn
  · subst hday
    rw [hwritten.current h.snapshots] at hcurrent
    cases hcurrent
    obtain ⟨content, hcontent⟩ := hwritten.storable.rows
    exact ⟨reading, hreading, rfl, hwritten.checksum, store_distinct hcontent,
      hwritten.figuresInUse⟩
  · -- the other days keep their revision and their figures
    rw [hwritten.current_other h.snapshots hday] at hcurrent
    obtain ⟨other, hother, hobserved, hchecksum, hdistinct, hfigures⟩ :=
      h.backed day current hcurrent
    refine ⟨other, hother, hobserved, hchecksum, hdistinct, fun item hitem => ?_⟩
    rw [hwritten.currentValue_other (hobserved ▸ hday)]
    exact hfigures item hitem

theorem keeps_publishReading (outage : DayOutage) (dryRun : Bool) (hreading : reading ∈ readings)
    (report : SmailyReport) : Proc.Keeps (SmailySound setup readings)
      (publishReading setup outage dryRun reading (resolveAll setup.casefold reading) report) := by
  intro db h
  cases dryRun with
  | true => exact publishReading_dryRun fun _ => h
  | false =>
    apply Proc.wp_mono (publishReading_ends h.registry h.observations report)
    · intro _ db' hends
      cases hends with
      | inl hcurrent => exact hcurrent.2 ▸ h
      | inr hpublished => exact hpublished.sound h hreading
    · exact fun _ _ hraised => h.sameTables hraised.1 hraised.2.sound

theorem keeps_modifySmailyState (f : DailyFeedState → DailyFeedState) :
    Proc.Keeps (SmailySound setup readings) (modifySmailyState f) := by
  unfold modifySmailyState
  exact Proc.keeps_modify fun _ h => ⟨h.registry, h.snapshots, h.observations, h.backed⟩

theorem keeps_recordSmailyFailure (message : String) :
    Proc.Keeps (SmailySound setup readings) (recordSmailyFailure outage message) :=
  Proc.keeps_bind (keeps_raiseIf _) fun _ =>
    Proc.keeps_bind (keeps_modifySmailyState _) fun _ => Proc.keeps_pure _

theorem keeps_recordSmailyOutcome (report : SmailyReport) (day : Date) :
    Proc.Keeps (SmailySound setup readings) (recordSmailyOutcome setup outage report day) :=
  Proc.keeps_bind (keeps_raiseIf _) fun _ => Proc.keeps_bind Proc.keeps_get fun _ =>
    Proc.keeps_bind (keeps_modifySmailyState _) fun _ => keeps_modifySmailyState _

theorem keeps_synchronizeReading (request : SmailyRequest) (hreading : reading ∈ readings)
    (counts : CollectionCounts) : Proc.Keeps (SmailySound setup readings)
      (synchronizeReading setup outage request reading counts) := by
  unfold synchronizeReading
  refine Proc.keeps_bind (Proc.keeps_tryCatch (Proc.keeps_map _
    (keeps_publishReading _ _ hreading _)) fun _ => Proc.keeps_pure _) fun published => ?_
  split
  · exact Proc.keeps_throw _
  · exact keeps_recordSmailyFailure _
  · apply Proc.keeps_ite
    · exact Proc.keeps_bind (keeps_recordSmailyOutcome _ _) fun _ => Proc.keeps_pure _
    · exact Proc.keeps_pure _

theorem keeps_synchronizeSmaily (request : SmailyRequest)
    (hcollected : ∀ reading ∈ request.collected, reading ∈ readings) :
    Proc.Keeps (SmailySound setup readings) (synchronizeSmaily setup outage request) := by
  unfold synchronizeSmaily
  refine Proc.keeps_bind (keeps_raiseIf _) fun _ => Proc.keeps_bind Proc.keeps_get fun _ =>
    Proc.keeps_bind (keeps_modifySmailyState _) fun _ => ?_
  split
  · exact keeps_recordSmailyFailure _
  · rename_i hready
    split
    · exact keeps_recordSmailyFailure _
    · rename_i reading counts hread
      apply keeps_synchronizeReading
      apply hcollected
      unfold SmailyRequest.collected
      rw [hready, hread]
      exact List.mem_singleton_self reading

theorem smailyAfter_sound (setup : VisibilitySetup) (history : List SmailyAction) :
    SmailySound setup (collectedBy history) (smailyAfter setup history) := by
  apply run_keeps_of_mem
  · intro db action haction h
    cases action with
    | synchronize outage request =>
      refine (keeps_synchronizeSmaily request (fun reading hreading => ?_) db h).left
      exact List.mem_flatMap.mpr ⟨_, haction, hreading⟩
    | elapse now => exact ⟨h.registry, h.snapshots, h.observations, h.backed⟩
  · refine ⟨⟨List.nodup_nil, List.nodup_nil⟩, Lineage.sound_nil, Lineage.sound_nil, ?_⟩
    intro day current hcurrent
    cases hcurrent

end Keeps

/-! ## One run after a history -/

/-- The collector reports the reading. -/
structure SmailyRequest.Collects (request : SmailyRequest) (reading : SegmentReading)
    (counts : CollectionCounts) : Prop where
  ready : request.collector.ready = .ok ()
  collects : request.collector.collectSegments request.day = .ok (reading, counts)

/-- Different canonical forms of the readings have different digests. -/
def DigestsApart (setup : VisibilitySetup) (readings : List SegmentReading) : Prop :=
  ∀ a ∈ readings, ∀ b ∈ readings, setup.digestBytes a.canonicalBytes =
    setup.digestBytes b.canonicalBytes →
    a.canonicalBytes = b.canonicalBytes

/-- The reading is the current one of its day, or nothing keeps it from being published. -/
def ReadingClear (setup : VisibilitySetup) (db : VisibilityDb) (reading : SegmentReading) : Prop :=
  ReadingCurrent setup db reading ∨ ReadingPublishable setup db reading

/-- The day's revisions are in order, the one current revision has the digest of the reading, and
the figures of the reading are in use. -/
structure ReadingArrived (setup : VisibilitySetup) (db : VisibilityDb) (reading : SegmentReading) :
    Prop where
  inOrder : InOrder (Lineage.history (setup.source .smaily, reading.observedOn) db.smaily.snapshots)
  current : ReadingCurrent setup db reading
  figures : FiguresInUse setup db reading

/-- The run ends without failure and with its reading in place. -/
def SmailyRequest.Converges (request : SmailyRequest) (setup : VisibilitySetup)
    (reading : SegmentReading) (db : VisibilityDb) : Prop :=
  (synchronizeSmaily setup .calm request).wp
    (fun outcome db' => outcome.result ≠ .failed ∧ ReadingArrived setup db' reading)
    (fun _ _ => False) db

section Converges

variable {setup : VisibilitySetup} {readings : List SegmentReading} {db db' : VisibilityDb}
  {reading : SegmentReading} {request : SmailyRequest} {counts : CollectionCounts}

/-- Where a reading is current already, the figures in use are its own. -/
theorem SmailySound.figuresInUse (h : SmailySound setup readings db) (hreading : reading ∈ readings)
    (hapart : DigestsApart setup readings) (hcurrent : ReadingCurrent setup db reading) :
    FiguresInUse setup db reading := by
  obtain ⟨current, hfound, hchecksum⟩ := hcurrent
  obtain ⟨other, hother, hday, hsame, hdistinct, hfigures⟩ := h.backed _ current hfound
  have hbytes : reading.canonicalBytes = other.canonicalBytes :=
    hapart reading hreading other hother (hchecksum.symm.trans hsame)
  have htotals := availableTotals_congr setup.casefold (segments_of_canonicalBytes hbytes) hdistinct
  unfold FiguresInUse at hfigures ⊢
  rw [htotals, ← hday]
  exact hfigures

theorem SmailySound.arrived (h : SmailySound setup readings db)
    (hcurrent : ReadingCurrent setup db reading) (hfigures : FiguresInUse setup db reading) :
    ReadingArrived setup db reading := by
  refine ⟨history_inOrder h.snapshots _ _ ?_, hcurrent, hfigures⟩
  obtain ⟨current, hfound, -⟩ := hcurrent
  intro hnone
  have hlast := h.snapshots.current?_eq (setup.source .smaily, reading.observedOn)
  rw [hnone] at hlast
  have hfound' : Lineage.current? _ db.smaily.snapshots = some current := hfound
  rw [hfound'] at hlast
  cases hlast

/-- How a run ends: with its reading in place, which needs a clear one, or without. -/
def ReadingEnds (setup : VisibilitySetup) (reading : SegmentReading) (db : VisibilityDb)
    (outcome : SmailyOutcome) (db' : VisibilityDb) : Prop :=
  if outcome.result = .failed then ¬ ReadingClear setup db reading
  else ReadingClear setup db reading ∧ ReadingArrived setup db' reading

theorem wp_modifySmailyState {f : DailyFeedState → DailyFeedState}
    {post : Unit → VisibilityDb → Prop} {raised : VisibilityExn → VisibilityDb → Prop} :
    (modifySmailyState f).wp post raised =
      fun db => post () { db with smaily := { db.smaily with state := f db.smaily.state } } := rfl

/-- The state row of the feed does not matter. -/
theorem readingClear_state (state : DailyFeedState) :
    ReadingClear setup { db with smaily := { db.smaily with state } } reading ↔
      ReadingClear setup db reading := by
  constructor
  · exact Or.imp id fun h => ⟨h.accepted, ⟨h.storable.rows, h.storable.figures⟩, h.fits, h.new⟩
  · exact Or.imp id fun h => ⟨h.accepted, ⟨h.storable.rows, h.storable.figures⟩, h.fits, h.new⟩

theorem recordSmailyFailure_ends {message : String} (h : ¬ ReadingClear setup db reading) :
    (recordSmailyFailure .calm message).wp (ReadingEnds setup reading db)
      (fun _ _ => ¬ ReadingClear setup db reading) db' := by
  unfold recordSmailyFailure
  rw [Proc.wp_bind, show SmailyOutage.calm.recordOutcome = none from rfl, wp_raiseIf_none,
    Proc.wp_bind, wp_modifySmailyState, Proc.wp_pure]
  exact (if_pos rfl).mpr h

theorem synchronizeReading_ends (h : SmailySound setup readings db) (hlive : request.dryRun = false)
    (hreading : reading ∈ readings) (hapart : DigestsApart setup readings) :
    (synchronizeReading setup .calm request reading counts).wp (ReadingEnds setup reading db)
      (fun _ _ => ¬ ReadingClear setup db reading) db := by
  unfold synchronizeReading
  rw [hlive, Proc.wp_bind, Proc.wp_tryCatch, Proc.wp_map]
  apply Proc.wp_mono (Proc.wp_and
    (publishReading_ends h.registry h.observations (reading.report request.day counts _))
    (publishReading_iff h.registry h.observations (reading.report request.day counts _)))
  · rintro report db' ⟨hends, hclear⟩
    have harrived : ReadingArrived setup db' reading := by
      cases hends with
      | inl hcurrent =>
        rw [hcurrent.2]
        exact h.arrived hcurrent.1 (h.figuresInUse hreading hapart hcurrent.1)
      | inr hpublished =>
        obtain ⟨draft, hwritten⟩ := hpublished.written
        exact (hpublished.sound h hreading).arrived (hwritten.readingCurrent h.snapshots)
          hwritten.figuresInUse
    dsimp only
    rw [Bool.not_false, if_pos rfl, Proc.wp_bind]
    unfold recordSmailyOutcome
    rw [Proc.wp_bind, show SmailyOutage.calm.recordOutcome = none from rfl, wp_raiseIf_none,
      Proc.wp_bind, Proc.wp_get]
    dsimp only
    rw [Proc.wp_bind, wp_modifySmailyState, wp_modifySmailyState, Proc.wp_pure]
    refine (if_neg ?_).mpr ⟨hclear, harrived.inOrder, harrived.current, harrived.figures⟩
    dsimp only
    split
    · exact fun hfailed => by cases hfailed
    · exact fun hfailed => by cases hfailed
  · rintro error db' ⟨-, hnot⟩
    rw [Proc.wp_pure]
    cases error
    case interrupted => exact hnot
    all_goals exact recordSmailyFailure_ends hnot

theorem synchronizeSmaily_ends (h : SmailySound setup readings db) (hlive : request.dryRun = false)
    (hcollects : request.Collects reading counts) (hreading : reading ∈ readings)
    (hapart : DigestsApart setup readings) :
    (synchronizeSmaily setup .calm request).wp (ReadingEnds setup reading db)
      (fun _ _ => ¬ ReadingClear setup db reading) db := by
  unfold synchronizeSmaily
  rw [Proc.wp_bind, show SmailyOutage.calm.touchChecked = none from rfl, wp_raiseIf_none,
    Proc.wp_bind, Proc.wp_get]
  dsimp only
  rw [Proc.wp_bind, wp_modifySmailyState, hcollects.ready]
  dsimp only
  rw [hcollects.collects]
  -- recording the check does not touch what the publication looks at
  have hchecked := fun state => @synchronizeReading_ends setup readings
    { db with smaily := { db.smaily with state } } reading request counts
    ⟨h.registry, h.snapshots, h.observations, h.backed⟩ hlive hreading hapart
  unfold ReadingEnds at hchecked ⊢
  simp only [readingClear_state] at hchecked
  exact hchecked _

/-- After any history, a live run arrives at what it read exactly if the reading is the current one
of its day or nothing keeps it from being published. -/
theorem readings_converge_iff (setup : VisibilitySetup) (history : List SmailyAction)
    (request : SmailyRequest) (reading : SegmentReading) (counts : CollectionCounts)
    (hlive : request.dryRun = false) (hcollects : request.Collects reading counts)
    (hapart : DigestsApart setup (reading :: collectedBy history)) :
    request.Converges setup reading (smailyAfter setup history) ↔
      ReadingClear setup (smailyAfter setup history) reading := by
  have hsound := smailyAfter_sound setup history
  have hmore : SmailySound setup (reading :: collectedBy history) (smailyAfter setup history) := by
    refine ⟨hsound.registry, hsound.snapshots, hsound.observations, fun day current hcurrent => ?_⟩
    obtain ⟨other, hother, hbacked⟩ := hsound.backed day current hcurrent
    exact ⟨other, List.mem_cons_of_mem _ hother, hbacked⟩
  have hends := synchronizeSmaily_ends hmore hlive hcollects List.mem_cons_self hapart
  constructor
  · intro hconverges
    by_contra hblocked
    refine Proc.not_wp hends ?_ (fun _ _ _ hfalse => hfalse) hconverges
    intro outcome db' hrun hconverged
    exact hblocked ((if_neg hconverged.1).mp hrun).1
  · intro hclear
    apply Proc.wp_mono hends
    · intro outcome db' hrun
      by_cases hfailed : outcome.result = .failed
      · exact absurd hclear ((if_pos hfailed).mp hrun)
      · exact ⟨hfailed, ((if_neg hfailed).mp hrun).2⟩
    · exact fun _ _ hblocked => hblocked hclear

end Converges

/-! ## A list that changes back -/

def readingDay : Date := .of 2026 8 10

def enewsReading (subscribers : Int) : SegmentReading :=
  ⟨readingDay, [⟨2711, "e-news", subscribers⟩]⟩

def enewsRequest (subscribers : Int) : SmailyRequest where
  dryRun := false
  collector := ⟨.ok (), fun _ => .ok (enewsReading subscribers, ⟨1, 0⟩)⟩
  observedOn := none
  today := readingDay

set_option maxRecDepth 20000 in
/-- The first reading of a day arrives. -/
theorem readings_converge_first : (enewsRequest 755).Converges sampleSetup (enewsReading 755)
    (smailyAfter sampleSetup []) := by
  refine (readings_converge_iff sampleSetup [] (enewsRequest 755) (enewsReading 755) ⟨1, 0⟩ rfl
    ⟨rfl, rfl⟩ ?_).mpr (Or.inr ⟨?_, ⟨⟨_, rfl⟩, ?_⟩, ⟨by decide, by decide, by decide⟩, rfl⟩)
  · intro a ha b hb _
    rw [List.mem_singleton.mp ha, List.mem_singleton.mp hb]
  · exact Core.identityAccepted_of_size (sampleDigest_hex _) (by decide +kernel) (by decide +kernel)
  · intro item hitem
    rw [show availableTotals sampleSetup.casefold (enewsReading 755) =
        [(.newsletterEnews, 755)] from by
      decide +kernel] at hitem
    rw [List.mem_singleton.mp hitem]
    exact Or.inr rfl

def grownList : List SmailyAction :=
  [.synchronize .calm (enewsRequest 755), .synchronize .calm (enewsRequest 756)]

/-- When the list is back at its old size, the run fails, and the other size stays in use. -/
theorem shrunkBack_fails :
    (synchronizeSmaily sampleSetup .calm (enewsRequest 755)
      (smailyAfter sampleSetup grownList)).1.map
        (·.result) = .ok .failed ∧
      (currentReading sampleSetup (smailyAfter sampleSetup grownList) readingDay).map (·.content) =
        some (enewsReading 756).segments ∧
      currentValue (smailyAfter sampleSetup grownList).observations .newsletterEnews readingDay =
        some 756 := by
  decide +kernel

end Dashkoda.Visibility
