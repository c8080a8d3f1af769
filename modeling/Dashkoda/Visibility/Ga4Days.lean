import Dashkoda.Visibility.Ga4Sync

/-!
# What one reporting day leaves

A day ends untouched, with a new current revision, or with nothing published at all.
-/

open Lib

namespace Dashkoda.Visibility

open Core (CountsFit ImporterNames NothingPublished RunPublished identityAccepted importedBefore)
open Sources (ImportRun SourceArtifact)

/-- No kind of detail is lost from one revision to a later one. -/
structure KeepsDetail (a b : Ga4Day) : Prop where
  pages : a.hasPageDetail = true → b.hasPageDetail = true
  channels : a.hasChannelDetail = true → b.hasChannelDetail = true

theorem KeepsDetail.refl (a : Ga4Day) : KeepsDetail a a := ⟨id, id⟩

theorem KeepsDetail.trans {a b c : Ga4Day} (h : KeepsDetail a b) (h' : KeepsDetail b c) :
    KeepsDetail a c := ⟨h'.pages ∘ h.pages, h'.channels ∘ h.channels⟩

section Day

variable (setup : VisibilitySetup)

/-- The day needs no new revision: its current one holds the reading, or more detail than it. -/
def Settled (db : VisibilityDb) (reading : DayReading) : Prop :=
  ∃ current, currentDay setup db reading.reportDate = some current ∧
    (current.checksum = (reading.canonicalDigest setup).sha256 ∨
      wouldLoseDetail current.content reading = true)

instance (db : VisibilityDb) (reading : DayReading) : Decidable (Settled setup db reading) :=
  decidable_of_iff ((currentDay setup db reading.reportDate).any fun current =>
    current.checksum = (reading.canonicalDigest setup).sha256 ||
      wouldLoseDetail current.content reading) (by
    unfold Settled
    rw [Option.any_eq_true]
    simp only [Bool.or_eq_true, decide_eq_true_eq])

/-- The rows of the reading can be saved as the next revision of its day. -/
def Storable (db : VisibilityDb) (reading : DayReading) : Prop :=
  ∃ content, reading.store (SnapshotDraft.revision (currentDay setup db reading.reportDate)) =
    .ok content

/-- The draft is saved and published, and no other table changes. -/
structure DayWritten (reading : DayReading) (before after : VisibilityDb)
    (draft : SnapshotDraft Ga4Day) : Prop where
  source : draft.source = setup.source .ga4
  day : draft.day = reading.reportDate
  checksum : draft.checksum = (reading.canonicalDigest setup).sha256
  stored : reading.store (SnapshotDraft.revision (currentDay setup before reading.reportDate)) =
    .ok draft.content
  tables : after = { before with
    registry := after.registry
    ga4 := { before.ga4 with snapshots := draft.publish before.ga4.snapshots } }

variable {setup} {reading : DayReading} {db db' : VisibilityDb} {draft : SnapshotDraft Ga4Day}
  {outage : DayOutage}

theorem store_detail {revision : Nat} {content : Ga4Day}
    (h : reading.store revision = .ok content) :
    content.hasPageDetail = reading.hasPageDetail ∧
      content.hasChannelDetail = reading.hasChannelDetail := by
  unfold DayReading.store at h
  obtain ⟨_, -, h⟩ := bind_eq_ok_iff.mp h
  obtain ⟨_, -, h⟩ := bind_eq_ok_iff.mp h
  obtain ⟨_, -, h⟩ := bind_eq_ok_iff.mp h
  obtain ⟨_, -, h⟩ := bind_eq_ok_iff.mp h
  cases h
  exact ⟨rfl, rfl⟩

theorem writeDay_writes (hsame : SameTables db db') (opened : SourceArtifact × ImportRun) :
    (writeDay setup outage reading opened).wp
      (fun _ db₂ => db₂.registry = db'.registry ∧ ∃ draft, DayWritten setup reading db db₂ draft)
      (fun _ _ => True) db' := by
  have hcurrent : currentDay setup db' reading.reportDate =
      currentDay setup db reading.reportDate := by
    rw [hsame]
    rfl
  unfold writeDay
  rw [Proc.wp_bind]
  apply wp_reach _ fun _ => trivial
  rw [Proc.wp_bind, Proc.wp_get]
  dsimp only
  rw [Proc.wp_bind]
  apply wp_reach _ fun _ => trivial
  rw [Proc.wp_bind]
  apply wp_reach _ fun _ => trivial
  rw [Proc.wp_bind]
  apply wp_reach _ fun _ => trivial
  apply Proc.wp_service
  · intro db₂ snapshot hok
    obtain ⟨content, hstored, heq⟩ := map_eq_ok_iff.mp hok
    cases heq
    refine ⟨rfl, dayDraft setup reading opened db'.clock content, rfl, rfl, rfl, ?_, ?_⟩
    · rw [← hcurrent]
      exact hstored
    · rw [hsame]
  · exact fun _ _ => trivial

/-- Only rows that the columns refuse stop the transaction. -/
theorem writeDay_returns (hsame : SameTables db db') (hstorable : Storable setup db reading)
    (opened : SourceArtifact × ImportRun) :
    (writeDay setup .calm reading opened).wp (fun _ db₂ => db₂.registry = db'.registry)
      (fun _ _ => False) db' := by
  obtain ⟨content, hcontent⟩ := hstorable
  have hcurrent : currentDay setup db' reading.reportDate =
      currentDay setup db reading.reportDate := by
    rw [hsame]
    rfl
  unfold writeDay
  simp only [reach_calm, Proc.wp_bind, Proc.wp_get, Proc.wp_pure]
  rw [hcurrent, hcontent]
  apply Proc.wp_service
  · intro db₂ snapshot hok
    cases hok
    rfl
  · exact fun _ hraised => by cases hraised

/-! ## A day that was written -/

theorem not_loses {current : Ga4Day} (h : wouldLoseDetail current reading = false)
    {content : Ga4Day} (hpages : content.hasPageDetail = reading.hasPageDetail)
    (hchannels : content.hasChannelDetail = reading.hasChannelDetail) :
    KeepsDetail current content := by
  unfold wouldLoseDetail at h
  constructor
  · intro hcurrent
    rw [hcurrent] at h
    rw [hpages]
    cases hreading : reading.hasPageDetail with
    | true => rfl
    | false =>
      rw [hreading] at h
      cases h
  · intro hcurrent
    rw [hcurrent] at h
    rw [hchannels]
    cases hreading : reading.hasChannelDetail with
    | true => rfl
    | false =>
      rw [hreading, Bool.not_false, Bool.and_true, Bool.or_true] at h
      cases h

/-- A day that is not settled may be written over. -/
theorem DayWritten.extends_ (h : DayWritten setup reading db db' draft)
    (hchanged : ¬ Settled setup db reading) :
    ∀ before, currentFor draft.source draft.day db.ga4.snapshots = some before →
      KeepsDetail before.content draft.content := by
  intro before hbefore
  rw [h.source, h.day] at hbefore
  obtain ⟨hpages, hchannels⟩ := store_detail h.stored
  refine not_loses (Bool.eq_false_iff.mpr fun hloses => hchanged ?_) hpages hchannels
  exact ⟨before, hbefore, Or.inr hloses⟩

theorem DayWritten.snapshots (h : DayWritten setup reading db db' draft) :
    db'.ga4.snapshots = draft.publish db.ga4.snapshots := by
  rw [h.tables]

section Written

variable (h : DayWritten setup reading db db' draft) (hchanged : ¬ Settled setup db reading)
  (hsound : SnapshotsSound KeepsDetail db.ga4.snapshots)

include h hchanged hsound

theorem DayWritten.sound : SnapshotsSound KeepsDetail db'.ga4.snapshots := by
  rw [h.snapshots]
  exact snapshots_publish hsound (h.extends_ hchanged)

theorem DayWritten.current :
    currentDay setup db' reading.reportDate = some (draft.next db.ga4.snapshots) := by
  have hself := currentFor_publish_self hsound (h.extends_ hchanged)
  unfold currentDay
  rw [h.snapshots, ← h.source, ← h.day]
  exact hself

theorem DayWritten.settled : Settled setup db' reading :=
  ⟨_, h.current hchanged hsound, Or.inl h.checksum⟩

omit hchanged in
theorem DayWritten.current_other {day : Date} (hother : day ≠ reading.reportDate) :
    currentDay setup db' day = currentDay setup db day := by
  unfold currentDay
  rw [h.snapshots]
  apply currentFor_publish_other hsound
  rw [h.source, h.day]
  exact fun heq => hother (Prod.mk.inj heq).2

end Written

/-! ## How a day ends -/

/-- The day's key: its digest under the importer's name and schema. -/
def dayKey (setup : VisibilitySetup) (reading : DayReading) : String :=
  importKeyOf setup (ga4Facts setup) (reading.canonicalDigest setup)

/-- A changed day was published as the first content of its key. -/
structure DayPublished (setup : VisibilitySetup) (reading : DayReading) (db db' : VisibilityDb) :
    Prop where
  changed : ¬ Settled setup db reading
  written : ∃ draft, DayWritten setup reading db db' draft
  registry : RunPublished db.registry (dayKey setup reading) db'.registry
  registers : RegistersOnly db.registry (reading.canonicalDigest setup).sha256 db'.registry

theorem publishChanged_ends (hregistry : db.registry.Sound) (hchanged : ¬ Settled setup db reading)
    (counts : SyncCounts) (action : DayAction) :
    (publishChanged setup outage false counts reading action).wp
      (fun _ db' => DayPublished setup reading db db')
      (fun _ db' => SameTables db db' ∧ NothingPublished db.registry db'.registry) db := by
  unfold publishChanged
  rw [if_neg Bool.false_ne_true, Proc.wp_bind]
  have hends := @publishDaily_ends setup outage (ga4Facts setup) (reading.canonicalDigest setup)
    [[("type", "publish_failed")]] reading.rowsAdded _ db (writeDay setup outage reading)
    (fun _ db' => ∃ draft, DayWritten setup reading db db' draft) hregistry (setup.digest_hex _)
    (fun _ db' registry hwritten => by
      obtain ⟨draft, hdraft⟩ := hwritten
      refine ⟨draft, hdraft.source, hdraft.day, hdraft.checksum, hdraft.stored, ?_⟩
      have htables := hdraft.tables
      rw [htables])
    fun opened db₁ hsame => writeDay_writes hsame opened
  apply Proc.wp_mono hends
  · rintro snapshot db' ⟨hwritten, hpublished, hregisters⟩
    exact ⟨hchanged, hwritten, hpublished, hregisters⟩
  · exact fun _ _ hraised => hraised

section PublishDay

variable {dryRun : Bool} {post : SyncCounts × DayOutcome → VisibilityDb → Prop}
  {raised : VisibilityExn → VisibilityDb → Prop}

/-- A settled day is reported as it is. -/
theorem publishDay_settled (hsettled : Settled setup db reading) (counts : SyncCounts)
    (hpost : ∀ result, post result db) :
    (publishDay setup outage dryRun counts reading).wp post raised db := by
  obtain ⟨current, hcurrent, hcause⟩ := hsettled
  unfold publishDay
  rw [Proc.wp_bind, Proc.wp_get]
  dsimp only
  rw [hcurrent]
  dsimp only
  rw [Proc.wp_ite]
  refine ⟨fun _ => hpost _, fun hdiffers => ?_⟩
  rw [if_pos (hcause.resolve_left hdiffers)]
  exact hpost _

/-- A changed day is published, as a first snapshot or as a revision. -/
theorem publishDay_changed (hchanged : ¬ Settled setup db reading) (counts : SyncCounts)
    (hpublish : ∀ action, (publishChanged setup outage dryRun counts reading action).wp post
      raised db) :
    (publishDay setup outage dryRun counts reading).wp post raised db := by
  unfold publishDay
  rw [Proc.wp_bind, Proc.wp_get]
  dsimp only
  cases hcurrent : currentDay setup db reading.reportDate with
  | none => exact hpublish .imported
  | some current =>
    dsimp only
    rw [if_neg fun hsame => hchanged ⟨current, hcurrent, Or.inl hsame⟩,
      if_neg fun hloses => hchanged ⟨current, hcurrent, Or.inr hloses⟩]
    exact hpublish .revised

end PublishDay

/-- A live day is settled already, is published, or publishes nothing. -/
theorem publishDay_ends (hregistry : db.registry.Sound) (counts : SyncCounts) :
    (publishDay setup outage false counts reading).wp
      (fun _ db' => (Settled setup db reading ∧ db' = db) ∨ DayPublished setup reading db db')
      (fun _ db' => SameTables db db' ∧ NothingPublished db.registry db'.registry) db := by
  by_cases hsettled : Settled setup db reading
  · exact publishDay_settled hsettled counts fun _ => Or.inl ⟨hsettled, rfl⟩
  · apply publishDay_changed hsettled counts
    intro action
    exact Proc.wp_mono (publishChanged_ends hregistry hsettled counts action)
      (fun _ _ hpublished => Or.inr hpublished) fun _ _ hraised => hraised

/-- A dry run leaves the store as it was. -/
theorem publishDay_dryRun (counts : SyncCounts) :
    (publishDay setup outage true counts reading).wp (fun _ db' => db' = db)
      (fun _ _ => False) db := by
  by_cases hsettled : Settled setup db reading
  · exact publishDay_settled hsettled counts fun _ => rfl
  · exact publishDay_changed hsettled counts fun _ => rfl

/-! ## When a day goes through -/

/-- Nothing keeps a changed day from being published. -/
structure Publishable (setup : VisibilitySetup) (db : VisibilityDb)
    (reading : DayReading) : Prop where
  accepted : identityAccepted db.registry (setup.source .ga4) (reading.canonicalDigest setup) = true
  storable : Storable setup db reading
  fits : CountsFit ⟨reading.rowsAdded, 0, 0, []⟩
  new : importedBefore db.registry (dayKey setup reading) = false

theorem ga4_names : ImporterNames GA4_IMPORTER_NAME GA4_SCHEMA_VERSION :=
  ⟨by decide, by decide, by decide, by decide⟩

theorem publishChanged_iff (hregistry : db.registry.Sound) (hchanged : ¬ Settled setup db reading)
    (counts : SyncCounts) (action : DayAction) :
    (publishChanged setup .calm false counts reading action).wp
      (fun _ _ => Publishable setup db reading) (fun _ _ => ¬ Publishable setup db reading) db := by
  by_cases hpublishable : Publishable setup db reading
  · unfold publishChanged
    rw [if_neg Bool.false_ne_true, Proc.wp_bind]
    have hsucceeds := @publishDaily_succeeds setup (ga4Facts setup) (reading.canonicalDigest setup)
      [[("type", "publish_failed")]] reading.rowsAdded _ db (writeDay setup .calm reading) hregistry
      (setup.digest_hex _) ga4_names hpublishable.accepted hpublishable.fits hpublishable.new
      fun opened db₁ hsame => writeDay_returns hsame hpublishable.storable opened
    exact Proc.wp_mono hsucceeds (fun _ _ _ => hpublishable) fun _ _ hfalse => hfalse.elim
  · have hends := @publishChanged_ends setup reading db .calm hregistry hchanged counts action
    have haccepts : (publishChanged setup .calm false counts reading action).wp
        (fun _ _ => identityAccepted db.registry (setup.source .ga4)
          (reading.canonicalDigest setup) = true ∧ CountsFit ⟨reading.rowsAdded, 0, 0, []⟩)
        (fun _ _ => True) db := by
      unfold publishChanged
      rw [if_neg Bool.false_ne_true, Proc.wp_bind]
      exact Proc.wp_mono (publishDaily_accepts (setup.digest_hex _))
        (fun _ _ haccepted => haccepted)
        fun _ _ _ => trivial
    apply Proc.wp_mono (Proc.wp_and hends haccepts)
    · rintro result db' ⟨hpublished, haccepted, hfits⟩
      obtain ⟨draft, hwritten⟩ := hpublished.written
      exact ⟨haccepted, ⟨draft.content, hwritten.stored⟩, hfits, hpublished.registry.new⟩
    · exact fun _ _ _ => hpublishable

/-- Undisturbed, a day goes through exactly if it is settled or can be published. -/
theorem publishDay_iff (hregistry : db.registry.Sound) (counts : SyncCounts) :
    (publishDay setup .calm false counts reading).wp
      (fun _ _ => Settled setup db reading ∨ Publishable setup db reading)
      (fun _ _ => ¬ Settled setup db reading ∧ ¬ Publishable setup db reading) db := by
  by_cases hsettled : Settled setup db reading
  · exact publishDay_settled hsettled counts fun _ => Or.inl hsettled
  · apply publishDay_changed hsettled counts
    intro action
    exact Proc.wp_mono (publishChanged_iff hregistry hsettled counts action)
      (fun _ _ hpublishable => Or.inr hpublishable) fun _ _ hnot => ⟨hsettled, hnot⟩

end Day

end Dashkoda.Visibility
