import Dashkoda.Visibility.SmailySync

/-!
# What one reading leaves

The figures of a reading go into use together with the revision that holds it, or not at all.
-/

open Lib

namespace Dashkoda.Visibility

open Core (CountsFit ImporterNames NothingPublished RunPublished identityAccepted importedBefore)
open Sources (ImportRun SourceArtifact Time)

/-! ## Figures that go into use -/

/-- A figure that is in use, or that a positive integer column takes. -/
def FigureFits (observations : List VisibilityObservation) (day : Date)
    (item : VisibilityMetric × Int) : Prop :=
  currentValue observations item.1 day = some item.2 ∨ fitsPositiveInteger item.2 = true

section Figures

variable {setup : VisibilitySetup} {reading : SegmentReading} {opened : SourceArtifact × ImportRun}
  {now : Time} {observations rows : List VisibilityObservation} {item : VisibilityMetric × Int}
  {items : List (VisibilityMetric × Int)}

theorem any_lockCurrent {metric : VisibilityMetric} {day : Date} {value : Int} :
    (lockCurrent metric day observations).any (·.value = value) = true ↔
      currentValue observations metric day = some value := by
  unfold currentValue
  cases lockCurrent metric day observations <;> simp

theorem fullClean_newsletterDraft (hsource : item.1.sourceSlug = .smaily) :
    (newsletterDraft setup reading opened item.1 item.2).fullClean setup.source observations =
      if fitsPositiveInteger item.2 then .ok () else .error (.validationError "value") := by
  unfold ObservationDraft.fullClean newsletterDraft
  cases hfits : fitsPositiveInteger item.2 <;> simp [hsource]

/-- A figure is put exactly if it fits. -/
theorem putFigure_iff (hsource : item.1.sourceSlug = .smaily) :
    (∃ rows, putFigure setup.source now (newsletterDraft setup reading opened) observations item =
      .ok rows) ↔ FigureFits observations reading.observedOn item := by
  unfold putFigure FigureFits
  dsimp only
  by_cases hcurrent : currentValue observations item.1 reading.observedOn = some item.2
  · have hany := any_lockCurrent.mpr hcurrent
    simp only [newsletterDraft, hany, if_true]
    exact ⟨fun _ => Or.inl hcurrent, fun _ => ⟨_, rfl⟩⟩
  · have hany := mt any_lockCurrent.mp hcurrent
    rw [show (newsletterDraft setup reading opened item.1 item.2).observationDate =
      reading.observedOn from rfl, if_neg hany]
    unfold writeObservation
    rw [fullClean_newsletterDraft hsource]
    cases hfits : fitsPositiveInteger item.2 with
    | true => exact ⟨fun _ => Or.inr rfl, fun _ => ⟨_, rfl⟩⟩
    | false =>
      constructor
      · rintro ⟨_, hok⟩
        cases hok
      · intro h
        cases h with
        | inl h => exact absurd h hcurrent
        | inr h => cases h

/-- Whether the figure was in use or is written, it is in use then, and no other one changes. -/
theorem putFigure_puts (h : ObservationsSound observations)
    (hok : putFigure setup.source now (newsletterDraft setup reading opened) observations item =
      .ok rows) : ObservationsSound rows ∧
        currentValue rows = Ledger.put (currentValue observations) reading.observedOn item := by
  unfold putFigure at hok
  dsimp only at hok
  split at hok
  · rename_i hany
    cases hok
    refine ⟨h, ?_⟩
    funext metric day
    unfold Ledger.put
    split
    · rename_i hsame
      obtain ⟨rfl, rfl⟩ := Prod.mk.inj hsame
      exact any_lockCurrent.mp hany
    · rfl
  · have hrows := writeObservation_eq_ok hok
    rw [hrows]
    refine ⟨publish_sound h, ?_⟩
    funext metric day
    exact currentValue_publish h metric day

theorem putFigures_puts (h : ObservationsSound observations)
    (hok : items.foldlM (putFigure setup.source now (newsletterDraft setup reading opened))
      observations = .ok rows) : ObservationsSound rows ∧
        currentValue rows = items.foldl (Ledger.put · reading.observedOn)
          (currentValue observations) := by
  induction items generalizing observations with
  | nil =>
    cases hok
    exact ⟨h, rfl⟩
  | cons item rest ih =>
    rw [List.foldlM_cons] at hok
    obtain ⟨rows', hput, hrest⟩ := bind_eq_ok_iff.mp hok
    obtain ⟨hsound, hledger⟩ := putFigure_puts h hput
    rw [List.foldl_cons, ← hledger]
    exact ih hsound hrest

/-- Figures of distinct metrics are put exactly if each of them fits. -/
theorem putFigures_iff (hitems : (items.map Prod.fst).Nodup)
    (hsource : ∀ item ∈ items, item.1.sourceSlug = .smaily) (h : ObservationsSound observations) :
    (∃ rows, items.foldlM (putFigure setup.source now (newsletterDraft setup reading opened))
      observations = .ok rows) ↔ ∀ item ∈ items,
        FigureFits observations reading.observedOn item := by
  induction items generalizing observations with
  | nil => exact ⟨fun _ _ hitem => (by cases hitem), fun _ => ⟨observations, rfl⟩⟩
  | cons item rest ih =>
    obtain ⟨hfresh, hrest⟩ := List.nodup_cons.mp hitems
    have hhead := @putFigure_iff setup reading opened now observations item
      (hsource item List.mem_cons_self)
    have hothers (other : VisibilityMetric × Int) (hother : other ∈ rest) :
        other.1.sourceSlug = .smaily := hsource other (List.mem_cons_of_mem _ hother)
    -- putting one figure leaves the figures of the other metrics as they were
    have hkept {rows : List VisibilityObservation}
        (hledger : currentValue rows = Ledger.put
          (currentValue observations) reading.observedOn item)
        (other : VisibilityMetric × Int) (hother : other ∈ rest) :
        FigureFits rows reading.observedOn other ↔
          FigureFits observations reading.observedOn other := by
      have hne : (other.1, reading.observedOn) ≠ (item.1, reading.observedOn) := by
        intro heq
        exact hfresh ((Prod.mk.inj heq).1 ▸ List.mem_map_of_mem hother)
      unfold FigureFits
      rw [hledger, show Ledger.put (currentValue observations) reading.observedOn item other.1
        reading.observedOn = currentValue observations other.1 reading.observedOn from if_neg hne]
    rw [List.foldlM_cons]
    constructor
    · rintro ⟨rows, hok⟩
      obtain ⟨rows', hput, hmore⟩ := bind_eq_ok_iff.mp hok
      obtain ⟨hsound, hledger⟩ := putFigure_puts h hput
      have hfit := (ih hrest hothers hsound).mp ⟨rows, hmore⟩
      intro other hother
      cases List.mem_cons.mp hother with
      | inl heq => exact heq ▸ hhead.mp ⟨rows', hput⟩
      | inr hin => exact (hkept hledger other hin).mp (hfit other hin)
    · intro hfit
      obtain ⟨rows', hput⟩ := hhead.mpr (hfit item List.mem_cons_self)
      obtain ⟨hsound, hledger⟩ := putFigure_puts h hput
      obtain ⟨rows, hmore⟩ := (ih hrest hothers hsound).mpr fun other hother =>
        (hkept hledger other hother).mpr (hfit other (List.mem_cons_of_mem _ hother))
      exact ⟨rows, bind_eq_ok_iff.mpr ⟨rows', hput, hmore⟩⟩

/-- The newsletters without a figure are passed over. -/
theorem publishNewsletterMetrics_eq (source : SourceSlug → Nat)
    (draft : VisibilityMetric → Int → ObservationDraft) (audiences : List NewsletterAudience) :
    publishNewsletterMetrics source now draft audiences observations =
      (audiences.filterMap fun audience => audience.total.map fun total =>
        (audience.metric, total)).foldlM (putFigure source now draft) observations := by
  unfold publishNewsletterMetrics
  induction audiences generalizing observations with
  | nil => rfl
  | cons audience rest ih =>
    rw [List.foldlM_cons]
    cases htotal : audience.total with
    | none =>
      rw [List.filterMap_cons_none (by rw [htotal]; rfl), ← ih]
      rfl
    | some total =>
      rw [List.filterMap_cons_some (by rw [htotal]; rfl), List.foldlM_cons]
      exact bind_congr fun rows => ih

end Figures

/-! ## The figures of a reading -/

theorem availableTotals_metrics (casefold : String → String) (reading : SegmentReading) :
    ((availableTotals casefold reading).map Prod.fst).Nodup := by
  have hsub : ((availableTotals casefold reading).map Prod.fst).Sublist
      (NEWSLETTERS.map (·.metric)) := by
    unfold availableTotals resolveAll
    generalize NEWSLETTERS = specs
    induction specs with
    | nil => exact List.Sublist.slnil
    | cons spec rest ih =>
      rw [List.map_cons, List.map_cons, List.filterMap_cons]
      split
      · exact ih.cons _
      · rename_i item htotal
        obtain ⟨total, -, rfl⟩ := Option.map_eq_some_iff.mp htotal
        exact ih.cons_cons _
  exact newsletters_metrics.1.sublist hsub

theorem availableTotals_source {casefold : String → String} {reading : SegmentReading}
    {item : VisibilityMetric × Int} (h : item ∈ availableTotals casefold reading) :
    item.1.sourceSlug = .smaily := by
  unfold availableTotals resolveAll at h
  obtain ⟨audience, haudience, htotal⟩ := List.mem_filterMap.mp h
  obtain ⟨spec, hspec, rfl⟩ := List.mem_map.mp haudience
  obtain ⟨total, -, rfl⟩ := Option.map_eq_some_iff.mp htotal
  exact newsletters_metrics.2 spec hspec

/-- Figures of distinct metrics that were put are all in use. -/
theorem foldl_put_mem {items : List (VisibilityMetric × Int)} (hitems : (items.map Prod.fst).Nodup)
    {item : VisibilityMetric × Int} (hitem : item ∈ items) (ledger : Ledger) (day : Date) :
    items.foldl (Ledger.put · day) ledger item.1 day = some item.2 := by
  rw [Ledger.foldl_put (fun metric => (items.find? (·.1 = metric)).map Prod.snd) day items
      fun item hitem =>
    by rw [find?_key_of_mem Prod.fst hitems hitem]; rfl, if_pos ⟨rfl, List.mem_map_of_mem hitem⟩,
    find?_key_of_mem Prod.fst hitems hitem]
  rfl

/-- On another day the ledger reads as before. -/
theorem foldl_put_other (items : List (VisibilityMetric × Int)) (ledger : Ledger) {day other : Date}
    (hother : other ≠ day) (metric : VisibilityMetric) :
    items.foldl (Ledger.put · day) ledger metric other = ledger metric other := by
  induction items generalizing ledger with
  | nil => rfl
  | cons item rest ih =>
    rw [List.foldl_cons, ih]
    unfold Ledger.put
    exact if_neg fun heq => hother (Prod.mk.inj heq).2

/-! ## Rows that the columns take -/

theorem store_distinct {reading : SegmentReading} {revision : Nat} {content : List SegmentRow}
    (h : reading.store revision = .ok content) : reading.Distinct := by
  unfold SegmentReading.store bulkCreate at h
  obtain ⟨_, -, h⟩ := bind_eq_ok_iff.mp h
  obtain ⟨stored, hstored, h⟩ := bind_eq_ok_iff.mp h
  split at h
  · rename_i hkeys
    have hkept := forall₂_of_mapM_eq_ok hstored
    refine nodup_map_of_forall₂ hkept.flip hkeys fun row row' stored stored' hrow hrow' hsame => ?_
    have hid {row stored : SegmentRow} (hrow : row.store = .ok stored) :
        stored.segmentId = row.segmentId := by
      unfold SegmentRow.store at hrow
      obtain ⟨segmentId, hid, hrow⟩ := bind_eq_ok_iff.mp hrow
      obtain ⟨_, -, hrow⟩ := bind_eq_ok_iff.mp hrow
      obtain ⟨_, -, hrow⟩ := bind_eq_ok_iff.mp hrow
      cases hrow
      cases hcolumn : Column.positiveInteger row.segmentId with
      | ok value =>
        rw [hcolumn] at hid
        cases hid
        exact (Column.positiveInteger_eq_ok_iff.mp hcolumn).2
      | error error =>
        rw [hcolumn] at hid
        cases error <;> cases hid
    exact (hid hrow).trans (hsame.trans (hid hrow').symm)
  · cases h

/-! ## How a publication ends -/

/-- Each list stands on its own. -/
def AnyReading (_ _ : List SegmentRow) : Prop := True

section Reading

variable (setup : VisibilitySetup)

/-- The current revision of the day holds the reading. -/
def ReadingCurrent (db : VisibilityDb) (reading : SegmentReading) : Prop :=
  ∃ current, currentReading setup db reading.observedOn = some current ∧
    current.checksum = (reading.canonicalDigest setup).sha256

def FiguresInUse (db : VisibilityDb) (reading : SegmentReading) : Prop :=
  ∀ item ∈ availableTotals setup.casefold reading,
    currentValue db.observations item.1 reading.observedOn = some item.2

/-- The rows of the reading and its figures can be saved, as the next revision of the day. -/
structure ReadingStorable (db : VisibilityDb) (reading : SegmentReading) : Prop where
  rows : ∃ content, reading.store
    (SnapshotDraft.revision (currentReading setup db reading.observedOn)) = .ok content
  figures : ∀ item ∈ availableTotals setup.casefold reading,
    FigureFits db.observations reading.observedOn item

def readingKey (reading : SegmentReading) : String :=
  importKeyOf setup (smailyFacts setup) (reading.canonicalDigest setup)

/-- Nothing keeps a changed reading from being published. -/
structure ReadingPublishable (db : VisibilityDb) (reading : SegmentReading) : Prop where
  accepted : identityAccepted db.registry (setup.source .smaily)
    (reading.canonicalDigest setup) = true
  storable : ReadingStorable setup db reading
  fits : CountsFit ⟨reading.rowsAdded, 0, 0, []⟩
  new : importedBefore db.registry (readingKey setup reading) = false

/-- The revision is current, its figures are in use, and no other table changes. -/
structure ReadingWritten (reading : SegmentReading) (before after : VisibilityDb)
    (draft : SnapshotDraft (List SegmentRow)) : Prop where
  source : draft.source = setup.source .smaily
  day : draft.day = reading.observedOn
  checksum : draft.checksum = (reading.canonicalDigest setup).sha256
  storable : ReadingStorable setup before reading
  snapshots : after.smaily.snapshots = draft.publish before.smaily.snapshots
  observations : ObservationsSound after.observations
  ledger : ledgerOf after = (availableTotals setup.casefold reading).foldl
    (Ledger.put · reading.observedOn) (ledgerOf before)

variable {setup} {reading : SegmentReading} {db db' : VisibilityDb}
  {draft : SnapshotDraft (List SegmentRow)} {outage : DayOutage}

theorem currentReading_of_sameTables (hsame : SameTables db db') (day : Date) :
    currentReading setup db' day = currentReading setup db day := by
  rw [hsame]
  rfl

theorem writeReading_writes (hsame : SameTables db db') (h : ObservationsSound db.observations)
    (opened : SourceArtifact × ImportRun) :
    (writeReading setup outage reading (resolveAll setup.casefold reading) opened).wp
      (fun _ db₂ => db₂.registry = db'.registry ∧
        ∃ draft, ReadingWritten setup reading db db₂ draft)
      (fun _ _ => True) db' := by
  have hcurrent := @currentReading_of_sameTables setup db db' hsame reading.observedOn
  have hobservations : db'.observations = db.observations := by rw [hsame]
  have hsnapshots : db'.smaily.snapshots = db.smaily.snapshots := by rw [hsame]
  unfold writeReading
  rw [Proc.wp_bind]
  apply wp_reach _ fun _ => trivial
  rw [Proc.wp_bind, Proc.wp_get]
  dsimp only
  rw [Proc.wp_bind]
  apply wp_reach _ fun _ => trivial
  rw [Proc.wp_bind]
  apply wp_reach _ fun _ => trivial
  rw [Proc.wp_bind]
  apply wp_reach _ fun _ => trivial
  rw [Proc.wp_bind]
  apply Proc.wp_service
  · intro db₁ _ hok
    obtain ⟨content, hstored, heq⟩ := map_eq_ok_iff.mp hok
    cases heq
    apply Proc.wp_service
    · intro db₂ _ hok
      obtain ⟨rows, hput, heq⟩ := map_eq_ok_iff.mp hok
      cases heq
      rw [publishNewsletterMetrics_eq] at hput
      dsimp only at hput
      rw [hobservations] at hput
      obtain ⟨hsound, hledger⟩ := putFigures_puts h hput
      have hfits := (putFigures_iff (availableTotals_metrics setup.casefold reading)
        (fun _ hitem => availableTotals_source hitem) h).mp ⟨rows, hput⟩
      refine ⟨rfl, readingDraft setup reading opened db'.clock content, rfl, rfl, rfl,
        ⟨⟨content, ?_⟩,
        hfits⟩, ?_, hsound, hledger⟩
      · rw [← hcurrent]
        exact hstored
      · show SnapshotDraft.publish _ db'.smaily.snapshots = _
        rw [hsnapshots]
    · exact fun _ _ => trivial
  · exact fun _ _ => trivial

/-- Only rows or figures that the columns refuse stop the transaction. -/
theorem writeReading_returns (hsame : SameTables db db') (h : ObservationsSound db.observations)
    (hstorable : ReadingStorable setup db reading) (opened : SourceArtifact × ImportRun) :
    (writeReading setup .calm reading (resolveAll setup.casefold reading) opened).wp
      (fun _ db₂ => db₂.registry = db'.registry) (fun _ _ => False) db' := by
  obtain ⟨content, hcontent⟩ := hstorable.rows
  have hobservations : db'.observations = db.observations := by rw [hsame]
  unfold writeReading
  simp only [reach_calm, Proc.wp_bind, Proc.wp_get, Proc.wp_pure]
  rw [currentReading_of_sameTables hsame, hcontent]
  apply Proc.wp_service
  · intro db₁ _ hok
    cases hok
    obtain ⟨rows, hput⟩ := (@putFigures_iff setup reading opened db'.clock _ _
      (availableTotals_metrics setup.casefold reading) (fun _ hitem => availableTotals_source hitem)
      h).mpr hstorable.figures
    apply Proc.wp_service
    · intro db₂ _ hok
      obtain ⟨_, -, heq⟩ := map_eq_ok_iff.mp hok
      cases heq
      rfl
    · intro e hraised
      dsimp only at hraised
      rw [publishNewsletterMetrics_eq, hobservations] at hraised
      rw [show (resolveAll setup.casefold reading).filterMap (fun audience => audience.total.map
        fun total => (audience.metric, total)) = availableTotals setup.casefold reading from rfl,
        hput] at hraised
      cases hraised
  · exact fun _ hraised => by cases hraised

section Written

variable (h : ReadingWritten setup reading db db' draft)
  (hsound : SnapshotsSound AnyReading db.smaily.snapshots)

include h hsound

theorem ReadingWritten.sound : SnapshotsSound AnyReading db'.smaily.snapshots := by
  rw [h.snapshots]
  exact snapshots_publish hsound fun _ _ => trivial

theorem ReadingWritten.current :
    currentReading setup db' reading.observedOn = some (draft.next db.smaily.snapshots) := by
  have hself := @currentFor_publish_self _ AnyReading _ draft hsound fun _ _ => trivial
  unfold currentReading
  rw [h.snapshots, ← h.source, ← h.day]
  exact hself

theorem ReadingWritten.readingCurrent : ReadingCurrent setup db' reading :=
  ⟨_, h.current hsound, h.checksum⟩

theorem ReadingWritten.current_other {day : Date} (hother : day ≠ reading.observedOn) :
    currentReading setup db' day = currentReading setup db day := by
  unfold currentReading
  rw [h.snapshots]
  apply currentFor_publish_other hsound
  rw [h.source, h.day]
  exact fun heq => hother (Prod.mk.inj heq).2

omit hsound in
theorem ReadingWritten.figuresInUse : FiguresInUse setup db' reading := by
  intro item hitem
  show ledgerOf db' item.1 reading.observedOn = some item.2
  rw [h.ledger]
  exact foldl_put_mem (availableTotals_metrics _ _) hitem _ _

omit hsound in
theorem ReadingWritten.currentValue_other {day : Date} (hother : day ≠ reading.observedOn)
    (metric : VisibilityMetric) :
    currentValue db'.observations metric day = currentValue db.observations metric day := by
  show ledgerOf db' metric day = ledgerOf db metric day
  rw [h.ledger, foldl_put_other _ _ hother]

end Written

/-! ## One live reading -/

/-- The reading was published as the first content of its key. -/
structure ReadingPublished (setup : VisibilitySetup) (reading : SegmentReading)
    (db db' : VisibilityDb) : Prop where
  written : ∃ draft, ReadingWritten setup reading db db' draft
  registry : RunPublished db.registry (readingKey setup reading) db'.registry

/-- The current checksum is the one of the reading. -/
theorem any_checksum : (currentReading setup db reading.observedOn).any
    (·.checksum = (reading.canonicalDigest setup).sha256) = true ↔
    ReadingCurrent setup db reading := by
  unfold ReadingCurrent
  rw [Option.any_eq_true]
  simp only [decide_eq_true_eq]

section PublishReading

variable {report : SmailyReport} {audiences : List NewsletterAudience} {dryRun : Bool}
  {post : SmailyReport → VisibilityDb → Prop} {raised : VisibilityExn → VisibilityDb → Prop}

/-- A current reading is reported as unchanged. -/
theorem publishReading_current (hcurrent : ReadingCurrent setup db reading)
    (hpost : ∀ report, post report db) :
    (publishReading setup outage dryRun reading audiences report).wp post raised db := by
  unfold publishReading
  rw [Proc.wp_bind, Proc.wp_get]
  dsimp only
  rw [if_pos (any_checksum.mpr hcurrent)]
  exact hpost _

theorem publishReading_dryRun (hpost : ∀ report, post report db) :
    (publishReading setup outage true reading audiences report).wp post raised db := by
  unfold publishReading
  rw [Proc.wp_bind, Proc.wp_get]
  dsimp only
  rw [Proc.wp_ite]
  exact ⟨fun _ => hpost _, fun _ => hpost _⟩

/-- A changed reading is published, as a first revision or as a later one. -/
theorem publishReading_changed (hchanged : ¬ ReadingCurrent setup db reading)
    (hpublish : (publishDaily setup outage (smailyFacts setup)
      [[("detail", "Smaily lugemise avaldamine ebaõnnestus.")]] (reading.canonicalDigest setup)
      reading.rowsAdded (writeReading setup outage reading audiences)).wp
        (fun _ db' => ∀ report, post report db') raised db) :
    (publishReading setup outage false reading audiences report).wp post raised db := by
  unfold publishReading
  rw [Proc.wp_bind, Proc.wp_get]
  dsimp only
  rw [if_neg (mt any_checksum.mp hchanged), if_neg Bool.false_ne_true, Proc.wp_bind]
  exact Proc.wp_mono hpublish (fun _ _ hpost => hpost _) fun _ _ hraised => hraised

end PublishReading

/-- A live reading is current already, is published, or publishes nothing. -/
theorem publishReading_ends (hregistry : db.registry.Sound) (h : ObservationsSound db.observations)
    (report : SmailyReport) :
    (publishReading setup outage false reading (resolveAll setup.casefold reading) report).wp
      (fun _ db' => (ReadingCurrent setup db reading ∧ db' = db) ∨
        ReadingPublished setup reading db db')
      (fun _ db' => SameTables db db' ∧ NothingPublished db.registry db'.registry) db := by
  by_cases hcurrent : ReadingCurrent setup db reading
  · exact publishReading_current hcurrent fun _ => Or.inl ⟨hcurrent, rfl⟩
  · apply publishReading_changed hcurrent
    have hends := @publishDaily_ends setup outage (smailyFacts setup)
      (reading.canonicalDigest setup)
      [[("detail", "Smaily lugemise avaldamine ebaõnnestus.")]] reading.rowsAdded _ db
      (writeReading setup outage reading (resolveAll setup.casefold reading))
      (fun _ db' => ∃ draft, ReadingWritten setup reading db db' draft) hregistry
        (setup.digest_hex _)
      (fun _ db' registry hwritten => by
        obtain ⟨draft, hdraft⟩ := hwritten
        exact ⟨draft, hdraft.source, hdraft.day, hdraft.checksum, hdraft.storable, hdraft.snapshots,
          hdraft.observations, hdraft.ledger⟩)
      fun opened db₁ hsame => writeReading_writes hsame h opened
    apply Proc.wp_mono hends
    · rintro _ db' ⟨hwritten, hpublished, -⟩ report
      exact Or.inr ⟨hwritten, hpublished⟩
    · exact fun _ _ hraised => hraised

theorem smaily_names : ImporterNames SMAILY_IMPORTER_NAME SMAILY_SCHEMA_VERSION :=
  ⟨by decide, by decide, by decide, by decide⟩

/-- Undisturbed, a live reading goes through exactly if it is current or can be published. -/
theorem publishReading_iff (hregistry : db.registry.Sound) (h : ObservationsSound db.observations)
    (report : SmailyReport) :
    (publishReading setup .calm false reading (resolveAll setup.casefold reading) report).wp
      (fun _ _ => ReadingCurrent setup db reading ∨ ReadingPublishable setup db reading)
      (fun _ _ => ¬ (ReadingCurrent setup db reading ∨ ReadingPublishable setup db reading))
        db := by
  by_cases hcurrent : ReadingCurrent setup db reading
  · exact publishReading_current hcurrent fun _ => Or.inl hcurrent
  by_cases hpublishable : ReadingPublishable setup db reading
  · apply publishReading_changed hcurrent
    have hsucceeds := @publishDaily_succeeds setup (smailyFacts setup)
      (reading.canonicalDigest setup) [[("detail", "Smaily lugemise avaldamine ebaõnnestus.")]]
      reading.rowsAdded _ db
      (writeReading setup .calm reading (resolveAll setup.casefold reading)) hregistry
      (setup.digest_hex _) smaily_names hpublishable.accepted hpublishable.fits hpublishable.new
      fun opened db₁ hsame => writeReading_returns hsame h hpublishable.storable opened
    exact Proc.wp_mono hsucceeds (fun _ _ _ _ => Or.inr hpublishable) fun _ _ hfalse => hfalse.elim
  · -- what was published was publishable, and it was not
    have hnot : ¬ (ReadingCurrent setup db reading ∨ ReadingPublishable setup db reading) :=
      fun hor => hor.elim hcurrent hpublishable
    have haccepts : (publishReading setup .calm false reading (resolveAll setup.casefold reading)
        report).wp (fun _ _ => identityAccepted db.registry (setup.source .smaily)
          (reading.canonicalDigest setup) = true ∧ CountsFit ⟨reading.rowsAdded, 0, 0, []⟩)
        (fun _ _ => True) db := by
      apply publishReading_changed hcurrent
      exact Proc.wp_mono (publishDaily_accepts (setup.digest_hex _))
        (fun _ _ haccepted _ => haccepted)
        fun _ _ _ => trivial
    apply Proc.wp_mono (Proc.wp_and (publishReading_ends hregistry h report) haccepts)
    · rintro _ db' ⟨hends, haccepted, hfits⟩
      cases hends with
      | inl hsettled => exact absurd hsettled.1 hcurrent
      | inr hpublished =>
        obtain ⟨draft, hwritten⟩ := hpublished.written
        exact Or.inr ⟨haccepted, hwritten.storable, hfits, hpublished.registry.new⟩
    · exact fun _ _ _ => hnot

end Reading

end Dashkoda.Visibility
