import Dashkoda.Lib.Runs
import Dashkoda.Visibility.Publishing

/-!
# Entering audience figures by hand

A submission is checked, recognised by the digest of its canonical form, and otherwise published as
a whole.
-/

open Lib

namespace Dashkoda.Visibility

open Sources (Time)

def MANUAL_IMPORTER_NAME : String := "visibility_manual_entry"

def MANUAL_SCHEMA_VERSION : String := "1.0"

def MAX_NOTE_LENGTH : Nat := 500

/-- One filled-in form; a metric that is not in `values` was left blank. -/
structure VisibilitySubmission where
  observationDate : Date
  values : Dict String Int
  note : String
  deriving DecidableEq

namespace VisibilitySubmission

def supplied (submission : VisibilitySubmission) (metric : VisibilityMetric) : Option Int :=
  submission.values.get? metric.value

/-- `canonical_payload` -/
def canonicalPayload (submission : VisibilitySubmission) : Json :=
  .obj [("schema", .str MANUAL_SCHEMA_VERSION),
    ("observation_date", .str submission.observationDate.isoformat),
    ("note", .str (PyText.strip submission.note)),
    ("metrics", .obj (submission.values.entries.map fun entry => (entry.1, .int entry.2)))]

/-- What one source contributed, in the order of the metrics' keys. -/
def sourceMetrics (submission : VisibilitySubmission) (slug : SourceSlug) :
    List (VisibilityMetric × Int) :=
  sortOn (·.1.value) ((metricsForSource slug).filterMap fun metric =>
    (submission.supplied metric).map fun value => (metric, value))

/-- `source_payload` of a source that contributed the metrics. -/
def sourcePayload (submission : VisibilitySubmission) (slug : SourceSlug)
    (batchHash : String) : Json :=
  .obj [("schema", .str MANUAL_SCHEMA_VERSION),
    ("batch", .str batchHash),
    ("source", .str slug.value),
    ("observation_date", .str submission.observationDate.isoformat),
    ("note", .str (PyText.strip submission.note)),
    ("metrics", .obj ((submission.sourceMetrics slug).map fun item => (item.1.value, .int item.2)))]

def metricError (entry : String × Int) : Option String :=
  if (specFor entry.1).isNone then some ("Tundmatu näitaja: " ++ entry.1 ++ ".")
  else if entry.2 < 0 then some "Väärtus ei saa olla negatiivne."
  else none

/-- The errors of `build_preview`. -/
def errors (submission : VisibilitySubmission) (today : Date) : List String :=
  (if submission.values.isEmpty then ["Vähemalt üks näitaja tuleb sisestada."] else []) ++
  (if today < submission.observationDate then
    ["Vaatluse kuupäev ei saa olla tulevikus."] else []) ++
  (if MAX_NOTE_LENGTH < (PyText.strip submission.note).length then
    ["Märkus võib olla kuni " ++ toString MAX_NOTE_LENGTH ++ " tähemärki."] else []) ++
  submission.values.entries.filterMap metricError

end VisibilitySubmission

section Submit

variable (setup : VisibilitySetup)

/-- `canonical_sha256` -/
def canonicalSha256 (submission : VisibilitySubmission) : String :=
  (Core.canonicalChecksum setup.digestBytes submission.canonicalPayload).sha256

/-- `VisibilityEntryBatch.objects.filter(content_hash=...).first()`, in whatever order: hashes are
unique. -/
def alreadyPublished (submission : VisibilitySubmission) (db : VisibilityDb) :
    Option VisibilityEntryBatch :=
  db.batches.find? (·.contentHash = canonicalSha256 setup submission)

/-- One turn of the loop of `_publish_source`. -/
def publishMetric (draft : VisibilityMetric → Int → ObservationDraft) (written : Nat)
    (item : VisibilityMetric × Int) : VisibilityRun Nat := do
  let now := (← get).clock
  Proc.service fun db => (writeObservation setup.source now (draft item.1 item.2)
    db.observations).map fun observations => ({ db with observations }, ())
  return written + 1

/-- `_publish_source`; the answer is the number of observations. -/
def publishSource (submission : VisibilitySubmission) (batch : VisibilityEntryBatch)
    (slug : SourceSlug) : VisibilityRun Nat := do
  if submission.sourceMetrics slug = [] then return 0
  else
    let db ← get
    let identity := Core.canonicalChecksum setup.digestBytes
      (submission.sourcePayload slug batch.contentHash)
    let found := (Core.findPublishedArtifact db.registry (setup.source slug) identity.sha256
      MANUAL_IMPORTER_NAME).1
    let (artifact, run) ← onRegistry (Core.startRun (Core.digestText setup.digestBytes)
      (setup.source slug) identity found MANUAL_IMPORTER_NAME MANUAL_SCHEMA_VERSION false db.clock)
    let written ← (submission.sourceMetrics slug).foldlM (publishMetric setup fun metric value =>
      ⟨some batch.pk, setup.source slug, artifact.pk, run.pk, metric, value, .manual,
        submission.observationDate⟩) 0
    onRegistry (Core.completeRun run db.clock ⟨written, 0, 0, []⟩)
    return written

def newBatch (submission : VisibilitySubmission) (db : VisibilityDb) : VisibilityEntryBatch :=
  ⟨Table.nextPk db.batches, submission.observationDate,
    PyText.take MAX_NOTE_LENGTH (PyText.strip submission.note), canonicalSha256 setup submission⟩

def publishBatch (submission : VisibilitySubmission) : VisibilityRun VisibilityEntryBatch := do
  let batch := newBatch setup submission (← get)
  modify fun db => { db with batches := db.batches ++ [batch] }
  let _ ← SUBMISSION_SOURCE_SLUGS.foldlM (fun written slug => do
    return written + (← publishSource setup submission batch slug)) 0
  return batch

/-- `publish_submission`; the unique hash cannot be lost to another writer between the look-up and
the transaction of one process. -/
def publishSubmission (today : Date) (submission : VisibilitySubmission) :
    VisibilityRun VisibilityEntryBatch := do
  let db ← get
  match submission.errors today with
  | message :: _ => throw (.entryError message)
  | [] =>
    match alreadyPublished setup submission db with
    | some batch => return batch
    | none => Proc.atomically (publishBatch setup submission)

end Submit

/-! ## What a submission says about the figures -/

namespace Ledger

/-- What a submission supplies replaces what was there, and the rest stays. -/
def supply (ledger : Ledger) (submission : VisibilitySubmission) : Ledger :=
  fun metric observationDate =>
    if observationDate = submission.observationDate then
      (submission.supplied metric).or (ledger metric observationDate)
    else ledger metric observationDate

end Ledger

/-- Everything a submission supplies, source by source. -/
def VisibilitySubmission.items (submission : VisibilitySubmission) :
    List (VisibilityMetric × Int) := SUBMISSION_SOURCE_SLUGS.flatMap submission.sourceMetrics

theorem mem_sourceMetrics {submission : VisibilitySubmission} {slug : SourceSlug}
    {item : VisibilityMetric × Int} : item ∈ submission.sourceMetrics slug ↔
      item.1.sourceSlug = slug ∧ submission.supplied item.1 = some item.2 := by
  obtain ⟨metric, value⟩ := item
  unfold VisibilitySubmission.sourceMetrics metricsForSource
  rw [mem_sortOn, List.mem_filterMap]
  constructor
  · rintro ⟨other, hother, heq⟩
    obtain ⟨value', hvalue, hpair⟩ := Option.map_eq_some_iff.mp heq
    cases hpair
    exact ⟨of_decide_eq_true (List.mem_filter.mp hother).2, hvalue⟩
  · rintro ⟨hslug, hvalue⟩
    refine ⟨metric, List.mem_filter.mpr ⟨mem_METRICS metric, decide_eq_true hslug⟩, ?_⟩
    rw [show submission.supplied metric = some value from hvalue]
    rfl

theorem mem_items {submission : VisibilitySubmission} {item : VisibilityMetric × Int} :
    item ∈ submission.items ↔ submission.supplied item.1 = some item.2 := by
  unfold VisibilitySubmission.items
  rw [List.mem_flatMap]
  constructor
  · rintro ⟨slug, -, hitem⟩
    exact (mem_sourceMetrics.mp hitem).2
  · exact fun hvalue =>
      ⟨item.1.sourceSlug, sourceSlug_mem item.1, mem_sourceMetrics.mpr ⟨rfl, hvalue⟩⟩

/-- Putting every supplied figure is supplying the submission. -/
theorem foldl_put_items (submission : VisibilitySubmission) (ledger : Ledger) :
    submission.items.foldl (Ledger.put · submission.observationDate) ledger =
      ledger.supply submission := by
  funext metric observationDate
  rw [Ledger.foldl_put submission.supplied _ _ fun item hitem => mem_items.mp hitem]
  unfold Ledger.supply
  by_cases hdate : observationDate = submission.observationDate
  · rw [if_pos hdate]
    cases hvalue : submission.supplied metric with
    | some value =>
      have hitem : (metric, value) ∈ submission.items := mem_items.mpr hvalue
      rw [if_pos ⟨hdate, List.mem_map_of_mem hitem⟩]
      rfl
    | none =>
      rw [if_neg, Option.none_or]
      rintro ⟨-, hmem⟩
      obtain ⟨item, hitem, rfl⟩ := List.mem_map.mp hmem
      rw [mem_items.mp hitem] at hvalue
      cases hvalue
  · rw [if_neg fun h => hdate h.1, if_neg hdate]

/-! ## One submission -/

section Publish

variable {setup : VisibilitySetup} {submission : VisibilitySubmission} {db : VisibilityDb}

/-- A call of the registry, where only the other tables matter. -/
theorem wp_onRegistry_of_forall {α : Type} {call : Proc Sources.Exn Sources.Registry α}
    {post : α → VisibilityDb → Prop} {raised : VisibilityExn → VisibilityDb → Prop}
    (hpost : ∀ a registry, post a { db with registry })
    (hraised : ∀ e registry, raised e { db with registry }) :
    (onRegistry call).wp post raised db := by
  rw [wp_onRegistry]
  exact Proc.wp_of_forall (fun a r => hpost a r) fun e r => hraised (.registry e) r

/-- The observations after some items of a submission, from a store `before`. -/
structure Putting (date : Date) (before : VisibilityDb) (gone : List (VisibilityMetric × Int))
    (db : VisibilityDb) : Prop where
  batches : db.batches = before.batches
  sound : ObservationsSound db.observations
  ledger : ledgerOf db = gone.foldl (Ledger.put · date) (ledgerOf before)

theorem publishMetric_puts {date : Date} {before : VisibilityDb}
    {gone : List (VisibilityMetric × Int)} {draft : VisibilityMetric → Int → ObservationDraft}
    (hdraft : ∀ metric value, (draft metric value).metric = metric ∧
      (draft metric value).value = value ∧ (draft metric value).observationDate = date)
    (h : Putting date before gone db) (written : Nat) (item : VisibilityMetric × Int) :
    (publishMetric setup draft written item).wp
      (fun _ db' => Putting date before (gone ++ [item]) db') (fun _ _ => True) db := by
  unfold publishMetric
  rw [Proc.wp_bind, Proc.wp_get]
  dsimp only
  rw [Proc.wp_bind]
  apply Proc.wp_service
  · intro db' _ hok
    rw [Proc.wp_pure]
    obtain ⟨observations, hwrite, heq⟩ := map_eq_ok_iff.mp hok
    cases heq
    have hrows := writeObservation_eq_ok hwrite
    refine ⟨h.batches, ?_, ?_⟩
    · show ObservationsSound observations
      rw [hrows]
      exact publish_sound h.sound
    · funext metric observationDate
      show currentValue observations metric observationDate = _
      obtain ⟨hmetric, hvalue, hdate⟩ := hdraft item.1 item.2
      rw [hrows, currentValue_publish h.sound, hmetric, hvalue, hdate,
        List.foldl_append, ← h.ledger]
      rfl
  · exact fun _ _ => trivial

/-- Each source publishes what was supplied of its metrics. -/
theorem publishSource_puts {before : VisibilityDb} {gone : List (VisibilityMetric × Int)}
    (h : Putting submission.observationDate before gone db) (batch : VisibilityEntryBatch)
    (slug : SourceSlug) :
    (publishSource setup submission batch slug).wp
      (fun _ db' => Putting submission.observationDate before
        (gone ++ submission.sourceMetrics slug)
        db') (fun _ _ => True) db := by
  have hframe {db : VisibilityDb} {gone : List (VisibilityMetric × Int)}
      (h : Putting submission.observationDate before gone db) (registry : Sources.Registry) :
      Putting submission.observationDate before gone { db with registry } :=
    ⟨h.batches, h.sound, h.ledger⟩
  unfold publishSource
  split
  · rename_i hnone
    rw [Proc.wp_pure, hnone, List.append_nil]
    exact h
  · rw [Proc.wp_bind, Proc.wp_get]
    dsimp only
    rw [Proc.wp_bind]
    apply wp_onRegistry_of_forall
    · intro opened registry
      rw [Proc.wp_bind]
      refine Proc.wp_mono (@Proc.wp_foldlM _ _ (VisibilityMetric × Int) Nat _
        (fun items _ db' => Putting submission.observationDate before (gone ++ items) db')
        (fun _ _ => True) (submission.sourceMetrics slug) ?_ [] 0 { db with registry } ?_) ?_
        fun _ _ _ => trivial
      · intro items item written db' _ hputting
        rw [← List.append_assoc]
        apply publishMetric_puts _ hputting written item
        exact fun _ _ => ⟨rfl, rfl, rfl⟩
      · exact (List.append_nil gone).symm ▸ hframe h registry
      · intro written db' hputting
        rw [List.nil_append] at hputting
        rw [Proc.wp_bind]
        exact wp_onRegistry_of_forall (fun _ registry' => hframe hputting registry')
          fun _ _ => trivial
    · exact fun _ _ => trivial

/-- The transaction publishes the whole submission. -/
theorem publishBatch_supplies (h : ObservationsSound db.observations) :
    (publishBatch setup submission).wp
      (fun batch db' => batch = newBatch setup submission db ∧
        db'.batches = db.batches ++ [newBatch setup submission db] ∧
        ObservationsSound db'.observations ∧ ledgerOf db' = (ledgerOf db).supply submission)
      (fun _ _ => True) db := by
  let before : VisibilityDb := { db with batches := db.batches ++ [newBatch setup submission db] }
  unfold publishBatch
  rw [Proc.wp_bind, Proc.wp_get]
  dsimp only
  rw [Proc.wp_bind, Proc.wp_modify]
  beta_reduce
  rw [Proc.wp_bind]
  refine Proc.wp_mono (@Proc.wp_foldlM _ _ SourceSlug Nat _ (fun slugs _ db' =>
    Putting submission.observationDate before (slugs.flatMap submission.sourceMetrics) db')
    (fun _ _ => True) SUBMISSION_SOURCE_SLUGS ?_ [] 0 before ⟨rfl, h, rfl⟩) ?_ fun _ _ _ => trivial
  · intro slugs slug written db' _ hputting
    rw [Proc.wp_bind]
    apply Proc.wp_mono (publishSource_puts hputting _ slug)
    · intro count db'' hnext
      rw [Proc.wp_pure, List.flatMap_append, List.flatMap_singleton]
      exact hnext
    · exact fun _ _ _ => trivial
  · intro _ db' hputting
    rw [Proc.wp_pure]
    refine ⟨rfl, hputting.batches, hputting.sound, ?_⟩
    rw [hputting.ledger, List.nil_append]
    exact foldl_put_items submission (ledgerOf db)

/-- How a call ends: with everything it supplied in use, recognised, or refused. -/
theorem publishSubmission_ends (h : ObservationsSound db.observations) (today : Date) :
    (publishSubmission setup today submission).wp
      (fun _ db' => (submission.errors today = [] ∧
          (alreadyPublished setup submission db).isSome ∧ db' = db) ∨
        (alreadyPublished setup submission db = none ∧ ObservationsSound db'.observations ∧
          ledgerOf db' = (ledgerOf db).supply submission))
      (fun _ db' => db' = db ∧
        (submission.errors today ≠ [] ∨ alreadyPublished setup submission db = none)) db := by
  unfold publishSubmission
  rw [Proc.wp_bind, Proc.wp_get]
  dsimp only
  cases herrors : submission.errors today with
  | cons message rest => exact ⟨rfl, Or.inl (List.cons_ne_nil message rest)⟩
  | nil =>
    dsimp only
    cases hfound : alreadyPublished setup submission db with
    | some batch => exact Or.inl ⟨rfl, rfl, rfl⟩
    | none =>
      dsimp only
      rw [Proc.wp_atomically]
      apply Proc.wp_mono (publishBatch_supplies h)
      · exact fun _ db' hpost => Or.inr ⟨rfl, hpost.2.2⟩
      · exact fun _ _ _ => ⟨rfl, Or.inr rfl⟩

end Publish

/-! ## Runs -/

/-- One confirmed form, with the moment and the day of the call. -/
structure Submitting where
  now : Time
  today : Date
  submission : VisibilitySubmission

/-- The store, and the submissions that were returned without an error, the newest first. -/
structure Submitted where
  db : VisibilityDb
  returned : List VisibilitySubmission

def Submitted.initial : Submitted := ⟨VisibilityDb.empty, []⟩

/-- The figure of the newest submission that supplied the metric for the date. -/
def lastSupplied (returned : List VisibilitySubmission) : Ledger := fun metric observationDate =>
  returned.findSome? fun submission =>
    if submission.observationDate = observationDate then submission.supplied metric else none

theorem lastSupplied_cons (submission : VisibilitySubmission)
    (returned : List VisibilitySubmission) :
    lastSupplied (submission :: returned) = (lastSupplied returned).supply submission := by
  funext metric observationDate
  unfold lastSupplied Ledger.supply
  rw [List.findSome?_cons]
  by_cases hdate : observationDate = submission.observationDate
  · rw [if_pos hdate.symm, if_pos hdate]
    cases submission.supplied metric <;> rfl
  · rw [if_neg fun h => hdate h.symm, if_neg hdate]

section Run

variable (setup : VisibilitySetup)

def submit (s : Submitted) (call : Submitting) : Submitted :=
  match publishSubmission setup call.today call.submission { s.db with clock := call.now } with
  | (.ok _, db) => ⟨db, call.submission :: s.returned⟩
  | (.error _, db) => ⟨db, s.returned⟩

/-- Every figure in use is the last one supplied, and no metric has two for one date. -/
structure LastWins (s : Submitted) : Prop where
  current : ledgerOf s.db = lastSupplied s.returned
  atMostOne : ∀ metric observationDate,
    ((Lineage.history (metric, observationDate) s.db.observations).filter
      (·.isCurrentForDate)).length ≤ 1

/-- The submission was never published before, or each of its figures is in use. -/
def Fresh (s : Submitted) (call : Submitting) : Prop :=
  call.submission.errors call.today = [] → (alreadyPublished setup call.submission s.db).isSome →
    ∀ metric value, call.submission.supplied metric = some value →
      ledgerOf s.db metric call.submission.observationDate = some value

variable {setup} {s : Submitted}

theorem supply_eq_self_iff {ledger : Ledger} {submission : VisibilitySubmission} :
    ledger = ledger.supply submission ↔ ∀ metric value, submission.supplied metric = some value →
      ledger metric submission.observationDate = some value := by
  constructor
  · intro hsame metric value hvalue
    rw [hsame]
    unfold Ledger.supply
    rw [if_pos rfl, hvalue]
    rfl
  · intro hin
    funext metric observationDate
    unfold Ledger.supply
    by_cases hdate : observationDate = submission.observationDate
    · rw [if_pos hdate]
      cases hvalue : submission.supplied metric with
      | none => rw [Option.none_or]
      | some value => rw [hdate, hin metric value hvalue]; rfl
    · rw [if_neg hdate]

/-- How one call leaves the store and the list. -/
inductive SubmitEnds (setup : VisibilitySetup) (s : Submitted) (call : Submitting) :
    Submitted → Prop
  | refused (db : VisibilityDb) : db.observations = s.db.observations → Fresh setup s call →
      SubmitEnds setup s call ⟨db, s.returned⟩
  | recognised (db : VisibilityDb) : db.observations = s.db.observations →
      call.submission.errors call.today = [] →
      (alreadyPublished setup call.submission s.db).isSome →
      SubmitEnds setup s call ⟨db, call.submission :: s.returned⟩
  | published (db : VisibilityDb) : ObservationsSound db.observations → Fresh setup s call →
      ledgerOf db = (ledgerOf s.db).supply call.submission →
      SubmitEnds setup s call ⟨db, call.submission :: s.returned⟩

theorem submit_ends (h : ObservationsSound s.db.observations) (call : Submitting) :
    SubmitEnds setup s call (submit setup s call) := by
  have hfresh (hnone : alreadyPublished setup call.submission s.db = none) :
      Fresh setup s call := by
    intro _ hsome
    rw [hnone] at hsome
    cases hsome
  have hends := @publishSubmission_ends setup call.submission { s.db with clock := call.now } h
    call.today
  unfold Proc.wp at hends
  unfold submit
  split at hends
  · rename_i batch db' hrun
    rw [hrun]
    cases hends with
    | inl hrecognised =>
      obtain ⟨herrors, hsome, rfl⟩ := hrecognised
      exact SubmitEnds.recognised _ rfl herrors hsome
    | inr hpublished =>
      obtain ⟨hnone, hsound, hledger⟩ := hpublished
      exact SubmitEnds.published db' hsound (hfresh hnone) hledger
  · rename_i e db' hrun
    rw [hrun]
    obtain ⟨rfl, hcause⟩ := hends
    refine SubmitEnds.refused _ rfl ?_
    cases hcause with
    | inl hrefused => exact fun herrors => absurd herrors hrefused
    | inr hnone => exact hfresh hnone

theorem submit_sound (s : Submitted) (call : Submitting) (h : ObservationsSound s.db.observations) :
    ObservationsSound (submit setup s call).db.observations := by
  have hends := @submit_ends setup s h call
  generalize submit setup s call = after at hends ⊢
  cases hends with
  | refused db hsame _ => exact hsame ▸ h
  | recognised db hsame _ _ => exact hsame ▸ h
  | published db hsound _ _ => exact hsound

theorem ledgerOf_congr {db db' : VisibilityDb} (h : db'.observations = db.observations) :
    ledgerOf db' = ledgerOf db := by
  unfold ledgerOf
  rw [h]

theorem lastWins_iff (h : ObservationsSound s.db.observations) :
    LastWins s ↔ ledgerOf s.db = lastSupplied s.returned :=
  ⟨LastWins.current, fun hcurrent => ⟨hcurrent, h.at_most_one⟩⟩

/-- A call keeps the promise exactly if it is fresh. -/
theorem submit_lastWins_iff (s : Submitted) (call : Submitting)
    (h : ObservationsSound s.db.observations) (hwins : LastWins s) :
    LastWins (submit setup s call) ↔ Fresh setup s call := by
  rw [lastWins_iff (submit_sound s call h)]
  have hledger := hwins.current
  have hends := @submit_ends setup s h call
  generalize submit setup s call = after at hends ⊢
  cases hends with
  | refused db hsame hfresh =>
    exact iff_of_true ((ledgerOf_congr hsame).trans hledger) hfresh
  | recognised db hsame herrors hsome =>
    have hnow : ledgerOf db = ledgerOf s.db := ledgerOf_congr hsame
    show ledgerOf db = lastSupplied (call.submission :: s.returned) ↔ _
    rw [lastSupplied_cons, ← hledger, hnow, supply_eq_self_iff]
    exact ⟨fun hin _ _ => hin, fun hfresh => hfresh herrors hsome⟩
  | published db hsound hfresh hsupplied =>
    refine iff_of_true ?_ hfresh
    show ledgerOf db = lastSupplied (call.submission :: s.returned)
    rw [hsupplied, hledger, lastSupplied_cons]

theorem initial_lastWins : LastWins Submitted.initial :=
  ⟨rfl, fun _ _ => Nat.zero_le 1⟩

/-- The last confirmed submission wins after every call exactly as long as no call repeats an old
submission whose figures have been corrected since. -/
theorem submissions_win_iff (setup : VisibilitySetup) (history : List Submitting) :
    Throughout (submit setup) LastWins Submitted.initial history ↔
      StepsMeet (submit setup) (Fresh setup) Submitted.initial history :=
  throughout_iff_stepsMeet submit_sound submit_lastWins_iff history Lineage.sound_nil
    initial_lastWins

/-- No metric has two figures in use for a date, whatever was submitted. -/
theorem submissions_one_current (history : List Submitting) (metric : VisibilityMetric)
    (observationDate : Date) :
    ((Lineage.history (metric, observationDate)
      (run (submit setup) Submitted.initial history).db.observations).filter
        (·.isCurrentForDate)).length ≤ 1 :=
  ObservationsSound.at_most_one (@run_keeps Submitted Submitting (submit setup)
    (fun s => ObservationsSound s.db.observations) submit_sound history Submitted.initial
    Lineage.sound_nil) metric observationDate

end Run

/-! ## A figure corrected back -/

def sampleDate : Date := .of 2026 3 1

def followers (count : Int) : VisibilitySubmission :=
  ⟨sampleDate, ⟨[("facebook_followers", count)], List.nodup_singleton _⟩, ""⟩

/-- The figure is corrected and then corrected back. -/
def correctedBack : List Submitting :=
  [⟨0, sampleDate, followers 100⟩, ⟨1, sampleDate, followers 101⟩, ⟨2, sampleDate, followers 100⟩]

theorem correctedBack_loses :
    (run (submit sampleSetup) Submitted.initial correctedBack).returned =
        [followers 100, followers 101, followers 100] ∧
      lastSupplied (run (submit sampleSetup) Submitted.initial correctedBack).returned
        .facebookFollowers sampleDate = some 100 ∧
      ledgerOf (run (submit sampleSetup) Submitted.initial correctedBack).db .facebookFollowers
        sampleDate = some 101 := by
  decide +kernel

end Dashkoda.Visibility
