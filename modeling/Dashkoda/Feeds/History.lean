import Dashkoda.Feeds.ArchivedTopicSync
import Dashkoda.Lib.Runs

/-!
# The public feeds over one registry

Seven feeds publish what they read, each into its own tables, over the registry they share.  After
any history of their runs, a live run shows what it collected exactly when that was never published
before or is what is current.
-/

open Lib

namespace Dashkoda.Feeds

open Core
open ArchivedTopics
  (ArchiveCollector ArchiveContent ArchiveReading contentOf complete previousSnapshot
  synchronizeArchivedTopics)

inductive FeedName where
  | membership
  | news
  | events
  | currentTopics
  | archivedTopics
  | legalWork
  | eventProgramme
  deriving DecidableEq, Repr

def FeedName.all : List FeedName :=
  [.membership, .news, .events, .currentTopics, .archivedTopics, .legalWork, .eventProgramme]

theorem FeedName.mem_all (f : FeedName) : f ∈ FeedName.all := by cases f <;> decide

structure WorkbookReader (κ : Type) where
  parse : List UInt8 → Except FeedExn κ
  rowCount : κ → Nat
  warnings : κ → List Sources.JsonObject
  violations : κ → List String
  stamp : κ → String

def FEED_COLLAPSE_MIN_RATIO : ℚ := 1 / 2

def legalWorkImporter {κ : Type} (source : Nat) (reader : WorkbookReader κ) :
    WorkbookImporter κ where
  source
  importerName := "legal_work_xlsx"
  schemaVersion := "1.0"
  parse := reader.parse
  minimumRatio := FEED_COLLAPSE_MIN_RATIO
  importError := "LegalWorkImportError"
  noun := "kirjet"
  rowCount := reader.rowCount
  warnings := reader.warnings
  violations := reader.violations
  stamp := reader.stamp

def eventProgrammeImporter {κ : Type} (source : Nat) (reader : WorkbookReader κ) :
    WorkbookImporter κ where
  source
  importerName := "event_programme_xlsx"
  schemaVersion := "1.0"
  parse := reader.parse
  minimumRatio := FEED_COLLAPSE_MIN_RATIO
  importError := "EventProgrammeImportError"
  noun := "sündmust"
  rowCount := reader.rowCount
  warnings := reader.warnings
  violations := reader.violations
  stamp := reader.stamp

/-- The digest, the text of an instant, the sources and the two workbook readers. -/
structure FeedSetup (L E : Type) where
  digestBytes : List UInt8 → String
  instantText : Sources.Time → String
  source : FeedName → Nat
  legalWork : WorkbookReader L
  eventProgramme : WorkbookReader E

variable {L E : Type} (setup : FeedSetup L E)

namespace FeedSetup

def membership : PublicFeed Nat := Membership.feed (setup.source .membership)

def news : PublicFeed (List News.NewsEntry) := News.feed setup.instantText (setup.source .news)

def events : PublicFeed (List Events.EventEntry) :=
  Events.feed setup.instantText (setup.source .events)

def currentTopics : PublicFeed (List CurrentTopics.CurrentTopicEntry) :=
  CurrentTopics.feed (setup.source .currentTopics)

def archivedTopics : PublicFeed ArchiveContent := ArchivedTopics.feed (setup.source .archivedTopics)

def legalWorkImporter : WorkbookImporter L :=
  Feeds.legalWorkImporter (setup.source .legalWork) setup.legalWork

def eventProgrammeImporter : WorkbookImporter E :=
  Feeds.eventProgrammeImporter (setup.source .eventProgramme) setup.eventProgramme

def facts : FeedName → FeedFacts
  | .membership => setup.membership.toFeedFacts
  | .news => setup.news.toFeedFacts
  | .events => setup.events.toFeedFacts
  | .currentTopics => setup.currentTopics.toFeedFacts
  | .archivedTopics => setup.archivedTopics.toFeedFacts
  | .legalWork => setup.legalWorkImporter.toFeedFacts
  | .eventProgramme => setup.eventProgrammeImporter.toFeedFacts

def feeds : List FeedFacts := FeedName.all.map setup.facts

end FeedSetup

/-! ## One store for all of them -/

/-- What a feed's rows state. -/
abbrev Content (L E : Type) : FeedName → Type
  | .membership => Nat
  | .news => List News.NewsEntry
  | .events => List Events.EventEntry
  | .currentTopics => List CurrentTopics.CurrentTopicEntry
  | .archivedTopics => ArchiveContent
  | .legalWork => L
  | .eventProgramme => E

/-- What a run collects: content, or for the workbooks the bytes it is read from. -/
abbrev Reading : FeedName → Type
  | .membership => Nat
  | .news => List News.NewsEntry
  | .events => List Events.EventEntry
  | .currentTopics => List CurrentTopics.CurrentTopicEntry
  | .archivedTopics => ArchiveReading
  | .legalWork => List UInt8
  | .eventProgramme => List UInt8

/-- What the outside answers in one run, and for the workbooks whether a collapse is allowed. -/
abbrev Visit : FeedName → Type
  | .membership => Collector Nat
  | .news => Collector (List News.NewsEntry)
  | .events => Except CollectFailure (List Events.EventEntry)
  | .currentTopics => Except CollectFailure (List CurrentTopics.CurrentTopicEntry)
  | .archivedTopics => ArchiveCollector
  | .legalWork => Except FetchFailure (List UInt8) × Bool
  | .eventProgramme => Except FetchFailure (List UInt8) × Bool

structure DashDb (L E : Type) where
  registry : Sources.Registry
  clock : Sources.Time
  tables : ∀ f, FeedTable (Content L E f)

namespace DashDb

def empty : DashDb L E := ⟨⟨[], []⟩, 0, fun _ => .empty⟩

/-- What one feed sees of the store. -/
def part (f : FeedName) (db : DashDb L E) : FeedDb (Content L E f) :=
  { toFeedTable := db.tables f, registry := db.registry, clock := db.clock }

def put (f : FeedName) (part : FeedDb (Content L E f)) (db : DashDb L E) : DashDb L E :=
  { registry := part.registry
    clock := part.clock
    tables := Function.update db.tables f part.toFeedTable }

end DashDb

/-- A feed without conditional requests sends no validators and stores none. -/
def unconditional {κ : Type} (answer : Except CollectFailure κ) : Collector κ := fun _ _ =>
  answer.map fun content => some ⟨content, none⟩

def runFeed : ∀ f, Visit f → Bool → FeedRun (Content L E f) FeedResult
  | .membership, collect, dryRun =>
    SourceOutcome.result <$> synchronizeFeed setup.digestBytes setup.membership collect dryRun
  | .news, collect, dryRun =>
    SourceOutcome.result <$> synchronizeFeed setup.digestBytes setup.news collect dryRun
  | .events, answer, dryRun => SourceOutcome.result <$>
    synchronizeFeed setup.digestBytes setup.events (unconditional answer) dryRun
  | .currentTopics, answer, dryRun => SourceOutcome.result <$>
    synchronizeFeed setup.digestBytes setup.currentTopics (unconditional answer) dryRun
  | .archivedTopics, collect, dryRun => (·.result) <$>
    synchronizeArchivedTopics setup.digestBytes (setup.source .archivedTopics) collect dryRun
  | .legalWork, visit, dryRun => SyncOutcome.result <$>
    synchronizePublicWorkbook setup.digestBytes setup.legalWorkImporter visit.1 dryRun visit.2
  | .eventProgramme, visit, dryRun => SyncOutcome.result <$>
    synchronizePublicWorkbook setup.digestBytes setup.eventProgrammeImporter visit.1 dryRun visit.2

def synchronize (f : FeedName) (visit : Visit f) (dryRun : Bool) :
    Proc FeedExn (DashDb L E) FeedResult :=
  Proc.onPart (DashDb.part f) (DashDb.put f) id (runFeed setup f visit dryRun)

inductive FeedAction where
  | wait (elapsed : Sources.Time)
  | sync (f : FeedName) (visit : Visit f) (dryRun : Bool)

/-- Time passes, or one feed runs; a run that raises leaves what it wrote. -/
def feedStep (db : DashDb L E) : FeedAction → DashDb L E
  | .wait elapsed => { db with clock := db.clock + elapsed }
  | .sync f visit dryRun => (synchronize setup f visit dryRun db).2

/-! ## What a run collected, and whether it shows -/

/-- What a run that starts in the store collects, if it collects anything. -/
def collected : ∀ f, Visit f → FeedDb (Content L E f) → Option (Reading f)
  | .membership, collect, db => answered collect (sentValidators (setup.source .membership) db)
  | .news, collect, db => answered collect (sentValidators (setup.source .news) db)
  | .events, answer, _ => answer.toOption
  | .currentTopics, answer, _ => answer.toOption
  | .archivedTopics, collect, db => (collect (previousSnapshot db)).toOption
  | .legalWork, visit, _ => visit.1.toOption
  | .eventProgramme, visit, _ => visit.1.toOption
where
  /-- The content of an answer other than `304`. -/
  answered {κ : Type} (collect : Collector κ) (sent : String × String) : Option κ :=
    match collect sent.1 sent.2 with
    | .ok (some collection) => some collection.content
    | _ => none

/-- The checksum the run recognises what it collected by. -/
def checksum : ∀ f, Reading f → FeedDb (Content L E f) → String
  | .membership, content, _ => (setup.membership.identity setup.digestBytes content).sha256
  | .news, content, _ => (setup.news.identity setup.digestBytes content).sha256
  | .events, content, _ => (setup.events.identity setup.digestBytes content).sha256
  | .currentTopics, content, _ => (setup.currentTopics.identity setup.digestBytes content).sha256
  | .archivedTopics, reading, db => (setup.archivedTopics.identity setup.digestBytes
    (contentOf (previousSnapshot db) reading)).sha256
  | .legalWork, workbook, _ => (downloadIdentity setup.digestBytes workbook).sha256
  | .eventProgramme, workbook, _ => (downloadIdentity setup.digestBytes workbook).sha256

/-- The source's single current row states what the run that started in `before` collected. -/
def States : ∀ f, Reading f → FeedDb (Content L E f) → FeedDb (Content L E f) → Prop
  | .membership, content, _, db => setup.membership.States content db
  | .news, content, _, db => setup.news.States content db
  | .events, content, _, db => setup.events.States content db
  | .currentTopics, content, _, db => setup.currentTopics.States content db
  | .archivedTopics, reading, before, db =>
    setup.archivedTopics.States (contentOf (previousSnapshot before) reading) db
  | .legalWork, workbook, _, db => setup.legalWorkImporter.States workbook db
  | .eventProgramme, workbook, _, db => setup.eventProgrammeImporter.States workbook db

/-- Nothing but an earlier publication could keep what was collected from being published: it is
plausible, it fits its columns, and the workbook parses and does not collapse. -/
def Publishable : ∀ f, Visit f → Reading f → FeedDb (Content L E f) → Prop
  | .membership, _, content, db => setup.membership.Publishable setup.digestBytes content db
  | .news, _, content, db => setup.news.Publishable setup.digestBytes content db
  | .events, _, content, db => setup.events.Publishable setup.digestBytes content db
  | .currentTopics, _, content, db => setup.currentTopics.Publishable setup.digestBytes content db
  | .archivedTopics, _, reading, db => setup.archivedTopics.Publishable setup.digestBytes
    (contentOf (previousSnapshot db) reading) db
  | .legalWork, visit, workbook, db =>
    setup.legalWorkImporter.Publishable setup.digestBytes workbook visit.2 db
  | .eventProgramme, visit, workbook, db =>
    setup.eventProgrammeImporter.Publishable setup.digestBytes workbook visit.2 db

/-- A run that did not fail leaves what it collected as the current content, and nothing that is
publishable fails. -/
def Shows (f : FeedName) (visit : Visit f) (reading : Reading f) (before : FeedDb (Content L E f))
    (result : FeedResult) (db : FeedDb (Content L E f)) : Prop :=
  (result ≠ .failed → States setup f reading before db) ∧
    (Publishable setup f visit reading before → result ≠ .failed)

/-- Work is left on the archive after this reading. -/
def WorkLeft : ∀ f, Reading f → FeedDb (Content L E f) → Prop
  | .archivedTopics, reading, db => complete (previousSnapshot db) reading = false
  | _, _, _ => False

/-- What was collected was never published before, or it is what is current and, for the archive,
no work is left; with work left it must not be publishable at all. -/
def Showable (f : FeedName) (visit : Visit f) (reading : Reading f)
    (db : FeedDb (Content L E f)) : Prop :=
  publishedBefore db.registry (setup.facts f) (checksum setup f reading db) = true →
    (¬ WorkLeft f reading db ∧ States setup f reading db db) ∨
      (WorkLeft f reading db ∧ ¬ Publishable setup f visit reading db)

/-! ## The importers -/

def FeedName.importerName : FeedName → String
  | .membership => "koda_membership_count"
  | .news => "koda_news_rss"
  | .events => "koda_events_calendar"
  | .currentTopics => "koda_current_topics"
  | .archivedTopics => "koda_archived_topics"
  | .legalWork => "legal_work_xlsx"
  | .eventProgramme => "event_programme_xlsx"

theorem FeedName.importerName_injective : Function.Injective FeedName.importerName := by
  intro f g h
  cases f <;> cases g <;> first | rfl | (revert h; decide)

theorem FeedName.importerNames (f : FeedName) : ImporterNames f.importerName "1.0" := by
  cases f <;> constructor <;> decide

theorem FeedName.strip_importerName (f : FeedName) :
    PyText.strip f.importerName = f.importerName := by
  cases f <;> decide

section Facts

variable {setup}

theorem facts_importerName (f : FeedName) : (setup.facts f).importerName = f.importerName := by
  cases f <;> rfl

theorem facts_schemaVersion (f : FeedName) : (setup.facts f).schemaVersion = "1.0" := by
  cases f <;> rfl

theorem facts_mem (f : FeedName) : setup.facts f ∈ setup.feeds :=
  List.mem_map_of_mem f.mem_all

/-- Each feed has an importer of its own. -/
theorem facts_of_importerName : ∀ f ∈ setup.feeds, ∀ g ∈ setup.feeds,
    f.importerName = g.importerName → f = g := by
  intro f hf g hg hname
  obtain ⟨f, -, rfl⟩ := List.mem_map.mp hf
  obtain ⟨g, -, rfl⟩ := List.mem_map.mp hg
  rw [facts_importerName, facts_importerName] at hname
  rw [FeedName.importerName_injective hname]

theorem textsApart : TextsApart setup.feeds := by
  refine textsApart_of_names "1.0" ?_ (by decide) ?_ facts_of_importerName
  · intro facts hfacts
    obtain ⟨f, -, rfl⟩ := List.mem_map.mp hfacts
    exact facts_schemaVersion f
  · intro facts hfacts
    obtain ⟨f, -, rfl⟩ := List.mem_map.mp hfacts
    rw [facts_importerName]
    exact f.strip_importerName

end Facts

/-! ## Any history of the feeds -/

section History

variable {setup}

/-- One run of a feed leaves the registry with runs of the feeds only. -/
theorem keeps_runFeed (hhex : ∀ bytes, Sources.isSha256Hex (setup.digestBytes bytes) = true)
    (f : FeedName) (visit : Visit f) (dryRun : Bool) :
    Proc.Keeps (FeedDb.Attributed setup.digestBytes setup.feeds)
      (runFeed setup f visit dryRun) := by
  have hfacts : setup.facts f ∈ setup.feeds := facts_mem f
  cases f with
  | membership => exact Proc.keeps_map _ (keeps_synchronizeFeed hhex hfacts _ _)
  | news => exact Proc.keeps_map _ (keeps_synchronizeFeed hhex hfacts _ _)
  | events => exact Proc.keeps_map _ (keeps_synchronizeFeed hhex hfacts _ _)
  | currentTopics => exact Proc.keeps_map _ (keeps_synchronizeFeed hhex hfacts _ _)
  | archivedTopics =>
    exact Proc.keeps_map _ (ArchivedTopics.keeps_synchronizeArchivedTopics hhex hfacts _ _)
  | legalWork => exact Proc.keeps_map _ (keeps_synchronizePublicWorkbook hhex hfacts _ _ _)
  | eventProgramme => exact Proc.keeps_map _ (keeps_synchronizePublicWorkbook hhex hfacts _ _ _)

theorem feedStep_attributed
    (hhex : ∀ bytes, Sources.isSha256Hex (setup.digestBytes bytes) = true) (db : DashDb L E)
    (act : FeedAction) (h : Attributed (digestText setup.digestBytes) setup.feeds db.registry) :
    Attributed (digestText setup.digestBytes) setup.feeds (feedStep setup db act).registry := by
  cases act with
  | wait elapsed => exact h
  | sync f visit dryRun =>
    have hkeeps : (runFeed setup f visit dryRun).wp _ _ (db.part f) :=
      keeps_runFeed hhex f visit dryRun (db.part f) h
    have hsync : (synchronize setup f visit dryRun).wp
        (fun _ db' => Attributed (digestText setup.digestBytes) setup.feeds db'.registry)
        (fun _ db' => Attributed (digestText setup.digestBytes) setup.feeds db'.registry) db := by
      unfold synchronize
      rw [Proc.wp_onPart]
      exact hkeeps
    exact hsync.left

theorem collect_of_answered {κ : Type} {collect : Collector κ} {sent : String × String}
    {content : κ}
    (h : collected.answered collect sent = some content) :
    ∃ validators, collect sent.1 sent.2 = .ok (some ⟨content, validators⟩) := by
  unfold collected.answered at h
  split at h
  · rename_i collection hanswer
    exact ⟨collection.validators, hanswer.trans (Option.some.inj h ▸ rfl)⟩
  · cases h

theorem eq_ok_of_toOption {ε α : Type} {x : Except ε α} {a : α} (h : x.toOption = some a) :
    x = .ok a := by
  cases x with
  | error e => cases h
  | ok b => exact congrArg Except.ok (Option.some.inj h)

/-- Apart from the archive no feed has work left. -/
theorem showable_iff {f : FeedName} {visit : Visit f} {reading : Reading f}
    {db : FeedDb (Content L E f)} (hnone : ¬ WorkLeft f reading db) :
    Showable setup f visit reading db ↔
      (publishedBefore db.registry (setup.facts f) (checksum setup f reading db) = true →
        States setup f reading db db) := by
  unfold Showable
  simp only [hnone, not_false_eq_true, true_and, false_and, or_false]

/-- A live run of one feed over a registry that holds runs of the feeds only. -/
theorem runFeed_shows_iff
    (hhex : ∀ bytes, Sources.isSha256Hex (setup.digestBytes bytes) = true) (f : FeedName)
    (visit : Visit f) (reading : Reading f) (db : FeedDb (Content L E f))
    (h : Attributed (digestText setup.digestBytes) setup.feeds db.registry)
    (hcollected : collected setup f visit db = some reading)
    (hapart : KeysApart (digestText setup.digestBytes) setup.feeds db.registry (setup.facts f)
      (checksum setup f reading db)) :
    (runFeed setup f visit false).wp (Shows setup f visit reading db) (fun _ _ => False) db ↔
      Showable setup f visit reading db := by
  have hfacts : setup.facts f ∈ setup.feeds := facts_mem f
  have hnames : ImporterNames (setup.facts f).importerName (setup.facts f).schemaVersion := by
    rw [facts_importerName, facts_schemaVersion]
    exact f.importerNames
  cases f with
  | membership =>
    obtain ⟨validators, hanswer⟩ := collect_of_answered hcollected
    unfold runFeed
    rw [Proc.wp_map]
    refine Iff.trans ?_ (showable_iff id).symm
    exact PublicFeed.synchronizeFeed_shows_iff hhex hnames textsApart hfacts h hapart hanswer
  | news =>
    obtain ⟨validators, hanswer⟩ := collect_of_answered hcollected
    unfold runFeed
    rw [Proc.wp_map]
    refine Iff.trans ?_ (showable_iff id).symm
    exact PublicFeed.synchronizeFeed_shows_iff hhex hnames textsApart hfacts h hapart hanswer
  | events =>
    have hanswer : unconditional visit (sentValidators (setup.source .events) db).1
        (sentValidators (setup.source .events) db).2 = .ok (some ⟨reading, none⟩) := by
      unfold unconditional
      rw [eq_ok_of_toOption hcollected]
      rfl
    unfold runFeed
    rw [Proc.wp_map]
    refine Iff.trans ?_ (showable_iff id).symm
    exact PublicFeed.synchronizeFeed_shows_iff hhex hnames textsApart hfacts h hapart hanswer
  | currentTopics =>
    have hanswer : unconditional visit (sentValidators (setup.source .currentTopics) db).1
        (sentValidators (setup.source .currentTopics) db).2 = .ok (some ⟨reading, none⟩) := by
      unfold unconditional
      rw [eq_ok_of_toOption hcollected]
      rfl
    unfold runFeed
    rw [Proc.wp_map]
    refine Iff.trans ?_ (showable_iff id).symm
    exact PublicFeed.synchronizeFeed_shows_iff hhex hnames textsApart hfacts h hapart hanswer
  | archivedTopics =>
    have hanswer := eq_ok_of_toOption hcollected
    have hshows := ArchivedTopics.synchronizeArchivedTopics_shows_iff hhex hnames textsApart
      facts_of_importerName hfacts h hapart hanswer
    unfold runFeed
    rw [Proc.wp_map]
    refine hshows.trans (imp_congr_right fun _ => ?_)
    cases hcomplete : complete (previousSnapshot db) reading with
    | true =>
      rw [if_pos rfl]
      constructor
      · exact fun hstates => Or.inl ⟨fun hwork => (by cases hcomplete.symm.trans hwork), hstates⟩
      · intro hcases
        cases hcases with
        | inl hstates => exact hstates.2
        | inr hwork => cases hcomplete.symm.trans hwork.1
    | false =>
      rw [if_neg Bool.false_ne_true]
      constructor
      · exact fun hnot => Or.inr ⟨hcomplete, hnot⟩
      · intro hcases
        cases hcases with
        | inl hnone => exact (hnone.1 hcomplete).elim
        | inr hwork => exact hwork.2
  | legalWork =>
    obtain ⟨fetched, allowCollapse⟩ := visit
    have hfetched : fetched = .ok reading := eq_ok_of_toOption hcollected
    subst hfetched
    refine Iff.trans ?_ (showable_iff id).symm
    unfold runFeed
    rw [Proc.wp_map]
    exact synchronizePublicWorkbook_shows_iff hhex hnames textsApart hfacts h hapart
  | eventProgramme =>
    obtain ⟨fetched, allowCollapse⟩ := visit
    have hfetched : fetched = .ok reading := eq_ok_of_toOption hcollected
    subst hfetched
    refine Iff.trans ?_ (showable_iff id).symm
    unfold runFeed
    rw [Proc.wp_map]
    exact synchronizePublicWorkbook_shows_iff hhex hnames textsApart hfacts h hapart

theorem part_put (f : FeedName) (part : FeedDb (Content L E f)) (db : DashDb L E) :
    (db.put f part).part f = part := by
  unfold DashDb.part DashDb.put
  dsimp only
  rw [Function.update_self]

theorem wp_synchronize (f : FeedName) (visit : Visit f) (dryRun : Bool)
    {post : FeedResult → FeedDb (Content L E f) → Prop} (db : DashDb L E) :
    (synchronize setup f visit dryRun).wp (fun result db' => post result (db'.part f))
        (fun _ _ => False) db ↔
      (runFeed setup f visit dryRun).wp post (fun _ _ => False) (db.part f) := by
  unfold synchronize
  rw [Proc.wp_onPart]
  simp only [part_put]

/-- After any history of the feeds, a live run that collects something shows it exactly when it was
never published before, or is what is current (and, for the archive, no work is left). -/
theorem feeds_show_iff (hhex : ∀ bytes, Sources.isSha256Hex (setup.digestBytes bytes) = true)
    (history : List FeedAction) (f : FeedName) (visit : Visit f) (reading : Reading f)
    (hcollected : collected setup f visit ((run (feedStep setup) DashDb.empty history).part f) =
      some reading)
    (hapart : KeysApart (digestText setup.digestBytes) setup.feeds
      (run (feedStep setup) DashDb.empty history).registry (setup.facts f)
      (checksum setup f reading ((run (feedStep setup) DashDb.empty history).part f))) :
    (synchronize setup f visit false).wp
        (fun result db => Shows setup f visit reading
          ((run (feedStep setup) DashDb.empty history).part f) result (db.part f))
        (fun _ _ => False) (run (feedStep setup) DashDb.empty history) ↔
      Showable setup f visit reading ((run (feedStep setup) DashDb.empty history).part f) := by
  have hattributed : Attributed (digestText setup.digestBytes) setup.feeds
      (run (feedStep setup) DashDb.empty history).registry :=
    run_keeps (fun db act h => feedStep_attributed hhex db act h) history (attributed_empty _ _)
  rw [wp_synchronize]
  exact runFeed_shows_iff hhex f visit reading _ hattributed hcollected hapart

/-- Nothing was published before the first run. -/
theorem showable_of_empty (f : FeedName) (visit : Visit f) (reading : Reading f)
    {db : FeedDb (Content L E f)} (hregistry : db.registry = ⟨[], []⟩) :
    Showable setup f visit reading db := by
  intro hpublished
  rw [hregistry, publishedBefore_empty] at hpublished
  exact absurd hpublished Bool.false_ne_true

/-- The member count in force is one of the source's observations. -/
theorem States.membership_row {total : Nat} {before db : FeedDb Nat}
    (h : States setup .membership total before db) :
    ∃ row ∈ db.published, row.isCurrent = true ∧ row.content = total := by
  obtain ⟨stated, ⟨row, hcurrents, hcontent⟩, hsame⟩ := h
  have hmem : row ∈ Lib.Currency.currents
      (db.published.filter (·.source = setup.membership.source)) := by
    rw [hcurrents]
    exact List.mem_singleton_self row
  obtain ⟨hpublished, hcurrent⟩ := List.mem_filter.mp hmem
  refine ⟨row, List.mem_of_mem_filter hpublished, hcurrent, ?_⟩
  -- the document of a member count is the count
  unfold FeedSetup.membership Membership.feed document at hsame
  simp only [List.cons_append, List.nil_append, Json.obj.injEq, List.cons.injEq, Prod.mk.injEq,
    Json.int.injEq, true_and, and_true] at hsame
  rw [hcontent]
  exact Int.ofNat_inj.mp hsame

end History

/-! ## A first run, and a total that goes up and back down -/

/-- The value's last hexadecimal digits, the last one first. -/
def hexDigits : Nat → Nat → List Char
  | 0, _ => []
  | count + 1, value => Json.hexDigit (value % 16) :: hexDigits count (value / 16)

/-- A digest of 64 digits for the samples. -/
def sampleDigest (bytes : List UInt8) : String :=
  String.ofList
    (hexDigits 64 (bytes.foldl (fun hash byte => (hash * 257 + byte.toNat + 1) % 16 ^ 64) 0))

theorem length_hexDigits (count value : Nat) : (hexDigits count value).length = count := by
  induction count generalizing value with
  | zero => rfl
  | succ count ih => exact congrArg (· + 1) (ih _)

theorem mem_hexDigits {count value : Nat} {c : Char} (h : c ∈ hexDigits count value) :
    ∃ digit < 16, c = Json.hexDigit digit := by
  induction count generalizing value with
  | zero => cases h
  | succ count ih =>
    cases List.mem_cons.mp h with
    | inl heq => exact ⟨value % 16, Nat.mod_lt _ (by decide), heq⟩
    | inr hrest => exact ih hrest

theorem sampleDigest_hex (bytes : List UInt8) :
    Sources.isSha256Hex (sampleDigest bytes) = true := by
  have halphabet : ((List.range 16).all fun digit =>
      Json.hexDigit digit ∈ Sources.sha256HexAlphabet) = true := by decide
  rw [isSha256Hex_iff]
  unfold sampleDigest
  rw [String.length_ofList, String.toList_ofList, length_hexDigits]
  refine ⟨rfl, fun c hc => ?_⟩
  obtain ⟨digit, hdigit, rfl⟩ := mem_hexDigits hc
  exact of_decide_eq_true (List.all_eq_true.mp halphabet digit (List.mem_range.mpr hdigit))

def emptyReader : WorkbookReader Unit where
  parse _ := .ok ()
  rowCount _ := 0
  warnings _ := []
  violations _ := []
  stamp _ := ""

def sampleSetup : FeedSetup Unit Unit where
  digestBytes := sampleDigest
  instantText _ := ""
  source _ := 1
  legalWork := emptyReader
  eventProgramme := emptyReader

def counted (total : Nat) : Visit .membership := fun _ _ => .ok (some ⟨total, none⟩)

theorem sampleSetup_hex (bytes : List UInt8) :
    Sources.isSha256Hex (sampleSetup.digestBytes bytes) = true := sampleDigest_hex bytes

set_option maxRecDepth 10000 in
theorem feeds_show_iff_first :
    (synchronize sampleSetup .membership (counted 1000) false).wp
        (fun result db => Shows sampleSetup .membership (counted 1000) (1000 : Nat)
          ((DashDb.empty : DashDb Unit Unit).part .membership) result (db.part .membership))
        (fun _ _ => False) DashDb.empty := by
  have hiff := feeds_show_iff sampleSetup_hex [] .membership (counted 1000) (1000 : Nat) rfl
    (keysApart_empty _ _ _ _)
  rw [run_nil] at hiff
  rw [hiff]
  exact showable_of_empty .membership (counted 1000) (1000 : Nat) rfl

/-- The store after the directory was counted at 1000 and then at 1001. -/
def countedTwice : DashDb Unit Unit :=
  run (feedStep sampleSetup) DashDb.empty
    [.sync .membership (counted 1000) false, .sync .membership (counted 1001) false]

/-- What a third count of 1000 returns and leaves. -/
def countedAgain : Except FeedExn FeedResult × DashDb Unit Unit :=
  synchronize sampleSetup .membership (counted 1000) false countedTwice

theorem countedAgain_eq :
    countedAgain = synchronize sampleSetup .membership (counted 1000) false countedTwice := by
  unfold countedAgain
  exact Eq.refl _

/-- The outcome of a run and the contents of its feed's rows, with the flag of the current one. -/
def summary (outcome : Except FeedExn FeedResult × DashDb Unit Unit) :
    Option FeedResult × List (Nat × Bool) :=
  (outcome.1.toOption, (outcome.2.part .membership).published.map fun row =>
    (row.content, row.isCurrent))

set_option maxRecDepth 10000 in
theorem countedAgain_summary :
    summary countedAgain = (some .unchanged, [(1000, false), (1001, true)]) := by
  decide +kernel

set_option maxRecDepth 10000 in
/-- The third run finds 1000 members again, and the observation in force still says 1001. -/
theorem recounted_total_not_shown :
    ¬ (synchronize sampleSetup .membership (counted 1000) false).wp
        (fun result db => Shows sampleSetup .membership (counted 1000) (1000 : Nat)
          (countedTwice.part .membership) result (db.part .membership))
        (fun _ _ => False) countedTwice := by
  intro hshows
  have hsummary := countedAgain_summary
  unfold summary at hsummary
  obtain ⟨hresult, hrows⟩ := Prod.mk.inj hsummary
  cases hrun : countedAgain.1 with
  | error e =>
    rw [hrun] at hresult
    exact absurd hresult (by simp [Except.toOption])
  | ok result =>
    rw [hrun] at hresult
    have hunchanged : result = .unchanged := Option.some.inj hresult
    have hnotFailed : result ≠ .failed := hunchanged ▸ FeedResult.noConfusion
    have hran : synchronize sampleSetup .membership (counted 1000) false countedTwice =
        (.ok result, countedAgain.2) := by
      rw [← countedAgain_eq, ← hrun]
    have hstates := (hshows.ok hran).1 hnotFailed
    -- the rows are 1000, retired, and 1001, current
    obtain ⟨row, hrow, hcurrent, htotal⟩ := hstates.membership_row
    have hlisted := List.mem_map_of_mem (f := fun r => (r.content, r.isCurrent)) hrow
    rw [hcurrent, htotal, hrows] at hlisted
    exact absurd hlisted (by decide)

end Dashkoda.Feeds
