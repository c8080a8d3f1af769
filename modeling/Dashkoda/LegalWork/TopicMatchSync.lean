import Dashkoda.Lib.Except
import Dashkoda.Lib.Runs
import Dashkoda.LegalWork.Models

/-!
# Publishing topic matches

The current-topic matcher and the archive matcher publish one match snapshot for each set of
inputs.  A run over inputs that were matched before reports the snapshot it finds; a run over new
ones writes a snapshot and makes it the only current one.
-/

open Lib

namespace Dashkoda.LegalWork

open Sources (Time)
open Currency (publish currents current? first?)

def NORMALISER_VERSION : String := "1.1"
def MATCHER_VERSION : String := "1.1-norm" ++ NORMALISER_VERSION
def ARCHIVE_MATCHER_VERSION : String := "archive-1.0-norm" ++ NORMALISER_VERSION

structure MatchOutcome where
  legalItemId : Nat
  bestCandidateId : Option Nat
  decision : MatchDecision
  score : ℚ
  runnerUpScore : ℚ
  scoreMargin : ℚ
  candidateCount : Nat
  evidenceCodes : List String
  deriving DecidableEq

/-- What one match run produced; only the current-topic matcher counts its candidates. -/
structure MatchReport where
  result : SyncResult
  detail : String
  dryRun : Bool
  snapshotId : Option Nat
  itemCount : Nat
  currentTopicCount : Option Nat
  matched : Nat
  ambiguous : Nat
  unmatched : Nat
  matcherVersion : String
  deriving DecidableEq, Repr

def failedReport (version detail : String) : MatchReport :=
  ⟨.failed, detail, false, none, 0, none, 0, 0, 0, version⟩

/-- The wording of the checks, which the two matchers do not share. -/
structure MatchTexts where
  foreignItem : String
  alreadyMatched : String
  repeatedItem : String
  foreignCandidate : String
  unreadCandidate : String
  missingCandidate : String
  scoreRange : String
  runnerUp : String
  margin : String
  missingItems : Nat → String
  severalCurrent : String
  dryRun : String
  published : String
  unchanged : String

section Shared

variable {ι : Type} [DecidableEq ι] (texts : MatchTexts)

def decisionCount (decision : MatchDecision) (outcomes : List MatchOutcome) : Nat :=
  outcomes.countP (·.decision = decision)

def outOfScale (score : ℚ) : Bool := decide (score < 0) || decide (100 < score)

/-- The checks `_verify` makes on one outcome, after those on its item. -/
def verifyScores (outcome : MatchOutcome) : Except String Unit :=
  if outcome.decision = .matched ∧ outcome.bestCandidateId = none then
    .error texts.missingCandidate
  else if [outcome.score, outcome.runnerUpScore, outcome.scoreMargin].any outOfScale then
    .error texts.scoreRange
  else if outcome.score < outcome.runnerUpScore then .error texts.runnerUp
  else if outcome.scoreMargin ≠ outcome.score - outcome.runnerUpScore then .error texts.margin
  else .ok ()

def verifyCandidate (candidateIds matchableIds : List Nat) (outcome : MatchOutcome) :
    Except String Unit :=
  match outcome.bestCandidateId with
  | none => .ok ()
  | some candidate =>
    if candidate ∉ candidateIds then .error texts.foreignCandidate
    else if candidate ∉ matchableIds then .error texts.unreadCandidate
    else .ok ()

/-- `_verify`: `seen` holds the items already decided. -/
def verify (itemIds alreadyMatched candidateIds matchableIds : List Nat) :
    List Nat → List MatchOutcome → Except String Unit
  | seen, [] =>
    let missing := itemIds.filter (· ∉ seen)
    if missing ≠ [] then .error (texts.missingItems missing.length) else .ok ()
  | seen, outcome :: rest => do
    if outcome.legalItemId ∉ itemIds then throw texts.foreignItem
    if outcome.legalItemId ∈ alreadyMatched then throw texts.alreadyMatched
    if outcome.legalItemId ∈ seen then throw texts.repeatedItem
    verifyCandidate texts candidateIds matchableIds outcome
    verifyScores texts outcome
    verify itemIds alreadyMatched candidateIds matchableIds (outcome.legalItemId :: seen) rest

def matchRow (snapshot : Nat) (outcome : MatchOutcome) : TopicMatch where
  snapshot
  legalItem := outcome.legalItemId
  bestCandidate := outcome.bestCandidateId
  decision := outcome.decision
  score := outcome.score
  runnerUpScore := outcome.runnerUpScore
  scoreMargin := outcome.scoreMargin
  candidateCount := outcome.candidateCount
  evidenceCodes := outcome.evidenceCodes

/-- The match snapshot of exactly these inputs. -/
def existing? (version : String) (inputs : ι) (rows : List (MatchSnapshot ι)) :
    Option (MatchSnapshot ι) :=
  first? (rows.filter fun row => row.inputs = inputs && row.matcherVersion = version)

structure Written (ι : Type) where
  snapshot : MatchSnapshot ι
  snapshots : List (MatchSnapshot ι)
  rows : List TopicMatch

def writeMatches (version : String) (now : Time) (inputs : ι) (itemCount : Nat)
    (outcomes : List MatchOutcome) (snapshots : List (MatchSnapshot ι)) (rows : List TopicMatch) :
    Except String (Written ι) := do
  let snapshot : MatchSnapshot ι :=
    { pk := Table.nextPk snapshots, inputs, matcherVersion := version, generatedAt := now, itemCount
      matchedCount := decisionCount .matched outcomes
      ambiguousCount := decisionCount .ambiguous outcomes
      unmatchedCount := decisionCount .unmatched outcomes
      isCurrent := false }
  if snapshots.any fun row => row.inputs = inputs && row.matcherVersion = version then
    throw "IntegrityError: unique_inputs"
  let rows := rows ++ outcomes.map (matchRow snapshot.pk)
  let written := rows.countP (·.snapshot = snapshot.pk)
  if written ≠ outcomes.length then throw "Kirjutatud otsuste arv ei vasta arvutatule."
  let declared := snapshot.matchedCount + snapshot.ambiguousCount + snapshot.unmatchedCount
  if declared ≠ snapshot.itemCount ∨ declared ≠ written then
    throw "Hetkeseisu deklareeritud arvud ei vasta ridadele."
  let snapshots := publish (fun _ => true) snapshot snapshots
  if (currents snapshots).length ≠ 1 then throw texts.severalCurrent
  return { snapshot := { snapshot with isCurrent := true }, snapshots, rows }

def snapshotReport (result : SyncResult) (detail : String) (dryRun : Bool) (topicCount : Option Nat)
    (snapshot : MatchSnapshot ι) : MatchReport :=
  ⟨result, detail, dryRun, some snapshot.pk, snapshot.itemCount, topicCount, snapshot.matchedCount,
    snapshot.ambiguousCount, snapshot.unmatchedCount, snapshot.matcherVersion⟩

def dryRunReport (version : String) (itemCount : Nat) (topicCount : Option Nat)
    (outcomes : List MatchOutcome) : MatchReport :=
  ⟨.imported, texts.dryRun, true, none, itemCount, topicCount, decisionCount .matched outcomes,
    decisionCount .ambiguous outcomes, decisionCount .unmatched outcomes, version⟩

end Shared

/-! ## The current-topic matcher -/

def currentTexts : MatchTexts where
  foreignItem := "Sobitamise tulemus viitab võõrale õigusloome kirjele."
  alreadyMatched := ""
  repeatedItem := "Sobitamine andis ühele kirjele mitu otsust."
  foreignCandidate := "Sobitamise tulemus viitab võõrale hetkel käsil teemale."
  unreadCandidate := ""
  missingCandidate := "Seotud otsusel puudub kandidaat."
  scoreRange := "Sobitamise skoor on väljaspool lubatud vahemikku."
  runnerUp := "Teise koha skoor on parimast kõrgem."
  margin := "Skooride vahe ei vasta skooridele."
  missingItems n := toString n ++ " avatud kirjet jäi otsuseta."
  severalCurrent := "Kehtivaid sobitamise hetkeseise on rohkem kui üks."
  dryRun := "Kuivkäivitus: sobitamine arvutati, midagi ei avaldatud."
  published := "Uus sobitamise hetkeseis avaldatud."
  unchanged := "Samad sisendid ja sama sobitaja versioon; midagi ei arvutatud uuesti."

def archiveTexts : MatchTexts where
  foreignItem := "Arhiivi tulemus viitab võõrale õigusloome kirjele."
  alreadyMatched := "Arhiiv vaatas kirjet, mille hetkel käsil juba sidus."
  repeatedItem := "Arhiivi sobitamine andis ühele kirjele mitu otsust."
  foreignCandidate := "Arhiivi tulemus viitab võõrale arhiivikirjele."
  unreadCandidate := "Arhiivi tulemus viitab lugemata arhiivikirjele."
  missingCandidate := "Seotud otsusel puudub kandidaat."
  scoreRange := "Arhiivi skoor on väljaspool lubatud vahemikku."
  runnerUp := "Teise koha skoor on parimast kõrgem."
  margin := "Skooride vahe ei vasta skooridele."
  missingItems n := toString n ++ " vaadatud kirjet jäi otsuseta."
  severalCurrent := "Kehtivaid arhiivi sobitamisi on rohkem kui üks."
  dryRun := "Kuivkäivitus: arhiivi sobitamine arvutati, midagi ei avaldatud."
  published := "Uus arhiivi sobitamise hetkeseis avaldatud."
  unchanged := "Samad sisendid ja sama arhiivisobitaja versioon; midagi ei arvutatud uuesti."

section Matchers

/- `match_all` and `match_archive`; the last argument of the archive matcher is the addresses it
leaves to the current listing. -/
variable (matchAll : List LegalWorkItem → List CurrentTopicItem → List MatchOutcome)
  (matchArchive : List LegalWorkItem → List ArchivedTopicItem → List String → List MatchOutcome)

def consultationItems (db : TopicDb) (snapshot : Nat) : List LegalWorkItem :=
  sortOn (·.pk) (db.legalItems.filter fun item =>
    item.snapshot = snapshot && isConsultationEligible item)

/-- `_run` of the current-topic matcher. -/
def currentTopicRun (db : TopicDb) (dryRun : Bool) : Except String (TopicDb × MatchReport) := do
  let some legal := current? db.legalSnapshots
    | throw "Kehtivat õigusloome hetkeseisu ei ole; sobitamist ei tehtud."
  let some topics := current? db.topicSnapshots
    | throw "Kehtivat hetkel käsil hetkeseisu ei ole; sobitamist ei tehtud."
  let inputs : CurrentTopicInputs := ⟨legal.pk, topics.pk⟩
  if let some found := existing? MATCHER_VERSION inputs db.topicMatchSnapshots then
    return (db, snapshotReport .unchanged currentTexts.unchanged dryRun
      (some topics.itemCount) found)
  let legalItems := consultationItems db legal.pk
  let candidates := sortOn (·.sourceOrder) (db.topicItems.filter (·.snapshot = topics.pk))
  let outcomes := matchAll legalItems candidates
  if dryRun then
    return (db, dryRunReport currentTexts MATCHER_VERSION legalItems.length
      (some candidates.length) outcomes)
  let candidateIds := candidates.map (·.pk)
  verify currentTexts (legalItems.map (·.pk)) [] candidateIds candidateIds [] outcomes
  let written ← writeMatches currentTexts MATCHER_VERSION db.clock inputs legalItems.length outcomes
    db.topicMatchSnapshots db.topicMatches
  return ({ db with topicMatchSnapshots := written.snapshots, topicMatches := written.rows },
    snapshotReport .imported currentTexts.published false (some candidates.length) written.snapshot)

def runCurrentTopicMatching (db : TopicDb) (dryRun : Bool) : TopicDb × MatchReport :=
  match currentTopicRun matchAll db dryRun with
  | .ok result => result
  | .error message => (db, failedReport MATCHER_VERSION message)

/-! ## The archive matcher -/

/-- `_run` of the archive matcher. -/
def archiveRun (db : TopicDb) (dryRun : Bool) : Except String (TopicDb × MatchReport) := do
  let some legal := current? db.legalSnapshots
    | throw "Kehtivat õigusloome hetkeseisu ei ole."
  let some currentMatch := current? db.topicMatchSnapshots
    | throw "Kehtivat hetkel käsil sobitamist ei ole; arhiiv on varuallikas."
  if currentMatch.inputs.legalSnapshot ≠ legal.pk then
    throw "Hetkel käsil sobitamine käib teise õigusloome hetkeseisu kohta."
  let some archive := current? db.archiveSnapshots
    | throw "Kehtivat arhiivi hetkeseisu ei ole."
  let inputs : ArchivedTopicInputs := ⟨legal.pk, archive.pk, currentMatch.pk⟩
  if let some found := existing? ARCHIVE_MATCHER_VERSION inputs db.archiveMatchSnapshots then
    return (db, snapshotReport .unchanged archiveTexts.unchanged dryRun none found)
  let alreadyMatched := (db.topicMatches.filter fun row =>
    row.snapshot = currentMatch.pk && decide (row.decision = .matched)).map (·.legalItem)
  let legalItems := (consultationItems db legal.pk).filter (·.pk ∉ alreadyMatched)
  let excludedUrls := (db.topicItems.filter
    (·.snapshot = currentMatch.inputs.currentTopicSnapshot)).map (·.canonicalUrl)
  let archiveItems := sortOn (·.sourceOrder) (db.archiveItems.filter (·.snapshot = archive.pk))
  let outcomes := matchArchive legalItems archiveItems excludedUrls
  if dryRun then
    return (db, dryRunReport archiveTexts ARCHIVE_MATCHER_VERSION legalItems.length none outcomes)
  verify archiveTexts (legalItems.map (·.pk)) alreadyMatched (archiveItems.map (·.pk))
    ((archiveItems.filter (·.isMatchable)).map (·.pk)) [] outcomes
  let written ← writeMatches archiveTexts ARCHIVE_MATCHER_VERSION db.clock inputs legalItems.length
    outcomes db.archiveMatchSnapshots db.archiveMatches
  return ({ db with archiveMatchSnapshots := written.snapshots, archiveMatches := written.rows },
    snapshotReport .imported archiveTexts.published false none written.snapshot)

def runArchiveMatching (db : TopicDb) (dryRun : Bool) : TopicDb × MatchReport :=
  match archiveRun matchArchive db dryRun with
  | .ok result => result
  | .error message => (db, failedReport ARCHIVE_MATCHER_VERSION message)

end Matchers

/-! ## Publications -/

def importLegalWork (db : TopicDb) (source : Nat) (items : List LegalWorkItem) : TopicDb :=
  let pk := Table.nextPk db.legalSnapshots
  let snapshot : LegalWorkSnapshot := ⟨pk, source, db.clock, false⟩
  { db with
    legalSnapshots := publish (·.source = source) snapshot db.legalSnapshots
    legalItems := db.legalItems ++ items.mapIdx fun i item =>
      { item with pk := Table.nextPk db.legalItems + i, snapshot := pk } }

def publishCurrentTopics (db : TopicDb) (source : Nat) (items : List CurrentTopicItem) : TopicDb :=
  let pk := Table.nextPk db.topicSnapshots
  let snapshot : CurrentTopicSnapshot := ⟨pk, source, db.clock, items.length, false⟩
  { db with
    topicSnapshots := publish (·.source = source) snapshot db.topicSnapshots
    topicItems := db.topicItems ++ items.mapIdx fun i item =>
      { item with pk := Table.nextPk db.topicItems + i, snapshot := pk } }

def publishArchivedTopics (db : TopicDb) (source : Nat)
    (items : List ArchivedTopicItem) : TopicDb :=
  let pk := Table.nextPk db.archiveSnapshots
  let snapshot : ArchivedTopicSnapshot := ⟨pk, source, db.clock, items.length, false⟩
  { db with
    archiveSnapshots := publish (·.source = source) snapshot db.archiveSnapshots
    archiveItems := db.archiveItems ++ items.mapIdx fun i item =>
      { item with pk := Table.nextPk db.archiveItems + i, snapshot := pk } }

inductive MatchAction where
  | wait (elapsed : Time)
  | importLegalWork (source : Nat) (items : List LegalWorkItem)
  | publishCurrentTopics (source : Nat) (items : List CurrentTopicItem)
  | publishArchivedTopics (source : Nat) (items : List ArchivedTopicItem)
  | runCurrentTopicMatching (dryRun : Bool)
  | runArchiveMatching (dryRun : Bool)

section Steps

variable (matchAll : List LegalWorkItem → List CurrentTopicItem → List MatchOutcome)
  (matchArchive : List LegalWorkItem → List ArchivedTopicItem → List String → List MatchOutcome)

def matchStep (db : TopicDb) : MatchAction → TopicDb
  | .wait elapsed => { db with clock := db.clock + elapsed }
  | .importLegalWork source items => importLegalWork db source items
  | .publishCurrentTopics source items => publishCurrentTopics db source items
  | .publishArchivedTopics source items => publishArchivedTopics db source items
  | .runCurrentTopicMatching dryRun => (runCurrentTopicMatching matchAll db dryRun).1
  | .runArchiveMatching dryRun => (runArchiveMatching matchArchive db dryRun).1

end Steps

/-! ## What a publication does -/

section Publications

variable {α : Type} [Published α] {inScope : α → Bool} {row : α} {rows : List α}

theorem fresh_of_nextPk (hpk : Row.pk row = Table.nextPk rows) :
    ∀ r ∈ rows, Row.pk r < Row.pk row :=
  fun _ hr => hpk ▸ Table.pk_lt_nextPk hr

theorem hasKey_publish (hpk : Row.pk row = Table.nextPk rows) {pk : Nat}
    (h : Table.HasKey rows pk) : Table.HasKey (publish inScope row rows) pk := by
  obtain ⟨r, hr, hrpk⟩ := h
  refine ⟨_, (Currency.mem_publish (fresh_of_nextPk hpk)).mpr (Or.inr ⟨r, hr, rfl⟩), ?_⟩
  split
  · rw [Published.pk_setCurrent, hrpk]
  · exact hrpk

theorem times_publish (hpk : Row.pk row = Table.nextPk rows)
    (h : ∀ r ∈ rows, Published.publishedAt r ≤ Published.publishedAt row) :
    ∀ r ∈ publish inScope row rows, Published.publishedAt r ≤ Published.publishedAt row := by
  intro r hr
  cases Currency.old_of_mem_publish (fresh_of_nextPk hpk) hr with
  | inl heq => rw [heq, Published.publishedAt_setCurrent]
  | inr hold =>
    obtain ⟨r', hr', _, hat⟩ := hold
    rw [hat]
    exact h r' hr'

/-- After a publication the current row has a key no row had. -/
theorem current?_publish_pk (hpk : Row.pk row = Table.nextPk rows)
    (h : ∀ r ∈ rows, Published.publishedAt r ≤ Published.publishedAt row) {now : α}
    (hnow : current? (publish inScope row rows) = some now) {pk : Nat}
    (hkey : Table.HasKey rows pk) :
    Row.pk now ≠ pk := by
  have hrow := Option.some.inj ((Currency.current?_publish (fresh_of_nextPk hpk) h).symm.trans hnow)
  rw [← hrow, Published.pk_setCurrent, hpk]
  exact (Table.HasKey.ne_nextPk hkey).symm

end Publications

/-! ## What a run does -/

section Tables

variable {ι : Type}

/-- At most one snapshot is current, and none that is not has the inputs that are current now. -/
structure TableSound (version : String) (now : Option ι)
    (rows : List (MatchSnapshot ι)) : Prop where
  version : ∀ row ∈ rows, row.matcherVersion = version
  one : (currents rows).length ≤ 1
  stale : ∀ row ∈ rows, row.isCurrent = false → now ≠ some row.inputs

theorem TableSound.nil (version : String) (now : Option ι) : TableSound version now [] where
  version := by simp
  one := by simp [currents]
  stale := by simp

/-- Inputs no run has seen yet leave every snapshot stale. -/
theorem TableSound.moved {version : String} {now now' : Option ι} {rows : List (MatchSnapshot ι)}
    (h : TableSound version now rows) (hfresh : ∀ row ∈ rows, now' ≠ some row.inputs) :
    TableSound version now' rows where
  version := h.version
  one := h.one
  stale := fun row hrow _ => hfresh row hrow

/-- A snapshot of the inputs that are current now is the current one. -/
theorem TableSound.currents_eq {version : String} {inputs : ι} {rows : List (MatchSnapshot ι)}
    (h : TableSound version (some inputs) rows) {row : MatchSnapshot ι} (hrow : row ∈ rows)
    (hinputs : row.inputs = inputs) : currents rows = [row] := by
  have hcurrent : row.isCurrent = true := by
    rw [← Bool.not_eq_false]
    intro hstale
    exact h.stale row hrow hstale (congrArg some hinputs.symm)
  have hmem : row ∈ currents rows := List.mem_filter.mpr ⟨hrow, hcurrent⟩
  have hone := h.one
  match hrows : currents rows with
  | [] =>
    rw [hrows] at hmem
    cases hmem
  | [only] =>
    rw [hrows, List.mem_singleton] at hmem
    rw [hmem]
  | a :: b :: rest =>
    rw [hrows] at hone
    simp at hone

variable [DecidableEq ι]

theorem existing?_eq_some {version : String} {inputs : ι} {rows : List (MatchSnapshot ι)}
    {found : MatchSnapshot ι} (h : existing? version inputs rows = some found) :
    found ∈ rows ∧ found.inputs = inputs := by
  have hmem := List.mem_filter.mp (minOn?_mem h)
  rw [Bool.and_eq_true, decide_eq_true_iff] at hmem
  exact ⟨hmem.1, hmem.2.1⟩

theorem existing?_eq_none {version : String} {inputs : ι} {rows : List (MatchSnapshot ι)}
    (h : existing? version inputs rows = none) {row : MatchSnapshot ι} (hrow : row ∈ rows)
    (hversion : row.matcherVersion = version) : row.inputs ≠ inputs := by
  intro heq
  have hnil := minOn?_eq_none_iff.mp h
  have hmem : row ∈ rows.filter fun row => row.inputs = inputs && row.matcherVersion = version := by
    rw [List.mem_filter, heq, hversion]
    simp [hrow]
  rw [hnil] at hmem
  cases hmem

theorem writeMatches_ok {texts : MatchTexts} {version : String} {now : Time} {inputs : ι}
    {itemCount : Nat} {outcomes : List MatchOutcome} {snapshots : List (MatchSnapshot ι)}
    {rows : List TopicMatch} {written : Written ι}
    (h : writeMatches texts version now inputs itemCount outcomes snapshots rows = .ok written) :
    ∃ snapshot : MatchSnapshot ι, Row.pk snapshot = Table.nextPk snapshots ∧
      snapshot.inputs = inputs ∧ snapshot.matcherVersion = version ∧
      written.snapshots = publish (fun _ => true) snapshot snapshots := by
  unfold writeMatches at h
  simp only [raiseIf_eq_ok_iff] at h
  rw [← Except.ok.inj h.2.2.2.2]
  exact ⟨_, rfl, rfl, rfl, rfl⟩

/-- What a run that did not fail does to its match snapshots: it finds one, it was dry, or it
publishes one for inputs that had none. -/
def RunEffect (version : String) (inputs : ι) (dryRun : Bool)
    (rows rows' : List (MatchSnapshot ι)) :
    Prop :=
  (rows' = rows ∧ ∃ found, existing? version inputs rows = some found) ∨
  (rows' = rows ∧ dryRun = true) ∨
  ∃ snapshot : MatchSnapshot ι, existing? version inputs rows = none ∧
    Row.pk snapshot = Table.nextPk rows ∧ snapshot.inputs = inputs ∧
    snapshot.matcherVersion = version ∧ rows' = publish (fun _ => true) snapshot rows

section Effects

variable {version : String} {inputs : ι} {dryRun : Bool} {rows rows' : List (MatchSnapshot ι)}

theorem TableSound.run (h : TableSound version (some inputs) rows)
    (heffect : RunEffect version inputs dryRun rows rows') :
    TableSound version (some inputs) rows' := by
  rcases heffect with ⟨hrows, _⟩ | ⟨hrows, _⟩ | ⟨snapshot, hnone, hpk, hinputs, hversion, hrows⟩
  · rw [hrows]
    exact h
  · rw [hrows]
    exact h
  · have hfresh := fresh_of_nextPk hpk
    have hmem : ∀ row ∈ rows', row = { snapshot with isCurrent := true } ∨
        ∃ r ∈ rows, row.inputs = r.inputs ∧ row.matcherVersion = r.matcherVersion := by
      intro row hrow
      rw [hrows, Currency.mem_publish hfresh] at hrow
      cases hrow with
      | inl heq => exact Or.inl heq
      | inr hold =>
        obtain ⟨r, hr, heq⟩ := hold
        refine Or.inr ⟨r, hr, ?_⟩
        rw [heq]
        split <;> exact ⟨rfl, rfl⟩
    constructor
    · intro row hrow
      cases hmem row hrow with
      | inl heq => rw [heq, hversion]
      | inr hold =>
        obtain ⟨r, hr, _, heq⟩ := hold
        rw [heq, h.version r hr]
    · rw [hrows, Currency.currents_publish_all hfresh]
      exact le_rfl
    · intro row hrow hstale
      cases hmem row hrow with
      | inl heq =>
        rw [heq] at hstale
        cases hstale
      | inr hold =>
        obtain ⟨r, hr, heq, _⟩ := hold
        rw [heq]
        exact fun hsame => existing?_eq_none hnone hr (h.version r hr) (Option.some.inj hsame).symm

/-- After a live run the only current snapshot is the one of the run's inputs. -/
theorem TableSound.current_of_run (h : TableSound version (some inputs) rows)
    (heffect : RunEffect version inputs false rows rows') :
    ∃ snapshot, currents rows' = [snapshot] ∧ snapshot.inputs = inputs := by
  rcases heffect with ⟨hrows, found, hfound⟩ | ⟨_, hdry⟩ | ⟨snapshot, _, hpk, hinputs, _, hrows⟩
  · obtain ⟨hmem, heq⟩ := existing?_eq_some hfound
    rw [hrows]
    exact ⟨found, h.currents_eq hmem heq, heq⟩
  · cases hdry
  · refine ⟨{ snapshot with isCurrent := true }, ?_, hinputs⟩
    rw [hrows]
    exact Currency.currents_publish_all (fresh_of_nextPk hpk)

end Effects

end Tables

theorem currentTopicRun_ok
    {matchAll : List LegalWorkItem → List CurrentTopicItem → List MatchOutcome} {db db' : TopicDb}
    {dryRun : Bool} {report : MatchReport}
    (h : currentTopicRun matchAll db dryRun = .ok (db', report)) :
    ∃ legal topics, current? db.legalSnapshots = some legal ∧
      current? db.topicSnapshots = some topics ∧
      RunEffect MATCHER_VERSION ⟨legal.pk, topics.pk⟩ dryRun db.topicMatchSnapshots
        db'.topicMatchSnapshots ∧
      ∃ rows, db' = { db with
        topicMatchSnapshots := db'.topicMatchSnapshots, topicMatches := rows } := by
  unfold currentTopicRun at h
  cases hlegal : current? db.legalSnapshots with
  | none => rw [hlegal] at h; cases h
  | some legal =>
    cases htopics : current? db.topicSnapshots with
    | none => rw [hlegal, htopics] at h; cases h
    | some topics =>
      refine ⟨legal, topics, rfl, rfl, ?_⟩
      rw [hlegal, htopics] at h
      simp only [] at h
      cases hfound : existing? MATCHER_VERSION ⟨legal.pk, topics.pk⟩ db.topicMatchSnapshots with
      | some found =>
        rw [hfound] at h
        cases h
        exact ⟨Or.inl ⟨rfl, found, hfound⟩, db.topicMatches, rfl⟩
      | none =>
        rw [hfound] at h
        simp only [] at h
        cases dryRun with
        | true =>
          cases h
          exact ⟨Or.inr (Or.inl ⟨rfl, rfl⟩), db.topicMatches, rfl⟩
        | false =>
          rw [if_neg Bool.false_ne_true] at h
          obtain ⟨_, _, h⟩ := bind_eq_ok_iff.mp h
          obtain ⟨written, hwritten, h⟩ := bind_eq_ok_iff.mp h
          obtain ⟨snapshot, hpk, hinputs, hversion, hsnapshots⟩ := writeMatches_ok hwritten
          cases h
          exact ⟨Or.inr (Or.inr ⟨snapshot, hfound, hpk, hinputs, hversion, hsnapshots⟩),
            written.rows, rfl⟩

theorem archiveRun_ok
    {matchArchive : List LegalWorkItem → List ArchivedTopicItem → List String → List MatchOutcome}
    {db db' : TopicDb} {dryRun : Bool} {report : MatchReport}
    (h : archiveRun matchArchive db dryRun = .ok (db', report)) :
    ∃ legal archive currentMatch, current? db.legalSnapshots = some legal ∧
      current? db.archiveSnapshots = some archive ∧
      current? db.topicMatchSnapshots = some currentMatch ∧
      RunEffect ARCHIVE_MATCHER_VERSION ⟨legal.pk, archive.pk, currentMatch.pk⟩ dryRun
        db.archiveMatchSnapshots db'.archiveMatchSnapshots ∧
      ∃ rows, db' = { db with
        archiveMatchSnapshots := db'.archiveMatchSnapshots, archiveMatches := rows } := by
  unfold archiveRun at h
  cases hlegal : current? db.legalSnapshots with
  | none => rw [hlegal] at h; cases h
  | some legal =>
    cases hmatch : current? db.topicMatchSnapshots with
    | none => rw [hlegal, hmatch] at h; cases h
    | some currentMatch =>
      rw [hlegal, hmatch] at h
      simp only [] at h
      obtain ⟨_, h⟩ := raiseIf_eq_ok_iff.mp h
      cases harchive : current? db.archiveSnapshots with
      | none => rw [harchive] at h; cases h
      | some archive =>
        refine ⟨legal, archive, currentMatch, rfl, rfl, rfl, ?_⟩
        rw [harchive] at h
        simp only [] at h
        cases hfound : existing? ARCHIVE_MATCHER_VERSION ⟨legal.pk, archive.pk, currentMatch.pk⟩
            db.archiveMatchSnapshots with
        | some found =>
          rw [hfound] at h
          cases h
          exact ⟨Or.inl ⟨rfl, found, hfound⟩, db.archiveMatches, rfl⟩
        | none =>
          rw [hfound] at h
          simp only [] at h
          cases dryRun with
          | true =>
            cases h
            exact ⟨Or.inr (Or.inl ⟨rfl, rfl⟩), db.archiveMatches, rfl⟩
          | false =>
            rw [if_neg Bool.false_ne_true] at h
            obtain ⟨_, _, h⟩ := bind_eq_ok_iff.mp h
            obtain ⟨written, hwritten, h⟩ := bind_eq_ok_iff.mp h
            obtain ⟨snapshot, hpk, hinputs, hversion, hsnapshots⟩ := writeMatches_ok hwritten
            cases h
            exact ⟨Or.inr (Or.inr ⟨snapshot, hfound, hpk, hinputs, hversion, hsnapshots⟩),
              written.rows, rfl⟩

/-! ## Runs -/

def TopicDb.currentInputs (db : TopicDb) : Option CurrentTopicInputs :=
  (current? db.legalSnapshots).bind fun legal =>
    (current? db.topicSnapshots).map fun topics => ⟨legal.pk, topics.pk⟩

def TopicDb.archiveInputs (db : TopicDb) : Option ArchivedTopicInputs :=
  (current? db.legalSnapshots).bind fun legal =>
    (current? db.archiveSnapshots).bind fun archive =>
      (current? db.topicMatchSnapshots).map fun currentMatch =>
        ⟨legal.pk, archive.pk, currentMatch.pk⟩

/-- What every reachable state has: rows are no newer than the clock, match snapshots name rows
that exist, and both match tables are sound for the inputs of the moment. -/
structure MatchInv (db : TopicDb) : Prop where
  legalTimes : ∀ row ∈ db.legalSnapshots, row.importedAt ≤ db.clock
  topicTimes : ∀ row ∈ db.topicSnapshots, row.observedAt ≤ db.clock
  archiveTimes : ∀ row ∈ db.archiveSnapshots, row.observedAt ≤ db.clock
  topicRefs : ∀ row ∈ db.topicMatchSnapshots,
    Table.HasKey db.legalSnapshots row.inputs.legalSnapshot ∧
      Table.HasKey db.topicSnapshots row.inputs.currentTopicSnapshot
  archiveRefs : ∀ row ∈ db.archiveMatchSnapshots,
    Table.HasKey db.legalSnapshots row.inputs.legalSnapshot ∧
      Table.HasKey db.archiveSnapshots row.inputs.archivedTopicSnapshot ∧
      Table.HasKey db.topicMatchSnapshots row.inputs.currentTopicMatchSnapshot
  topicTable : TableSound MATCHER_VERSION db.currentInputs db.topicMatchSnapshots
  archiveTable : TableSound ARCHIVE_MATCHER_VERSION db.archiveInputs db.archiveMatchSnapshots

theorem matchInv_empty : MatchInv TopicDb.empty where
  legalTimes := by simp [TopicDb.empty]
  topicTimes := by simp [TopicDb.empty]
  archiveTimes := by simp [TopicDb.empty]
  topicRefs := by simp [TopicDb.empty]
  archiveRefs := by simp [TopicDb.empty]
  topicTable := TableSound.nil _ _
  archiveTable := TableSound.nil _ _

theorem currentInputs_eq_some {db : TopicDb} {inputs : CurrentTopicInputs}
    (h : db.currentInputs = some inputs) : ∃ legal topics, current? db.legalSnapshots = some legal ∧
      current? db.topicSnapshots = some topics ∧ inputs = ⟨legal.pk, topics.pk⟩ := by
  obtain ⟨legal, hlegal, h⟩ := Option.bind_eq_some_iff.mp h
  obtain ⟨topics, htopics, h⟩ := Option.map_eq_some_iff.mp h
  exact ⟨legal, topics, hlegal, htopics, h.symm⟩

theorem archiveInputs_eq_some {db : TopicDb} {inputs : ArchivedTopicInputs}
    (h : db.archiveInputs = some inputs) : ∃ legal archive currentMatch,
      current? db.legalSnapshots = some legal ∧ current? db.archiveSnapshots = some archive ∧
      current? db.topicMatchSnapshots = some currentMatch ∧
      inputs = ⟨legal.pk, archive.pk, currentMatch.pk⟩ := by
  obtain ⟨legal, hlegal, h⟩ := Option.bind_eq_some_iff.mp h
  obtain ⟨archive, harchive, h⟩ := Option.bind_eq_some_iff.mp h
  obtain ⟨currentMatch, hmatch, h⟩ := Option.map_eq_some_iff.mp h
  exact ⟨legal, archive, currentMatch, hlegal, harchive, hmatch, h.symm⟩

theorem TopicDb.currentInputs_eq {db : TopicDb} {legal : LegalWorkSnapshot}
    {topics : CurrentTopicSnapshot} (hlegal : current? db.legalSnapshots = some legal)
    (htopics : current? db.topicSnapshots = some topics) :
    db.currentInputs = some ⟨legal.pk, topics.pk⟩ := by
  unfold TopicDb.currentInputs
  rw [hlegal, htopics]
  rfl

theorem TopicDb.archiveInputs_eq {db : TopicDb} {legal : LegalWorkSnapshot}
    {archive : ArchivedTopicSnapshot} {currentMatch : LegalCurrentTopicMatchSnapshot}
    (hlegal : current? db.legalSnapshots = some legal)
    (harchive : current? db.archiveSnapshots = some archive)
    (hmatch : current? db.topicMatchSnapshots = some currentMatch) :
    db.archiveInputs = some ⟨legal.pk, archive.pk, currentMatch.pk⟩ := by
  unfold TopicDb.archiveInputs
  rw [hlegal, harchive, hmatch]
  rfl

theorem MatchInv.wait {db : TopicDb} (h : MatchInv db) (elapsed : Time) :
    MatchInv { db with clock := db.clock + elapsed } where
  legalTimes row hrow := le_trans (h.legalTimes row hrow) (Nat.le_add_right _ _)
  topicTimes row hrow := le_trans (h.topicTimes row hrow) (Nat.le_add_right _ _)
  archiveTimes row hrow := le_trans (h.archiveTimes row hrow) (Nat.le_add_right _ _)
  topicRefs := h.topicRefs
  archiveRefs := h.archiveRefs
  topicTable := h.topicTable
  archiveTable := h.archiveTable

theorem MatchInv.importLegalWork {db : TopicDb} (h : MatchInv db) (source : Nat)
    (items : List LegalWorkItem) : MatchInv (importLegalWork db source items) := by
  let row : LegalWorkSnapshot := ⟨Table.nextPk db.legalSnapshots, source, db.clock, false⟩
  have hpk : Row.pk row = Table.nextPk db.legalSnapshots := rfl
  constructor
  · exact times_publish hpk h.legalTimes
  · exact h.topicTimes
  · exact h.archiveTimes
  · exact fun m hm => ⟨hasKey_publish hpk (h.topicRefs m hm).1, (h.topicRefs m hm).2⟩
  · exact fun m hm => ⟨hasKey_publish hpk (h.archiveRefs m hm).1, (h.archiveRefs m hm).2⟩
  · refine h.topicTable.moved fun m hm hnow => ?_
    obtain ⟨legal, topics, hlegal, _, heq⟩ := currentInputs_eq_some hnow
    have hne := current?_publish_pk hpk h.legalTimes hlegal (h.topicRefs m hm).1
    rw [heq] at hne
    exact hne rfl
  · refine h.archiveTable.moved fun m hm hnow => ?_
    obtain ⟨legal, archive, currentMatch, hlegal, _, _, heq⟩ := archiveInputs_eq_some hnow
    have hne := current?_publish_pk hpk h.legalTimes hlegal (h.archiveRefs m hm).1
    rw [heq] at hne
    exact hne rfl

theorem MatchInv.publishCurrentTopics {db : TopicDb} (h : MatchInv db) (source : Nat)
    (items : List CurrentTopicItem) : MatchInv (publishCurrentTopics db source items) := by
  let row : CurrentTopicSnapshot :=
    ⟨Table.nextPk db.topicSnapshots, source, db.clock, items.length, false⟩
  have hpk : Row.pk row = Table.nextPk db.topicSnapshots := rfl
  constructor
  · exact h.legalTimes
  · exact times_publish hpk h.topicTimes
  · exact h.archiveTimes
  · exact fun m hm => ⟨(h.topicRefs m hm).1, hasKey_publish hpk (h.topicRefs m hm).2⟩
  · exact h.archiveRefs
  · refine h.topicTable.moved fun m hm hnow => ?_
    obtain ⟨legal, topics, _, htopics, heq⟩ := currentInputs_eq_some hnow
    have hne := current?_publish_pk hpk h.topicTimes htopics (h.topicRefs m hm).2
    rw [heq] at hne
    exact hne rfl
  · exact h.archiveTable

theorem MatchInv.publishArchivedTopics {db : TopicDb} (h : MatchInv db) (source : Nat)
    (items : List ArchivedTopicItem) : MatchInv (publishArchivedTopics db source items) := by
  let row : ArchivedTopicSnapshot :=
    ⟨Table.nextPk db.archiveSnapshots, source, db.clock, items.length, false⟩
  have hpk : Row.pk row = Table.nextPk db.archiveSnapshots := rfl
  constructor
  · exact h.legalTimes
  · exact h.topicTimes
  · exact times_publish hpk h.archiveTimes
  · exact h.topicRefs
  · exact fun m hm => ⟨(h.archiveRefs m hm).1, hasKey_publish hpk (h.archiveRefs m hm).2.1,
      (h.archiveRefs m hm).2.2⟩
  · exact h.topicTable
  · refine h.archiveTable.moved fun m hm hnow => ?_
    obtain ⟨legal, archive, currentMatch, _, harchive, _, heq⟩ := archiveInputs_eq_some hnow
    have hne := current?_publish_pk hpk h.archiveTimes harchive (h.archiveRefs m hm).2.1
    rw [heq] at hne
    exact hne rfl

section Matching

variable {matchAll : List LegalWorkItem → List CurrentTopicItem → List MatchOutcome}
  {matchArchive : List LegalWorkItem → List ArchivedTopicItem → List String → List MatchOutcome}
  {db db' : TopicDb} {dryRun : Bool} {report : MatchReport}

/-- Where a table is one scope, its only current row is the one a reader finds. -/
theorem current?_of_currents {α : Type} [Published α] {rows : List α} {row : α}
    (h : currents rows = [row]) : current? rows = some row := by
  unfold current?
  rw [h]
  rfl

theorem MatchInv.currentTopicRun (h : MatchInv db)
    (hrun : currentTopicRun matchAll db dryRun = .ok (db', report)) : MatchInv db' := by
  obtain ⟨legal, topics, hlegal, htopics, heffect, rows, hdb⟩ := currentTopicRun_ok hrun
  have hinputs := TopicDb.currentInputs_eq hlegal htopics
  have htable : TableSound MATCHER_VERSION db.currentInputs db'.topicMatchSnapshots := by
    have hsound := h.topicTable
    rw [hinputs] at hsound ⊢
    exact hsound.run heffect
  rw [hdb]
  rcases heffect with ⟨hrows, _⟩ | ⟨hrows, _⟩ | ⟨snapshot, _, hpk, hsnapshot, _, hrows⟩
  · rw [hrows]
    exact ⟨h.legalTimes, h.topicTimes, h.archiveTimes, h.topicRefs, h.archiveRefs, h.topicTable,
      h.archiveTable⟩
  · rw [hrows]
    exact ⟨h.legalTimes, h.topicTimes, h.archiveTimes, h.topicRefs, h.archiveRefs, h.topicTable,
      h.archiveTable⟩
  · have hfresh := fresh_of_nextPk hpk
    constructor
    · exact h.legalTimes
    · exact h.topicTimes
    · exact h.archiveTimes
    · intro m hm
      change m ∈ db'.topicMatchSnapshots at hm
      rw [hrows, Currency.mem_publish hfresh] at hm
      cases hm with
      | inl heq =>
        rw [heq]
        change Table.HasKey _ snapshot.inputs.legalSnapshot ∧
          Table.HasKey _ snapshot.inputs.currentTopicSnapshot
        rw [hsnapshot]
        exact ⟨⟨legal, (Currency.mem_of_current? hlegal).1, rfl⟩,
          ⟨topics, (Currency.mem_of_current? htopics).1, rfl⟩⟩
      | inr hold =>
        obtain ⟨r, hr, heq⟩ := hold
        rw [heq]
        split <;> exact h.topicRefs r hr
    · intro m hm
      have hrefs := h.archiveRefs m hm
      refine ⟨hrefs.1, hrefs.2.1, ?_⟩
      change Table.HasKey db'.topicMatchSnapshots _
      rw [hrows]
      exact hasKey_publish hpk hrefs.2.2
    · exact htable
    · refine h.archiveTable.moved fun m hm hnow => ?_
      -- the current match is the new one, which no archive run has deferred to
      obtain ⟨_, _, currentMatch, _, _, hmatch, heq⟩ := archiveInputs_eq_some hnow
      change current? db'.topicMatchSnapshots = _ at hmatch
      rw [hrows, current?_of_currents (Currency.currents_publish_all hfresh)] at hmatch
      have hkey := (h.archiveRefs m hm).2.2
      rw [heq, ← Option.some.inj hmatch] at hkey
      exact hkey.ne_nextPk hpk

theorem MatchInv.archiveRun (h : MatchInv db)
    (hrun : archiveRun matchArchive db dryRun = .ok (db', report)) : MatchInv db' := by
  obtain ⟨legal, archive, currentMatch, hlegal, harchive, hmatch, heffect, rows, hdb⟩ :=
    archiveRun_ok hrun
  have hinputs := TopicDb.archiveInputs_eq hlegal harchive hmatch
  have htable : TableSound ARCHIVE_MATCHER_VERSION db.archiveInputs db'.archiveMatchSnapshots := by
    have hsound := h.archiveTable
    rw [hinputs] at hsound ⊢
    exact hsound.run heffect
  rw [hdb]
  refine ⟨h.legalTimes, h.topicTimes, h.archiveTimes, h.topicRefs, ?_, h.topicTable, htable⟩
  intro m hm
  change m ∈ db'.archiveMatchSnapshots at hm
  rcases heffect with ⟨hrows, _⟩ | ⟨hrows, _⟩ | ⟨snapshot, _, hpk, hsnapshot, _, hrows⟩
  · rw [hrows] at hm
    exact h.archiveRefs m hm
  · rw [hrows] at hm
    exact h.archiveRefs m hm
  · rw [hrows, Currency.mem_publish (fresh_of_nextPk hpk)] at hm
    cases hm with
    | inl heq =>
      rw [heq]
      change Table.HasKey _ snapshot.inputs.legalSnapshot ∧
        Table.HasKey _ snapshot.inputs.archivedTopicSnapshot ∧
        Table.HasKey _ snapshot.inputs.currentTopicMatchSnapshot
      rw [hsnapshot]
      exact ⟨⟨legal, (Currency.mem_of_current? hlegal).1, rfl⟩,
        ⟨archive, (Currency.mem_of_current? harchive).1, rfl⟩,
        ⟨currentMatch, (Currency.mem_of_current? hmatch).1, rfl⟩⟩
    | inr hold =>
      obtain ⟨r, hr, heq⟩ := hold
      rw [heq]
      split <;> exact h.archiveRefs r hr

theorem matchStep_keeps (db : TopicDb) (action : MatchAction) (h : MatchInv db) :
    MatchInv (matchStep matchAll matchArchive db action) := by
  cases action with
  | wait elapsed => exact h.wait elapsed
  | importLegalWork source items => exact h.importLegalWork source items
  | publishCurrentTopics source items => exact h.publishCurrentTopics source items
  | publishArchivedTopics source items => exact h.publishArchivedTopics source items
  | runCurrentTopicMatching dryRun =>
    change MatchInv (LegalWork.runCurrentTopicMatching matchAll db dryRun).1
    unfold LegalWork.runCurrentTopicMatching
    cases hrun : LegalWork.currentTopicRun matchAll db dryRun with
    | error message => exact h
    | ok result => exact h.currentTopicRun hrun
  | runArchiveMatching dryRun =>
    change MatchInv (LegalWork.runArchiveMatching matchArchive db dryRun).1
    unfold LegalWork.runArchiveMatching
    cases hrun : LegalWork.archiveRun matchArchive db dryRun with
    | error message => exact h
    | ok result => exact h.archiveRun hrun

end Matching

/-- A report that is not a failure comes from a run that completed. -/
theorem runCurrentTopicMatching_ok
    {matchAll : List LegalWorkItem → List CurrentTopicItem → List MatchOutcome} {db : TopicDb}
    {dryRun : Bool} (h : (runCurrentTopicMatching matchAll db dryRun).2.result ≠ .failed) :
    ∃ report, currentTopicRun matchAll db dryRun =
      .ok ((runCurrentTopicMatching matchAll db dryRun).1, report) := by
  unfold runCurrentTopicMatching at h ⊢
  cases hrun : currentTopicRun matchAll db dryRun with
  | error message =>
    rw [hrun] at h
    exact absurd rfl h
  | ok result => exact ⟨result.2, rfl⟩

theorem runArchiveMatching_ok
    {matchArchive : List LegalWorkItem → List ArchivedTopicItem → List String → List MatchOutcome}
    {db : TopicDb} {dryRun : Bool}
    (h : (runArchiveMatching matchArchive db dryRun).2.result ≠ .failed) :
    ∃ report, archiveRun matchArchive db dryRun =
      .ok ((runArchiveMatching matchArchive db dryRun).1, report) := by
  unfold runArchiveMatching at h ⊢
  cases hrun : archiveRun matchArchive db dryRun with
  | error message =>
    rw [hrun] at h
    exact absurd rfl h
  | ok result => exact ⟨result.2, rfl⟩

/-- **Match snapshots stay with their inputs.**  Whatever was published and matched before, a live
run that does not fail leaves exactly one current match snapshot of its kind, and its inputs are
the ones that are current. -/
theorem matchSnapshot_currency
    (matchAll : List LegalWorkItem → List CurrentTopicItem → List MatchOutcome)
    (matchArchive : List LegalWorkItem → List ArchivedTopicItem → List String → List MatchOutcome)
    (actions : List MatchAction) :
    let db := run (matchStep matchAll matchArchive) TopicDb.empty actions
    let topicRun := runCurrentTopicMatching matchAll db false
    let archiveRun := runArchiveMatching matchArchive db false
    (topicRun.2.result ≠ .failed →
      ∃ snapshot legal topics, currents topicRun.1.topicMatchSnapshots = [snapshot] ∧
        current? topicRun.1.legalSnapshots = some legal ∧
        current? topicRun.1.topicSnapshots = some topics ∧
        snapshot.inputs = ⟨legal.pk, topics.pk⟩) ∧
    (archiveRun.2.result ≠ .failed →
      ∃ snapshot legal archive currentMatch,
        currents archiveRun.1.archiveMatchSnapshots = [snapshot] ∧
        current? archiveRun.1.legalSnapshots = some legal ∧
        current? archiveRun.1.archiveSnapshots = some archive ∧
        current? archiveRun.1.topicMatchSnapshots = some currentMatch ∧
        snapshot.inputs = ⟨legal.pk, archive.pk, currentMatch.pk⟩) := by
  intro db topicRun archiveRun
  have hinv : MatchInv db := run_keeps matchStep_keeps actions matchInv_empty
  constructor
  · intro hresult
    obtain ⟨report, hok⟩ := runCurrentTopicMatching_ok hresult
    obtain ⟨legal, topics, hlegal, htopics, heffect, rows, hdb⟩ := currentTopicRun_ok hok
    change topicRun.1 = _ at hdb
    have hsound := hinv.topicTable
    rw [TopicDb.currentInputs_eq hlegal htopics] at hsound
    obtain ⟨snapshot, hcurrents, hinputs⟩ := hsound.current_of_run heffect
    refine ⟨snapshot, legal, topics, hcurrents, ?_, ?_, hinputs⟩
    · rw [hdb]
      exact hlegal
    · rw [hdb]
      exact htopics
  · intro hresult
    obtain ⟨report, hok⟩ := runArchiveMatching_ok hresult
    obtain ⟨legal, archive, currentMatch, hlegal, harchive, hmatch, heffect, rows, hdb⟩ :=
      archiveRun_ok hok
    change archiveRun.1 = _ at hdb
    have hsound := hinv.archiveTable
    rw [TopicDb.archiveInputs_eq hlegal harchive hmatch] at hsound
    obtain ⟨snapshot, hcurrents, hinputs⟩ := hsound.current_of_run heffect
    refine ⟨snapshot, legal, archive, currentMatch, hcurrents, ?_, ?_, ?_, hinputs⟩
    · rw [hdb]
      exact hlegal
    · rw [hdb]
      exact harchive
    · rw [hdb]
      exact hmatch

/-- Decides nothing: every record is left unmatched. -/
def leaveUnmatched (items : List LegalWorkItem) : List MatchOutcome :=
  items.map fun item => ⟨item.pk, none, .unmatched, 0, 0, 0, 0, []⟩

def openRecord : LegalWorkItem :=
  ⟨0, 0, "1", "Eelnõu", "", none, none, none, .pending, "", true⟩

/-- The workbook moves on between two runs over the same listing. -/
def movedWorkbook : List MatchAction :=
  [.importLegalWork 1 [openRecord], .publishCurrentTopics 2 [], .publishArchivedTopics 3 [],
    .runCurrentTopicMatching false, .runArchiveMatching false, .wait 5,
    .importLegalWork 1 [openRecord], .runCurrentTopicMatching false]

theorem matchSnapshot_currency_movedWorkbook :
    let db := run (matchStep (fun items _ => leaveUnmatched items)
      fun items _ _ => leaveUnmatched items) TopicDb.empty movedWorkbook
    let topicDb := (runCurrentTopicMatching (fun items _ => leaveUnmatched items) db false).1
    let archiveDb := (runArchiveMatching (fun items _ _ => leaveUnmatched items) db false).1
    (∃ snapshot legal topics, currents topicDb.topicMatchSnapshots = [snapshot] ∧
      current? topicDb.legalSnapshots = some legal ∧
      current? topicDb.topicSnapshots = some topics ∧
      snapshot.inputs = ⟨legal.pk, topics.pk⟩) ∧
    (∃ snapshot legal archive currentMatch, currents archiveDb.archiveMatchSnapshots = [snapshot] ∧
      current? archiveDb.legalSnapshots = some legal ∧
      current? archiveDb.archiveSnapshots = some archive ∧
      current? archiveDb.topicMatchSnapshots = some currentMatch ∧
      snapshot.inputs = ⟨legal.pk, archive.pk, currentMatch.pk⟩) := by
  have h := matchSnapshot_currency (fun items _ => leaveUnmatched items)
    (fun items _ _ => leaveUnmatched items) movedWorkbook
  exact ⟨h.1 (by decide +kernel), h.2 (by decide +kernel)⟩

end Dashkoda.LegalWork
