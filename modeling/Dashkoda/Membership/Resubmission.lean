import Dashkoda.Membership.ManualIdentity
import Dashkoda.Membership.Preference

/-!
# Submitting a report a second time

What a service leaves of the rows that were there: their date, their source and the content they
came from never move.  A report that was published once is therefore found again in every later
state, and submitting it again writes nothing.
-/

open Lib

namespace Dashkoda.Membership

open Sources (Time Registry SourceArtifact)

/-! ## Rows that stay -/

section Carried

variable {rows rows' rows'' : List Observation} {row row' row'' : Observation} {pk : Nat}

/-- The columns of an observation that no service moves. -/
structure SameRow (row row' : Observation) : Prop where
  pk : row'.pk = row.pk
  source : row'.source = row.source
  observationDate : row'.observationDate = row.observationDate
  artifact : row'.artifact = row.artifact

theorem SameRow.refl (row : Observation) : SameRow row row := ⟨rfl, rfl, rfl, rfl⟩

theorem SameRow.trans (h : SameRow row row') (h' : SameRow row' row'') : SameRow row row'' :=
  ⟨h'.pk.trans h.pk, h'.source.trans h.source, h'.observationDate.trans h.observationDate,
    h'.artifact.trans h.artifact⟩

/-- Every row is still there with its fixed columns; new rows come after. -/
def Carried (rows rows' : List Observation) : Prop :=
  ∃ (f : Observation → Observation) (more : List Observation),
    (∀ row, SameRow row (f row)) ∧ rows' = rows.map f ++ more

theorem Carried.refl (rows : List Observation) : Carried rows rows :=
  ⟨id, [], SameRow.refl, by rw [List.map_id, List.append_nil]⟩

theorem Carried.trans (h : Carried rows rows') (h' : Carried rows' rows'') :
    Carried rows rows'' := by
  obtain ⟨f, more, hf, rfl⟩ := h
  obtain ⟨g, more', hg, rfl⟩ := h'
  refine ⟨fun row => g (f row), more.map g ++ more', fun row => (hf row).trans (hg (f row)), ?_⟩
  rw [List.map_append, List.map_map, List.append_assoc]
  rfl

theorem carried_append (rows more : List Observation) : Carried rows (rows ++ more) :=
  ⟨id, more, SameRow.refl, by rw [List.map_id]⟩

theorem carried_updateWhere (p : Observation → Bool) {f : Observation → Observation}
    (hf : ∀ row, SameRow row (f row)) (rows : List Observation) :
      Carried rows (Table.updateWhere p f rows) := by
  refine ⟨fun row => if p row then f row else row, [], fun row => ?_, (List.append_nil _).symm⟩
  dsimp only
  split
  · exact hf row
  · exact SameRow.refl row

theorem Carried.mem (h : Carried rows rows') (hrow : row ∈ rows) :
    ∃ row' ∈ rows', SameRow row row' := by
  obtain ⟨f, more, hf, rfl⟩ := h
  exact ⟨f row, List.mem_append_left _ (List.mem_map_of_mem hrow), hf row⟩

theorem Carried.get? (h : Carried rows rows') (hget : Table.get? rows pk = some row) :
    ∃ row', Table.get? rows' pk = some row' ∧ SameRow row row' := by
  obtain ⟨f, more, hf, rfl⟩ := h
  refine ⟨f row, ?_, hf row⟩
  induction rows with
  | nil => cases hget
  | cons first rest ih =>
    rw [Table.get?_cons] at hget
    rw [List.map_cons, List.cons_append, Table.get?_cons]
    have hpk : Row.pk (f first) = Row.pk first := (hf first).pk
    rw [hpk]
    split at hget
    · rename_i hfound
      rw [if_pos hfound, Option.some.inj hget]
    · rename_i hother
      rw [if_neg hother]
      exact ih hget

end Carried

/-! ## What the services keep -/

section Services

variable {rows rows' : List Observation} {source pk : Nat} {date : Date} {now : Time}

theorem sameRow_preferred (flag : Bool) (row : Observation) :
    SameRow row { row with isPreferredForDate := flag } := ⟨rfl, rfl, rfl, rfl⟩

theorem electPreferredForDate_carried (h : electPreferredForDate rows source date = .ok rows') :
    Carried rows rows' := by
  unfold electPreferredForDate at h
  split at h
  · cases h
    exact Carried.refl rows
  · rename_i winner _
    have hcleared := carried_updateWhere
      (fun r => competes source date r && r.isPreferredForDate && r.pk ≠ winner)
        (sameRow_preferred false) rows
    dsimp only at h
    split at h
    · cases h
    · split at h
      · cases h
        exact hcleared
      · unfold preferRow at h
        split at h
        · cases h
        · cases h
          exact hcleared.trans (carried_updateWhere _ (sameRow_preferred true) _)

theorem supersedeObservation_carried {previous replacement : Nat}
    (h : supersedeObservation rows previous replacement = .ok rows') : Carried rows rows' := by
  unfold supersedeObservation at h
  split at h
  · cases h
  · split at h
    · cases h
    · cases h
      exact carried_updateWhere _
        (fun row => (⟨rfl, rfl, rfl, rfl⟩ : SameRow row (retired row))) rows

theorem publishObservation_carried {supersedes : Option Nat}
    (h : publishObservation rows pk supersedes now = .ok rows') : Carried rows rows' := by
  have hstamped : Carried rows (stampPublished rows pk now) :=
    carried_updateWhere _
      (fun row => (⟨rfl, rfl, rfl, rfl⟩ : SameRow row { row with publishedAt := some now })) rows
  unfold publishObservation at h
  split at h
  · cases h
  · dsimp only at h
    split at h
    · exact hstamped.trans (electPreferredForDate_carried h)
    · split at h
      · cases h
      · rename_i hretired
        exact hstamped.trans
          ((supersedeObservation_carried hretired).trans (electPreferredForDate_carried h))

theorem performRows_carried {act : Act} (h : performRows rows act = .ok rows') :
    Carried rows rows' := by
  cases act with
  | publishNew row supersedes now =>
    unfold performRows at h
    dsimp only at h
    split at h
    · cases h
    · exact (carried_append rows _).trans (publishObservation_carried h)
  | publish pk supersedes now => exact publishObservation_carried h
  | supersede previous replacement => exact supersedeObservation_carried h
  | manual report now =>
    cases h
    exact Carried.refl rows
  | elect source date => exact electPreferredForDate_carried h

end Services

/-! ## The content a report came from -/

section Publish

variable {sha256 : String → String} {internalSource : Nat} {db db' : MembershipDb}
  {report : ManualReport}
  {now : Time} {pk : Nat}

/-- A row of the source came from this content. -/
def Published (db : MembershipDb) (source : Nat) (contentSha256 : String) : Prop :=
  ∃ row ∈ db.observations, row.source = source ∧
    ∃ artifact, Table.get? db.registry.artifacts row.artifact = some artifact ∧
    artifact.sha256 = contentSha256

/-- What every act keeps: the rows, and the registered contents under their keys. -/
structure Kept (db db' : MembershipDb) : Prop where
  rows : Carried db.observations db'.observations
  artifacts : db.registry.artifacts <+: db'.registry.artifacts
  keys : Table.UniqueKeys db.registry.artifacts → Table.UniqueKeys db'.registry.artifacts

theorem Kept.refl (db : MembershipDb) : Kept db db := ⟨Carried.refl _, List.prefix_refl _, id⟩

theorem Kept.trans {db'' : MembershipDb} (h : Kept db db') (h' : Kept db' db'') : Kept db db'' :=
  ⟨h.rows.trans h'.rows, h.artifacts.trans h'.artifacts, fun hkeys => h'.keys (h.keys hkeys)⟩

theorem get?_of_prefix {t t' : List SourceArtifact} (h : t <+: t') {artifact : SourceArtifact}
    (hget : Table.get? t pk = some artifact) : Table.get? t' pk = some artifact := by
  obtain ⟨more, rfl⟩ := h
  unfold Table.get? at hget ⊢
  rw [List.find?_append, hget]
  rfl

theorem Published.kept {source : Nat} {contentSha256 : String}
    (h : Published db source contentSha256)
    (hkept : Kept db db') : Published db' source contentSha256 := by
  obtain ⟨row, hrow, hsource, artifact, hget, hsha⟩ := h
  obtain ⟨row', hrow', hsame⟩ := hkept.rows.mem hrow
  refine ⟨row', hrow', hsame.source.trans hsource, artifact, ?_, hsha⟩
  rw [hsame.artifact]
  exact get?_of_prefix hkept.artifacts hget

theorem existingObservation_isSome_iff {source : Nat} {contentSha256 : String} :
    (∃ existing, existingObservation db source contentSha256 = some existing) ↔
      Published db source contentSha256 := by
  have hcarries (row : Observation) : (row.source = source &&
      (Table.get? db.registry.artifacts row.artifact).any fun artifact =>
        artifact.sha256 = contentSha256) = true ↔
        row.source = source ∧ ∃ artifact, Table.get? db.registry.artifacts row.artifact =
          some artifact ∧
          artifact.sha256 = contentSha256 := by
    rw [Bool.and_eq_true, decide_eq_true_iff, Option.any_eq_true]
    constructor
    · intro ⟨hsource, artifact, hget, hsha⟩
      exact ⟨hsource, artifact, hget, of_decide_eq_true hsha⟩
    · intro ⟨hsource, artifact, hget, hsha⟩
      exact ⟨hsource, artifact, hget, decide_eq_true hsha⟩
  unfold existingObservation
  constructor
  · intro ⟨existing, hexisting⟩
    obtain ⟨hrow, hsame⟩ := List.mem_filter.mp (minOn?_mem hexisting)
    obtain ⟨hsource, hartifact⟩ := (hcarries existing).mp hsame
    exact ⟨existing, hrow, hsource, hartifact⟩
  · intro ⟨row, hrow, hsource, hartifact⟩
    have hmem : row ∈ db.observations.filter fun row => row.source = source &&
        (Table.get? db.registry.artifacts row.artifact).any fun artifact =>
          artifact.sha256 = contentSha256 :=
      List.mem_filter.mpr ⟨hrow, (hcarries row).mpr ⟨hsource, hartifact⟩⟩
    rw [← Option.ne_none_iff_exists']
    intro hnone
    rw [minOn?_eq_none_iff.mp hnone] at hmem
    cases hmem

/-- The artifact of a content is registered under its own key. -/
theorem artifactFor_registered {registry registry' : Registry} {artifact : SourceArtifact}
    {source size : Nat} {contentSha256 : String}
    (hstrip : PyText.strip contentSha256 = contentSha256)
    (hkeys : Table.UniqueKeys registry.artifacts)
    (h : artifactFor registry source contentSha256 size = .ok (registry', artifact)) :
    registry.artifacts <+: registry'.artifacts ∧ Table.UniqueKeys registry'.artifacts ∧
      Table.get? registry'.artifacts artifact.pk = some artifact ∧
      artifact.sha256 = contentSha256 := by
  unfold artifactFor at h
  split at h
  · rename_i found hfind
    cases h
    have hfound := List.find?_some hfind
    rw [Bool.and_eq_true, decide_eq_true_iff, decide_eq_true_iff] at hfound
    exact ⟨List.prefix_refl _, hkeys, Table.get?_of_mem hkeys
      (List.mem_of_find?_eq_some hfind), hfound.2⟩
  · have hregistered : Sources.registerExternalReference registry source contentSha256 size =
        .ok (registry', artifact) := by
      revert h
      cases Sources.registerExternalReference registry source contentSha256 size with
      | error e => exact fun h => (by cases h)
      | ok result => exact fun h => congrArg Except.ok (Except.ok.inj h)
    obtain ⟨identity, hidentity, hartifact, hregistry⟩ :=
      Sources.registerExternalReference_eq_ok_iff.mp hregistered
    have hfresh : artifact.pk = Table.nextPk registry.artifacts := by rw [hartifact]
    have hkeys' : Table.UniqueKeys (registry.artifacts ++ [artifact]) :=
      Table.uniqueKeys_append hkeys fun row hrow heq => Table.ne_nextPk hrow (heq.trans hfresh)
    have hsha : identity.1 = contentSha256 := by
      unfold Sources.contentIdentity at hidentity
      split at hidentity
      · rename_i hempty
        rw [← Except.ok.inj hidentity, hempty]
      · obtain ⟨-, -, -, -, hsame⟩ := Sources.validateContentIdentity_eq_ok_iff.mp hidentity
        rw [hsame, hstrip]
    rw [hregistry]
    refine ⟨List.prefix_append _ _, hkeys', Table.get?_of_mem hkeys' ?_, by rw [hartifact, hsha]⟩
    exact List.mem_append_right _ List.mem_cons_self

/-- A report that was accepted keeps what was there and is published. -/
theorem publishManualReport_published (hstrip : ∀ text, PyText.strip (sha256 text) = sha256 text)
    (hkeys : Table.UniqueKeys db.registry.artifacts)
    (h : publishManualReport sha256 internalSource db report now = .ok (db', pk)) :
    Kept db db' ∧ Published db' internalSource (canonicalSha256 sha256 report) := by
  unfold publishManualReport at h
  split at h
  · cases h
  split at h
  · cases h
  dsimp only at h
  split at h
  · rename_i duplicate hduplicate
    cases h
    exact ⟨Kept.refl _, existingObservation_isSome_iff.mp ⟨duplicate, hduplicate⟩⟩
  split at h
  · cases h
  rename_i registry₁ artifact hartifact
  split at h
  · cases h
  rename_i registry₂ run₂ hbuilt
  split at h
  · cases h
  rename_i registry₃ run₃ hstarted
  obtain ⟨hstart, hunique, hget, hsha⟩ := artifactFor_registered (hstrip _) hkeys hartifact
  obtain ⟨-, -, -, hregistry₂⟩ := Sources.buildImportRun_eq_ok_iff.mp hbuilt
  obtain ⟨-, -, hregistry₃⟩ := Sources.startRun_eq_ok_iff.mp hstarted
  have hartifacts : registry₃.artifacts = registry₁.artifacts := by
    rw [hregistry₃, hregistry₂]
    rfl
  obtain ⟨row, -, -, hsource, -, hrow, hlast, hpublished⟩ := writeReport_observations h
  have hlater : db'.registry.artifacts = registry₁.artifacts := hlast.trans hartifacts
  have hcarried := publishObservation_carried hpublished
  refine ⟨⟨(carried_append _ _).trans hcarried, hlater ▸ hstart, fun _ => hlater ▸ hunique⟩, ?_⟩
  obtain ⟨row', hrow', hsame⟩ := hcarried.mem (List.mem_append_right _ List.mem_cons_self)
  refine ⟨row', hrow', hsame.source.trans hsource, artifact, ?_, hsha⟩
  rw [hsame.artifact, hrow, hlater]
  exact hget

theorem step_kept (hstrip : ∀ text, PyText.strip (sha256 text) = sha256 text)
    (hkeys : Table.UniqueKeys db.registry.artifacts) (act : Act) :
    Kept db (step sha256 internalSource db act) := by
  have hrows {act : Act} {rows : List Observation}
      (hperform : performRows db.observations act = .ok rows) :
      Kept db { db with observations := rows } :=
        ⟨performRows_carried hperform, List.prefix_refl _, id⟩
  unfold step
  cases hperform : perform sha256 internalSource db act with
  | error e => exact Kept.refl db
  | ok db' =>
    dsimp only
    unfold perform at hperform
    split at hperform
    · rename_i report now
      obtain ⟨published, hpublished, rfl⟩ := map_eq_ok_iff.mp hperform
      exact (@publishManualReport_published _ _ _ published.1 _ _ published.2 hstrip hkeys
        hpublished).1
    · obtain ⟨rows, hok, rfl⟩ := map_eq_ok_iff.mp hperform
      exact hrows hok

theorem step_manual (h : publishManualReport sha256 internalSource db report now = .ok (db', pk)) :
    step sha256 internalSource db (.manual report now) = db' := by
  unfold step perform
  dsimp only
  rw [h]
  rfl

theorem run_kept (hstrip : ∀ text, PyText.strip (sha256 text) = sha256 text)
    (hkeys : Table.UniqueKeys db.registry.artifacts) (acts : List Act) :
    Kept db (run (step sha256 internalSource) db acts) :=
  @run_keeps _ _ _ (Kept db) (fun _ act h => h.trans (step_kept hstrip (h.keys hkeys) act)) acts _
    (Kept.refl db)

end Publish

/-! ## The preview of a report that says the same -/

section Preview

variable {rows rows' : List Observation} {source : Nat} {a b report again : ManualReport}
  {preview : ManualPreview}

theorem sumOrNone_of_perm {xs ys : List Nat} (h : xs.Perm ys) : sumOrNone xs = sumOrNone ys := by
  cases xs with
  | nil => rw [h.nil_eq]
  | cons x xs =>
    cases ys with
    | nil => exact absurd h.symm.nil_eq (List.cons_ne_nil _ _).symm
    | cons y ys => exact congrArg some h.sum_eq

theorem SameTable.values_perm {κ : Type} [DecidableEq κ] {d d' : Dict κ Nat} (h : SameTable d d') :
    d.values.Perm d'.values := (Dict.perm_entries_iff.mpr h).map Prod.snd

theorem SameReport.reasonTotal_eq (h : SameReport a b) : reasonTotal a = reasonTotal b := by
  unfold reasonTotal
  rw [h.otherReasonCount]
  exact sumOrNone_of_perm (h.removalReasons.values_perm.append_right _)

theorem futureMonthErrors_eq_nil (h : SameReport a b) (hnone : futureMonthErrors a = []) :
    futureMonthErrors b = [] := by
  unfold futureMonthErrors at hnone ⊢
  rw [← h.monthlyYear, ← h.observationDate]
  cases hyear : a.monthlyYear with
  | none => rfl
  | some year =>
    rw [hyear] at hnone
    dsimp only at hnone ⊢
    rw [List.map_eq_nil_iff, List.filter_eq_nil_iff] at hnone ⊢
    intro month hmonth
    obtain ⟨count, hget⟩ := Dict.mem_keys_iff_get?.mp hmonth
    exact hnone month (Dict.mem_keys_iff_get?.mpr ⟨count, (h.monthlyNewMembers month).trans hget⟩)

theorem reportErrors_eq_nil (h : SameReport a b) (hnone : reportErrors a = []) :
    reportErrors b = [] := by
  unfold reportErrors at hnone ⊢
  simp only [List.append_eq_nil_iff] at hnone ⊢
  obtain ⟨⟨⟨⟨hpaid, hmonths⟩, hjoined⟩, hremoved⟩, hreasons⟩ := hnone
  refine ⟨⟨⟨⟨?_, futureMonthErrors_eq_nil h hmonths⟩, ?_⟩, ?_⟩, ?_⟩
  · rw [← h.facts.paidMembers, ← h.facts.totalMembers]
    exact hpaid
  · rw [← h.sizeTableComplete, ← h.facts.newMembersYtd,
      ← sumOrNone_of_perm h.joinedByBand.values_perm]
    exact hjoined
  · rw [← h.sizeTableComplete, ← h.facts.removedMembersYtd,
      ← sumOrNone_of_perm h.removedByBand.values_perm]
    exact hremoved
  · rw [← h.reasonsComplete, ← h.facts.removedMembersYtd, ← h.reasonTotal_eq]
    exact hreasons

theorem SameAmount.cases {x y : Option Decimal} (h : SameAmount x y) :
    (x = none ∧ y = none) ∨ ∃ d d', x = some d ∧ y = some d' ∧ d.toRat = d'.toRat := by
  unfold SameAmount at h
  cases x with
  | none =>
    cases y with
    | none => exact Or.inl ⟨rfl, rfl⟩
    | some d' => cases h
  | some d =>
    cases y with
    | none => cases h
    | some d' => exact Or.inr ⟨d, d', rfl, rfl, Option.some.inj h⟩

theorem computedCollectionPct_congr {x y x' y' : Option Decimal} (h : SameAmount x y)
    (h' : SameAmount x' y') :
    computedCollectionPct x x' = computedCollectionPct y y' := by
  cases h.cases with
  | inl hnone => rw [hnone.1, hnone.2]; rfl
  | inr hsome =>
    obtain ⟨d, e, rfl, rfl, hvalue⟩ := hsome
    cases h'.cases with
    | inl hnone => rw [hnone.1, hnone.2]; rfl
    | inr hsome' =>
      obtain ⟨d', e', rfl, rfl, hvalue'⟩ := hsome'
      unfold computedCollectionPct
      dsimp only
      rw [hvalue, hvalue']

theorem collectionGap_congr {x y : MetricFacts} (h : SameFacts x y) :
    collectionGap x = collectionGap y := by
  unfold collectionGap
  rw [computedCollectionPct_congr h.membershipFeesReceivedEur h.membershipFeeBudgetEur]
  cases h.membershipFeeCollectionPctReported.cases with
  | inl hnone => rw [hnone.1, hnone.2]
  | inr hsome =>
    obtain ⟨d, d', hx, hy, hvalue⟩ := hsome
    rw [hx, hy]
    cases computedCollectionPct y.membershipFeesReceivedEur y.membershipFeeBudgetEur with
    | none => rfl
    | some computed => exact congrArg (fun q => some (Decimal.sub q computed)) hvalue

theorem paidShare_congr {x y : MetricFacts} (h : SameFacts x y) : paidShare x = paidShare y := by
  unfold paidShare
  rw [h.totalMembers, h.paidMembers]

/-- The figures of the preview can be rounded to cents. -/
def Rounds (facts : MetricFacts) : Prop :=
  (∃ difference, cents (collectionGap facts) = .ok difference) ∧
    ∃ share, cents (paidShare facts) = .ok share

theorem buildPreview_eq_ok (h : buildPreview rows source report = .ok preview) :
    Rounds report.facts ∧
    preview.errors = reportErrors report ++ correctionErrors rows source report := by
  unfold buildPreview at h
  split at h
  · cases h
  · rename_i difference hdifference
    split at h
    · cases h
    · rename_i share hshare
      cases h
      exact ⟨⟨⟨difference, hdifference⟩, share, hshare⟩, rfl⟩

theorem Rounds.buildPreview (h : Rounds report.facts) : ∃ preview,
    Membership.buildPreview rows source report = .ok preview ∧
      preview.errors = reportErrors report ++ correctionErrors rows source report := by
  obtain ⟨⟨difference, hdifference⟩, share, hshare⟩ := h
  unfold Membership.buildPreview
  rw [hdifference, hshare]
  exact ⟨_, rfl, rfl⟩

def dateChangeMessage : String :=
  "Parandatava vaatluse kuupäev erineb sisestatust. Kinnita kuupäeva muutmine eraldi."

/-- A correction to another date without the tick that confirms it. -/
def unconfirmedMove (rows : List Observation) (source : Nat) (report : ManualReport) : Bool :=
  ((correctedRow rows source report).any fun row => row.observationDate ≠ report.observationDate) &&
    !report.confirmDateChange

/-- The row a published correction names is found again, so only the tick can be missing. -/
theorem correctionErrors_again (hrows : Carried rows rows') (hsame : SameReport report again)
    (hnone : correctionErrors rows source report = []) :
    correctionErrors rows' source again =
      if unconfirmedMove rows' source again then [dateChangeMessage] else [] := by
  unfold correctionErrors unconfirmedMove
  cases hid : again.supersedesId with
  | none =>
    have hrow : correctedRow rows' source again = none := by
      unfold correctedRow
      rw [hid]
      rfl
    rw [hrow]
    rfl
  | some pk =>
    have hid' : report.supersedesId = some pk := hsame.supersedesId.trans hid
    unfold correctionErrors at hnone
    rw [hid'] at hnone
    cases hcorrected : correctedRow rows source report with
    | none =>
      rw [hcorrected] at hnone
      cases hnone
    | some row =>
      unfold correctedRow at hcorrected
      rw [hid'] at hcorrected
      obtain ⟨hget, hsource⟩ := Option.filter_eq_some_iff.mp hcorrected
      obtain ⟨row', hget', hrow'⟩ := hrows.get? hget
      have hagain : correctedRow rows' source again = some row' := by
        unfold correctedRow
        rw [hid]
        refine Option.filter_eq_some_iff.mpr ⟨hget', decide_eq_true ?_⟩
        exact hrow'.source.trans (of_decide_eq_true hsource)
      rw [hagain, Option.any_some]
      rfl

end Preview

/-! ## The second submission -/

section Again

variable {sha256 : String → String} {internalSource : Nat} {db db' : MembershipDb}
  {report again : ManualReport}
  {now later : Time} {pk : Nat}

/-- A report that was accepted passed its preview. -/
theorem publishManualReport_previewed
    (h : publishManualReport sha256 internalSource db report now = .ok (db', pk)) :
    Rounds report.facts ∧ reportErrors report = [] ∧
    correctionErrors db.observations internalSource report = [] := by
  unfold publishManualReport at h
  split at h
  · cases h
  rename_i preview hpreview
  obtain ⟨hrounds, herrors⟩ := buildPreview_eq_ok hpreview
  split at h
  · cases h
  rename_i hnone
  rw [herrors, List.append_eq_nil_iff] at hnone
  exact ⟨hrounds, hnone⟩

/-- What a second submission comes to: the observation that is there, or the refusal of an
unconfirmed move. -/
def ReturnsExisting (sha256 : String → String) (internalSource : Nat) (db : MembershipDb)
    (again : ManualReport)
    (later : Time) : Prop :=
  ∃ existing, existingObservation db internalSource (canonicalSha256 sha256 again) = some existing ∧
    publishManualReport sha256 internalSource db again later =
      if unconfirmedMove db.observations internalSource again then
        .error (.manualEntry dateChangeMessage)
      else .ok (db, existing.pk)

theorem returnsExisting_of_published
    (hpublished : Published db' internalSource (canonicalSha256 sha256 again))
    (hrows : Carried db.observations db'.observations) (hsame : SameReport report again)
    (hrounds : Rounds report.facts) (hreport : reportErrors report = [])
    (hcorrection : correctionErrors db.observations internalSource report = []) :
    ReturnsExisting sha256 internalSource db' again later := by
  obtain ⟨existing, hexisting⟩ := existingObservation_isSome_iff.mpr hpublished
  have hrounds' : Rounds again.facts := by
    unfold Rounds at hrounds ⊢
    rwa [← collectionGap_congr hsame.facts, ← paidShare_congr hsame.facts]
  obtain ⟨preview, hpreview, herrors⟩ :=
    @Rounds.buildPreview db'.observations internalSource again hrounds'
  rw [reportErrors_eq_nil hsame hreport, List.nil_append,
    correctionErrors_again hrows hsame hcorrection] at herrors
  refine ⟨existing, hexisting, ?_⟩
  unfold publishManualReport
  rw [hpreview]
  dsimp only
  cases hmove : unconfirmedMove db'.observations internalSource again with
  | true =>
    rw [hmove, if_pos rfl] at herrors
    rw [herrors]
    rfl
  | false =>
    rw [hmove, if_neg Bool.false_ne_true] at herrors
    rw [herrors]
    dsimp only
    rw [hexisting]
    rfl

/-- The identity of typed reports, and what it is for. -/
structure ManualIdentity (sha256 : String → String) (internalSource : Nat) : Prop where
  identity : ∀ a b, AmountsFit a → AmountsFit b →
    (canonicalSha256 sha256 a = canonicalSha256 sha256 b ↔ SameReport a b)
  /-- After any history a report that was published once is not published again. -/
  resubmitted : ∀ before after report again now later published pk, AmountsFit report →
    AmountsFit again →
    publishManualReport sha256 internalSource (run (step sha256 internalSource) .empty before)
      report now =
      .ok (published, pk) →
    canonicalSha256 sha256 again = canonicalSha256 sha256 report →
    ReturnsExisting sha256 internalSource
      (run (step sha256 internalSource) published after) again later

/-- **A report is what it says, and is published once.** -/
theorem manual_identity (sha256 : String → String) (internalSource : Nat)
    (hsha : Function.Injective sha256)
    (hstrip : ∀ text, PyText.strip (sha256 text) = sha256 text) :
      ManualIdentity sha256 internalSource := by
  constructor
  · exact fun a b ha hb => canonicalSha256_eq_iff hsha ha hb
  · intro before after report again now later published pk hreport hagain hok hidentity
    have hsame := (canonicalSha256_eq_iff hsha hreport hagain).mp hidentity.symm
    have hkeys :=
      (@run_kept sha256 internalSource MembershipDb.empty hstrip List.nodup_nil before).keys
        List.nodup_nil
    obtain ⟨hkept, hpublished⟩ := publishManualReport_published hstrip hkeys hok
    have hafter := @run_kept sha256 internalSource published hstrip (hkept.keys hkeys) after
    obtain ⟨hrounds, herrors, hcorrection⟩ := publishManualReport_previewed hok
    refine returnsExisting_of_published ?_ (hkept.rows.trans hafter.rows) hsame hrounds
      herrors hcorrection
    rw [hidentity]
    exact hpublished.kept hafter

end Again

/-! ## The tick is asked for again -/

section Unticked

/-- The digest of the import key of the moved report. -/
def keyDigest : String := "1e2b1e2b1e2b1e2b1e2b1e2b1e2b1e2b1e2b1e2b1e2b1e2b1e2b1e2b1e2b1e2b"

def movedKeyText : String :=
  Sources.importKeyText importerName manualSchemaVersion (sampleDigest "")

/-- A digest that tells all texts apart, with 64 digits for the two texts of the moved report. -/
def sampleHash (text : String) : String :=
  if text.toList = canonicalJson movedReport then sampleDigest ""
  else if text = movedKeyText then keyDigest
  else "x" ++ text ++ "x"

theorem sampleHash_injective : Function.Injective sampleHash := by
  have hhead (text : String) : ("x" ++ text ++ "x").toList.head? = some 'x' := by
    rw [String.toList_append, String.toList_append]
    rfl
  have hcontent (text : String) : sampleDigest "" ≠ "x" ++ text ++ "x" := by
    intro heq
    have hfirst : (sampleDigest "").toList.head? = some 'x' := by rw [heq, hhead]
    exact absurd hfirst (by decide)
  have hkey (text : String) : keyDigest ≠ "x" ++ text ++ "x" := by
    intro heq
    have hfirst : keyDigest.toList.head? = some 'x' := by rw [heq, hhead]
    exact absurd hfirst (by decide)
  have hdifferent : sampleDigest "" ≠ keyDigest := by decide
  intro s t heq
  unfold sampleHash at heq
  split at heq
  · rename_i hs
    split at heq
    · rename_i ht
      exact String.toList_inj.mp (hs.trans ht.symm)
    · split at heq
      · exact absurd heq hdifferent
      · exact absurd heq (hcontent t)
  · split at heq
    · rename_i hs
      split at heq
      · exact absurd heq.symm hdifferent
      · split at heq
        · rename_i ht
          rw [hs, ht]
        · exact absurd heq (hkey t)
    · split at heq
      · exact absurd heq.symm (hcontent s)
      · split at heq
        · exact absurd heq.symm (hkey s)
        · have hlist := congrArg String.toList heq
          rw [String.toList_append, String.toList_append, String.toList_append,
            String.toList_append] at hlist
          exact String.toList_inj.mp (List.append_cancel_left (List.append_cancel_right hlist))

theorem strip_sampleHash (text : String) : PyText.strip (sampleHash text) = sampleHash text := by
  unfold sampleHash
  split
  · decide +kernel
  · split
    · decide +kernel
    · have htext : ("x" ++ text ++ "x").toList = 'x' :: (text.toList ++ ['x']) := by
        rw [String.toList_append, String.toList_append]
        rfl
      unfold PyText.strip PyText.stripChars
      rw [htext, List.dropWhile_cons_of_neg (by decide), List.reverse_cons, List.reverse_append,
        show (['x'].reverse ++ text.toList.reverse ++ ['x']) =
          'x' :: (text.toList.reverse ++ ['x']) from rfl,
        List.dropWhile_cons_of_neg (by decide), List.reverse_cons, List.reverse_append,
        List.reverse_reverse,
        ← String.toList_inj, String.toList_ofList, htext]
      rfl

theorem manual_identity_sample : ManualIdentity sampleHash 1 :=
  manual_identity sampleHash 1 sampleHash_injective strip_sampleHash

/-- The report of the move again, without the tick. -/
def untickedReport : ManualReport := { movedReport with confirmDateChange := false }

def marchDb : MembershipDb :=
  step sampleHash 1 MembershipDb.empty (.publishNew (marchRow .manual) none 5)

theorem marchDb_keys : Table.UniqueKeys marchDb.registry.artifacts :=
  (@step_kept sampleHash 1 MembershipDb.empty strip_sampleHash List.nodup_nil _).keys List.nodup_nil

/-- A digest with the same two values, told apart by their first byte. -/
def quickHash (text : String) : String :=
  if text.toByteArray.data.toList.head? = some 123 then sampleDigest "" else keyDigest

/-- Publishing reads two digests: that of the report, and that of the import key. -/
theorem publishManualReport_congr {sha256 sha256' : String → String} {internalSource : Nat}
    {db : MembershipDb} {report : ManualReport} {now : Time} {content : String}
    (hcontent : canonicalSha256 sha256 report = content)
    (hcontent' : canonicalSha256 sha256' report = content) (hstrip : PyText.strip content = content)
    (hkeys : Table.UniqueKeys db.registry.artifacts)
    (hkey : sha256 (Sources.importKeyText importerName manualSchemaVersion content) =
      sha256' (Sources.importKeyText importerName manualSchemaVersion content)) :
    publishManualReport sha256 internalSource db report now =
      publishManualReport sha256' internalSource db report now := by
  unfold publishManualReport
  rw [hcontent, hcontent']
  split
  · rfl
  split
  · rfl
  dsimp only
  split
  · rfl
  cases hartifact : artifactFor db.registry internalSource content
      (utf8Length (canonicalJson report)) with
  | error e => rfl
  | ok registered =>
    obtain ⟨-, -, -, hsha⟩ :=
      @artifactFor_registered _ registered.1 registered.2 _ _ _ hstrip hkeys hartifact
    have hbuilt : Sources.buildImportRun sha256 registered.1 registered.2 importerName
        manualSchemaVersion false =
        Sources.buildImportRun sha256' registered.1 registered.2 importerName
          manualSchemaVersion false := by
      unfold Sources.buildImportRun Sources.calculateImportKey
      rw [hsha, hkey]
    dsimp only
    rw [hbuilt]

theorem movedReport_published : ∃ db pk, publishManualReport sampleHash 1 marchDb movedReport 7 =
    .ok (db, pk) := by
  have hquick : ((publishManualReport quickHash 1 marchDb movedReport 7).toOption).isSome =
    true := by decide +kernel
  have hcontent : canonicalSha256 sampleHash movedReport = sampleDigest "" := by
    unfold canonicalSha256 sampleHash
    rw [if_pos String.toList_ofList]
  have hkey : sampleHash movedKeyText = quickHash movedKeyText := by
    have hother : movedKeyText.toList ≠ canonicalJson movedReport := by
      intro heq
      exact absurd (congrArg List.head? heq) (by decide +kernel)
    unfold sampleHash
    rw [if_neg hother, if_pos rfl]
    decide +kernel
  rw [publishManualReport_congr hcontent (by decide +kernel) (by decide +kernel) marchDb_keys hkey]
  cases hpublished : publishManualReport quickHash 1 marchDb movedReport 7 with
  | error e =>
    rw [hpublished] at hquick
    cases hquick
  | ok result => exact ⟨result.1, result.2, rfl⟩

/-- A correction to another date is refused when it is submitted again without its tick. -/
theorem unticked_report_refused :
    ¬ ∀ (sha256 : String → String) (internalSource : Nat), Function.Injective sha256 →
      ∀ (acts : List Act) (report : ManualReport) (now : Time), AmountsFit report →
        let db := run (step sha256 internalSource) MembershipDb.empty acts
        Published db internalSource (canonicalSha256 sha256 report) →
          ∃ pk, publishManualReport sha256 internalSource db report now = .ok (db, pk) := by
  intro hclaim
  obtain ⟨db, pk, hpublished⟩ := movedReport_published
  obtain ⟨hkept, hthere⟩ := publishManualReport_published strip_sampleHash marchDb_keys hpublished
  obtain ⟨hrounds, hreport, hcorrection⟩ := publishManualReport_previewed hpublished
  have hsame : SameReport movedReport untickedReport :=
    (canonicalSha256_eq_iff sampleHash_injective (fun _ h => (by cases h))
      (fun _ h => (by cases h))).mp rfl
  obtain ⟨row, hrow, hdate⟩ : ∃ row, Table.get? marchDb.observations 1 = some row ∧
      (row.source = 1 ∧ row.observationDate = march31) := by
    have hfound : (Table.get? marchDb.observations 1).any
        (fun row => row.source = 1 && row.observationDate = march31) = true := by decide +kernel
    rw [Option.any_eq_true] at hfound
    obtain ⟨row, hrow, hsource⟩ := hfound
    rw [Bool.and_eq_true, decide_eq_true_iff, decide_eq_true_iff] at hsource
    exact ⟨row, hrow, hsource⟩
  obtain ⟨row', hrow', hstill⟩ := hkept.rows.get? hrow
  have hmove : unconfirmedMove db.observations 1 untickedReport = true := by
    have hcorrected : correctedRow db.observations 1 untickedReport = some row' :=
      Option.filter_eq_some_iff.mpr ⟨hrow', decide_eq_true (hstill.source.trans hdate.1)⟩
    unfold unconfirmedMove
    rw [hcorrected, Option.any_some, hstill.observationDate, hdate.2]
    decide
  obtain ⟨existing, -, hagain⟩ :=
    @returnsExisting_of_published sampleHash 1 marchDb db movedReport untickedReport 9
    hthere hkept.rows hsame hrounds hreport hcorrection
  have hrun : run (step sampleHash 1) MembershipDb.empty
      [.publishNew (marchRow .manual) none 5, .manual movedReport 7] =
      db := by
    rw [run_cons, run_cons, run_nil]
    exact @step_manual sampleHash 1 marchDb db movedReport 7 pk hpublished
  obtain ⟨pk', hok⟩ := hclaim sampleHash 1 sampleHash_injective
    [.publishNew (marchRow .manual) none 5, .manual movedReport 7] untickedReport 9
      (fun _ h => (by cases h))
    (hrun ▸ hthere)
  rw [hrun, hagain, hmove, if_pos rfl] at hok
  cases hok

end Unticked

end Dashkoda.Membership
