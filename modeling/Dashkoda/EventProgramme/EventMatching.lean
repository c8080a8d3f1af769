import Dashkoda.Core.QueryState
import Dashkoda.EventProgramme.EventNormalisation
import Dashkoda.Lib.Dict
import Dashkoda.Lib.Ordinal
import Dashkoda.Lib.Ranking
import Dashkoda.Lib.Similarity
import Mathlib.Tactic.NormNum

/-!
# Which public page belongs to which event

The pages of the event's day and the days beside it are ranked by the likeness of their titles; the
first is the event's page where it is like enough and clear of the second.
-/

open Lib

namespace Dashkoda.EventProgramme

open Core (OverflowError)
open Similarity (containment jaccard)

def DATE_TOLERANCE_DAYS : Nat := 1
def ACCEPT_SCORE : ℚ := 70 / 100
def SCORE_MARGIN : ℚ := 20 / 100
def MINIMUM_TOKENS : Nat := 2

inductive MatchDecision
  | matched
  | ambiguous
  | unmatched
  deriving DecidableEq

def NO_DATE : String := "no-programme-date"
def THIN_NAME : String := "name-too-thin"
def NO_CANDIDATE : String := "no-page-on-date"
def BELOW_THRESHOLD : String := "below-accept-score"
def NARROW_MARGIN : String := "runner-up-too-close"
def EXACT_DATE : String := "exact-date"
def NEAR_DATE : String := "near-date"

/-- `Candidate` -/
structure Candidate where
  resourceId : Nat
  canonicalUrl : String
  title : String
  startsOn : Date
  deriving DecidableEq

/-- `Match` -/
structure EventMatch where
  eventId : String
  decision : MatchDecision
  resourceId : Option Nat
  score : ℚ
  runnerUpScore : ℚ
  evidenceCodes : List String
  deriving DecidableEq

/-- The public pages: one row for each key and for each address. -/
structure PublicPages where
  rows : List Candidate
  oneId : (rows.map (·.resourceId)).Nodup
  oneUrl : (rows.map (·.canonicalUrl)).Nodup

/-- `grouped.setdefault(starts_on, []).append(…)` -/
def addPage (grouped : Dict Date (List Candidate)) (page : Candidate) :
    Dict Date (List Candidate) :=
  grouped.set page.startsOn ((grouped.get? page.startsOn).getD [] ++ [page])

def groupPages (rows : List Candidate) : Dict Date (List Candidate) := rows.foldl addPage Dict.empty

/-- `_pages_by_date`, of the rows up to the mark. -/
def pagesByDate (rows : List Candidate) (highWater : Nat) : Dict Date (List Candidate) :=
  groupPages (rows.filter (·.resourceId ≤ highWater))

section Matching

variable (tables : NameTables)

def similarity (programmeName pageTitle : String) : ℚ :=
  max (containment (ngrams tables programmeName) (ngrams tables pageTitle))
    (jaccard (tokenSet tables programmeName) (tokenSet tables pageTitle))

/-- `range(-DATE_TOLERANCE_DAYS, DATE_TOLERANCE_DAYS + 1)` -/
def offsets : List Int := (List.range (2 * DATE_TOLERANCE_DAYS + 1)).map fun i =>
    (i : Int) - DATE_TOLERANCE_DAYS

/-- The days of the offsets; a day outside the calendar raises. -/
def toleratedDays (startsOn : Date) : Except OverflowError (List Date) :=
  offsets.mapM fun offset => Core.inCalendar (Date.shift? offset startsOn)

def candidatesFor (startsOn : Date) (pages : Dict Date (List Candidate)) :
    Except OverflowError (List Candidate) :=
  (toleratedDays startsOn).map fun days => days.flatMap fun day => (pages.get? day).getD []

/-- The order of the candidates: the most alike first. -/
def rankKey (name : String) (page : Candidate) : ℚᵒᵈ ×ₗ String :=
  toLex (OrderDual.toDual (similarity tables name page.title), page.canonicalUrl)

def decideRanked (eventId name : String) (startsOn : Date) : List Candidate → EventMatch
  | [] => ⟨eventId, .unmatched, none, 0, 0, [NO_CANDIDATE]⟩
  | best :: rest =>
    let score := similarity tables name best.title
    let runner := runnerUp (fun page => similarity tables name page.title) rest
    let dated := if best.startsOn = startsOn then EXACT_DATE else NEAR_DATE
    if score < ACCEPT_SCORE then ⟨eventId, .unmatched, none, score, runner, [BELOW_THRESHOLD]⟩
    else if score - runner < SCORE_MARGIN then
      ⟨eventId, .ambiguous, none, score, runner, [NARROW_MARGIN, dated]⟩
    else ⟨eventId, .matched, some best.resourceId, score, runner, [dated]⟩

/-- `match_event` -/
def matchEvent (eventId name : String) (startsOn : Option Date)
    (pages : Dict Date (List Candidate)) :
    Except OverflowError EventMatch :=
  match startsOn with
  | none => .ok ⟨eventId, .unmatched, none, 0, 0, [NO_DATE]⟩
  | some startsOn =>
    if (tokenSet tables name).card < MINIMUM_TOKENS then
      .ok ⟨eventId, .unmatched, none, 0, 0, [THIN_NAME]⟩
    else (candidatesFor startsOn pages).map fun considered =>
      decideRanked tables eventId name startsOn (sortOn (rankKey tables name) considered)

end Matching

/-! ## The run -/

structure MatchableItem where
  eventId : String
  eventName : String
  startDate : Option Date

/-- `MatchReport` before it is published -/
structure MatchReport where
  considered : Nat
  matched : Nat
  ambiguous : Nat
  unmatched : Nat
  resourceHighWater : Nat
  resourceCount : Nat
  evidenceCounts : Dict String Nat

/-- `report.evidence_counts[code] = report.evidence_counts.get(code, 0) + 1` -/
def countEvidence (counts : Dict String Nat) (code : String) : Dict String Nat :=
  counts.set code ((counts.get? code).getD 0 + 1)

def MatchReport.count (report : MatchReport) (decided : EventMatch) : MatchReport :=
  let counted := { report with
    considered := report.considered + 1
    evidenceCounts := decided.evidenceCodes.foldl countEvidence report.evidenceCounts }
  match decided.decision with
  | .matched => { counted with matched := counted.matched + 1 }
  | .ambiguous => { counted with ambiguous := counted.ambiguous + 1 }
  | .unmatched => { counted with unmatched := counted.unmatched + 1 }

inductive EventMatchExn
  | eventMatchError
  | overflowError

/-- `run_event_matching` up to the publication: the report and the decisions.  There may be no
current programme. -/
def runEventMatching (tables : NameTables) (programme : Option (List MatchableItem))
    (resources : List Candidate) :
    Except EventMatchExn (MatchReport × List EventMatch) :=
  match programme with
  | none => .error .eventMatchError
  | some items =>
    let highWater := (resources.map (·.resourceId)).foldl max 0
    let pages := pagesByDate resources highWater
    match items.mapM fun item =>
        matchEvent tables item.eventId item.eventName item.startDate pages with
    | .error _ => .error .overflowError
    | .ok decisions =>
      let start : MatchReport :=
        ⟨0, 0, 0, 0, highWater, (resources.filter (·.resourceId ≤ highWater)).length,
        Dict.empty⟩
      .ok (decisions.foldl MatchReport.count start, decisions)

/-! ## The candidates -/

theorem get?_addPage (grouped : Dict Date (List Candidate)) (page : Candidate) (day : Date) :
    ((addPage grouped page).get? day).getD [] =
      (grouped.get? day).getD [] ++ if page.startsOn = day then [page] else [] := by
  unfold addPage
  by_cases h : page.startsOn = day
  · rw [if_pos h, h, Dict.get?_set_self]
    rfl
  · rw [if_neg h, Dict.get?_set_ne _ _ fun heq => h heq.symm, List.append_nil]

/-- Under a day are the pages of that day, in their order. -/
theorem get?_groupPages (rows : List Candidate) (day : Date) :
    ((groupPages rows).get? day).getD [] = rows.filter (·.startsOn = day) := by
  suffices hall : ∀ grouped : Dict Date (List Candidate),
      ((rows.foldl addPage grouped).get? day).getD [] =
      (grouped.get? day).getD [] ++ rows.filter (·.startsOn = day) from hall Dict.empty
  induction rows with
  | nil => simp
  | cons page rest ih =>
    intro grouped
    rw [List.foldl_cons, ih (addPage grouped page), get?_addPage, List.append_assoc]
    by_cases h : page.startsOn = day
    · rw [if_pos h, List.filter_cons_of_pos (by simpa using h)]
      rfl
    · rw [if_neg h, List.filter_cons_of_neg (by simpa using h)]
      rfl

/-- The page's day is at most the tolerance away. -/
def WithinTolerance (startsOn : Date) (page : Candidate) : Prop :=
  page.startsOn.toOrdinal ≤ startsOn.toOrdinal + DATE_TOLERANCE_DAYS ∧
    startsOn.toOrdinal ≤ page.startsOn.toOrdinal + DATE_TOLERANCE_DAYS

theorem offsets_eq : offsets = [-1, 0, 1] := by decide

section Candidates

variable {startsOn : Date} {days : List Date} {rows rows' : List Candidate} {page : Candidate}

theorem toleratedDays_eq_ok (h : toleratedDays startsOn = .ok days) :
    ∃ before after : Date, days = [before, startsOn, after] ∧
      before.toOrdinal + 1 = startsOn.toOrdinal ∧ after.toOrdinal = startsOn.toOrdinal + 1 := by
  unfold toleratedDays at h
  rw [offsets_eq] at h
  have hall := forall₂_of_mapM_eq_ok h
  cases hall with
  | cons hbefore hall =>
    cases hall with
    | cons hday hall =>
      cases hall with
      | cons hafter hall =>
        cases hall
        rename_i before day after
        have hb := Date.shift?_eq_some_iff.mp (Core.inCalendar_eq_ok_iff.mp hbefore)
        have hd := Date.shift?_eq_some_iff.mp (Core.inCalendar_eq_ok_iff.mp hday)
        have ha := Date.shift?_eq_some_iff.mp (Core.inCalendar_eq_ok_iff.mp hafter)
        have hsame : day = startsOn := Date.toOrdinal_inj.mp (by omega)
        exact ⟨before, after, by rw [hsame], by omega, by omega⟩

/-- A day inside the calendar has its neighbours. -/
theorem exists_toleratedDays (hfirst : Date.first < startsOn) (hlast : startsOn < Date.last) :
    ∃ days, toleratedDays startsOn = .ok days := by
  have hlow := Date.toOrdinal_lt_iff.mpr hfirst
  have hhigh := Date.toOrdinal_lt_iff.mpr hlast
  have hone := Date.one_le_toOrdinal Date.first
  have hmax := Date.toOrdinal_last
  refine exists_mapM_eq_ok fun offset hoffset => ?_
  rw [offsets_eq] at hoffset
  have hrange : -1 ≤ offset ∧ offset ≤ 1 := by
    simp only [List.mem_cons, List.not_mem_nil, or_false] at hoffset
    omega
  obtain ⟨day, hday⟩ := (@Date.shift?_isSome offset startsOn).mpr (by omega)
  exact ⟨day, Core.inCalendar_eq_ok_iff.mpr hday⟩

theorem candidatesFor_groupPages (h : toleratedDays startsOn = .ok days) (rows : List Candidate) :
    candidatesFor startsOn (groupPages rows) =
      .ok (days.flatMap fun day => rows.filter (·.startsOn = day)) := by
  unfold candidatesFor
  rw [h]
  simp only [get?_groupPages]
  rfl

theorem mem_considered (h : toleratedDays startsOn = .ok days) :
    (page ∈ days.flatMap fun day => rows.filter (·.startsOn = day)) ↔ page ∈ rows ∧
    WithinTolerance startsOn page := by
  obtain ⟨before, after, rfl, hbefore, hafter⟩ := toleratedDays_eq_ok h
  simp only [List.mem_flatMap, List.mem_cons, List.not_mem_nil, or_false, List.mem_filter,
    decide_eq_true_eq]
  constructor
  · rintro ⟨day, hday, hpage, hstarts⟩
    refine ⟨hpage, ?_⟩
    unfold WithinTolerance DATE_TOLERANCE_DAYS
    rw [hstarts]
    rcases hday with rfl | rfl | rfl <;> omega
  · rintro ⟨hpage, hwithin⟩
    unfold WithinTolerance DATE_TOLERANCE_DAYS at hwithin
    refine ⟨page.startsOn, ?_, hpage, rfl⟩
    by_cases hlow : page.startsOn.toOrdinal < startsOn.toOrdinal
    · exact .inl (Date.toOrdinal_inj.mp (by omega))
    · by_cases hhigh : startsOn.toOrdinal < page.startsOn.toOrdinal
      · exact .inr (.inr (Date.toOrdinal_inj.mp (by omega)))
      · exact .inr (.inl (Date.toOrdinal_inj.mp (by omega)))

/-- No page is considered twice: the three days differ. -/
theorem nodup_considered (h : toleratedDays startsOn = .ok days) (hrows : rows.Nodup) :
    (days.flatMap fun day => rows.filter (·.startsOn = day)).Nodup := by
  obtain ⟨before, after, rfl, hbefore, hafter⟩ := toleratedDays_eq_ok h
  refine List.nodup_flatMap.mpr ⟨fun day _ => hrows.filter _, ?_⟩
  have hdays : [before, startsOn, after].Pairwise (· ≠ ·) := by
    have hne {a b : Date} (hlt : a.toOrdinal < b.toOrdinal) : a ≠ b := fun heq => by
      rw [heq] at hlt
      exact Nat.lt_irrefl _ hlt
    simp only [List.pairwise_cons, List.mem_cons, List.not_mem_nil, or_false, false_imp_iff,
      implies_true,
      List.Pairwise.nil, and_true, forall_eq_or_imp, forall_eq]
    exact ⟨⟨hne (by omega), hne (by omega)⟩, hne (by omega)⟩
  refine hdays.imp fun hne => ?_
  intro page hleft hright
  exact hne ((of_decide_eq_true (List.mem_filter.mp hleft).2).symm.trans
    (of_decide_eq_true (List.mem_filter.mp hright).2))

theorem perm_considered (days : List Date) (h : rows.Perm rows') :
    (days.flatMap fun day => rows.filter (·.startsOn = day)).Perm
      (days.flatMap fun day => rows'.filter (·.startsOn = day)) := by
  induction days with
  | nil => exact List.Perm.refl _
  | cons day rest ih => exact (h.filter _).append ih

end Candidates

/-! ## Similarity -/

section Decision

variable {tables : NameTables}

theorem similarity_comm (tables : NameTables) (left right : String) :
    similarity tables left right = similarity tables right left := by
  unfold similarity
  rw [Similarity.containment_comm, Similarity.jaccard_comm]

theorem similarity_mem_unit (tables : NameTables) (left right : String) :
    0 ≤ similarity tables left right ∧ similarity tables left right ≤ 1 := by
  have hcontainment := Similarity.containment_mem_unit (ngrams tables left) (ngrams tables right)
  have hjaccard := Similarity.jaccard_mem_unit (tokenSet tables left) (tokenSet tables right)
  unfold similarity
  exact ⟨hcontainment.1.trans (le_max_left _ _), max_le hcontainment.2 hjaccard.2⟩

/-! ## The decision -/

theorem matchEvent_dated {eventId name : String} {startsOn : Date}
    (hname : MINIMUM_TOKENS ≤ (tokenSet tables name).card)
    (pages : Dict Date (List Candidate)) : matchEvent tables eventId name (some startsOn) pages =
      (candidatesFor startsOn pages).map fun considered =>
        decideRanked tables eventId name startsOn (sortOn (rankKey tables name) considered) := by
  unfold matchEvent
  dsimp only
  rw [if_neg (Nat.not_lt.mpr hname)]

theorem matchEvent_thin {eventId name : String} {startsOn : Date}
    (hname : (tokenSet tables name).card < MINIMUM_TOKENS)
    (pages : Dict Date (List Candidate)) : matchEvent tables eventId name (some startsOn) pages =
      .ok ⟨eventId, .unmatched, none, 0, 0, [THIN_NAME]⟩ := by
  unfold matchEvent
  dsimp only
  rw [if_pos hname]

/-- The ranking has the more alike page in front. -/
theorem pairwise_ranked (name : String) (considered : List Candidate) :
    (sortOn (rankKey tables name) considered).Pairwise fun a b =>
      similarity tables name b.title ≤ similarity tables name a.title := by
  refine (pairwise_sortOn (rankKey tables name) considered).imp fun h => ?_
  rcases Prod.Lex.le_iff.mp h with hlt | ⟨heq, -⟩
  · exact le_of_lt (OrderDual.toDual_lt_toDual.mp hlt)
  · exact le_of_eq (OrderDual.toDual_inj.mp heq).symm

theorem margin_pos : 0 < SCORE_MARGIN := by norm_num [SCORE_MARGIN]

theorem margin_le_accept : SCORE_MARGIN ≤ ACCEPT_SCORE := by norm_num [SCORE_MARGIN, ACCEPT_SCORE]

/-- A match is with the first of the ranking, accepted and clear of the second. -/
theorem decideRanked_cons_iff {eventId name : String} {startsOn : Date} {best : Candidate}
    {rest : List Candidate}
    {id : Nat} :
    ((decideRanked tables eventId name startsOn (best :: rest)).decision = .matched ∧
        (decideRanked tables eventId name startsOn (best :: rest)).resourceId = some id) ↔
      best.resourceId = id ∧ ACCEPT_SCORE ≤ similarity tables name best.title ∧
        SCORE_MARGIN ≤ similarity tables name best.title - runnerUp
          (fun page => similarity tables name page.title) rest := by
  unfold decideRanked
  dsimp only
  split
  · rename_i hlow
    exact ⟨fun h => (by cases h.1), fun h => absurd h.2.1 (not_le.mpr hlow)⟩
  · rename_i haccept
    split
    · rename_i hnarrow
      exact ⟨fun h => (by cases h.1), fun h => absurd h.2.2 (not_le.mpr hnarrow)⟩
    · rename_i hmargin
      exact ⟨fun h => ⟨Option.some.inj h.2, not_lt.mp haccept, not_lt.mp hmargin⟩, fun h =>
        ⟨rfl, congrArg some h.1⟩⟩

/-- The ranked decision is a match with a page where the page is the clear first. -/
theorem decideRanked_matched_iff {eventId name : String} {startsOn : Date}
    {ranked pages : List Candidate} {page : Candidate}
    (hids : ∀ a ∈ pages, ∀ b ∈ pages, a.resourceId = b.resourceId → a = b) (hsub : ranked ⊆ pages)
    (hnodup : ranked.Nodup)
    (hsorted : ranked.Pairwise fun a b =>
      similarity tables name b.title ≤ similarity tables name a.title)
    (hpage : page ∈ pages) :
    ((decideRanked tables eventId name startsOn ranked).decision = .matched ∧
        (decideRanked tables eventId name startsOn ranked).resourceId = some page.resourceId) ↔
      page ∈ ranked ∧ ACCEPT_SCORE ≤ similarity tables name page.title ∧
      ∀ other ∈ ranked, other ≠ page →
        similarity tables name other.title + SCORE_MARGIN ≤ similarity tables name page.title := by
  cases ranked with
  | nil => exact ⟨fun h => (by cases h.1), fun h => (by cases h.1)⟩
  | cons best rest =>
    rw [decideRanked_cons_iff]
    have hid : best.resourceId = page.resourceId ↔ page = best :=
      ⟨fun heq => (hids best (hsub List.mem_cons_self) page hpage heq).symm, fun heq => by rw [heq]⟩
    rw [hid]
    constructor
    · intro h
      have hmem : page ∈ best :: rest := h.1 ▸ List.mem_cons_self
      exact ⟨hmem, (clear_winner_iff hsorted hnodup margin_pos margin_le_accept hmem).mp h⟩
    · rintro ⟨hmem, h⟩
      exact (clear_winner_iff hsorted hnodup margin_pos margin_le_accept hmem).mpr h

end Decision

/-! ## The law -/

section Law

variable (tables : NameTables)

/-- The page is near enough, like enough, and clear of every other page that is near enough. -/
structure ClearPage (name : String) (startsOn : Option Date) (pages : List Candidate)
    (page : Candidate) : Prop where
  near : ∃ day, startsOn = some day ∧ WithinTolerance day page
  alike : ACCEPT_SCORE ≤ similarity tables name page.title
  clear : ∀ day, startsOn = some day → ∀ other ∈ pages, WithinTolerance day other → other ≠ page →
    similarity tables name other.title + SCORE_MARGIN ≤ similarity tables name page.title

def MatchedWith (eventId name : String) (startsOn : Option Date) (pages : List Candidate)
    (page : Candidate) : Prop :=
  ∃ decided, matchEvent tables eventId name startsOn (groupPages pages) = .ok decided ∧
    decided.decision = .matched ∧ decided.resourceId = some page.resourceId

/-- What holds of the matcher whatever the name and the day. -/
structure MatcherLaws : Prop where
  order : ∀ eventId name startsOn, ∀ pages : PublicPages, ∀ rows, rows.Perm pages.rows →
    matchEvent tables eventId name startsOn (groupPages rows) =
      matchEvent tables eventId name startsOn (groupPages pages.rows)
  outside : ∀ eventId name startsOn rows page,
    (∀ day, startsOn = some day → ¬ WithinTolerance day page) →
    matchEvent tables eventId name startsOn (groupPages (page :: rows)) =
      matchEvent tables eventId name startsOn (groupPages rows)
  symmetric : ∀ left right, similarity tables left right = similarity tables right left
  unit : ∀ left right, 0 ≤ similarity tables left right ∧ similarity tables left right ≤ 1
  counts : ∀ items resources report decisions, runEventMatching tables (some items) resources =
    .ok (report, decisions) →
    report.considered = items.length ∧ report.matched + report.ambiguous + report.unmatched =
      report.considered

/-- An event is matched with a page exactly if the page is clear. -/
def MatchesClearPages : Prop :=
  ∀ eventId name startsOn, ∀ pages : PublicPages, ∀ page ∈ pages.rows,
    MatchedWith tables eventId name startsOn pages.rows page ↔
    ClearPage tables name startsOn pages.rows page

/-- The same for names of enough content tokens, of events on a day with a day before and a day
after it. -/
def MatchesNamedClearPages : Prop :=
  ∀ eventId name startsOn, ∀ pages : PublicPages, ∀ page ∈ pages.rows,
    (∀ day, startsOn = some day → Date.first < day ∧ day < Date.last) →
    (MatchedWith tables eventId name startsOn pages.rows page ↔
      MINIMUM_TOKENS ≤ (tokenSet tables name).card ∧ ClearPage tables name startsOn pages.rows page)

end Law

section Laws

variable {tables : NameTables}

theorem matchEvent_perm {eventId name : String} {startsOn : Option Date} (pages : PublicPages)
    {rows : List Candidate}
    (h : rows.Perm pages.rows) : matchEvent tables eventId name startsOn (groupPages rows) =
      matchEvent tables eventId name startsOn (groupPages pages.rows) := by
  cases startsOn with
  | none => rfl
  | some startsOn =>
    by_cases hname : MINIMUM_TOKENS ≤ (tokenSet tables name).card
    · rw [matchEvent_dated hname, matchEvent_dated hname]
      cases hdays : toleratedDays startsOn with
      | error exn =>
        unfold candidatesFor
        rw [hdays]
        rfl
      | ok days =>
        rw [candidatesFor_groupPages hdays, candidatesFor_groupPages hdays]
        have hperm := perm_considered days h
        have hconsidered := nodup_considered hdays (List.Nodup.of_map _ pages.oneUrl)
        -- the addresses tell the pages apart, so the ranking is the same
        have hkeys :
            ((days.flatMap fun day => rows.filter (·.startsOn = day)).map
              (rankKey tables name)).Nodup := by
          refine (hperm.map _).nodup_iff.mpr (hconsidered.map_on fun a ha b hb heq => ?_)
          have hurl : a.canonicalUrl = b.canonicalUrl := congrArg (fun key => (ofLex key).2) heq
          exact List.inj_on_of_nodup_map pages.oneUrl ((mem_considered hdays).mp ha).1
            ((mem_considered hdays).mp hb).1 hurl
        have hranking := sortOn_eq_of_perm hperm hkeys
        exact congrArg
          (fun ranked => Except.ok (decideRanked tables eventId name startsOn ranked)) hranking
    · rw [matchEvent_thin (Nat.lt_of_not_le hname), matchEvent_thin (Nat.lt_of_not_le hname)]

theorem matchEvent_outside {eventId name : String} {startsOn : Option Date} {rows : List Candidate}
    {page : Candidate}
    (h : ∀ day, startsOn = some day → ¬ WithinTolerance day page) :
    matchEvent tables eventId name startsOn (groupPages (page :: rows)) =
      matchEvent tables eventId name startsOn (groupPages rows) := by
  cases startsOn with
  | none => rfl
  | some startsOn =>
    have hcandidates : candidatesFor startsOn (groupPages (page :: rows)) =
        candidatesFor startsOn (groupPages rows) := by
      cases hdays : toleratedDays startsOn with
      | error exn =>
        unfold candidatesFor
        rw [hdays]
        rfl
      | ok days =>
        rw [candidatesFor_groupPages hdays, candidatesFor_groupPages hdays]
        congr 1
        refine List.flatMap_congr fun day hday => List.filter_cons_of_neg fun hstarts => ?_
        have hmem : page ∈ days.flatMap fun day => [page].filter (·.startsOn = day) :=
          List.mem_flatMap.mpr ⟨day, hday, List.mem_filter.mpr ⟨List.mem_singleton_self _, hstarts⟩⟩
        exact h startsOn rfl ((mem_considered hdays).mp hmem).2
    unfold matchEvent
    dsimp only
    rw [hcandidates]

theorem count_decisions (decisions : List EventMatch) (report : MatchReport)
    (h : report.matched + report.ambiguous + report.unmatched = report.considered) :
    (decisions.foldl MatchReport.count report).considered = report.considered + decisions.length ∧
      (decisions.foldl MatchReport.count report).matched +
        (decisions.foldl MatchReport.count report).ambiguous +
        (decisions.foldl MatchReport.count report).unmatched =
          (decisions.foldl MatchReport.count report).considered := by
  induction decisions generalizing report with
  | nil => exact ⟨rfl, h⟩
  | cons decided rest ih =>
    have hone : (report.count decided).considered = report.considered + 1 ∧
        (report.count decided).matched + (report.count decided).ambiguous +
          (report.count decided).unmatched =
          (report.count decided).considered := by
      unfold MatchReport.count
      cases decided.decision <;> dsimp only <;> omega
    obtain ⟨hconsidered, hsum⟩ := ih (report.count decided) hone.2
    rw [List.foldl_cons]
    refine ⟨?_, hsum⟩
    rw [hconsidered, hone.1, List.length_cons]
    omega

theorem runEventMatching_counts {items : List MatchableItem} {resources : List Candidate}
    {report : MatchReport} {decisions : List EventMatch}
    (h : runEventMatching tables (some items) resources = .ok (report, decisions)) :
    report.considered = items.length ∧ report.matched + report.ambiguous + report.unmatched =
      report.considered := by
  unfold runEventMatching at h
  dsimp only at h
  split at h
  · cases h
  · rename_i decided hdecided
    cases h
    have hlength := (forall₂_of_mapM_eq_ok hdecided).length_eq
    obtain ⟨hconsidered, hsum⟩ := count_decisions decisions ⟨0, 0, 0, 0,
      (resources.map (·.resourceId)).foldl max 0, (resources.filter (·.resourceId ≤
        (resources.map (·.resourceId)).foldl max 0)).length, Dict.empty⟩ rfl
    refine ⟨hconsidered.trans ?_, hsum⟩
    rw [hlength]
    exact Nat.zero_add _

theorem matcherLaws (tables : NameTables) : MatcherLaws tables where
  order _ _ _ pages _ h := matchEvent_perm pages h
  outside _ _ _ _ _ h := matchEvent_outside h
  symmetric := similarity_comm tables
  unit := similarity_mem_unit tables
  counts _ _ _ _ h := runEventMatching_counts h

theorem matchesNamedClearPages (tables : NameTables) : MatchesNamedClearPages tables := by
  intro eventId name startsOn pages page hpage hinside
  unfold MatchedWith
  cases startsOn with
  | none =>
    constructor
    · rintro ⟨decided, hdecided, hmatched, -⟩
      cases hdecided
      cases hmatched
    · rintro ⟨-, hclear⟩
      obtain ⟨day, hday, -⟩ := hclear.near
      cases hday
  | some startsOn =>
    by_cases hname : MINIMUM_TOKENS ≤ (tokenSet tables name).card
    · obtain ⟨days, hdays⟩ := exists_toleratedDays (hinside startsOn rfl).1 (hinside startsOn rfl).2
      let considered := days.flatMap fun day => pages.rows.filter (·.startsOn = day)
      let ranked := sortOn (rankKey tables name) considered
      have hranked (other : Candidate) : other ∈ ranked ↔ other ∈ pages.rows ∧
          WithinTolerance startsOn other := by
        rw [← mem_considered hdays]
        exact mem_sortOn
      have hids : ∀ a ∈ pages.rows, ∀ b ∈ pages.rows, a.resourceId = b.resourceId → a = b :=
        fun a ha b hb heq => List.inj_on_of_nodup_map pages.oneId ha hb heq
      have hnodup : ranked.Nodup := (perm_sortOn _ considered).nodup_iff.mpr
        (nodup_considered hdays (List.Nodup.of_map _ pages.oneUrl))
      have hdecision : matchEvent tables eventId name (some startsOn) (groupPages pages.rows) =
          .ok (decideRanked tables eventId name startsOn ranked) := by
        rw [matchEvent_dated hname, candidatesFor_groupPages hdays]
        rfl
      have hmatched :=
        @decideRanked_matched_iff tables eventId name startsOn ranked pages.rows page hids
        (fun other hother => ((hranked other).mp hother).1) hnodup
          (pairwise_ranked name considered) hpage
      rw [hdecision]
      constructor
      · rintro ⟨decided, hdecided, h⟩
        cases hdecided
        obtain ⟨hmem, halike, hothers⟩ := hmatched.mp h
        refine ⟨hname, ⟨startsOn, rfl, ((hranked page).mp hmem).2⟩, halike, ?_⟩
        intro day hday other hother hwithin hne
        cases hday
        exact hothers other ((hranked other).mpr ⟨hother, hwithin⟩) hne
      · rintro ⟨-, ⟨day, hday, hwithin⟩, halike, hothers⟩
        cases hday
        refine ⟨_, rfl, hmatched.mpr ⟨(hranked page).mpr ⟨hpage, hwithin⟩, halike, ?_⟩⟩
        intro other hother hne
        exact hothers startsOn rfl other ((hranked other).mp hother).1
          ((hranked other).mp hother).2 hne
    · rw [matchEvent_thin (Nat.lt_of_not_le hname)]
      constructor
      · rintro ⟨decided, hdecided, hmatched, -⟩
        cases hdecided
        cases hmatched
      · exact fun h => absurd h.1 hname

/-- The law of the matcher. -/
theorem eventMatch_law (tables : NameTables) : MatcherLaws tables ∧ MatchesNamedClearPages tables :=
  ⟨matcherLaws tables, matchesNamedClearPages tables⟩

end Laws

/-! ## A name of one word -/

/-- The only page of its day, under the name of the event. -/
def namesake : PublicPages where
  rows := [⟨1, "https://www.koda.ee/et/sundmused/eelarvestamine", "eelarvestamine",
    .of 2026 6 1⟩]
  oneId := by decide
  oneUrl := by decide

theorem namesake_alike : ACCEPT_SCORE ≤ similarity plainNames "eelarvestamine"
    "eelarvestamine" := by
  decide +kernel

/-- A one-word name is not matched, however clear its page is. -/
theorem thinName_not_matched : ¬ (MatcherLaws plainNames ∧ MatchesClearPages plainNames) := by
  rintro ⟨-, h⟩
  have hclear : ClearPage plainNames "eelarvestamine"
      (some ⟨2026, 6, 1, by decide, by decide, by decide⟩)
      namesake.rows ⟨1, "https://www.koda.ee/et/sundmused/eelarvestamine", "eelarvestamine",
        ⟨2026, 6, 1, by decide, by decide, by decide⟩⟩ := by
    refine ⟨⟨_, rfl, Nat.le_add_right _ _, Nat.le_add_right _ _⟩, namesake_alike,
      fun day _ other hother _ hne => ?_⟩
    exact absurd (List.mem_singleton.mp hother) hne
  obtain ⟨decided, hdecided, hmatched, -⟩ := (h "E1" _ _ namesake _ List.mem_cons_self).mpr hclear
  rw [matchEvent_thin (by decide +kernel)] at hdecided
  cases hdecided
  cases hmatched

end Dashkoda.EventProgramme
