import Dashkoda.News.Periods
import Dashkoda.News.Models
import Mathlib.Data.PNat.Notation

/-!
# Age-normalised news performance

An article is measured over the first days of its own life.  Whether such a window was measured is
decided once for each article, with a check for days that were never collected, and once as a filter
over the catalogue, without it.
-/

open Lib

namespace Dashkoda.News

open Core (OverflowError inCalendar inCalendar_eq_ok_iff)
open EventProgramme (Coverage Ga4Snapshot currentDays currentPages)

def NEWS_LISTING_PATHS : List String :=
  ["/et/uudised", "/et/uudised/meie_uudised", "/et/uudised/soprade_uudised",
    "/et/uudised/arhiiv", "/en/news",
    "/en/news/our-news", "/en/news/soprade_uudised", "/en/news/archive", "/en/news/artiklid"]

def REASON_BEFORE_COVERAGE : String := "enne mõõtmise algust"
def REASON_NOT_ELAPSED : String := "aken pole veel täis"
def REASON_COVERAGE_GAP : String := "mõõtmises on lünk"

/-- The revisions of the one GA4 source, of which each day has at most one current. -/
structure Collected where
  snapshots : List Ga4Snapshot
  one_current : ((currentDays snapshots).map (·.day)).Nodup

def Collected.Holds (collected : Collected) (day : Date) : Prop :=
  day ∈ (currentDays collected.snapshots).map (·.day)

instance (collected : Collected) (day : Date) : Decidable (collected.Holds day) :=
  inferInstanceAs (Decidable (_ ∈ _))

section Windows

variable (zone : Zone) (collected : Collected) (coverage : Coverage) (days : ℕ+)

/-- `published_day`: the day in the application's timezone. -/
def publishedDay (resource : NewsResource) : Option Date :=
  resource.publishedAt.bind (Moment.localDate? zone)

def collectedWithin (start «end» : Date) : List Ga4Snapshot :=
  (currentDays collected.snapshots).filter fun snapshot =>
    start ≤ snapshot.day && snapshot.day ≤ «end»

/-- `missing_days_within` -/
def missingDaysWithin (start «end» : Date) : Nat :=
  if «end» < start then 0 else «end».toOrdinal - start.toOrdinal + 1 -
    (collectedWithin collected start «end»).length

/-- `annotate_first_window`: the views of the page in a window of days. -/
def firstWindowViews (path : String) (start «end» : Date) : Option Int :=
  sumViews ((currentPages collected.snapshots).filter fun row =>
    row.2.path = path && start ≤ row.1 && row.1 ≤ «end»)

structure ArticleWindow where
  days : ℕ+
  views : Option Int
  reason : String
  deriving DecidableEq

/-- `resolve_window` -/
def resolveWindow (publishedOn : Option Date) (rawViews : Option Int) :
    Except OverflowError ArticleWindow :=
  match publishedOn with
  | none => .ok ⟨days, none, REASON_BEFORE_COVERAGE⟩
  | some published =>
    match coverage.earliest, coverage.latest with
    | some earliest, some latest =>
      if published < earliest then .ok ⟨days, none, REASON_BEFORE_COVERAGE⟩
      else do
        let windowEnd ← inCalendar (Date.addDays? ((days : Nat) - 1) published)
        if latest < windowEnd then .ok ⟨days, none, REASON_NOT_ELAPSED⟩
        else if missingDaysWithin collected published windowEnd ≠ 0 then
          .ok ⟨days, none, REASON_COVERAGE_GAP⟩
        else .ok ⟨days, some (rawViews.getD 0), ""⟩
    | _, _ => .ok ⟨days, none, REASON_BEFORE_COVERAGE⟩

/-- `article_resources` -/
def articleResources (catalogue : List NewsResource) : List NewsResource :=
  catalogue.filter fun resource => resource.path ∉ NEWS_LISTING_PATHS

/-- The articles a cohort may be narrowed to: published since a day, and of a category. -/
def narrowed (since : Option Date) (category : String) (resource : NewsResource) : Bool :=
  (since.all fun since => (publishedDay zone resource).any fun day => since ≤ day) &&
    (category = "" || resource.category = category)

/-- `eligible_cohort` -/
def eligibleCohort (since : Option Date) (category : String) (catalogue : List NewsResource) :
    Except OverflowError (List NewsResource) :=
  match coverage.earliest, coverage.latest with
  | some earliest, some latest => do
    let latestPublication ← inCalendar (Date.subDays? ((days : Nat) - 1) latest)
    return (articleResources catalogue).filter fun resource =>
      ((publishedDay zone resource).any fun day => earliest ≤ day && day ≤ latestPublication) &&
        narrowed zone since category resource
  | _, _ => .ok []

/-- The views of the article's own first window, from the page rows. -/
def ownWindowViews (resource : NewsResource) : Option Int := do
  let published ← publishedDay zone resource
  let windowEnd ← Date.addDays? ((days : Nat) - 1) published
  firstWindowViews collected resource.path published windowEnd

/-- `cohort_values` -/
def cohortValues (since : Option Date) (category : String) (catalogue : List NewsResource) :
    Except OverflowError (List Int) :=
  (eligibleCohort zone coverage days since category catalogue).map fun rows =>
    rows.map fun resource => (ownWindowViews zone collected days resource).getD 0

/-- The views the per-article rule prints, for the articles it finds eligible. -/
def printedViews (since : Option Date) (category : String)
    (catalogue : List NewsResource) : List Int :=
  ((articleResources catalogue).filter (narrowed zone since category)).filterMap fun resource =>
    match resolveWindow collected coverage days (publishedDay zone resource)
        (ownWindowViews zone collected days resource) with
    | .ok window => window.views
    | .error _ => none

end Windows

/-! ## Days that were never collected -/

section Missing

variable {collected : Collected} {start «end» : Date}

/-- No day of a range is missing exactly if every one of them was collected. -/
theorem missingDaysWithin_eq_zero_iff : missingDaysWithin collected start «end» = 0 ↔
    ∀ day, start ≤ day → day ≤ «end» → collected.Holds day := by
  unfold missingDaysWithin
  by_cases hempty : «end» < start
  · rw [if_pos hempty]
    exact ⟨fun _ day hlow hhigh => absurd (hlow.trans hhigh) (not_le.mpr hempty), fun _ => rfl⟩
  · have hordinal := Date.toOrdinal_le_iff.mpr (not_lt.mp hempty)
    have hspan := Date.length_eachDay start «end»
    have hdays : (collectedWithin collected start «end»).length =
        (((collectedWithin collected start «end»).map (·.day))).length := (List.length_map _).symm
    have hnodup : ((collectedWithin collected start «end»).map (·.day)).Nodup :=
      collected.one_current.sublist (List.filter_sublist.map _)
    have hmem (day : Date) : day ∈ (collectedWithin collected start «end»).map (·.day) ↔
        collected.Holds day ∧ start ≤ day ∧ day ≤ «end» := by
      unfold collectedWithin Collected.Holds
      simp only [List.mem_map, List.mem_filter, Bool.and_eq_true, decide_eq_true_eq]
      constructor
      · rintro ⟨snapshot, ⟨hsnapshot, hwithin⟩, rfl⟩
        exact ⟨⟨snapshot, hsnapshot, rfl⟩, hwithin⟩
      · rintro ⟨⟨snapshot, hsnapshot, rfl⟩, hwithin⟩
        exact ⟨snapshot, ⟨hsnapshot, hwithin⟩, rfl⟩
    have hsub : List.Subperm ((collectedWithin collected start «end»).map (·.day))
        (Date.eachDay start «end») :=
      List.subperm_of_subset hnodup fun day hday => Date.mem_eachDay.mpr ((hmem day).mp hday).2
    rw [if_neg hempty, hdays]
    constructor
    · intro hzero day hlow hhigh
      -- as many collected days as days: they are the same
      have hperm := hsub.perm_of_length_le (by omega)
      exact ((hmem day).mp (hperm.mem_iff.mpr (Date.mem_eachDay.mpr ⟨hlow, hhigh⟩))).1
    · intro hall
      have hle := (List.subperm_of_subset (Date.nodup_eachDay start «end») fun day hday =>
        (hmem day).mpr ⟨hall day (Date.mem_eachDay.mp hday).1 (Date.mem_eachDay.mp hday).2,
          Date.mem_eachDay.mp hday⟩).length_le
      omega

end Missing

/-! ## The two statements of eligibility -/

section Eligible

variable {zone : Zone} {collected : Collected} {coverage : Coverage} {days : ℕ+}
  {resource : NewsResource}
  {published earliest latest : Date}

/-- The window starts inside coverage and ends inside it. -/
def Elapsed (days : ℕ+) (published earliest latest : Date) : Prop :=
  earliest ≤ published ∧ published.toOrdinal + ((days : Nat) - 1) ≤ latest.toOrdinal

instance : Decidable (Elapsed days published earliest latest) := inferInstanceAs (Decidable (_ ∧ _))

def WindowCollected (collected : Collected) (days : ℕ+) (published : Date) : Prop :=
  ∀ day, published ≤ day → day.toOrdinal ≤ published.toOrdinal + ((days : Nat) - 1) →
    collected.Holds day

/-- The last day of a window that has elapsed. -/
theorem exists_windowEnd (h : Elapsed days published earliest latest) :
    ∃ windowEnd, Date.addDays? ((days : Nat) - 1) published = some windowEnd ∧
    windowEnd ≤ latest := by
  obtain ⟨windowEnd, hend⟩ := Date.addDays?_isSome.mpr (h.2.trans (Date.toOrdinal_le latest))
  refine ⟨windowEnd, hend, Date.toOrdinal_le_iff.mp ?_⟩
  rw [Date.addDays?_eq_some_iff.mp hend]
  exact h.2

/-- The rule for one article prints its views exactly where the window has elapsed and was
collected. -/
theorem resolveWindow_views (hearliest : coverage.earliest = some earliest)
    (hlatest : coverage.latest = some latest) (rawViews : Option Int) :
    (match resolveWindow collected coverage days (some published) rawViews with
      | .ok window => window.views
      | .error _ =>
        none) = if Elapsed days published earliest latest ∧ missingDaysWithin collected published
        ((Date.addDays? ((days : Nat) - 1) published).getD published) = 0 then
            some (rawViews.getD 0) else none := by
  unfold resolveWindow
  rw [hearliest, hlatest]
  dsimp only
  by_cases hbefore : published < earliest
  · rw [if_pos hbefore, if_neg fun h => absurd h.1.1 (not_le.mpr hbefore)]
  · rw [if_neg hbefore]
    cases hend : Date.addDays? ((days : Nat) - 1) published with
    | none =>
      have hnot : ¬ Elapsed days published earliest latest := by
        intro helapsed
        obtain ⟨windowEnd, hsome, -⟩ := exists_windowEnd helapsed
        rw [hend] at hsome
        cases hsome
      rw [if_neg fun h => hnot h.1]
      rfl
    | some windowEnd =>
      have hordinal := Date.addDays?_eq_some_iff.mp hend
      show (match (if latest < windowEnd then _ else _ : Except OverflowError ArticleWindow) with
        | .ok window => window.views
        | .error _ => none) = _
      by_cases hlate : latest < windowEnd
      · have hlt := Date.toOrdinal_lt_iff.mpr hlate
        rw [if_pos hlate, if_neg]
        rintro ⟨⟨-, hle⟩, -⟩
        omega
      · have hle := Date.toOrdinal_le_iff.mpr (not_lt.mp hlate)
        have helapsed : Elapsed days published earliest latest := ⟨not_lt.mp hbefore, by omega⟩
        rw [if_neg hlate]
        show (match (if missingDaysWithin collected published windowEnd ≠ 0 then _ else _ :
            Except OverflowError ArticleWindow) with
          | .ok window => window.views
          | .error _ =>
            none) = if _ ∧ missingDaysWithin collected published windowEnd = 0 then _ else _
        by_cases hgap : missingDaysWithin collected published windowEnd = 0
        · rw [if_neg (fun h => h hgap), if_pos ⟨helapsed, hgap⟩]
        · rw [if_pos hgap, if_neg fun h => hgap h.2]

/-- The filter over the catalogue lets an article pass exactly where its window has elapsed. -/
theorem le_latestPublication_iff {latestPublication : Date}
    (h : Date.subDays? ((days : Nat) - 1) latest = some latestPublication) :
    (earliest ≤ published ∧ published ≤ latestPublication) ↔
    Elapsed days published earliest latest := by
  have hordinal := Date.subDays?_eq_some_iff.mp h
  refine and_congr_right fun _ => ?_
  rw [← Date.toOrdinal_le_iff]
  omega

end Eligible

/-! ## The cohort and the per-article rule -/

/-- A filter that checks more keeps the same values only if what it checks always holds. -/
theorem filterMap_eq_map_filter_iff {α β : Type} {rows : List α} {p q : α → Prop} [DecidablePred p]
    [DecidablePred q] (value : α → β) :
    rows.filterMap (fun x => if p x ∧ q x then some (value x) else none) =
      (rows.filter fun x => p x).map value ↔ ∀ x ∈ rows, p x → q x := by
  have hshorter (rows : List α) :
      (rows.filterMap fun x => if p x ∧ q x then some (value x) else none).length ≤
      ((rows.filter fun x => p x).map value).length := by
    induction rows with
    | nil => exact Nat.le_refl _
    | cons x rest ih =>
      rw [List.filterMap_cons, List.filter_cons]
      by_cases hp : p x
      · rw [if_pos (decide_eq_true hp), List.map_cons, List.length_cons]
        by_cases hq : q x
        · rw [if_pos ⟨hp, hq⟩]
          exact Nat.succ_le_succ ih
        · rw [if_neg fun h => hq h.2]
          exact Nat.le_succ_of_le ih
      · rw [if_neg fun h => hp h.1, if_neg (by simpa using hp)]
        exact ih
  induction rows with
  | nil => exact ⟨fun _ _ h => (by cases h), fun _ => rfl⟩
  | cons x rest ih =>
    rw [List.filterMap_cons, List.filter_cons, List.forall_mem_cons]
    by_cases hp : p x
    · rw [if_pos (decide_eq_true hp), List.map_cons]
      by_cases hq : q x
      · rw [if_pos ⟨hp, hq⟩]
        show value x :: _ = value x :: _ ↔ _
        rw [List.cons.injEq]
        exact ⟨fun h => ⟨fun _ => hq, ih.mp h.2⟩, fun h => ⟨rfl, ih.mpr h.2⟩⟩
      · rw [if_neg fun h => hq h.2]
        refine ⟨fun heq => ?_, fun h => absurd (h.1 hp) hq⟩
        -- the stricter filter drops this row, so it cannot keep up with the other
        have hlength := congrArg List.length heq
        have hle := hshorter rest
        rw [List.length_cons] at hlength
        dsimp only at hlength
        omega
    · rw [if_neg fun h => hp h.1, if_neg (by simpa using hp)]
      exact ⟨fun h => ⟨fun hx => absurd hx hp, ih.mp h⟩, fun h => ih.mpr h.2⟩

section Cohort

variable (zone : Zone) (collected : Collected) (coverage : Coverage) (days : ℕ+)
  (since : Option Date)
  (category : String) (catalogue : List NewsResource)

/-- The values of a cohort are the views the per-article rule prints for the eligible articles. -/
def CohortAgrees : Prop :=
  ∀ values, cohortValues zone collected coverage days since category catalogue = .ok values →
    values = printedViews zone collected coverage days since category catalogue

/-- The article is one of those whose first window lies inside coverage. -/
def InCohort (resource : NewsResource) : Prop :=
  ∃ published earliest latest, publishedDay zone resource = some published ∧
    coverage.earliest = some earliest ∧
    coverage.latest = some latest ∧ Elapsed days published earliest latest

/-- No article of the cohort has an uncollected day in its first window. -/
def CohortCollected : Prop :=
  ∀ resource ∈ catalogue, resource.path ∉ NEWS_LISTING_PATHS →
    narrowed zone since category resource = true →
    InCohort zone coverage days resource → ∀ published, publishedDay zone resource =
      some published →
      WindowCollected collected days published

variable {zone collected coverage days since category catalogue}

/-- The article's own check for gaps. -/
def GapFree (zone : Zone) (collected : Collected) (days : ℕ+) (resource : NewsResource) : Prop :=
  ∀ published, publishedDay zone resource = some published →
    missingDaysWithin collected published
      ((Date.addDays? ((days : Nat) - 1) published).getD published) = 0

instance (resource : NewsResource) : Decidable (GapFree zone collected days resource) :=
  match h : publishedDay zone resource with
  | none => isTrue fun published hpublished => by rw [h] at hpublished; cases hpublished
  | some published => decidable_of_iff (missingDaysWithin collected published
      ((Date.addDays? ((days : Nat) - 1) published).getD published) = 0)
      ⟨fun hzero other hother =>
        by rw [h] at hother; rwa [← Option.some.inj hother], fun hall => hall published h⟩

instance (resource : NewsResource) : Decidable (InCohort zone coverage days resource) :=
  match hday : publishedDay zone resource, hearliest : coverage.earliest, hlatest :
      coverage.latest with
  | some published, some earliest, some latest =>
    decidable_of_iff (Elapsed days published earliest latest)
      ⟨fun h => ⟨published, earliest, latest, hday, hearliest, hlatest, h⟩,
        fun ⟨_, _, _, h₁, h₂, h₃, h⟩ => by
        cases hday.symm.trans h₁
        cases hearliest.symm.trans h₂
        cases hlatest.symm.trans h₃
        exact h⟩
  | none, _, _ => isFalse fun ⟨_, _, _, h, _⟩ => by rw [hday] at h; cases h
  | some _, none, _ => isFalse fun ⟨_, _, _, _, h, _⟩ => by rw [hearliest] at h; cases h
  | some _, some _, none => isFalse fun ⟨_, _, _, _, _, h, _⟩ => by rw [hlatest] at h; cases h

theorem gapFree_iff {resource : NewsResource} {published : Date}
    (hday : publishedDay zone resource = some published)
    (h : InCohort zone coverage days resource) :
    GapFree zone collected days resource ↔ WindowCollected collected days published := by
  obtain ⟨_, earliest, latest, hsame, -, -, helapsed⟩ := h
  cases hday.symm.trans hsame
  obtain ⟨windowEnd, hend, -⟩ := exists_windowEnd helapsed
  have hordinal := Date.addDays?_eq_some_iff.mp hend
  have hwindow : WindowCollected collected days published ↔
      ∀ day, published ≤ day → day ≤ windowEnd → collected.Holds day := by
    unfold WindowCollected
    simp only [← hordinal, Date.toOrdinal_le_iff]
  rw [hwindow, ← missingDaysWithin_eq_zero_iff]
  constructor
  · intro hfree
    have hzero := hfree published hday
    rwa [hend] at hzero
  · intro hzero other hother
    cases hday.symm.trans hother
    rwa [hend]

theorem printedViews_eq : printedViews zone collected coverage days since category catalogue =
    ((articleResources catalogue).filter (narrowed zone since category)).filterMap fun resource =>
      if InCohort zone coverage days resource ∧ GapFree zone collected days resource then
        some ((ownWindowViews zone collected days resource).getD 0) else none := by
  unfold printedViews
  apply List.filterMap_congr
  intro resource _
  have hnever (h : ¬ InCohort zone coverage days resource) :
      (if InCohort zone coverage days resource ∧
      GapFree zone collected days resource then
        some ((ownWindowViews zone collected days resource).getD 0)
      else none) = none := if_neg fun hboth => h hboth.1
  cases hday : publishedDay zone resource with
  | none =>
    rw [hnever]
    · rfl
    · rintro ⟨_, _, _, h, -⟩
      rw [hday] at h
      cases h
  | some published =>
    cases hearliest : coverage.earliest with
    | none =>
      rw [hnever]
      · unfold resolveWindow
        rw [hearliest]
      · rintro ⟨_, _, _, -, h, -⟩
        rw [hearliest] at h
        cases h
    | some earliest =>
      cases hlatest : coverage.latest with
      | none =>
        rw [hnever]
        · unfold resolveWindow
          rw [hearliest, hlatest]
        · rintro ⟨_, _, _, -, -, h, -⟩
          rw [hlatest] at h
          cases h
      | some latest =>
        rw [resolveWindow_views hearliest hlatest]
        have hcohort : InCohort zone coverage days resource ↔
            Elapsed days published earliest latest := by
          constructor
          · rintro ⟨_, _, _, h₁, h₂, h₃, h⟩
            cases hday.symm.trans h₁
            cases hearliest.symm.trans h₂
            cases hlatest.symm.trans h₃
            exact h
          · exact fun h => ⟨published, earliest, latest, hday, hearliest, hlatest, h⟩
        have hgap : GapFree zone collected days resource ↔ missingDaysWithin collected published
            ((Date.addDays? ((days : Nat) - 1) published).getD published) = 0 := by
          constructor
          · exact fun h => h published hday
          · intro hzero other hother
            cases hday.symm.trans hother
            exact hzero
        simp only [hcohort, hgap]

/-- The filter over the catalogue keeps the articles of the cohort. -/
theorem eligibleCohort_eq {rows : List NewsResource}
    (h : eligibleCohort zone coverage days since category catalogue = .ok rows) :
    rows = ((articleResources catalogue).filter (narrowed zone since category)).filter
      fun resource =>
      InCohort zone coverage days resource := by
  unfold eligibleCohort at h
  cases hearliest : coverage.earliest with
  | none =>
    rw [hearliest] at h
    cases h
    refine (List.filter_eq_nil_iff.mpr fun resource _ => ?_).symm
    simp only [decide_eq_true_eq]
    rintro ⟨_, _, _, -, hsome, -⟩
    rw [hearliest] at hsome
    cases hsome
  | some earliest =>
    cases hlatest : coverage.latest with
    | none =>
      rw [hearliest, hlatest] at h
      cases h
      refine (List.filter_eq_nil_iff.mpr fun resource _ => ?_).symm
      simp only [decide_eq_true_eq]
      rintro ⟨_, _, _, -, -, hsome, -⟩
      rw [hlatest] at hsome
      cases hsome
    | some latest =>
      rw [hearliest, hlatest] at h
      obtain ⟨latestPublication, hback, hrows⟩ := bind_eq_ok_iff.mp h
      have hsub := inCalendar_eq_ok_iff.mp hback
      cases hrows
      rw [List.filter_filter]
      apply List.filter_congr
      intro resource _
      congr 1
      apply Bool.eq_iff_iff.mpr
      rw [Option.any_eq_true, decide_eq_true_eq]
      constructor
      · rintro ⟨published, hday, hbetween⟩
        rw [Bool.and_eq_true, decide_eq_true_eq, decide_eq_true_eq] at hbetween
        exact ⟨published, earliest, latest, hday, hearliest, hlatest,
          (le_latestPublication_iff hsub).mp hbetween⟩
      · rintro ⟨published, _, _, hday, h₂, h₃, helapsed⟩
        cases hearliest.symm.trans h₂
        cases hlatest.symm.trans h₃
        refine ⟨published, hday, ?_⟩
        rw [Bool.and_eq_true, decide_eq_true_eq, decide_eq_true_eq]
        exact (le_latestPublication_iff hsub).mpr helapsed

/-- An article whose window has elapsed keeps the cohort's filter inside the calendar. -/
theorem exists_eligibleCohort {resource : NewsResource} (h : InCohort zone coverage days resource) :
    ∃ rows, eligibleCohort zone coverage days since category catalogue = .ok rows := by
  obtain ⟨published, earliest, latest, -, hearliest, hlatest, helapsed⟩ := h
  have hone := Date.one_le_toOrdinal published
  have hle := helapsed.2
  obtain ⟨latestPublication, hsub⟩ := Date.subDays?_isSome.mpr
    (show (days : Nat) - 1 < latest.toOrdinal by omega)
  unfold eligibleCohort
  rw [hearliest, hlatest]
  exact ⟨_, bind_eq_ok_iff.mpr ⟨latestPublication, inCalendar_eq_ok_iff.mpr hsub, rfl⟩⟩

end Cohort

/-- A cohort agrees with the per-article rule exactly if none of its articles has an uncollected day
in its first window. -/
theorem cohortAgrees_iff (zone : Zone) (collected : Collected) (coverage : Coverage) (days : ℕ+)
    (since : Option Date) (category : String) (catalogue : List NewsResource) :
    CohortAgrees zone collected coverage days since category catalogue ↔
      CohortCollected zone collected coverage days since category catalogue := by
  have hmem (resource : NewsResource) :
      resource ∈ (articleResources catalogue).filter (narrowed zone since category) ↔
        resource ∈ catalogue ∧ resource.path ∉ NEWS_LISTING_PATHS ∧
        narrowed zone since category resource = true := by
    unfold articleResources
    rw [List.mem_filter, List.mem_filter, decide_eq_true_eq, and_assoc]
  have hagrees (rows : List NewsResource)
      (hrows : eligibleCohort zone coverage days since category catalogue = .ok rows) :
      CohortAgrees zone collected coverage days since category catalogue ↔
        ∀ resource ∈ (articleResources catalogue).filter (narrowed zone since category),
          InCohort zone coverage days resource → GapFree zone collected days resource := by
    rw [← filterMap_eq_map_filter_iff fun resource =>
      (ownWindowViews zone collected days resource).getD 0,
      ← printedViews_eq, ← eligibleCohort_eq hrows]
    unfold CohortAgrees cohortValues
    rw [hrows]
    exact ⟨fun h => (h _ rfl).symm, fun h values hvalues => by cases hvalues; exact h.symm⟩
  constructor
  · intro h resource hresource hlisting hnarrowed hcohort published hday
    obtain ⟨rows, hrows⟩ :=
      @exists_eligibleCohort zone coverage days since category catalogue resource hcohort
    exact (gapFree_iff hday hcohort).mp
      ((hagrees rows hrows).mp h resource
        ((hmem resource).mpr ⟨hresource, hlisting, hnarrowed⟩) hcohort)
  · intro h values hvalues
    obtain ⟨rows, hrows, -⟩ := map_eq_ok_iff.mp hvalues
    refine (hagrees rows hrows).mpr (fun resource hresource hcohort => ?_) values hvalues
    obtain ⟨hresource, hlisting, hnarrowed⟩ := (hmem resource).mp hresource
    obtain ⟨published, _, _, hday, -⟩ := id hcohort
    exact (gapFree_iff hday hcohort).mpr
      (h resource hresource hlisting hnarrowed hcohort published hday)

section Gap

/-- A day on which no page was read. -/
def quietDay (pk : Nat) (day : Date) : Ga4Snapshot where
  pk := pk
  source := 6
  artifact := pk
  importRun := pk
  day := day
  observedAt := 0
  checksum := ""
  revision := 1
  supersedes := none
  isCurrentForDate := true
  content := ⟨⟨some 9, none, none, some 5, none, none⟩, true, false, [], []⟩

/-- The first and the third of January were collected, the second was not. -/
def gappedHistory : Collected where
  snapshots := [quietDay 1 (.of 2026 1 1),
    quietDay 2 (.of 2026 1 3)]
  one_current := by decide

def gapArticle : NewsResource where
  canonicalUrl := "https://www.koda.ee/et/uudised/lynk"
  path := "/et/uudised/lynk"
  title := "Lünk"
  publishedAt := some ⟨.of 2026 1 2, 0, by decide⟩
  titleOrigin := .feed
  category := ""
  firstSeenAt := 0

/-- A window with an uncollected day gives the cohort a zero that the per-article rule does not
print. -/
theorem gapArticle_counted : ¬ CohortAgrees ⟨7200000000, []⟩ gappedHistory
    (EventProgramme.getCoverage gappedHistory.snapshots) 2 none "" [gapArticle] := by
  intro h
  have hvalues : cohortValues ⟨7200000000, []⟩ gappedHistory
      (EventProgramme.getCoverage gappedHistory.snapshots) 2
      none "" [gapArticle] = .ok [0] := by decide +kernel
  have hprinted : printedViews ⟨7200000000, []⟩ gappedHistory
      (EventProgramme.getCoverage gappedHistory.snapshots) 2
      none "" [gapArticle] = [] := by decide +kernel
  have hsame := h [0] hvalues
  rw [hprinted] at hsame
  cases hsame

end Gap

end Dashkoda.News
