import Dashkoda.Lib.Ranking
import Dashkoda.News.Models
import Dashkoda.News.Periods
import Mathlib.Order.WithBot

/-!
# The news archive

The catalogued articles a request asks about, in pages, each with the day it was published.
-/

open Lib

namespace Dashkoda.News

open Core (OverflowError inCalendar inCalendar_eq_ok_iff)
open EventProgramme (Coverage Ga4Snapshot)

def PER_PAGE : Nat := 30

/-- What narrows the list besides the window, and how it is ordered. -/
structure ArchiveQuestion where
  search : String
  sort : String
  category : String

/-- What the row says of the views against those of comparable articles. -/
structure BenchmarkText where
  benchmark : String
  direction : String
  deriving DecidableEq

structure NewsRow where
  title : String
  url : String
  publishedOn : Option Date
  views : Option Int
  category : String
  benchmark : BenchmarkText
  isFresh : Bool
  deriving DecidableEq

/-- Largest first, and nothing at all last. -/
abbrev Descending := (WithBot Int)ᵒᵈ

def descending (value : Option Int) : Descending := OrderDual.toDual value

/-- `paginator.page(page)`, or the last page where there is none of that number. -/
def pageOf {α : Type} (rows : List α) (page : Int) : List α :=
  let numPages := max 1 ((rows.length + (PER_PAGE - 1)) / PER_PAGE)
  let number := if page < 1 ∨ (numPages : Int) < page then numPages else page.toNat
  (rows.drop ((number - 1) * PER_PAGE)).take PER_PAGE

section Selectors

variable {κ : Type} [LinearOrder κ] (collate : String → κ) (icontains : String → String → Bool)
  (benchmarkOf : Int → String → BenchmarkText) (zone : Zone) (snapshots : List Ga4Snapshot)
  (catalogue : List NewsResource)

def publishedInstant (resource : NewsResource) : Option Int :=
  resource.publishedAt.map Moment.instant

/-- `published_at >= lower` and `published_at < upper`, which a missing date never is. -/
def publishedBetween (bounds : Option Int × Option Int) (resource : NewsResource) : Bool :=
  bounds.1.all (fun lower => resource.publishedAt.any fun moment => lower ≤ moment.instant) &&
    bounds.2.all (fun upper => resource.publishedAt.any fun moment => moment.instant < upper)

/-- The category and the search of the question. -/
def answers (question : ArchiveQuestion) (resource : NewsResource) : Bool :=
  (question.category = "" || resource.category = question.category) &&
    (question.search = "" || icontains resource.title question.search || icontains resource.path
      question.search)

/-- `news_resources` -/
def newsResources (period : ResolvedPeriod) (question : ArchiveQuestion) :
    Except OverflowError (List NewsResource) := do
  let bounds ← period.bounds zone
  let rows := catalogue.filter fun resource => publishedBetween bounds resource &&
    (!period.isWindowed || resource.publishedAt ≠ none) && answers icontains question resource
  return if question.sort = SORT_VIEWS then
    sortOn (fun resource => toLex (descending (pageViewTotal snapshots resource.path),
      toLex (descending (publishedInstant resource), collate resource.path))) rows
  else sortOn
    (fun resource => toLex (descending (publishedInstant resource), collate resource.path)) rows

/-- `_describe` -/
def describe (coverage : Coverage) (resource : NewsResource) : NewsRow :=
  let publishedOn := resource.publishedAt.map Moment.date
  let views := pageViewTotal snapshots resource.path
  let isFresh := publishedOn.any fun day => coverage.latest.any fun latest => latest ≤ day
  { title := resource.title
    url := resource.canonicalUrl
    publishedOn
    views
    category := resource.category
    benchmark := match views, isFresh with
      | some views, false => benchmarkOf views resource.category
      | _, _ => ⟨"", ""⟩
    isFresh }

def archivePage (period : ResolvedPeriod) (question : ArchiveQuestion) (page : Int) :
    Except OverflowError (List NewsResource) :=
  (newsResources collate icontains zone snapshots catalogue period question).map fun rows =>
    pageOf rows page

/-- The rows of `build_news_archive` -/
def archiveRows (coverage : Coverage) (period : ResolvedPeriod) (question : ArchiveQuestion)
    (page : Int) :
    Except OverflowError (List NewsRow) :=
  (archivePage collate icontains zone snapshots catalogue period question page).map fun rows =>
    rows.map (describe benchmarkOf snapshots coverage)

end Selectors

/-! ## Pages -/

section Pages

variable {α : Type} {rows : List α} {x : α}

/-- Every row is on a page, and the pages have no others. -/
theorem mem_pageOf : (∃ page, x ∈ pageOf rows page) ↔ x ∈ rows := by
  constructor
  · rintro ⟨page, hx⟩
    exact List.mem_of_mem_drop (List.mem_of_mem_take hx)
  · intro hx
    obtain ⟨i, hi, rfl⟩ := List.mem_iff_getElem.mp hx
    refine ⟨(i / PER_PAGE + 1 : Nat), ?_⟩
    have hpages : i / PER_PAGE + 1 ≤ max 1 ((rows.length + (PER_PAGE - 1)) / PER_PAGE) := by
      unfold PER_PAGE
      omega
    have hnumber : ¬ (((i / PER_PAGE + 1 : Nat) : Int) < 1 ∨
        ((max 1 ((rows.length + (PER_PAGE - 1)) / PER_PAGE) : Nat) : Int) <
        (i / PER_PAGE + 1 : Nat)) := by
      have hone : 1 ≤ i / PER_PAGE + 1 := Nat.le_add_left _ _
      generalize i / PER_PAGE + 1 = number at hpages hone ⊢
      generalize max 1 ((rows.length + (PER_PAGE - 1)) / PER_PAGE) = numPages at hpages ⊢
      omega
    unfold pageOf
    dsimp only
    rw [if_neg hnumber, Int.toNat_natCast, Nat.add_sub_cancel, List.mem_take_iff_getElem]
    refine ⟨i % PER_PAGE, ?_, ?_⟩
    · rw [List.length_drop]
      unfold PER_PAGE
      omega
    · rw [List.getElem_drop]
      congr 1
      exact Nat.div_add_mod' i PER_PAGE

end Pages

/-! ## The window of the list and the days of its rows -/

/-- The article belongs to the window: by its publication day, or as undated where no window is
set. -/
def InWindow (zone : Zone) (period : ResolvedPeriod) (resource : NewsResource) : Prop :=
  match resource.publishedAt with
  | none => period.start = none ∧ period.end = none
  | some moment =>
    (∀ start, period.start = some start → (start.toOrdinal : Int) ≤ zone.localDay moment.instant) ∧
      ∀ «end», period.end = some «end» → zone.localDay moment.instant ≤ «end».toOrdinal

section Window

variable {zone : Zone} {period : ResolvedPeriod} {resource : NewsResource}
  {bounds : Option Int × Option Int}

/-- The two moments of a window hold exactly the articles of its days. -/
theorem publishedBetween_iff (hzone : Zone.KeepsMidnights zone.offset zone.changes)
    (h : period.bounds zone = .ok bounds) :
    (publishedBetween bounds resource && (!period.isWindowed || resource.publishedAt ≠ none)) =
      true ↔
      InWindow zone period resource := by
  have hbounds : bounds.1 = period.start.map (fun start => zone.midnight start.toOrdinal) ∧
      (period.end = none ∧ bounds.2 = none ∨ ∃ «end» after, period.end = some «end» ∧
        Date.addDays? 1 «end» = some after ∧ bounds.2 = some (zone.midnight after.toOrdinal)) := by
    unfold ResolvedPeriod.bounds at h
    dsimp only at h
    cases hend : period.end with
    | none =>
      rw [hend] at h
      cases h
      exact ⟨rfl, Or.inl ⟨rfl, rfl⟩⟩
    | some «end» =>
      rw [hend] at h
      obtain ⟨after, hafter, hok⟩ := bind_eq_ok_iff.mp h
      cases hok
      exact ⟨rfl, Or.inr ⟨«end», after, rfl, inCalendar_eq_ok_iff.mp hafter, rfl⟩⟩
  obtain ⟨lower, upper⟩ := bounds
  obtain ⟨hlower, hupper⟩ := hbounds
  dsimp only at hlower hupper
  subst hlower
  unfold publishedBetween InWindow ResolvedPeriod.isWindowed
  simp only [Bool.and_eq_true, Option.all_map]
  cases hdate : resource.publishedAt with
  | none =>
    -- a missing date is in no window
    simp only [Option.any_none, ne_eq, not_true_eq_false, decide_false, Bool.or_false,
      Bool.not_eq_true',
      Bool.or_eq_false_iff, decide_eq_false_iff_not, not_not]
    constructor
    · exact fun hboth => hboth.2
    · rintro ⟨hstart, hend⟩
      rcases hupper with ⟨-, hnone⟩ | ⟨_, _, hsome, -, -⟩
      · rw [hstart, hnone]
        exact ⟨⟨rfl, rfl⟩, rfl, hend⟩
      · rw [hend] at hsome
        cases hsome
  | some moment =>
    have hstart : (period.start.all fun start =>
        decide (zone.midnight start.toOrdinal ≤ moment.instant)) = true ↔
        ∀ start, period.start = some start →
            (start.toOrdinal : Int) ≤ zone.localDay moment.instant := by
      rw [Option.all_eq_true]
      simp only [Zone.le_localDay_iff hzone, decide_eq_true_eq]
    have hend : (upper.all fun upper => decide (moment.instant < upper)) = true ↔
        ∀ «end», period.end = some «end» → zone.localDay moment.instant ≤ «end».toOrdinal := by
      rcases hupper with ⟨hnone, rfl⟩ | ⟨«end», after, hsome, hafter, rfl⟩
      · rw [hnone]
        exact ⟨fun _ _ h => (by cases h), fun _ => rfl⟩
      · -- the day after starts at the upper moment
        have hday := @Zone.le_localDay_iff zone hzone after.toOrdinal moment.instant
        have hnext := Date.addDays?_eq_some_iff.mp hafter
        show decide (moment.instant < zone.midnight after.toOrdinal) = true ↔ _
        rw [decide_eq_true_eq, ← not_le, ← hday, hsome]
        constructor
        · intro hlt other hother
          rw [← Option.some.inj hother]
          omega
        · intro hle
          have hthis := hle «end» rfl
          omega
    simp only [Option.any_some, hstart, hend]
    simp

/-- The list of a question is what of the catalogue lies in the window and answers the question. -/
theorem mem_newsResources {κ : Type} [LinearOrder κ] {collate : String → κ}
    {icontains : String → String → Bool} {snapshots : List Ga4Snapshot}
    {catalogue rows : List NewsResource} {question : ArchiveQuestion}
    (hzone : Zone.KeepsMidnights zone.offset zone.changes)
    (h : newsResources collate icontains zone snapshots catalogue period question = .ok rows) :
    resource ∈ rows ↔ resource ∈ catalogue ∧ InWindow zone period resource ∧
      answers icontains question resource = true := by
  obtain ⟨bounds, hbounds, hrows⟩ := bind_eq_ok_iff.mp h
  have hfilter : resource ∈ rows ↔ resource ∈ catalogue.filter fun resource =>
      publishedBetween bounds resource &&
      (!period.isWindowed || resource.publishedAt ≠ none) && answers icontains question
          resource := by
    cases hrows
    split
    · exact mem_sortOn
    · exact mem_sortOn
  rw [hfilter, List.mem_filter, Bool.and_eq_true, publishedBetween_iff hzone hbounds]

/-- UTC already shows the date that the zone does. -/
def SameDate (zone : Zone) (moment : Moment) : Prop :=
  0 ≤ moment.time + Zone.offsetFrom zone.offset zone.changes moment.instant ∧
    moment.time + Zone.offsetFrom zone.offset zone.changes moment.instant < dayLength

/-- The pages list exactly what the window and the question ask for, and every row prints the day of
the application's timezone. -/
def ListsWindow {κ : Type} [LinearOrder κ] (collate : String → κ)
    (icontains : String → String → Bool) (benchmarkOf : Int → String → BenchmarkText) (zone : Zone)
    (snapshots : List Ga4Snapshot) (coverage : Coverage) (catalogue : List NewsResource)
    (period : ResolvedPeriod)
    (question : ArchiveQuestion) : Prop :=
  (∀ resource, (∃ page rows, archivePage collate icontains zone snapshots catalogue period question
      page = .ok rows ∧
      resource ∈ rows) ↔
    resource ∈ catalogue ∧ InWindow zone period resource ∧
    answers icontains question resource = true) ∧
  ∀ page, ∃ rows printed, archivePage collate icontains zone snapshots catalogue period question
    page = .ok rows ∧
    archiveRows collate icontains benchmarkOf zone snapshots catalogue coverage period question
      page = .ok printed ∧
    printed.map (·.publishedOn) = rows.map fun resource =>
      resource.publishedAt.bind (Moment.localDate? zone)

theorem publishedOn_iff {benchmarkOf : Int → String → BenchmarkText} {snapshots : List Ga4Snapshot}
    {coverage : Coverage} : (describe benchmarkOf snapshots coverage resource).publishedOn =
      resource.publishedAt.bind (Moment.localDate? zone) ↔
    ∀ moment, resource.publishedAt = some moment → SameDate zone moment := by
  show resource.publishedAt.map Moment.date = _ ↔ _
  cases resource.publishedAt with
  | none => exact ⟨fun _ _ h => (by cases h), fun _ => rfl⟩
  | some moment =>
    show some moment.date = moment.localDate? zone ↔ _
    rw [eq_comm, Moment.localDate?_eq_date_iff]
    exact ⟨fun h other hother => Option.some.inj hother ▸ h, fun h => h moment rfl⟩

/-- The archive lists its window and prints its days exactly if the window ends before the calendar
does and no article in it was published while UTC showed another date. -/
theorem archive_listsWindow_iff {κ : Type} [LinearOrder κ] (collate : String → κ)
    (icontains : String → String → Bool) (benchmarkOf : Int → String → BenchmarkText) (zone : Zone)
    (hzone : Zone.KeepsMidnights zone.offset zone.changes) (snapshots : List Ga4Snapshot)
    (coverage : Coverage) (catalogue : List NewsResource) (period : ResolvedPeriod)
    (question : ArchiveQuestion) :
    ListsWindow collate icontains benchmarkOf zone snapshots coverage catalogue period question ↔
      (∀ «end», period.end = some «end» → «end» < Date.last) ∧
      ∀ resource ∈ catalogue, InWindow zone period resource →
      answers icontains question resource = true →
        ∀ moment, resource.publishedAt = some moment → SameDate zone moment := by
  have hresources (rows : List NewsResource)
      (hrows : newsResources collate icontains zone snapshots catalogue period question = .ok rows)
      (resource : NewsResource) :
        (∃ page rows, archivePage collate icontains zone snapshots catalogue period
        question page = .ok rows ∧ resource ∈ rows) ↔ resource ∈ rows := by
    rw [← mem_pageOf]
    unfold archivePage
    rw [hrows]
    constructor
    · rintro ⟨page, _, hok, hmem⟩
      cases hok
      exact ⟨page, hmem⟩
    · exact fun ⟨page, hmem⟩ => ⟨page, _, rfl, hmem⟩
  have hbounds :
      (∃ rows, newsResources collate icontains zone snapshots catalogue period
        question = .ok rows) ↔
      ∀ «end», period.end = some «end» → «end» < Date.last := by
    rw [← bounds_iff zone]
    constructor
    · rintro ⟨rows, hrows⟩
      obtain ⟨bounds, hbounds, -⟩ := bind_eq_ok_iff.mp hrows
      exact ⟨bounds, hbounds⟩
    · rintro ⟨bounds, hbounds⟩
      exact ⟨_, bind_eq_ok_iff.mpr ⟨bounds, hbounds, rfl⟩⟩
  rw [← hbounds]
  constructor
  · rintro ⟨hlisted, hprinted⟩
    obtain ⟨_, _, hone, -, -⟩ := hprinted 1
    obtain ⟨rows, hrows, -⟩ := map_eq_ok_iff.mp hone
    refine ⟨⟨rows, hrows⟩, fun resource hresource hwindow hanswers => ?_⟩
    obtain ⟨page, shown, hshown, hmem⟩ := (hlisted resource).mpr ⟨hresource, hwindow, hanswers⟩
    obtain ⟨others, printed, hothers, hprinted, hdays⟩ := hprinted page
    cases hshown.symm.trans hothers
    unfold archiveRows at hprinted
    rw [hshown] at hprinted
    cases hprinted
    rw [List.map_map] at hdays
    exact publishedOn_iff.mp (List.map_inj_left.mp hdays resource hmem)
  · rintro ⟨⟨rows, hrows⟩, hsame⟩
    refine ⟨fun resource => ?_, fun page => ?_⟩
    · rw [hresources rows hrows, mem_newsResources hzone hrows]
    · have hpage : archivePage collate icontains zone snapshots catalogue period question page =
          .ok (pageOf rows page) := by
        unfold archivePage
        rw [hrows]
        rfl
      refine ⟨pageOf rows page, _, hpage, by unfold archiveRows; rw [hpage]; rfl, ?_⟩
      rw [List.map_map]
      refine List.map_congr_left fun resource hmem => publishedOn_iff.mpr ?_
      obtain ⟨hresource, hwindow, hanswers⟩ :=
        (mem_newsResources hzone hrows).mp (mem_pageOf.mp ⟨page, hmem⟩)
      exact hsame resource hresource hwindow hanswers

end Window

section Midnight

/-- Two hours ahead of UTC, three in the summer of 2026. -/
def tallinn2026 : Zone where
  offset := 7200000000
  changes :=
    [⟨dayLength * 739703 + 3600000000, 10800000000⟩, ⟨dayLength * 739913 + 3600000000, 7200000000⟩]

/-- An article of the 31st of March, half past one at night. -/
def nightArticle : NewsResource where
  canonicalUrl := "https://www.koda.ee/et/uudised/oine"
  path := "/et/uudised/oine"
  title := "Öine uudis"
  publishedAt := some ⟨.of 2026 3 30, 81000000000, by decide⟩
  titleOrigin := .feed
  category := ""
  firstSeenAt := 0

def april2026 : ResolvedPeriod where
  period := CUSTOM_PERIOD
  start := some (.of 2026 3 31)
  «end» := some (.of 2026 4 30)

/-- The night's article is listed from the 31st on and printed with the 30th. -/
theorem nightArticle_printed_day_before :
    ¬ ListsWindow (id : String → String) (fun _ _ => false) (fun _ _ => ⟨"", ""⟩) tallinn2026 []
      ⟨none, none, 0, 0⟩ [nightArticle] april2026 ⟨"", SORT_NEWEST, ""⟩ := by
  rintro ⟨-, hprinted⟩
  obtain ⟨rows, printed, hrows, hprinted, hdays⟩ := hprinted 1
  have hpage : archivePage (id : String → String) (fun _ _ => false) tallinn2026 []
      [nightArticle] april2026
      ⟨"", SORT_NEWEST, ""⟩ 1 = .ok [nightArticle] := by rfl
  cases hpage.symm.trans hrows
  unfold archiveRows at hprinted
  rw [hpage] at hprinted
  cases hprinted
  revert hdays
  decide +kernel

/-- At noon every row has its day. -/
theorem noonArticle_listsWindow :
    ListsWindow (id : String → String) (fun _ _ => false) (fun _ _ => ⟨"", ""⟩) tallinn2026 []
      ⟨none, none, 0, 0⟩ [{ nightArticle with
        publishedAt :=
          some ⟨⟨2026, 3, 31, by decide, by decide, by decide⟩, 43200000000, by decide⟩ }]
      april2026 ⟨"", SORT_NEWEST, ""⟩ := by
  refine (archive_listsWindow_iff (id : String → String) (fun _ _ => false)
    (fun _ _ => ⟨"", ""⟩) tallinn2026
    (by decide +kernel) [] ⟨none, none, 0, 0⟩ _ april2026 ⟨"", SORT_NEWEST, ""⟩).mpr
      ⟨fun day hday => ?_, ?_⟩
  · cases hday
    decide +kernel
  · intro resource hresource _ _ moment hmoment
    rw [List.mem_singleton.mp hresource] at hmoment
    cases hmoment
    exact ⟨by decide +kernel, by decide +kernel⟩

end Midnight

end Dashkoda.News
