import Dashkoda.EventProgramme.Attention
import Dashkoda.Lib.NullableSums
import Dashkoda.Lib.Ordinal

/-!
# The page views of many articles at once

Articles are keyed by the canonical path of their address, and the earliest day stated for a path
wins.  Every window is answered by one query over all articles.
-/

open Lib

namespace Dashkoda.Visibility

open EventProgramme (Coverage Ga4Snapshot Window currentPages getCoverage inWindow)

namespace Articles

def FIRST_WINDOW_DAYS : Nat := 7

def SECOND_WINDOW_DAYS : Nat := 30

def RECENT_WINDOW_DAYS : Nat := 30

inductive ArticleExn
  /-- `urlsplit` refuses the address. -/
  | valueError
  /-- A day is compared with `None`. -/
  | typeError
  /-- A window leaves the calendar. -/
  | overflowError
  deriving DecidableEq

/-- An article: its address, and the day of its `published_at`. -/
structure ArticleItem where
  canonicalUrl : Option String
  publishedAt : Option Date
  deriving DecidableEq

structure ArticleViews where
  path : String
  publishedOn : Option Date
  first7Days : Option Int
  first30Days : Option Int
  last30Days : Option Int
  total : Option Int
  coverageStart : Option Date
  coverageEnd : Option Date
  deriving DecidableEq

structure PageViews where
  path : String
  total : Int
  coverageStart : Option Date
  coverageEnd : Option Date
  deriving DecidableEq

section Model

variable (check : NetlocCheck) (snapshots : List Ga4Snapshot)

/-- `canonical_path`, of a text or of `None`. -/
def canonicalOf : Option String → Except ArticleExn String
  | none => .ok ""
  | some url =>
    match canonicalPath check url.toList with
    | none => .error .valueError
    | some path => .ok (String.ofList path)

/-- `canonical_paths` -/
def canonicalPaths (values : List String) : Except ArticleExn (List String) :=
  values.foldlM (fun seen value => do
    let path ← canonicalOf check (some value)
    return if path = "" ∨ path ∈ seen then seen else seen ++ [path]) []

/-- `{row["path"]: row["views"]}`, one entry for each path that has a row. -/
def groupViews (rows : List (Date × PageRow)) : Dict String Int :=
  Dict.ofList ((rows.map (·.2.path)).dedup.map fun path =>
    (path, totalAt (·.2.path) (·.2.pageViews) rows path))

/-- `get_page_view_totals` -/
def getPageViewTotals (coverage : Coverage) (values : List String) :
    Except ArticleExn (Dict String PageViews) := do
  let paths ← canonicalPaths check values
  let totals := groupViews ((currentPages snapshots).filter fun row => row.2.path ∈ paths)
  return Dict.ofList (totals.entries.map fun entry =>
    (entry.1, ⟨entry.1, entry.2, coverage.earliest, coverage.latest⟩))

/-- `_sum_views` -/
def sumViews (paths : List String) (start «end» : Option Date) : Dict String Int :=
  groupViews ((currentPages snapshots).filter fun row =>
    row.2.path ∈ paths ∧ (∀ first ∈ start, first ≤ row.1) ∧ ∀ last ∈ «end», row.1 ≤ last)

def datedEntries (published : Dict String (Option Date)) : List (String × Date) :=
  published.entries.filterMap fun entry => entry.2.map fun day => (entry.1, day)

/-- One article's window: `day + timedelta(days=days - 1)`. -/
def firstWindow (days : Nat) (entry : String × Date) : Except ArticleExn Window :=
  match Date.addDays? (days - 1) entry.2 with
  | none => .error .overflowError
  | some last => .ok (entry.1, entry.2, last)

/-- `_sum_views_from_publication` -/
def sumViewsFromPublication (published : Dict String (Option Date)) (days : Nat) :
    Except ArticleExn (Dict String Int) := do
  let windows ← (datedEntries published).mapM (firstWindow days)
  return if windows = [] then Dict.empty
    else groupViews ((currentPages snapshots).filter fun row => windows.any fun window =>
      inWindow window row)

/-- The earliest day of a path wins. -/
def recordDay (published : Dict String (Option Date)) (path : String) :
    Option Date → Except ArticleExn (Dict String (Option Date))
  | none => .ok (published.setDefault path none)
  | some day =>
    match published.get? path with
    | none => .ok (published.set path (some day))
    | some (some known) => .ok (if day < known then published.set path (some day) else published)
    -- `day < published[path]` where no day was stated before
    | some none => .error .typeError

def publishOne (published : Dict String (Option Date)) (item : ArticleItem) :
    Except ArticleExn (Dict String (Option Date)) := do
  let path ← canonicalOf check item.canonicalUrl
  if path = "" then .ok published else recordDay published path item.publishedAt

/-- `today - timedelta(days=RECENT_WINDOW_DAYS - 1)` -/
def recentStart (today : Date) : Except ArticleExn Date :=
  match Date.subDays? (RECENT_WINDOW_DAYS - 1) today with
  | none => .error .overflowError
  | some start => .ok start

/-- What `get_article_views` does once the days are known. -/
def articleViews (coverage : Coverage) (today : Date) (published : Dict String (Option Date)) :
    Except ArticleExn (Dict String ArticleViews) := do
  let paths := published.keys
  let totals ← getPageViewTotals check snapshots coverage paths
  let start ← recentStart today
  let recent := sumViews snapshots paths (some start) (some today)
  let first7 ← sumViewsFromPublication snapshots published FIRST_WINDOW_DAYS
  let first30 ← sumViewsFromPublication snapshots published SECOND_WINDOW_DAYS
  return Dict.ofList (paths.map fun path => (path,
    { path
      publishedOn := (published.get? path).getD none
      first7Days := first7.get? path
      first30Days := first30.get? path
      last30Days := recent.get? path
      total := (totals.get? path).map (·.total)
      coverageStart := coverage.earliest
      coverageEnd := coverage.latest }))

/-- `get_article_views` -/
def getArticleViews (items : List ArticleItem) (today : Option Date) (coverage : Option Coverage) :
    Except ArticleExn (Dict String ArticleViews) :=
  let coverage := coverage.getD (getCoverage snapshots)
  match coverage.earliest, coverage.latest with
  | some _, some latest => do
    let published ← items.foldlM (publishOne check) Dict.empty
    if published.keys = [] then .ok Dict.empty else
      articleViews check snapshots coverage (today.getD latest) published
  | _, _ => .ok Dict.empty

/-! ## What each article should be given -/

def readPath (item : ArticleItem) : Option String := (canonicalOf check item.canonicalUrl).toOption

def statedFor (items : List ArticleItem) (path : String) : List ArticleItem :=
  items.filter fun item => readPath check item = some path

def earliestFor (items : List ArticleItem) (path : String) : Option Date :=
  ((statedFor check items path).filterMap (·.publishedAt)).min?

/-- The views of a path on the days of a kind: none where there is no row. -/
def viewsOver (path : String) (inside : Date → Bool) : Option Int :=
  sumOf (fun row => some row.2.pageViews)
    ((currentPages snapshots).filter fun row => row.2.path = path ∧ inside row.1)

def fromDay (days : Nat) (first day : Date) : Bool :=
  first ≤ day && day.toOrdinal < first.toOrdinal + days

def upToDay (days : Nat) (last day : Date) : Bool :=
  day ≤ last && last.toOrdinal < day.toOrdinal + days

def ownViews (coverage : Coverage) (today : Date) (items : List ArticleItem) (path : String) :
    ArticleViews where
  path := path
  publishedOn := earliestFor check items path
  first7Days := (earliestFor check items path).bind fun day =>
    viewsOver snapshots path (fromDay FIRST_WINDOW_DAYS day)
  first30Days := (earliestFor check items path).bind fun day =>
    viewsOver snapshots path (fromDay SECOND_WINDOW_DAYS day)
  last30Days := viewsOver snapshots path (upToDay RECENT_WINDOW_DAYS today)
  total := viewsOver snapshots path fun _ => true
  coverageStart := coverage.earliest
  coverageEnd := coverage.latest

/-- A path that is stated for an article. -/
def Stated (items : List ArticleItem) (path : String) : Prop :=
  path ≠ "" ∧ ∃ item ∈ items, readPath check item = some path

instance (items : List ArticleItem) (path : String) : Decidable (Stated check items path) :=
  inferInstanceAs (Decidable (_ ∧ _))

/-- Nothing raises; every stated path has its own figures, the same as when its articles are asked
about alone. -/
def Answered (items : List ArticleItem) (today : Option Date) (coverage : Option Coverage) : Prop :=
  ∃ result, getArticleViews check snapshots items today coverage = .ok result ∧
    ∀ earliest latest, (coverage.getD (getCoverage snapshots)).earliest = some earliest →
      (coverage.getD (getCoverage snapshots)).latest = some latest → ∀ path,
        (result.get? path = if Stated check items path then
          some (ownViews check snapshots (coverage.getD (getCoverage snapshots))
            (today.getD latest) items path) else none) ∧
        ∃ alone, getArticleViews check snapshots (statedFor check items path) today
          coverage = .ok alone ∧
          alone.get? path = result.get? path

/-- The articles can be asked about: no address and no day is in the way. -/
structure Askable (items : List ArticleItem) (today : Date) : Prop where
  readable : ∀ item ∈ items, ∃ path, readPath check item = some path
  dated : ∀ before item after path, items = before ++ item :: after →
    readPath check item = some path → path ≠ "" →
    item.publishedAt ≠ none → (∃ earlier ∈ before, readPath check earlier = some path) →
      ∃ earlier ∈ before, readPath check earlier = some path ∧ earlier.publishedAt ≠ none
  recent : (∃ path, Stated check items path) → RECENT_WINDOW_DAYS ≤ today.toOrdinal
  windows : ∀ path day, path ≠ "" → earliestFor check items path = some day →
    day.toOrdinal + SECOND_WINDOW_DAYS ≤ Date.maxOrdinal + 1
  settled : ∀ path, Stated check items path → canonicalPath check path.toList = some path.toList ∨
    ∀ row ∈ currentPages snapshots, row.2.path ≠ path

end Model

section Queries

variable {check : NetlocCheck} {snapshots : List Ga4Snapshot}

/-- A group has its path's sum. -/
theorem get?_groupViews (rows : List (Date × PageRow)) (path : String) :
    (groupViews rows).get? path = sumOf (fun row => some row.2.pageViews)
      (rows.filter fun row => row.2.path = path) := by
  unfold groupViews
  rw [sumOf_eq]
  by_cases hpath : path ∈ (rows.map (·.2.path)).dedup
  · rw [Dict.get?_ofList_map (List.nodup_dedup _) _ hpath, if_neg]
    · rfl
    · intro hnone
      obtain ⟨row, hrow, heq⟩ := List.mem_map.mp (List.mem_dedup.mp hpath)
      exact Option.some_ne_none _ (hnone row (List.mem_filter.mpr ⟨hrow, decide_eq_true heq⟩))
  · rw [Dict.get?_eq_none_of_not_mem_keys, if_pos]
    · intro row hrow
      obtain ⟨hmem, heq⟩ := List.mem_filter.mp hrow
      exact absurd (List.mem_dedup.mpr (List.mem_map.mpr ⟨row, hmem, of_decide_eq_true heq⟩)) hpath
    · rw [Dict.mem_keys_ofList, List.map_map]
      show path ∉ ((rows.map (·.2.path)).dedup.map id)
      rwa [List.map_id]

/-- A query that keeps of a path exactly the rows of some days. -/
theorem get?_groupViews_filter {keeps : Date × PageRow → Bool} {path : String}
    {inside : Date → Bool}
    (h : ∀ row ∈ currentPages snapshots, row.2.path = path → keeps row = inside row.1) :
    (groupViews ((currentPages snapshots).filter keeps)).get? path =
      viewsOver snapshots path inside := by
  rw [get?_groupViews, List.filter_filter]
  unfold viewsOver
  refine congrArg (sumOf _) (List.filter_congr fun row hrow => ?_)
  by_cases hpath : row.2.path = path
  · simp [hpath, h row hrow hpath]
  · simp [hpath]

/-- A query that keeps no row of a path has no entry for it. -/
theorem get?_groupViews_none {keeps : Date × PageRow → Bool} {path : String}
    (h : ∀ row ∈ currentPages snapshots, row.2.path = path → keeps row = false) :
    (groupViews ((currentPages snapshots).filter keeps)).get? path = none := by
  rw [@get?_groupViews_filter snapshots keeps path (fun _ => false) h]
  unfold viewsOver
  simp [sumOf]

end Queries

/-! ## The earliest day of a path -/

section Days

variable {check : NetlocCheck} {items done : List ArticleItem} {item : ArticleItem} {path : String}

theorem earliestFor_eq_some_iff {day : Date} : earliestFor check items path = some day ↔
    (∃ item ∈ items, readPath check item = some path ∧ item.publishedAt = some day) ∧
      ∀ item ∈ items, readPath check item = some path → ∀ other, item.publishedAt = some other →
      day ≤ other := by
  unfold earliestFor statedFor
  rw [List.min?_eq_some_iff]
  simp only [List.mem_filterMap, List.mem_filter, decide_eq_true_eq]
  constructor
  · intro ⟨⟨item, hitem, hday⟩, hle⟩
    exact ⟨⟨item, hitem.1, hitem.2, hday⟩, fun other hother hpath day' hday' =>
      hle day' ⟨other, ⟨hother, hpath⟩, hday'⟩⟩
  · intro ⟨⟨item, hitem, hpath, hday⟩, hle⟩
    exact ⟨⟨item, ⟨hitem, hpath⟩, hday⟩, fun day' ⟨other, hother, hday'⟩ =>
      hle other hother.1 hother.2 day' hday'⟩

theorem earliestFor_eq_none_iff : earliestFor check items path = none ↔
    ∀ item ∈ items, readPath check item = some path → item.publishedAt = none := by
  unfold earliestFor statedFor
  rw [List.min?_eq_none_iff, List.filterMap_eq_nil_iff]
  simp only [List.mem_filter, decide_eq_true_eq, and_imp]

/-- Only a path's own articles count. -/
theorem earliestFor_congr {items' : List ArticleItem}
    (h : ∀ item, readPath check item = some path → (item ∈ items ↔ item ∈ items')) :
    earliestFor check items path = earliestFor check items' path := by
  apply Option.ext
  intro day
  rw [earliestFor_eq_some_iff, earliestFor_eq_some_iff]
  constructor
  · intro ⟨⟨item, hitem, hpath, hday⟩, hle⟩
    exact ⟨⟨item, (h item hpath).mp hitem, hpath, hday⟩, fun other hother hpath =>
      hle other ((h other hpath).mpr hother) hpath⟩
  · intro ⟨⟨item, hitem, hpath, hday⟩, hle⟩
    exact ⟨⟨item, (h item hpath).mpr hitem, hpath, hday⟩, fun other hother hpath =>
      hle other ((h other hpath).mp hother) hpath⟩

theorem earliestFor_concat_of_ne (h : readPath check item ≠ some path) :
    earliestFor check (done ++ [item]) path = earliestFor check done path := by
  refine earliestFor_congr fun other hother => ?_
  rw [List.mem_append, List.mem_singleton]
  exact or_iff_left fun heq => h (heq ▸ hother)

theorem earliestFor_concat_undated (h : item.publishedAt = none) :
    earliestFor check (done ++ [item]) path = earliestFor check done path := by
  apply Option.ext
  intro day
  rw [earliestFor_eq_some_iff, earliestFor_eq_some_iff]
  simp only [List.mem_append, List.mem_singleton, or_and_right, exists_or, or_imp, forall_and,
    forall_eq, exists_eq_left, h,
    reduceCtorEq, and_false, or_false, false_imp_iff, implies_true, and_true]

theorem earliestFor_concat_first {day : Date} (hpath : readPath check item = some path)
    (hday : item.publishedAt = some day)
    (hnone : earliestFor check done path = none) :
      earliestFor check (done ++ [item]) path = some day := by
  rw [earliestFor_eq_none_iff] at hnone
  refine earliestFor_eq_some_iff.mpr
    ⟨⟨item, List.mem_append_right _ List.mem_cons_self, hpath, hday⟩, ?_⟩
  intro other hother hother' day' hday'
  rcases List.mem_append.mp hother with hdone | hlast
  · rw [hnone other hdone hother'] at hday'
    cases hday'
  · rw [List.mem_singleton.mp hlast, hday] at hday'
    exact le_of_eq (Option.some.inj hday')

theorem earliestFor_concat_known {day known : Date} (hpath : readPath check item = some path)
    (hday : item.publishedAt = some day) (hknown : earliestFor check done path = some known) :
    earliestFor check (done ++ [item]) path = some (if day < known then day else known) := by
  obtain ⟨⟨first, hfirst, hfirstPath, hfirstDay⟩, hle⟩ := earliestFor_eq_some_iff.mp hknown
  have hbound : ∀ other ∈ done ++ [item], readPath check other = some path →
      ∀ day', other.publishedAt = some day' →
      day ≤ day' ∨ known ≤ day' := by
    intro other hother hother' day' hday'
    rcases List.mem_append.mp hother with hdone | hlast
    · exact Or.inr (hle other hdone hother' day' hday')
    · rw [List.mem_singleton.mp hlast, hday] at hday'
      exact Or.inl (le_of_eq (Option.some.inj hday'))
  by_cases hlt : day < known
  · rw [if_pos hlt]
    refine earliestFor_eq_some_iff.mpr
      ⟨⟨item, List.mem_append_right _ List.mem_cons_self, hpath, hday⟩, ?_⟩
    intro other hother hother' day' hday'
    exact (hbound other hother hother' day' hday').elim id hlt.le.trans
  · rw [if_neg hlt]
    refine earliestFor_eq_some_iff.mpr
      ⟨⟨first, List.mem_append_left _ hfirst, hfirstPath, hfirstDay⟩, ?_⟩
    intro other hother hother' day' hday'
    exact (hbound other hother hother' day' hday').elim (not_lt.mp hlt).trans id

/-! ## The loop over the articles -/

theorem stated_concat {path : String} : Stated check (done ++ [item]) path ↔
    Stated check done path ∨ path ≠ "" ∧ readPath check item = some path := by
  unfold Stated
  simp only [List.mem_append, List.mem_singleton, or_and_right, exists_or, exists_eq_left,
    and_or_left]

/-- What the dictionary holds after some articles. -/
def Records (check : NetlocCheck) (done : List ArticleItem)
    (published : Dict String (Option Date)) : Prop :=
  ∀ path, published.get? path = if Stated check done path then
    some (earliestFor check done path) else none

/-- No raising: the address is read, and a day meets no undated first mention of its path. -/
def Fine (check : NetlocCheck) (done : List ArticleItem) (item : ArticleItem) : Prop :=
  (∃ path, readPath check item = some path) ∧ ∀ path, readPath check item = some path → path ≠ "" →
    item.publishedAt ≠ none → (∃ earlier ∈ done, readPath check earlier = some path) →
      ∃ earlier ∈ done, readPath check earlier = some path ∧ earlier.publishedAt ≠ none

theorem readPath_eq_some_iff : readPath check item = some path ↔
    canonicalOf check item.canonicalUrl = .ok path :=
  toOption_eq_some_iff

variable {published next : Dict String (Option Date)}

theorem records_empty (check : NetlocCheck) : Records check [] Dict.empty := by
  intro path
  rw [if_neg fun h => by simpa using h.2]
  rfl

/-- Another path keeps what it has. -/
theorem records_of_ne {other : String} (h : Records check done published)
    (hpath : readPath check item = some path)
    (hne : other ≠ path) : published.get? other =
      if Stated check (done ++ [item]) other then
        some (earliestFor check (done ++ [item]) other) else none := by
  have hitem : readPath check item ≠ some other :=
    fun heq => hne (Option.some.inj (heq.symm.trans hpath))
  rw [h other, earliestFor_concat_of_ne hitem]
  exact if_congr (stated_concat.trans (or_iff_left fun hstated => hitem hstated.2)).symm rfl rfl

theorem stated_self (hpath : readPath check item = some path) (hne : path ≠ "") :
    Stated check (done ++ [item]) path :=
  stated_concat.mpr (Or.inr ⟨hne, hpath⟩)

theorem records_recordDay (h : Records check done published)
    (hpath : readPath check item = some path) (hne : path ≠ "")
    (hnext : recordDay published path item.publishedAt = .ok next) :
      Records check (done ++ [item]) next := by
  intro other
  by_cases hother : other = path
  · rw [hother, if_pos (stated_self hpath hne)]
    have hold := h path
    cases hday : item.publishedAt with
    | none =>
      rw [hday] at hnext
      rw [earliestFor_concat_undated hday, ← Except.ok.inj hnext]
      unfold Dict.setDefault
      by_cases hstated : Stated check done path
      · rw [if_pos hstated] at hold
        rw [if_pos (Dict.mem_keys_iff_get?.mpr ⟨_, hold⟩), hold]
      · rw [if_neg hstated] at hold
        have hnew : path ∉ published.keys := by
          intro hmem
          obtain ⟨value, hvalue⟩ := Dict.mem_keys_iff_get?.mp hmem
          rw [hold] at hvalue
          cases hvalue
        have hnone : earliestFor check done path = none :=
          earliestFor_eq_none_iff.mpr fun earlier hearlier hread =>
            absurd ⟨hne, earlier, hearlier, hread⟩ hstated
        rw [if_neg hnew, Dict.get?_set_self, hnone]
    | some day =>
      rw [hday] at hnext
      unfold recordDay at hnext
      dsimp only at hnext
      by_cases hstated : Stated check done path
      · rw [if_pos hstated] at hold
        rw [hold] at hnext
        cases hknown : earliestFor check done path with
        | none =>
          rw [hknown] at hnext
          cases hnext
        | some known =>
          rw [hknown] at hnext hold
          rw [earliestFor_concat_known hpath hday hknown, ← Except.ok.inj hnext]
          by_cases hlt : day < known
          · rw [if_pos hlt, if_pos hlt, Dict.get?_set_self]
          · rw [if_neg hlt, if_neg hlt, hold]
      · rw [if_neg hstated] at hold
        have hnone : earliestFor check done path = none :=
          earliestFor_eq_none_iff.mpr fun earlier hearlier hread =>
            absurd ⟨hne, earlier, hearlier, hread⟩ hstated
        rw [hold] at hnext
        rw [earliestFor_concat_first hpath hday hnone, ← Except.ok.inj hnext, Dict.get?_set_self]
  · rw [← records_of_ne h hpath hother]
    cases hday : item.publishedAt with
    | none =>
      rw [hday] at hnext
      rw [← Except.ok.inj hnext]
      unfold Dict.setDefault
      split
      · rfl
      · exact Dict.get?_set_ne _ _ hother
    | some day =>
      rw [hday] at hnext
      unfold recordDay at hnext
      dsimp only at hnext
      split at hnext
      · rw [← Except.ok.inj hnext]
        exact Dict.get?_set_ne _ _ hother
      · rw [← Except.ok.inj hnext]
        split
        · exact Dict.get?_set_ne _ _ hother
        · rfl
      · cases hnext

/-- One turn keeps the record. -/
theorem records_publishOne (h : Records check done published)
    (hnext : publishOne check published item = .ok next) :
    Records check (done ++ [item]) next := by
  unfold publishOne at hnext
  obtain ⟨path, hpath, hnext⟩ := bind_eq_ok_iff.mp hnext
  rw [← readPath_eq_some_iff] at hpath
  by_cases hempty : path = ""
  · rw [if_pos hempty] at hnext
    rw [← Except.ok.inj hnext]
    intro other
    by_cases hother : other = path
    · rw [h other, if_neg fun hstated => hstated.1 (hother.trans hempty),
        if_neg fun hstated => hstated.1 (hother.trans hempty)]
    · exact records_of_ne h hpath hother
  · rw [if_neg hempty] at hnext
    exact records_recordDay h hpath hempty hnext

theorem exists_recordDay_iff (h : Records check done published) (hne : path ≠ "")
    (day : Option Date) :
    (∃ next, recordDay published path day = .ok next) ↔
      (day ≠ none → (∃ earlier ∈ done, readPath check earlier = some path) →
        ∃ earlier ∈ done, readPath check earlier = some path ∧ earlier.publishedAt ≠ none) := by
  have hold := h path
  cases day with
  | none => exact iff_of_true ⟨_, rfl⟩ fun hnone => absurd rfl hnone
  | some day =>
    unfold recordDay
    dsimp only
    by_cases hstated : Stated check done path
    · rw [if_pos hstated] at hold
      rw [hold]
      cases hknown : earliestFor check done path with
      | none =>
        refine iff_of_false (fun ⟨next, hnext⟩ => by cases hnext) fun hdated => ?_
        obtain ⟨earlier, hearlier, hread, hday⟩ := hdated (Option.some_ne_none _) hstated.2
        exact hday (earliestFor_eq_none_iff.mp hknown earlier hearlier hread)
      | some known =>
        obtain ⟨⟨first, hfirst, hread, hday⟩, -⟩ := earliestFor_eq_some_iff.mp hknown
        exact iff_of_true ⟨_, rfl⟩ fun _ _ =>
          ⟨first, hfirst, hread, fun hnone => by rw [hnone] at hday; cases hday⟩
    · rw [if_neg hstated] at hold
      rw [hold]
      exact iff_of_true ⟨_, rfl⟩ fun _ hearlier => absurd ⟨hne, hearlier⟩ hstated

theorem exists_publishOne_iff (h : Records check done published) :
    (∃ next, publishOne check published item = .ok next) ↔ Fine check done item := by
  unfold publishOne Fine
  cases hread : canonicalOf check item.canonicalUrl with
  | error e =>
    refine iff_of_false (fun ⟨next, hnext⟩ => by cases hnext) fun ⟨⟨path, hpath⟩, _⟩ => ?_
    rw [readPath_eq_some_iff, hread] at hpath
    cases hpath
  | ok path =>
    have hpath : readPath check item = some path := readPath_eq_some_iff.mpr hread
    rw [hpath]
    show (∃ next, (if path = "" then Except.ok published else
      recordDay published path item.publishedAt) = .ok next) ↔ _
    simp only [Option.some.injEq, exists_eq', true_and, forall_eq']
    by_cases hempty : path = ""
    · rw [if_pos hempty]
      exact iff_of_true ⟨_, rfl⟩ fun hne => absurd hempty hne
    · rw [if_neg hempty, exists_recordDay_iff h hempty]
      exact ⟨fun hday _ => hday, fun hday => hday hempty⟩

/-- After the loop, every stated path has its earliest day. -/
theorem records_foldlM (hok : items.foldlM (publishOne check) Dict.empty = .ok published) :
    Records check items published :=
  foldlM_recorded (fun _ _ _ _ => records_publishOne) (records_empty check) hok

theorem exists_foldlM_publishOne_iff :
    (∃ published, items.foldlM (publishOne check) Dict.empty = .ok published) ↔
    ∀ before item after, items = before ++ item :: after → Fine check before item :=
  @exists_foldlM_iff _ _ _ (publishOne check) (Records check) (Fine check)
    (fun _ _ _ _ => records_publishOne)
    (fun _ _ _ h => exists_publishOne_iff h) _ _ _ (records_empty check)

end Days

/-! ## The queries -/

section Answers

variable {check : NetlocCheck} {snapshots : List Ga4Snapshot}
  {published : Dict String (Option Date)} {days : Nat}

/-- What `canonical_paths` has seen. -/
theorem mem_canonicalPaths {values paths : List String}
    (h : canonicalPaths check values = .ok paths) (path : String) :
    path ∈ paths ↔ path ≠ "" ∧ ∃ value ∈ values, canonicalOf check (some value) = .ok path := by
  unfold canonicalPaths at h
  have hrecord := @foldlM_recorded _ _ _ _ (fun (done : List String) (seen : List String) => ∀ path,
    path ∈ seen ↔ path ≠ "" ∧ ∃ value ∈ done, canonicalOf check (some value) =
      .ok path) ?_ values [] [] paths ?_ h
  · exact hrecord path
  · intro done value seen next hseen hnext other
    obtain ⟨found, hfound, hnext⟩ := bind_eq_ok_iff.mp hnext
    rw [← Except.ok.inj hnext]
    have hself : (∃ v ∈ done ++ [value], canonicalOf check (some v) = .ok other) ↔
        (∃ v ∈ done, canonicalOf check (some v) = .ok other) ∨ found = other := by
      simp only [List.mem_append, List.mem_singleton, or_and_right, exists_or, exists_eq_left,
        hfound, Except.ok.injEq]
    rw [hself, and_or_left, ← hseen other]
    by_cases hknown : found = "" ∨ found ∈ seen
    · rw [if_pos hknown]
      refine (or_iff_left_of_imp fun h => ?_).symm
      exact h.2 ▸ hknown.resolve_left fun hempty => h.1 (h.2 ▸ hempty)
    · rw [if_neg hknown, List.mem_append, List.mem_singleton]
      refine or_congr Iff.rfl ⟨fun heq => ⟨fun hempty => hknown (Or.inl (heq ▸ hempty)), heq.symm⟩,
        fun h => h.2.symm⟩
  · intro path
    simp

theorem exists_canonicalPaths {values : List String}
    (h : ∀ value ∈ values, ∃ path, canonicalOf check (some value) = .ok path) :
    ∃ paths, canonicalPaths check values = .ok paths := by
  unfold canonicalPaths
  refine (@exists_foldlM_iff _ _ _ _ (fun _ _ => True)
    (fun _ value => ∃ path, canonicalOf check (some value) = .ok path)
    (fun _ _ _ _ _ _ => trivial) (fun _ value seen _ => ?_) values [] [] trivial).mpr ?_
  · constructor
    · intro ⟨next, hnext⟩
      obtain ⟨path, hpath, -⟩ := bind_eq_ok_iff.mp hnext
      exact ⟨path, hpath⟩
    · exact fun ⟨path, hpath⟩ => ⟨_, bind_eq_ok_iff.mpr ⟨path, hpath, rfl⟩⟩
  · intro before value after heq
    exact h value (heq ▸ List.mem_append_right _ List.mem_cons_self)

/-- A total is that of the rows of the path, where the path is one of those asked for. -/
theorem total_getPageViewTotals {coverage : Coverage} {values : List String}
    {totals : Dict String PageViews}
    (h : getPageViewTotals check snapshots coverage values = .ok totals) (path : String) :
    (totals.get? path).map (·.total) =
      if path ≠ "" ∧ ∃ value ∈ values, canonicalOf check (some value) = .ok path then
        viewsOver snapshots path fun _ => true
      else none := by
  unfold getPageViewTotals at h
  obtain ⟨paths, hpaths, h⟩ := bind_eq_ok_iff.mp h
  have hmem := mem_canonicalPaths hpaths path
  rw [← Except.ok.inj h]
  have hentries :
      ((Dict.ofList
        ((groupViews ((currentPages snapshots).filter fun row => row.2.path ∈ paths)).entries.map
      fun entry =>
        (entry.1, (⟨entry.1, entry.2, coverage.earliest, coverage.latest⟩ : PageViews)))).get?
          path).map (·.total) =
        (groupViews ((currentPages snapshots).filter fun row => row.2.path ∈ paths)).get? path := by
    apply Option.ext
    intro views
    rw [Option.map_eq_some_iff, Dict.get?_eq_some_iff]
    simp only [Dict.get?_eq_some_iff]
    rw [Dict.entries_ofList]
    · simp only [List.mem_map, Prod.mk.injEq]
      constructor
      · rintro ⟨page, ⟨entry, hentry, rfl, rfl⟩, rfl⟩
        exact hentry
      · exact fun hentry => ⟨_, ⟨_, hentry, rfl, rfl⟩, rfl⟩
    · rw [List.map_map]
      exact (groupViews _).keys_nodup
  rw [hentries]
  by_cases hasked : path ∈ paths
  · rw [if_pos (hmem.mp hasked)]
    exact get?_groupViews_filter fun row _ hrow => decide_eq_true (hrow ▸ hasked)
  · rw [if_neg fun h => hasked (hmem.mpr h)]
    exact get?_groupViews_none fun row _ hrow => decide_eq_false (hrow ▸ hasked)

theorem mem_datedEntries {entry : String × Date} :
    entry ∈ datedEntries published ↔ published.get? entry.1 = some (some entry.2) := by
  unfold datedEntries
  rw [List.mem_filterMap, Dict.get?_eq_some_iff]
  constructor
  · rintro ⟨⟨path, day⟩, hentry, hday⟩
    obtain ⟨day, rfl, rfl⟩ := Option.map_eq_some_iff.mp hday
    exact hentry
  · exact fun hentry => ⟨_, hentry, rfl⟩

theorem firstWindow_eq_ok_iff {entry : String × Date} {window : Window} :
    firstWindow days entry = .ok window ↔
      window.1 = entry.1 ∧ window.2.1 = entry.2 ∧
      Date.addDays? (days - 1) entry.2 = some window.2.2 := by
  unfold firstWindow
  cases Date.addDays? (days - 1) entry.2 with
  | none => simp
  | some last =>
    obtain ⟨path, first, last'⟩ := window
    simp only [Except.ok.injEq, Prod.mk.injEq, Option.some.injEq]
    exact ⟨fun h => ⟨h.1.symm, h.2.1.symm, h.2.2⟩, fun h => ⟨h.1.symm, h.2.1.symm, h.2.2⟩⟩

/-- The windows are in the calendar. -/
theorem exists_sumViewsFromPublication_iff (hdays : 1 ≤ days) :
    (∃ sums, sumViewsFromPublication snapshots published days = .ok sums) ↔
      ∀ path day, published.get? path = some (some day) →
      day.toOrdinal + days ≤ Date.maxOrdinal + 1 := by
  unfold sumViewsFromPublication
  constructor
  · intro ⟨sums, h⟩ path day hday
    obtain ⟨windows, hwindows, -⟩ := bind_eq_ok_iff.mp h
    obtain ⟨window, -, hwindow⟩ := exists_of_mem_forall₂_left (forall₂_of_mapM_eq_ok hwindows)
      (mem_datedEntries.mpr
        (show published.get? (path, day).1 = some (some (path, day).2) from hday))
    obtain ⟨-, -, hlast⟩ := firstWindow_eq_ok_iff.mp hwindow
    have hin := Date.addDays?_isSome.mp ⟨_, hlast⟩
    dsimp only at hin
    omega
  · intro h
    have hall : ∀ entry ∈ datedEntries published, ∃ window, firstWindow days entry =
        .ok window := by
      intro entry hentry
      have hin := h entry.1 entry.2 (mem_datedEntries.mp hentry)
      obtain ⟨last, hlast⟩ := (@Date.addDays?_isSome (days - 1) entry.2).mpr (by omega)
      exact ⟨(entry.1, entry.2, last), firstWindow_eq_ok_iff.mpr ⟨rfl, rfl, hlast⟩⟩
    obtain ⟨windows, hwindows⟩ := exists_mapM_eq_ok hall
    exact ⟨_, bind_eq_ok_iff.mpr ⟨windows, hwindows, rfl⟩⟩

theorem mem_windows {windows : List Window}
    (h : (datedEntries published).mapM (firstWindow days) = .ok windows) {window : Window}
    (hwindow : window ∈ windows) :
    published.get? window.1 = some (some window.2.1) ∧
    Date.addDays? (days - 1) window.2.1 = some window.2.2 := by
  obtain ⟨entry, hentry, hfirst⟩ := exists_of_mem_forall₂ (forall₂_of_mapM_eq_ok h) hwindow
  obtain ⟨hpath, hday, hlast⟩ := firstWindow_eq_ok_iff.mp hfirst
  rw [hpath, hday]
  exact ⟨mem_datedEntries.mp hentry, hlast⟩

/-- A dated path has the views of its own first days, and no other path has any. -/
theorem get?_sumViewsFromPublication (hdays : 1 ≤ days) {sums : Dict String Int}
    (h : sumViewsFromPublication snapshots published days = .ok sums) (path : String) :
    sums.get? path = ((published.get? path).getD none).bind fun day =>
      viewsOver snapshots path (fromDay days day) := by
  unfold sumViewsFromPublication at h
  obtain ⟨windows, hwindows, h⟩ := bind_eq_ok_iff.mp h
  have hsums : sums = if windows = [] then Dict.empty else
      groupViews ((currentPages snapshots).filter fun row => windows.any fun window =>
          inWindow window row) :=
    (Except.ok.inj h).symm
  cases hday : (published.get? path).getD none with
  | none =>
    have hnone : ∀ window ∈ windows, window.1 ≠ path := by
      intro window hwindow heq
      rw [← heq, (mem_windows hwindows hwindow).1] at hday
      cases hday
    rw [hsums, Option.bind_none]
    split
    · rfl
    · refine get?_groupViews_none fun row _ hrow => ?_
      rw [List.any_eq_false]
      intro window hwindow hin
      unfold inWindow at hin
      simp only [Bool.and_eq_true, decide_eq_true_eq] at hin
      exact hnone window hwindow (hin.1.1.symm.trans hrow)
  | some day =>
    have hstated : published.get? path = some (some day) := by
      cases hget : published.get? path with
      | none =>
        rw [hget] at hday
        cases hday
      | some found =>
        rw [hget, Option.getD_some] at hday
        rw [hday]
    obtain ⟨window, hwindow, hfirst⟩ := exists_of_mem_forall₂_left (forall₂_of_mapM_eq_ok hwindows)
      (mem_datedEntries.mpr
        (show published.get? (path, day).1 = some (some (path, day).2) from hstated))
    obtain ⟨hpath, hstart, hlast⟩ := firstWindow_eq_ok_iff.mp hfirst
    have hend := Date.addDays?_eq_some_iff.mp hlast
    dsimp only at hpath hstart hend
    rw [hsums, if_neg (List.ne_nil_of_mem hwindow), Option.bind_some]
    refine get?_groupViews_filter fun row _ hrow => ?_
    -- of the windows, only the path's own can hold a row of the path
    have hinside : inWindow window row = fromDay days day row.1 := by
      have hord := Date.toOrdinal_le_iff (a := row.1) (b := window.2.2)
      unfold inWindow fromDay
      rw [hpath, hstart, hrow, decide_eq_true rfl, Bool.true_and]
      refine congrArg (decide (day ≤ row.1) && ·) (decide_eq_decide.mpr ?_)
      rw [← hord]
      omega
    rw [← hinside, Bool.eq_iff_iff, List.any_eq_true]
    constructor
    · rintro ⟨other, hother, hin⟩
      have hpathOther : other.1 = path := by
        unfold inWindow at hin
        simp only [Bool.and_eq_true, decide_eq_true_eq] at hin
        exact hin.1.1.symm.trans hrow
      obtain ⟨hget, hlastOther⟩ := mem_windows hwindows hother
      rw [hpathOther, hstated] at hget
      have hday' : other.2.1 = day := (Option.some.inj (Option.some.inj hget)).symm
      have heq : other = window := by
        rw [hday', hlast] at hlastOther
        exact Prod.ext (hpathOther.trans hpath.symm)
          (Prod.ext (hday'.trans hstart.symm) (Option.some.inj hlastOther).symm)
      exact heq ▸ hin
    · exact fun hin => ⟨window, hwindow, hin⟩

/-- The recent views of a path that was asked for. -/
theorem get?_sumViews {today start : Date} (hstart : recentStart today = .ok start)
    {paths : List String} {path : String}
    (hpath : path ∈ paths) :
    (sumViews snapshots paths (some start) (some today)).get? path =
      viewsOver snapshots path (upToDay RECENT_WINDOW_DAYS today) := by
  have hsub : Date.subDays? (RECENT_WINDOW_DAYS - 1) today = some start := by
    unfold recentStart at hstart
    split at hstart
    · cases hstart
    · next found hfound => rw [hfound, Except.ok.inj hstart]
  have hordinal := Date.subDays?_eq_some_iff.mp hsub
  refine get?_groupViews_filter fun row _ hrow => ?_
  have hfirst := Date.toOrdinal_le_iff (a := start) (b := row.1)
  unfold upToDay
  rw [← Bool.decide_and]
  refine decide_eq_decide.mpr ?_
  simp only [Option.mem_def, Option.some.injEq, forall_eq', hrow, hpath, true_and, ← hfirst]
  unfold RECENT_WINDOW_DAYS at *
  constructor
  · exact fun h => ⟨h.2, by omega⟩
  · exact fun h => ⟨by omega, h.1⟩

theorem exists_recentStart_iff (today : Date) :
    (∃ start, recentStart today = .ok start) ↔ RECENT_WINDOW_DAYS ≤ today.toOrdinal := by
  have hsome := @Date.subDays?_isSome (RECENT_WINDOW_DAYS - 1) today
  unfold recentStart
  cases hsub : Date.subDays? (RECENT_WINDOW_DAYS - 1) today with
  | none =>
    rw [hsub] at hsome
    refine iff_of_false (fun ⟨start, h⟩ => by cases h) fun hle => ?_
    obtain ⟨day, hday⟩ := hsome.mpr (by unfold RECENT_WINDOW_DAYS at *; omega)
    cases hday
  | some start =>
    have hlt := hsome.mp ⟨start, hsub⟩
    exact iff_of_true ⟨start, rfl⟩ (by unfold RECENT_WINDOW_DAYS at *; omega)

end Answers

/-! ## What is answered -/

section Bulk

variable {check : NetlocCheck} {snapshots : List Ga4Snapshot} {items : List ArticleItem}
  {published : Dict String (Option Date)} {coverage : Coverage} {today : Date}

theorem mem_keys_records (h : Records check items published) {path : String} :
    path ∈ published.keys ↔ Stated check items path := by
  rw [Dict.mem_keys_iff_get?, h path]
  by_cases hstated : Stated check items path
  · rw [if_pos hstated]
    exact iff_of_true ⟨_, rfl⟩ hstated
  · rw [if_neg hstated]
    exact iff_of_false (fun ⟨_, hvalue⟩ => by cases hvalue) hstated

theorem canonicalOf_eq_ok_iff {path found : String} :
    canonicalOf check (some path) = .ok found ↔
    canonicalPath check path.toList = some found.toList := by
  unfold canonicalOf
  dsimp only
  cases hpath : canonicalPath check path.toList with
  | none => exact iff_of_false (fun h => by cases h) fun h => by cases h
  | some again =>
    rw [Except.ok.injEq, Option.some.injEq]
    constructor
    · intro h
      rw [← h, String.toList_ofList]
    · intro h
      rw [h, String.ofList_toList]

/-- The key of an article can be made canonical once more. -/
theorem exists_canonicalOf_stated {path : String} (h : Stated check items path) :
    ∃ again, canonicalOf check (some path) = .ok again := by
  obtain ⟨hne, item, -, hread⟩ := h
  rw [readPath_eq_some_iff] at hread
  unfold canonicalOf at hread
  split at hread
  · exact absurd (Except.ok.inj hread).symm hne
  · split at hread
    · cases hread
    · next found hfound =>
      obtain ⟨again, hagain⟩ := exists_canonicalPath_again check hfound
      refine ⟨String.ofList again, canonicalOf_eq_ok_iff.mpr ?_⟩
      rw [← Except.ok.inj hread, String.toList_ofList, String.toList_ofList]
      exact hagain

/-- The total of a path: of all its rows, where one of the keys is canonicalised to it. -/
def totalAgain (check : NetlocCheck) (snapshots : List Ga4Snapshot)
    (published : Dict String (Option Date)) (path : String) :
    Option Int :=
  if path ≠ "" ∧ ∃ key ∈ published.keys, (canonicalOf check (some key)).toOption = some path then
    viewsOver snapshots path fun _ => true
  else none

/-- Once the days are known, only the windows can raise. -/
theorem exists_articleViews_iff (h : Records check items published) :
    (∃ result, articleViews check snapshots coverage today published = .ok result) ↔
      RECENT_WINDOW_DAYS ≤ today.toOrdinal ∧ ∀ path day, published.get? path = some (some day) →
        day.toOrdinal + SECOND_WINDOW_DAYS ≤ Date.maxOrdinal + 1 := by
  have hpaths : ∃ paths, canonicalPaths check published.keys = .ok paths :=
    exists_canonicalPaths fun key hkey => exists_canonicalOf_stated ((mem_keys_records h).mp hkey)
  obtain ⟨paths, hpaths⟩ := hpaths
  have htotals : ∃ totals, getPageViewTotals check snapshots coverage published.keys = .ok totals :=
    ⟨_, bind_eq_ok_iff.mpr ⟨paths, hpaths, rfl⟩⟩
  obtain ⟨totals, htotals⟩ := htotals
  unfold articleViews
  constructor
  · intro ⟨result, hresult⟩
    obtain ⟨_, -, hresult⟩ := bind_eq_ok_iff.mp hresult
    obtain ⟨start, hstart, hresult⟩ := bind_eq_ok_iff.mp hresult
    obtain ⟨_, -, hresult⟩ := bind_eq_ok_iff.mp hresult
    obtain ⟨first30, hfirst30, -⟩ := bind_eq_ok_iff.mp hresult
    exact ⟨(exists_recentStart_iff today).mp ⟨start, hstart⟩,
      (exists_sumViewsFromPublication_iff (by decide)).mp ⟨first30, hfirst30⟩⟩
  · intro ⟨hrecent, hwindows⟩
    obtain ⟨start, hstart⟩ := (exists_recentStart_iff today).mpr hrecent
    have hweek : ∀ path day, published.get? path = some (some day) →
        day.toOrdinal + FIRST_WINDOW_DAYS ≤ Date.maxOrdinal + 1 := by
      intro path day hday
      have hmonth := hwindows path day hday
      unfold FIRST_WINDOW_DAYS
      unfold SECOND_WINDOW_DAYS at hmonth
      omega
    obtain ⟨first7, hfirst7⟩ :=
      (@exists_sumViewsFromPublication_iff snapshots published _ (by decide)).mpr hweek
    obtain ⟨first30, hfirst30⟩ :=
      (@exists_sumViewsFromPublication_iff snapshots published _ (by decide)).mpr hwindows
    exact ⟨_, bind_eq_ok_iff.mpr
      ⟨totals, htotals, bind_eq_ok_iff.mpr ⟨start, hstart, bind_eq_ok_iff.mpr ⟨first7, hfirst7,
      bind_eq_ok_iff.mpr ⟨first30, hfirst30, rfl⟩⟩⟩⟩⟩

/-- A stated path is given its own figures, but for its total. -/
theorem get?_articleViews (h : Records check items published) {result : Dict String ArticleViews}
    (hresult : articleViews check snapshots coverage today published = .ok result) (path : String) :
    result.get? path = if Stated check items path then
      some
        { ownViews check snapshots coverage today items path with
          total := totalAgain check snapshots published path }
      else none := by
  unfold articleViews at hresult
  obtain ⟨totals, htotals, hresult⟩ := bind_eq_ok_iff.mp hresult
  obtain ⟨start, hstart, hresult⟩ := bind_eq_ok_iff.mp hresult
  obtain ⟨first7, hfirst7, hresult⟩ := bind_eq_ok_iff.mp hresult
  obtain ⟨first30, hfirst30, hresult⟩ := bind_eq_ok_iff.mp hresult
  rw [← Except.ok.inj hresult]
  by_cases hstated : Stated check items path
  · have hkey := (mem_keys_records h).mpr hstated
    have hday : (published.get? path).getD none = earliestFor check items path := by
      rw [h path, if_pos hstated, Option.getD_some]
    have htotal : (totals.get? path).map (·.total) = totalAgain check snapshots published path := by
      rw [total_getPageViewTotals htotals path]
      unfold totalAgain
      simp only [toOption_eq_some_iff]
    have hnodup : published.keys.Nodup := published.keys_nodup
    rw [if_pos hstated, Dict.get?_ofList_map hnodup _ hkey,
      get?_sumViewsFromPublication (by decide) hfirst7,
      get?_sumViewsFromPublication (by decide) hfirst30, get?_sumViews hstart hkey, htotal, hday]
    rfl
  · rw [if_neg hstated]
    refine Dict.get?_eq_none_of_not_mem_keys fun hmem => hstated ((mem_keys_records h).mp ?_)
    rw [Dict.mem_keys_ofList, List.map_map] at hmem
    rwa [show ((Prod.fst : String × ArticleViews → String) ∘ _) = id from rfl, List.map_id] at hmem

/-- Articles that can be asked about are answered, each path with its own figures. -/
theorem answered_of_askable {given : Option Coverage} {asked : Option Date} {earliest latest : Date}
    (hearliest : (given.getD (getCoverage snapshots)).earliest = some earliest)
    (hlatest : (given.getD (getCoverage snapshots)).latest = some latest)
    (h : Askable check snapshots items (asked.getD latest)) :
    ∃ result, getArticleViews check snapshots items asked given = .ok result ∧ ∀ path,
      result.get? path = if Stated check items path then
        some (ownViews check snapshots (given.getD (getCoverage snapshots))
            (asked.getD latest) items path) else none := by
  have hfine : ∀ before item after, items = before ++ item :: after → Fine check before item :=
      fun before item after heq =>
    ⟨h.readable item (heq ▸ List.mem_append_right _ List.mem_cons_self), fun path =>
      h.dated before item after path heq⟩
  obtain ⟨published, hpublished⟩ := exists_foldlM_publishOne_iff.mpr hfine
  have hrecords := records_foldlM hpublished
  have hresult : getArticleViews check snapshots items asked given =
      if published.keys = [] then .ok Dict.empty
      else articleViews check snapshots (given.getD (getCoverage snapshots))
        (asked.getD latest) published := by
    unfold getArticleViews
    dsimp only
    rw [hearliest, hlatest]
    show (items.foldlM (publishOne check) Dict.empty >>= _) = _
    rw [hpublished]
    rfl
  rw [hresult]
  by_cases hkeys : published.keys = []
  · rw [if_pos hkeys]
    refine ⟨_, rfl, fun path => ?_⟩
    rw [if_neg fun hstated => by simpa [hkeys] using (mem_keys_records hrecords).mpr hstated]
    rfl
  · rw [if_neg hkeys]
    obtain ⟨key, hkey⟩ := List.exists_mem_of_ne_nil _ hkeys
    have hrecent := h.recent ⟨key, (mem_keys_records hrecords).mp hkey⟩
    have hwindows : ∀ path day, published.get? path = some (some day) →
        day.toOrdinal + SECOND_WINDOW_DAYS ≤ Date.maxOrdinal + 1 := by
      intro path day hday
      rw [hrecords path] at hday
      by_cases hstated : Stated check items path
      · rw [if_pos hstated] at hday
        exact h.windows path day hstated.1 (Option.some.inj hday)
      · rw [if_neg hstated] at hday
        cases hday
    obtain ⟨result, hok⟩ := (exists_articleViews_iff hrecords).mpr ⟨hrecent, hwindows⟩
    refine ⟨result, hok, fun path => ?_⟩
    rw [get?_articleViews hrecords hok path]
    by_cases hstated : Stated check items path
    · rw [if_pos hstated, if_pos hstated]
      have htotal : totalAgain check snapshots published path =
          viewsOver snapshots path fun _ => true := by
        unfold totalAgain
        rcases h.settled path hstated with hself | hnone
        · refine if_pos ⟨hstated.1, path, (mem_keys_records hrecords).mpr hstated, ?_⟩
          exact toOption_eq_some_iff.mpr (canonicalOf_eq_ok_iff.mpr hself)
        · have hviews : viewsOver snapshots path (fun _ => true) = none :=
            sumOf_eq_none_iff.mpr fun row hrow =>
              absurd (of_decide_eq_true (List.mem_filter.mp hrow).2).1
              (hnone row (List.mem_filter.mp hrow).1)
          rw [hviews, ite_self]
      rw [htotal]
      rfl
    · rw [if_neg hstated, if_neg hstated]

theorem mem_statedFor {path : String} {item : ArticleItem} :
    item ∈ statedFor check items path ↔ item ∈ items ∧ readPath check item = some path := by
  unfold statedFor
  rw [List.mem_filter, decide_eq_true_eq]

theorem earliestFor_statedFor (items : List ArticleItem) (path : String) :
    earliestFor check (statedFor check items path) path = earliestFor check items path :=
  earliestFor_congr fun item hitem => by
    rw [mem_statedFor]
    exact and_iff_left hitem

theorem stated_statedFor {path other : String} :
    Stated check (statedFor check items path) other ↔ other = path ∧ Stated check items path := by
  unfold Stated
  simp only [mem_statedFor]
  constructor
  · rintro ⟨hne, item, ⟨hitem, hpath⟩, hother⟩
    have heq : other = path := Option.some.inj (hother.symm.trans hpath)
    exact ⟨heq, heq ▸ hne, item, hitem, hpath⟩
  · rintro ⟨rfl, hne, item, hitem, hpath⟩
    exact ⟨hne, item, ⟨hitem, hpath⟩, hpath⟩

/-- The articles of one path can be asked about where all can. -/
theorem Askable.alone (h : Askable check snapshots items today) (path : String) :
    Askable check snapshots (statedFor check items path) today where
  readable item hitem := h.readable item (mem_statedFor.mp hitem).1
  dated before item after other heq hread hne hday hearlier := by
    -- the articles of the path that come before are among all that come before
    obtain ⟨front, back, hsplit, hfront, hback⟩ := List.filter_eq_append_iff.mp heq
    obtain ⟨skipped, rest, hrest, hskipped, hitem, -⟩ := List.filter_eq_cons_iff.mp hback
    have hpath : readPath check item = some path := of_decide_eq_true hitem
    have hbefore : ∀ earlier ∈ front ++ skipped, readPath check earlier = some path →
        earlier ∈ before := by
      intro earlier hmem hread'
      rcases List.mem_append.mp hmem with hmem | hmem
      · exact hfront ▸ List.mem_filter.mpr ⟨hmem, decide_eq_true hread'⟩
      · exact absurd (decide_eq_true hread') (hskipped earlier hmem)
    have hother : other = path := Option.some.inj (hread.symm.trans hpath)
    obtain ⟨first, hfirst, hfirstRead⟩ := hearlier
    have hfirstFront : first ∈ front ++ skipped :=
      List.mem_append_left _ (List.mem_of_mem_filter (hfront ▸ hfirst))
    have hwhole : items = (front ++ skipped) ++ item :: rest := by
      rw [hsplit, hrest, List.append_assoc]
    obtain ⟨earlier, hmem, hread', hday'⟩ :=
      h.dated _ item rest other hwhole hread hne hday ⟨first, hfirstFront, hfirstRead⟩
    exact ⟨earlier, hbefore earlier hmem (hother ▸ hread'), hread', hday'⟩
  recent := fun ⟨other, hstated⟩ => h.recent ⟨path, (stated_statedFor.mp hstated).2⟩
  windows other day hne hday := by
    obtain ⟨⟨item, hitem, hread, -⟩, -⟩ := earliestFor_eq_some_iff.mp hday
    have hother : other = path := Option.some.inj (hread.symm.trans (mem_statedFor.mp hitem).2)
    rw [hother, earliestFor_statedFor] at hday
    exact h.windows path day (hother ▸ hne) hday
  settled other hstated := by
    obtain ⟨hother, hstated⟩ := stated_statedFor.mp hstated
    exact hother ▸ h.settled path hstated

/-- What an answer went through, where there is any coverage. -/
theorem exists_published {given : Option Coverage} {asked : Option Date} {earliest latest : Date}
    {result : Dict String ArticleViews}
    (hearliest : (given.getD (getCoverage snapshots)).earliest = some earliest)
    (hlatest : (given.getD (getCoverage snapshots)).latest = some latest)
    (hok : getArticleViews check snapshots items asked given = .ok result) :
    ∃ published, items.foldlM (publishOne check) Dict.empty = .ok published ∧ (published.keys ≠ [] →
      articleViews check snapshots (given.getD (getCoverage snapshots))
        (asked.getD latest) published = .ok result) := by
  unfold getArticleViews at hok
  dsimp only at hok
  rw [hearliest, hlatest] at hok
  obtain ⟨published, hpublished, hok⟩ := bind_eq_ok_iff.mp hok
  refine ⟨published, hpublished, fun hkeys => ?_⟩
  rwa [if_neg hkeys] at hok

/-- What was answered, alone and in bulk, was asked about without anything in the way. -/
theorem askable_of_answered {given : Option Coverage} {asked : Option Date} {earliest latest : Date}
    (hearliest : (given.getD (getCoverage snapshots)).earliest = some earliest)
    (hlatest : (given.getD (getCoverage snapshots)).latest = some latest)
    (h : Answered check snapshots items asked given) :
      Askable check snapshots items (asked.getD latest) := by
  obtain ⟨result, hok, hall⟩ := h
  obtain ⟨published, hpublished, hviews⟩ := exists_published hearliest hlatest hok
  have hfine := exists_foldlM_publishOne_iff.mp ⟨published, hpublished⟩
  have hrecords := records_foldlM hpublished
  have hcalendar : (∃ path, Stated check items path) →
      RECENT_WINDOW_DAYS ≤ (asked.getD latest).toOrdinal ∧
      ∀ path day, published.get? path = some (some day) →
      day.toOrdinal + SECOND_WINDOW_DAYS ≤ Date.maxOrdinal + 1 := by
    intro ⟨path, hstated⟩
    exact (exists_articleViews_iff hrecords).mp
      ⟨result, hviews (List.ne_nil_of_mem ((mem_keys_records hrecords).mpr hstated))⟩
  exact {
    readable := by
      intro item hitem
      obtain ⟨before, after, hsplit⟩ := List.append_of_mem hitem
      exact (hfine before item after hsplit).1
    dated := fun before item after path hsplit => (hfine before item after hsplit).2 path
    recent := fun hstated => (hcalendar hstated).1
    windows := by
      intro path day hne hday
      obtain ⟨⟨item, hitem, hread, -⟩, -⟩ := earliestFor_eq_some_iff.mp hday
      have hstated : Stated check items path := ⟨hne, item, hitem, hread⟩
      refine (hcalendar ⟨path, hstated⟩).2 path day ?_
      rw [hrecords path, if_pos hstated, hday]
    settled := by
      intro path hstated
      obtain ⟨hown, alone, haloneOk, halone⟩ := hall earliest latest hearliest hlatest path
      obtain ⟨published', hpublished', hviews'⟩ := exists_published hearliest hlatest haloneOk
      have hrecords' := records_foldlM hpublished'
      have hkey : path ∈ published'.keys :=
        (mem_keys_records hrecords').mpr (stated_statedFor.mpr ⟨rfl, hstated⟩)
      have hget := get?_articleViews hrecords' (hviews' (List.ne_nil_of_mem hkey)) path
      rw [halone, hown, if_pos hstated, if_pos (stated_statedFor.mpr ⟨rfl, hstated⟩)] at hget
      have htotal : (viewsOver snapshots path fun _ => true) =
          totalAgain check snapshots published' path :=
        congrArg ArticleViews.total (Option.some.inj hget)
      unfold totalAgain at htotal
      by_cases hagain : path ≠ "" ∧ ∃ key ∈ published'.keys,
        (canonicalOf check (some key)).toOption = some path
      · -- asked about alone, the path is the only key
        obtain ⟨-, key, hkeyMem, hcanonical⟩ := hagain
        obtain ⟨hself, -⟩ := stated_statedFor.mp ((mem_keys_records hrecords').mp hkeyMem)
        exact Or.inl (canonicalOf_eq_ok_iff.mp (toOption_eq_some_iff.mp (hself ▸ hcanonical)))
      · rw [if_neg hagain] at htotal
        refine Or.inr fun row hrow heq => ?_
        refine absurd (sumOf_eq_none_iff.mp htotal row
          (List.mem_filter.mpr ⟨hrow, decide_eq_true ⟨heq, rfl⟩⟩)) ?_
        exact Option.some_ne_none _ }

end Bulk

/-- Every list of articles is answered in full exactly where, with any coverage, the articles can be
asked about. -/
theorem answered_iff (check : NetlocCheck) (snapshots : List Ga4Snapshot) (items : List ArticleItem)
    (today : Option Date)
    (coverage : Option Coverage) :
    Answered check snapshots items today coverage ↔
      ∀ earliest latest, (coverage.getD (getCoverage snapshots)).earliest = some earliest →
        (coverage.getD (getCoverage snapshots)).latest = some latest →
          Askable check snapshots items (today.getD latest) := by
  constructor
  · exact fun h earliest latest hearliest hlatest => askable_of_answered hearliest hlatest h
  · intro h
    by_cases hmeasured : ∃ earliest latest, (coverage.getD (getCoverage snapshots)).earliest =
        some earliest ∧
        (coverage.getD (getCoverage snapshots)).latest = some latest
    · obtain ⟨earliest, latest, hearliest, hlatest⟩ := hmeasured
      have haskable := h earliest latest hearliest hlatest
      obtain ⟨result, hok, hown⟩ := answered_of_askable hearliest hlatest haskable
      refine ⟨result, hok, fun earliest' latest' _ hlatest' path => ?_⟩
      have hsame : latest' = latest := Option.some.inj (hlatest'.symm.trans hlatest)
      rw [hsame]
      refine ⟨hown path, ?_⟩
      obtain ⟨alone, haloneOk, haloneOwn⟩ :=
        answered_of_askable hearliest hlatest (haskable.alone path)
      refine ⟨alone, haloneOk, ?_⟩
      rw [haloneOwn path, hown path]
      refine if_congr (stated_statedFor.trans (and_iff_right rfl)) ?_ rfl
      unfold ownViews
      rw [earliestFor_statedFor]
    · have hempty : getArticleViews check snapshots items today coverage = .ok Dict.empty := by
        unfold getArticleViews
        dsimp only
        split
        · next hearliest hlatest => exact absurd ⟨_, _, hearliest, hlatest⟩ hmeasured
        · rfl
      exact ⟨_, hempty, fun earliest latest hearliest hlatest =>
        absurd ⟨earliest, latest, hearliest, hlatest⟩ hmeasured⟩

/-! ## An undated mention first -/

def sampleDay : Date := .of 2026 8 3

/-- The same address twice, without a day and then with one. -/
def sampleMentions : List ArticleItem :=
  [⟨some "/et/uudised/x", none⟩, ⟨some "/et/uudised/x", some sampleDay⟩]

/-- The day of the second mention is compared with `None`. -/
theorem mentions_raise :
    ¬∀ (check : NetlocCheck) (snapshots : List Ga4Snapshot) (items : List ArticleItem)
    (today : Option Date) (coverage : Option Coverage),
    Answered check snapshots items today coverage := by
  intro h
  obtain ⟨result, hok, -⟩ :=
    h plainCheck [] sampleMentions none (some ⟨some sampleDay, some sampleDay, 1, 1⟩)
  have hraised : (getArticleViews plainCheck [] sampleMentions none
      (some ⟨some sampleDay, some sampleDay, 1, 1⟩)).toOption =
      none := by decide +kernel
  rw [hok] at hraised
  cases hraised

end Articles

end Dashkoda.Visibility
