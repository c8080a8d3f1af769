import Dashkoda.Lib.Backlog
import Dashkoda.Lib.Ordinal
import Dashkoda.News.Catalogue
import Dashkoda.Visibility.TopPages

/-!
# Reading names and dates off the public pages

Two passes over what is still missing.  A pass reads at most `limit` pages of a list that is
computed anew each time, so a page it can do nothing with is on the next list again.
-/

open Lib

namespace Dashkoda.News

open Core (Uncaught LdLibrary JsonDict JsonValue findByType)
open EventProgramme (Ga4Snapshot)
open Visibility (getTopPages underSection nodup_getTopPages)
open Backlog (Outcome)

def MAX_PAGES_PER_RUN : Nat := 150

def SITE_SUFFIXES : List String :=
  [" | Eesti Kaubandus-Tööstuskoda", " - Eesti Kaubandus-Tööstuskoda"]

/-- How many days of measurements are ranked. -/
def COVERAGE_DAYS : Nat := 5 * 365

/-- `fetch` raises `PublicFetchError`, or something that is not caught here. -/
inductive FetchExn
  | publicFetchError
  | uncaught (exn : Uncaught)

/-- What `datetime.fromisoformat` reads: a moment, or a wall clock without a zone. -/
inductive IsoMoment
  | aware (moment : Moment)
  | naive (wall : Moment)

/-- The public site, which does not change, and what reads its pages: the regular expressions,
`html.unescape`, the JSON-LD library and the library's times. -/
structure PublicSite where
  fetch : String → Except FetchExn String
  ogTitle : String → Option String
  titleTag : String → Option String
  withoutTags : String → String
  unescape : String → Except Uncaught String
  jsonLd : LdLibrary
  fromisoformat : String → Option IsoMoment
  makeAware : Moment → Moment

def pageUrl (path : String) : String := "https://www.koda.ee" ++ path

section Reading

variable (site : PublicSite)

/-- `title[: -len(suffix)].strip()`, where the title ends so. -/
def withoutSuffix (title suffix : String) : String :=
  if suffix.toList <:+ title.toList then
    PyText.strip (PyText.take (title.length - suffix.length) title) else title

/-- `parse_title` -/
def parseTitle (html : String) : Except Uncaught String :=
  match site.ogTitle html <|> site.titleTag html with
  | none => .ok ""
  | some found => (site.unescape (site.withoutTags found)).map fun title =>
    SITE_SUFFIXES.foldl withoutSuffix (PyText.strip title)

def describedArticle (html : String) : Except Uncaught (Option JsonDict) := do
  match ← findByType site.jsonLd html "NewsArticle" with
  | some entry => return some entry
  | none => findByType site.jsonLd html "Article"

def statedDate (article : JsonDict) : Option String :=
  match ((article.lookup "datePublished").filter JsonValue.truthy) <|> article.lookup
      "dateCreated" with
  | some (.str raw) => if PyText.strip raw = "" then none else some (PyText.strip raw)
  | _ => none

def statedMoment (html : String) : Except Uncaught (Option Moment) :=
  (describedArticle site html).map fun article =>
    ((article.bind statedDate).bind site.fromisoformat).map fun
      | .aware moment => moment
      | .naive wall => site.makeAware wall

/-- `parse_published_at` -/
def parsePublishedAt (horizon : Int) (html : String) : Except Uncaught (Option Moment) :=
  (statedMoment site html).map fun moment => moment.filter fun moment => moment.instant ≤ horizon

end Reading

/-! ## The passes -/

structure DiscoveryTally where
  considered : Nat
  fetched : Nat
  named : Nat
  unnamed : Nat
  failed : Nat
  deriving DecidableEq

inductive PageResult
  | failed
  | unnamed
  | named

def DiscoveryTally.count (tally : DiscoveryTally) : PageResult → DiscoveryTally
  | .failed => { tally with failed := tally.failed + 1 }
  | .unnamed => { tally with fetched := tally.fetched + 1, unnamed := tally.unnamed + 1 }
  | .named => { tally with fetched := tally.fetched + 1, named := tally.named + 1 }

abbrev Visit := Catalogue → String → Except Uncaught (Catalogue × PageResult)

/-- The loop of both passes.  Each page's write is its own transaction, so what was written before
an exception stays. -/
def runPages (visit : Visit) : List String → Catalogue → DiscoveryTally →
    Catalogue × Except Uncaught DiscoveryTally
  | [], catalogue, tally => (catalogue, .ok tally)
  | path :: rest, catalogue, tally =>
    match visit catalogue path with
    | .error exn => (catalogue, .error exn)
    | .ok (catalogue, result) => runPages visit rest catalogue (tally.count result)

section Passes

variable {κ : Type} [LinearOrder κ] (collate : String → κ) (site : PublicSite)
  (snapshots : List Ga4Snapshot)
  (today : Date) (limit : Nat) (dryRun : Bool) (horizon now : Int)

/-- The paths `unnamed_news_paths` ranks. -/
def rankedNet : Except Uncaught (List String) :=
  match Date.subDays? COVERAGE_DAYS today with
  | none => .error .overflowError
  | some start =>
    .ok
      ((getTopPages collate snapshots start today
        (max (limit * 8) 200) Visibility.SECTION_NEWS []).map
      (·.path))

/-- `unnamed_news_paths` -/
def unnamedNewsPaths (catalogue : Catalogue) : Except Uncaught (List String) :=
  (rankedNet collate snapshots today limit).map fun net =>
    (catalogue.uncataloguedPaths net).take limit

def pageResource (path title : String) (publishedAt : Option Moment) : NewsResource :=
  ⟨pageUrl path, path, title, publishedAt, .page, "", now⟩

/-- The row is created with its date, unless the catalogue got the path in the meantime. -/
def storePage (path html title : String) (catalogue : Catalogue) : Except Uncaught Catalogue := do
  let publishedAt ← parsePublishedAt site horizon html
  catalogue.getOrCreate (pageResource now path title publishedAt)

/-- One turn of the loop of `discover_news_titles`. -/
def discoverPage : Visit := fun catalogue path =>
  match site.fetch (pageUrl path) with
  | .error .publicFetchError => .ok (catalogue, .failed)
  | .error (.uncaught exn) => .error exn
  | .ok html => do
    let title ← parseTitle site html
    if title = "" then .ok (catalogue, .unnamed)
    else if dryRun then .ok (catalogue, .named)
    else (storePage site horizon now path html title catalogue).map fun catalogue =>
      (catalogue, .named)

/-- `discover_news_titles` -/
def discoverNewsTitles (catalogue : Catalogue) : Catalogue × Except Uncaught DiscoveryTally :=
  match unnamedNewsPaths collate snapshots today limit catalogue with
  | .error exn => (catalogue, .error exn)
  | .ok paths =>
    runPages (discoverPage site dryRun horizon now) paths catalogue ⟨paths.length, 0, 0, 0, 0⟩

/-- One turn of the loop of `backfill_news_dates`. -/
def backfillPage : Visit := fun catalogue path =>
  match site.fetch (pageUrl path) with
  | .error .publicFetchError => .ok (catalogue, .failed)
  | .error (.uncaught exn) => .error exn
  | .ok html => do
    match ← parsePublishedAt site horizon html with
    | none => return (catalogue, .unnamed)
    | some publishedAt =>
      return (if dryRun then catalogue else catalogue.saveDate path publishedAt, .named)

/-- `backfill_news_dates` -/
def backfillNewsDates (catalogue : Catalogue) : Catalogue × Except Uncaught DiscoveryTally :=
  let paths := catalogue.undatedPaths collate limit
  runPages (backfillPage site dryRun horizon) paths catalogue ⟨paths.length, 0, 0, 0, 0⟩

end Passes

/-! ## Nothing stored is overwritten -/

theorem runPages_keeps {visit : Visit}
    (h : ∀ catalogue path catalogue' result, visit catalogue path = .ok (catalogue', result) →
      Catalogue.Keeps catalogue catalogue') (paths : List String) (catalogue : Catalogue)
      (tally : DiscoveryTally) :
    Catalogue.Keeps catalogue (runPages visit paths catalogue tally).1 := by
  induction paths generalizing catalogue tally with
  | nil => exact Catalogue.Keeps.refl catalogue
  | cons path rest ih =>
    unfold runPages
    split
    · exact Catalogue.Keeps.refl catalogue
    · rename_i catalogue' result hvisit
      exact (h catalogue path catalogue' result hvisit).trans (ih catalogue' _)

section Keep

variable {κ : Type} [LinearOrder κ] {collate : String → κ} {site : PublicSite}
  {snapshots : List Ga4Snapshot}
  {today : Date} {limit : Nat} {dryRun : Bool} {horizon now : Int}

theorem discoverPage_keeps {catalogue catalogue' : Catalogue} {path : String} {result : PageResult}
    (h : discoverPage site dryRun horizon now catalogue path = .ok (catalogue', result)) :
    Catalogue.Keeps catalogue catalogue' := by
  unfold discoverPage at h
  split at h
  · cases h
    exact Catalogue.Keeps.refl _
  · cases h
  · obtain ⟨title, -, h⟩ := bind_eq_ok_iff.mp h
    split at h
    · cases h
      exact Catalogue.Keeps.refl _
    · split at h
      · cases h
        exact Catalogue.Keeps.refl _
      · obtain ⟨stored, hstored, h⟩ := map_eq_ok_iff.mp h
        cases h
        obtain ⟨publishedAt, -, hstored⟩ := bind_eq_ok_iff.mp hstored
        exact Catalogue.getOrCreate_keeps hstored

theorem backfillPage_keeps {catalogue catalogue' : Catalogue} {path : String} {result : PageResult}
    (h : backfillPage site dryRun horizon catalogue path = .ok (catalogue', result)) :
    Catalogue.Keeps catalogue catalogue' := by
  unfold backfillPage at h
  split at h
  · cases h
    exact Catalogue.Keeps.refl _
  · cases h
  · obtain ⟨publishedAt, -, h⟩ := bind_eq_ok_iff.mp h
    split at h
    · cases h
      exact Catalogue.Keeps.refl _
    · cases h
      split
      · exact Catalogue.Keeps.refl _
      · exact Catalogue.saveDate_keeps _ _ _

theorem discoverNewsTitles_keeps (catalogue : Catalogue) : Catalogue.Keeps catalogue
    (discoverNewsTitles collate site snapshots today limit dryRun horizon now catalogue).1 := by
  unfold discoverNewsTitles
  split
  · exact Catalogue.Keeps.refl _
  · exact runPages_keeps (fun _ _ _ _ h => discoverPage_keeps h) _ _ _

theorem backfillNewsDates_keeps (catalogue : Catalogue) : Catalogue.Keeps catalogue
    (backfillNewsDates collate site limit dryRun horizon catalogue).1 :=
  runPages_keeps (fun _ _ _ _ h => backfillPage_keeps h) _ _ _

end Keep

/-! ## A pass works a backlog off -/

/-- One turn of a loop, by what the page gives: `left` is the backlog of a catalogue, and `fine`
what the catalogues of a run have in common. -/
structure WorksOff (visit : Visit) (outcome : String → Outcome) (fine : Catalogue → Prop)
    (left : Catalogue → List String) : Prop where
  done : ∀ catalogue path, fine catalogue → path ∈ left catalogue → outcome path = .done →
    ∃ catalogue' result, visit catalogue path = .ok (catalogue', result) ∧ fine catalogue' ∧
      left catalogue' = (left catalogue).filter (· ≠ path)
  kept : ∀ catalogue path, fine catalogue → path ∈ left catalogue → outcome path = .kept →
    ∃ result, visit catalogue path = .ok (catalogue, result)
  stop : ∀ catalogue path, fine catalogue → path ∈ left catalogue → outcome path = .stop →
    ∃ exn, visit catalogue path = .error exn

section WorkOff

variable {visit : Visit} {outcome : String → Outcome} {fine : Catalogue → Prop}
  {left : Catalogue → List String}

theorem WorksOff.runPages (h : WorksOff visit outcome fine left) {paths : List String}
    (hnodup : paths.Nodup) {catalogue : Catalogue} (hfine : fine catalogue)
    (hpaths : paths ⊆ left catalogue)
    (tally : DiscoveryTally) :
    fine (runPages visit paths catalogue tally).1 ∧ left (runPages visit paths catalogue tally).1 =
      (left catalogue).filter fun path => path ∉ Backlog.cleared outcome paths := by
  induction paths generalizing catalogue tally with
  | nil =>
    refine ⟨hfine, (List.filter_eq_self.mpr fun path _ => ?_).symm⟩
    simp [Backlog.cleared]
  | cons path rest ih =>
    obtain ⟨hpath, hrest⟩ := List.nodup_cons.mp hnodup
    have hmem := hpaths List.mem_cons_self
    unfold News.runPages Backlog.cleared
    cases hout : outcome path with
    | done =>
      obtain ⟨catalogue', result, hvisit, hfine', hleft⟩ := h.done catalogue path hfine hmem hout
      have hsub : rest ⊆ left catalogue' := by
        intro other hother
        rw [hleft]
        refine List.mem_filter.mpr ⟨hpaths (List.mem_cons_of_mem _ hother), decide_eq_true ?_⟩
        exact fun heq => hpath (heq ▸ hother)
      obtain ⟨hend, heq⟩ := ih hrest hfine' hsub (tally.count result)
      rw [hvisit]
      refine ⟨hend, heq.trans ?_⟩
      rw [hleft, List.filter_filter]
      refine List.filter_congr fun other _ => ?_
      show (decide (other ∉ Backlog.cleared outcome rest) && decide (other ≠ path)) =
        decide (other ∉ path :: Backlog.cleared outcome rest)
      simp only [List.mem_cons, not_or, Bool.decide_and, Bool.and_comm]
    | kept =>
      obtain ⟨result, hvisit⟩ := h.kept catalogue path hfine hmem hout
      rw [hvisit]
      exact ih hrest hfine (fun other hother => hpaths (List.mem_cons_of_mem _ hother))
        (tally.count result)
    | stop =>
      obtain ⟨exn, hvisit⟩ := h.stop catalogue path hfine hmem hout
      rw [hvisit]
      refine ⟨hfine, (List.filter_eq_self.mpr fun other _ => ?_).symm⟩
      simp

/-- What a pass leaves of its backlog. -/
theorem WorksOff.sweep (h : WorksOff visit outcome fine left) {catalogue : Catalogue}
    (hfine : fine catalogue) (hnodup : (left catalogue).Nodup) (limit : Nat)
    (tally : DiscoveryTally) :
    fine (News.runPages visit ((left catalogue).take limit) catalogue tally).1 ∧
      left (News.runPages visit ((left catalogue).take limit) catalogue tally).1 =
        Backlog.sweep outcome limit (left catalogue) := by
  have hrun := h.runPages (hnodup.sublist (List.take_sublist limit _)) hfine
    (List.take_subset limit _) tally
  rw [Backlog.sweep_eq_filter outcome limit hnodup]
  exact hrun

end WorkOff

/-! ## What a page gives -/

section Outcomes

variable (site : PublicSite)

def StatesTitle (path : String) : Prop :=
  ∃ html title, site.fetch (pageUrl path) = .ok html ∧ parseTitle site html = .ok title ∧ title ≠ ""

/-- The page can be read and states a date that is not too far ahead. -/
def StatesDate (horizon : Int) (path : String) : Prop :=
  ∃ html moment, site.fetch (pageUrl path) = .ok html ∧
    parsePublishedAt site horizon html = .ok (some moment)

/-- What the title pass does with a page: a title that is read is stored, unless reading it, or
storing it, raises. -/
def titleOutcome (catalogue : Catalogue) (path : String) : Outcome :=
  match site.fetch (pageUrl path) with
  | .error .publicFetchError => .kept
  | .error (.uncaught _) => .stop
  | .ok html =>
    match parseTitle site html with
    | .error _ => .stop
    | .ok title =>
      if title = "" then .kept
      else if (statedMoment site html).isOk ∧ Catalogue.fits path (pageUrl path) title ∧
          pageUrl path ∉ catalogue.urls then .done
      else .stop

def dateOutcome (horizon : Int) (path : String) : Outcome :=
  match site.fetch (pageUrl path) with
  | .error .publicFetchError => .kept
  | .error (.uncaught _) => .stop
  | .ok html =>
    match parsePublishedAt site horizon html with
    | .error _ => .stop
    | .ok none => .kept
    | .ok (some _) => .done

variable {site}

theorem titleOutcome_eq_done_iff {catalogue : Catalogue} {path : String}
    (h : titleOutcome site catalogue path ≠ .stop) :
    titleOutcome site catalogue path = .done ↔ StatesTitle site path := by
  unfold StatesTitle
  unfold titleOutcome at *
  cases hfetch : site.fetch (pageUrl path) with
  | error exn => cases exn <;> simp
  | ok html =>
    rw [hfetch] at h
    dsimp only at *
    cases htitle : parseTitle site html with
    | error exn =>
      rw [htitle] at h
      exact absurd rfl h
    | ok title =>
      rw [htitle] at h
      dsimp only at *
      by_cases hempty : title = ""
      · rw [if_pos hempty]
        simp [htitle, hempty]
      · rw [if_neg hempty] at h ⊢
        by_cases hstored : (statedMoment site html).isOk ∧
            Catalogue.fits path (pageUrl path) title ∧
            pageUrl path ∉ catalogue.urls
        · rw [if_pos hstored]
          exact ⟨fun _ => ⟨html, title, rfl, htitle, hempty⟩, fun _ => rfl⟩
        · rw [if_neg hstored] at h
          exact absurd rfl h

theorem dateOutcome_eq_done_iff {horizon : Int} {path : String} :
    dateOutcome site horizon path = .done ↔ StatesDate site horizon path := by
  unfold StatesDate dateOutcome
  cases hfetch : site.fetch (pageUrl path) with
  | error exn => cases exn <;> simp
  | ok html =>
    dsimp only
    cases hdate : parsePublishedAt site horizon html with
    | error exn => simp [hdate]
    | ok moment => cases moment <;> simp [hdate]

/-- Whether reading a date raises does not depend on the clock. -/
theorem dateOutcome_eq_stop_iff {horizon horizon' : Int} {path : String} :
    dateOutcome site horizon path = .stop ↔ dateOutcome site horizon' path = .stop := by
  have hraises (horizon : Int) (html : String) :
      (match parsePublishedAt site horizon html with
        | .error _ => Outcome.stop
        | .ok none => .kept
        | .ok (some _) => .done) = .stop ↔ (statedMoment site html).isOk = false := by
    unfold parsePublishedAt
    cases hmoment : statedMoment site html with
    | error exn => exact ⟨fun _ => rfl, fun _ => rfl⟩
    | ok moment =>
      refine ⟨fun h => ?_, fun h => by cases h⟩
      cases hkept : moment.filter fun moment => moment.instant ≤ horizon with
      | none => simp [Except.map, hkept] at h
      | some kept => simp [Except.map, hkept] at h
  unfold dateOutcome
  cases site.fetch (pageUrl path) with
  | error exn => cases exn <;> exact .rfl
  | ok html => exact (hraises horizon html).trans (hraises horizon' html).symm

/-- A date that can be read is read from then on. -/
theorem StatesDate.mono {horizon horizon' : Int} {path : String} (hle : horizon ≤ horizon')
    (h : StatesDate site horizon path) : StatesDate site horizon' path := by
  obtain ⟨html, moment, hfetch, hdate⟩ := h
  obtain ⟨stated, hstated, hkept⟩ := map_eq_ok_iff.mp hdate
  refine ⟨html, moment, hfetch, map_eq_ok_iff.mpr ⟨stated, hstated, ?_⟩⟩
  obtain ⟨hmem, hinstant⟩ := Option.filter_eq_some_iff.mp hkept
  refine Option.filter_eq_some_iff.mpr ⟨hmem, decide_eq_true ?_⟩
  exact (of_decide_eq_true hinstant).trans hle

end Outcomes

/-! ## The title pass -/

section Titles

variable {site : PublicSite} {first catalogue : Catalogue} {net : List String} {horizon now : Int}

/-- The catalogue of a run: what there was at first, and the rows of pages that were read. -/
structure Grown (first catalogue : Catalogue) : Prop where
  old : first.rows ⊆ catalogue.rows
  new : ∀ row ∈ catalogue.rows, row ∈ first.rows ∨ row.canonicalUrl = pageUrl row.path

theorem pageUrl_injective {path path' : String} (h : pageUrl path = pageUrl path') :
    path = path' := by
  have hlist := congrArg String.toList h
  unfold pageUrl at hlist
  rw [String.toList_append, String.toList_append] at hlist
  exact String.toList_inj.mp (List.append_cancel_left hlist)

theorem Grown.mem_urls_iff (h : Grown first catalogue) {path : String}
    (hpath : path ∉ catalogue.paths) :
    pageUrl path ∈ catalogue.urls ↔ pageUrl path ∈ first.urls := by
  constructor
  · intro hmem
    obtain ⟨row, hrow, hurl⟩ := List.mem_map.mp hmem
    rcases h.new row hrow with hold | hnew
    · exact List.mem_map.mpr ⟨row, hold, hurl⟩
    · have heq : row.path = path := pageUrl_injective (hnew.symm.trans hurl)
      exact absurd (List.mem_map.mpr ⟨row, hrow, heq⟩) hpath
  · intro hmem
    obtain ⟨row, hrow, hurl⟩ := List.mem_map.mp hmem
    exact List.mem_map.mpr ⟨row, h.old hrow, hurl⟩

theorem mem_uncataloguedPaths {path : String} :
    path ∈ catalogue.uncataloguedPaths net ↔ path ∈ net ∧ path ≠ "" ∧ path ∉ catalogue.paths := by
  unfold Catalogue.uncataloguedPaths
  simp only [List.mem_filter, decide_eq_true_eq, and_assoc]

/-- A new row takes its path off the list. -/
theorem uncataloguedPaths_of_rows {catalogue' : Catalogue} {resource : NewsResource}
    (h : catalogue'.rows = catalogue.rows ++ [resource]) :
    catalogue'.uncataloguedPaths net = (catalogue.uncataloguedPaths net).filter
      (· ≠ resource.path) := by
  have hpaths : catalogue'.paths = catalogue.paths ++ [resource.path] := by
    unfold Catalogue.paths
    rw [h, List.map_append, List.map_singleton]
  unfold Catalogue.uncataloguedPaths
  rw [hpaths]
  rw [List.filter_filter (l := (net.filter fun path => path ≠ ""))]
  refine List.filter_congr fun path _ => ?_
  simp only [List.mem_append, List.mem_singleton, not_or, Bool.decide_and, Bool.and_comm]

theorem exists_storePage (hgrown : Grown first catalogue) {path html title : String}
    (hpath : path ∉ catalogue.paths)
    (h : (statedMoment site html).isOk ∧ Catalogue.fits path (pageUrl path) title ∧
      pageUrl path ∉ first.urls) :
    ∃ publishedAt catalogue', storePage site horizon now path html title catalogue =
      .ok catalogue' ∧
      catalogue'.rows = catalogue.rows ++ [pageResource now path title publishedAt] := by
  obtain ⟨hmoment, hfits, hurl⟩ := h
  cases hstated : statedMoment site html with
  | error exn =>
    rw [hstated] at hmoment
    cases hmoment
  | ok stated =>
    let publishedAt := stated.filter fun moment => moment.instant ≤ horizon
    have hnew : pageUrl path ∉ catalogue.urls :=
      fun hmem => hurl ((hgrown.mem_urls_iff hpath).mp hmem)
    obtain ⟨catalogue', hcreate⟩ :=
      @Catalogue.exists_create (pageResource now path title publishedAt) catalogue
      hfits ⟨hpath, hnew⟩
    have hdate : parsePublishedAt site horizon html = .ok publishedAt :=
      map_eq_ok_iff.mpr ⟨stated, hstated, rfl⟩
    refine ⟨publishedAt, catalogue', bind_eq_ok_iff.mpr ⟨publishedAt, hdate, ?_⟩,
      Catalogue.create_eq_ok hcreate⟩
    exact (if_neg hpath).trans hcreate

theorem storePage_raises (hgrown : Grown first catalogue) {path html title : String}
    (hpath : path ∉ catalogue.paths)
    (h : ¬ ((statedMoment site html).isOk ∧ Catalogue.fits path (pageUrl path) title ∧
      pageUrl path ∉ first.urls)) :
    ∃ exn, storePage site horizon now path html title catalogue = .error exn := by
  unfold storePage parsePublishedAt
  cases hstated : statedMoment site html with
  | error exn => exact ⟨exn, rfl⟩
  | ok stated =>
    let publishedAt := stated.filter fun moment => moment.instant ≤ horizon
    have hraises :
        ¬ (Catalogue.fits path (pageUrl path) title = true ∧ pageUrl path ∉ catalogue.urls) := by
      intro hstored
      refine h ⟨by rw [hstated]; rfl, hstored.1, fun hmem => hstored.2 ?_⟩
      exact (hgrown.mem_urls_iff hpath).mpr hmem
    obtain ⟨exn, hcreate⟩ :=
      @Catalogue.create_raises (pageResource now path title publishedAt) catalogue hraises
    exact ⟨exn, (if_neg hpath).trans hcreate⟩

/-- What the title pass does with a page is told by what the page gives. -/
theorem titles_workOff (site : PublicSite) (first : Catalogue) (net : List String)
    (horizon now : Int) :
    WorksOff (discoverPage site false horizon now) (titleOutcome site first) (Grown first)
      fun catalogue => catalogue.uncataloguedPaths net where
  done catalogue path hgrown hmem hout := by
    have hpath := (mem_uncataloguedPaths.mp hmem).2.2
    unfold titleOutcome at hout
    unfold discoverPage
    cases hfetch : site.fetch (pageUrl path) with
    | error exn => cases exn <;> rw [hfetch] at hout <;> cases hout
    | ok html =>
      rw [hfetch] at hout
      dsimp only at hout ⊢
      cases htitle : parseTitle site html with
      | error exn =>
        rw [htitle] at hout
        cases hout
      | ok title =>
        rw [htitle] at hout
        dsimp only at hout
        by_cases hempty : title = ""
        · rw [if_pos hempty] at hout
          cases hout
        · rw [if_neg hempty] at hout
          by_cases hstored : (statedMoment site html).isOk ∧
              Catalogue.fits path (pageUrl path) title ∧
              pageUrl path ∉ first.urls
          · obtain ⟨publishedAt, catalogue', hstore, hrows⟩ :=
              @exists_storePage site first catalogue horizon now hgrown path html title
                hpath hstored
            refine ⟨catalogue', .named, ?_, ?_, uncataloguedPaths_of_rows hrows⟩
            · show (if title = "" then _ else _) = _
              rw [if_neg hempty]
              exact map_eq_ok_iff.mpr ⟨catalogue', hstore, rfl⟩
            · constructor
              · rw [hrows]
                exact fun row hrow => List.mem_append_left _ (hgrown.old hrow)
              · intro row hrow
                rw [hrows] at hrow
                rcases List.mem_append.mp hrow with hold | hnew
                · exact hgrown.new row hold
                · rw [List.mem_singleton.mp hnew]
                  exact .inr rfl
          · rw [if_neg hstored] at hout
            cases hout
  kept catalogue path hgrown hmem hout := by
    unfold titleOutcome at hout
    unfold discoverPage
    cases hfetch : site.fetch (pageUrl path) with
    | error exn =>
      rw [hfetch] at hout
      cases exn with
      | publicFetchError => exact ⟨.failed, rfl⟩
      | uncaught exn => cases hout
    | ok html =>
      rw [hfetch] at hout
      dsimp only at hout ⊢
      cases htitle : parseTitle site html with
      | error exn =>
        rw [htitle] at hout
        cases hout
      | ok title =>
        rw [htitle] at hout
        dsimp only at hout
        by_cases hempty : title = ""
        · exact ⟨.unnamed, if_pos hempty⟩
        · rw [if_neg hempty] at hout
          split at hout <;> cases hout
  stop catalogue path hgrown hmem hout := by
    have hpath := (mem_uncataloguedPaths.mp hmem).2.2
    unfold titleOutcome at hout
    unfold discoverPage
    cases hfetch : site.fetch (pageUrl path) with
    | error exn =>
      rw [hfetch] at hout
      cases exn with
      | publicFetchError => cases hout
      | uncaught exn => exact ⟨exn, rfl⟩
    | ok html =>
      rw [hfetch] at hout
      dsimp only at hout ⊢
      cases htitle : parseTitle site html with
      | error exn => exact ⟨exn, rfl⟩
      | ok title =>
        rw [htitle] at hout
        dsimp only at hout
        by_cases hempty : title = ""
        · rw [if_pos hempty] at hout
          cases hout
        · rw [if_neg hempty] at hout
          by_cases hstored : (statedMoment site html).isOk ∧
              Catalogue.fits path (pageUrl path) title ∧
              pageUrl path ∉ first.urls
          · rw [if_pos hstored] at hout
            cases hout
          · obtain ⟨exn, hstore⟩ :=
              @storePage_raises site first catalogue horizon now hgrown path html title
                hpath hstored
            refine ⟨exn, ?_⟩
            show (if title = "" then _ else _) = _
            rw [if_neg hempty]
            show (storePage site horizon now path html title catalogue).map _ = _
            rw [hstore]
            rfl

end Titles

/-! ## The date pass -/

section Dates

variable {κ : Type} [LinearOrder κ]

theorem dates_workOff (collate : String → κ) (site : PublicSite) (horizon : Int) :
    WorksOff (backfillPage site false horizon) (dateOutcome site horizon) (fun _ => True)
      (Catalogue.undated collate) where
  done catalogue path _ _ hout := by
    obtain ⟨html, moment, hfetch, hdate⟩ := dateOutcome_eq_done_iff.mp hout
    refine ⟨catalogue.saveDate path moment, .named, ?_, trivial,
      Catalogue.undated_saveDate collate catalogue path moment⟩
    unfold backfillPage
    rw [hfetch]
    exact bind_eq_ok_iff.mpr ⟨some moment, hdate, rfl⟩
  kept catalogue path _ _ hout := by
    unfold dateOutcome at hout
    unfold backfillPage
    cases hfetch : site.fetch (pageUrl path) with
    | error exn =>
      rw [hfetch] at hout
      cases exn with
      | publicFetchError => exact ⟨.failed, rfl⟩
      | uncaught exn => cases hout
    | ok html =>
      rw [hfetch] at hout
      dsimp only at hout ⊢
      cases hdate : parsePublishedAt site horizon html with
      | error exn =>
        rw [hdate] at hout
        cases hout
      | ok moment =>
        rw [hdate] at hout
        cases moment with
        | none => exact ⟨.unnamed, rfl⟩
        | some moment => cases hout
  stop catalogue path _ _ hout := by
    unfold dateOutcome at hout
    unfold backfillPage
    cases hfetch : site.fetch (pageUrl path) with
    | error exn =>
      rw [hfetch] at hout
      cases exn with
      | publicFetchError => cases hout
      | uncaught exn => exact ⟨exn, rfl⟩
    | ok html =>
      rw [hfetch] at hout
      dsimp only at hout ⊢
      cases hdate : parsePublishedAt site horizon html with
      | error exn => exact ⟨exn, rfl⟩
      | ok moment =>
        rw [hdate] at hout
        cases moment <;> cases hout

end Dates

/-! ## Run after run -/

/-- The times of the runs: the clock does not go back. -/
structure Clock where
  now : Nat → Int
  forward : ∀ ⦃i j : Nat⦄, i ≤ j → now i ≤ now j

section Repeated

variable {κ : Type} [LinearOrder κ] (collate : String → κ) (site : PublicSite)
  (snapshots : List Ga4Snapshot)
  (today : Date) (limit maxFutureDays : Nat) (clock : Clock) (catalogue : Catalogue)

/-- `timezone.now() + timedelta(days=settings.KODA_NEWS_MAX_FUTURE_DAYS)` in a run. -/
def horizonAt (k : Nat) : Int := clock.now k + maxFutureDays * dayLength

/-- The catalogue after some runs of `discover_news_titles`. -/
def titleRuns : Nat → Catalogue
  | 0 => catalogue
  | k + 1 =>
    (discoverNewsTitles collate site snapshots today limit false (horizonAt maxFutureDays clock k)
      (clock.now k) (titleRuns k)).1

/-- The catalogue after some runs of `backfill_news_dates`. -/
def dateRuns : Nat → Catalogue
  | 0 => catalogue
  | k + 1 =>
    (backfillNewsDates collate site limit false (horizonAt maxFutureDays clock k) (dateRuns k)).1

/-- Every ranked path whose page states a title is catalogued, every catalogued article whose page
states a date is dated, and no run changes a title or a date that is stored. -/
structure BackfillsProgress : Prop where
  titles : ∀ net, rankedNet collate snapshots today limit = .ok net →
    ∀ path ∈ net, StatesTitle site path →
    ∃ k, path ∈ (titleRuns collate site snapshots today limit maxFutureDays clock catalogue k).paths
  dates : ∀ row ∈ catalogue.rows,
    (∃ k, StatesDate site (horizonAt maxFutureDays clock k) row.path) →
    ∃ k, ∃ row' ∈ (dateRuns collate site limit maxFutureDays clock catalogue k).rows,
      row'.path = row.path ∧ row'.publishedAt ≠ none
  titlesKeep : ∀ k, Catalogue.Keeps
    (titleRuns collate site snapshots today limit maxFutureDays clock catalogue k)
    (titleRuns collate site snapshots today limit maxFutureDays clock catalogue (k + 1))
  datesKeep : ∀ k, Catalogue.Keeps (dateRuns collate site limit maxFutureDays clock catalogue k)
    (dateRuns collate site limit maxFutureDays clock catalogue (k + 1))

open Classical in
/-- Neither list is held up: ahead of a page that states what is asked for there are fewer pages
that never do than a run reads, and no page up to it makes a run raise. -/
structure QueuesMove : Prop where
  titles : ∀ net, rankedNet collate snapshots today limit = .ok net → ∀ before path after,
    catalogue.uncataloguedPaths net = before ++ path :: after → StatesTitle site path →
      (∀ p ∈ before ++ [path], titleOutcome site catalogue p ≠ .stop) ∧
        before.countP (fun p => ¬ StatesTitle site p) < limit
  dates : ∀ before path after, catalogue.undated collate = before ++ path :: after →
    (∃ k, StatesDate site (horizonAt maxFutureDays clock k) path) →
      (∀ p ∈ before, dateOutcome site (horizonAt maxFutureDays clock 0) p ≠ .stop) ∧
        before.countP (fun p => ∀ k, ¬ StatesDate site (horizonAt maxFutureDays clock k) p) < limit

end Repeated

section Progress

variable {κ : Type} [LinearOrder κ] {collate : String → κ} {site : PublicSite}
  {snapshots : List Ga4Snapshot}
  {today : Date} {limit maxFutureDays : Nat} {clock : Clock} {catalogue : Catalogue}
  {net : List String}

theorem nodup_rankedNet (h : rankedNet collate snapshots today limit = .ok net) : net.Nodup := by
  unfold rankedNet at h
  split at h
  · cases h
  · cases h
    exact nodup_getTopPages ..

/-- Every ranked path is under a section, so none is empty. -/
theorem ne_empty_of_mem_rankedNet (h : rankedNet collate snapshots today limit = .ok net)
    {path : String}
    (hpath : path ∈ net) : path ≠ "" := by
  rintro rfl
  unfold rankedNet at h
  split at h
  · cases h
  · cases h
    obtain ⟨page, hpage, hempty⟩ := List.mem_map.mp hpath
    have hsection := Visibility.underSection_of_mem_getTopPages collate (by decide) hpage
    rw [hempty] at hsection
    exact absurd hsection (by decide)

theorem titleRuns_left (hnet : rankedNet collate snapshots today limit = .ok net) (k : Nat) :
    Grown catalogue (titleRuns collate site snapshots today limit maxFutureDays clock catalogue k) ∧
      (titleRuns collate site snapshots today limit maxFutureDays clock catalogue
        k).uncataloguedPaths net =
        Backlog.runs (fun _ => titleOutcome site catalogue) limit
          (catalogue.uncataloguedPaths net) k := by
  induction k with
  | zero => exact ⟨⟨List.Subset.refl _, fun row hrow => .inl hrow⟩, rfl⟩
  | succ k ih =>
    obtain ⟨hgrown, hleft⟩ := ih
    have hpaths : unnamedNewsPaths collate snapshots today limit
        (titleRuns collate site snapshots today limit maxFutureDays clock catalogue k) =
        .ok
          (((titleRuns collate site snapshots today limit maxFutureDays clock catalogue
            k).uncataloguedPaths
          net).take limit) := map_eq_ok_iff.mpr ⟨net, hnet, rfl⟩
    have hnodup :
        ((titleRuns collate site snapshots today limit maxFutureDays clock catalogue
          k).uncataloguedPaths
        net).Nodup := ((nodup_rankedNet hnet).filter _).filter _
    have hsweep :=
      (titles_workOff site catalogue net (horizonAt maxFutureDays clock k)
        (clock.now k)).sweep hgrown
      hnodup limit
    unfold titleRuns discoverNewsTitles
    rw [hpaths]
    refine ⟨(hsweep _).1, (hsweep _).2.trans ?_⟩
    rw [hleft]
    rfl

theorem dateRuns_left (k : Nat) :
    (dateRuns collate site limit maxFutureDays clock catalogue k).undated collate =
    Backlog.runs (fun k => dateOutcome site (horizonAt maxFutureDays clock k)) limit
      (catalogue.undated collate) k := by
  induction k with
  | zero => rfl
  | succ k ih =>
    have hsweep := (dates_workOff collate site (horizonAt maxFutureDays clock k)).sweep
      trivial (Catalogue.nodup_undated collate
        (dateRuns collate site limit maxFutureDays clock catalogue k)) limit
    refine (hsweep _).2.trans ?_
    rw [ih]
    rfl

theorem mem_titleRuns_iff (hnet : rankedNet collate snapshots today limit = .ok net) {path : String}
    (hpath : path ∈ net) (k : Nat) :
    path ∈ (titleRuns collate site snapshots today limit maxFutureDays clock catalogue k).paths ↔
      path ∉ Backlog.runs (fun _ => titleOutcome site catalogue) limit
        (catalogue.uncataloguedPaths net) k := by
  have hleft :=
    (@titleRuns_left κ _ collate site snapshots today limit maxFutureDays clock catalogue
      net hnet k).2
  rw [← hleft, mem_uncataloguedPaths]
  have hne := ne_empty_of_mem_rankedNet hnet hpath
  constructor
  · exact fun hknown hmem => hmem.2.2 hknown
  · intro hmem
    by_contra hunknown
    exact hmem ⟨hpath, hne, hunknown⟩

/-- The pages of a backlog that never leave it, when nothing in it raises, are those that state no
title. -/
theorem titles_moved_iff {before : List String} {path : String} (htitle : StatesTitle site path) :
    ((∃ k : Nat, (fun _ => titleOutcome site catalogue) k path = .done) ∧
        (∀ y ∈ before, titleOutcome site catalogue y ≠ .stop) ∧
        open Classical in before.countP
        (fun y => ∀ k : Nat, (fun _ => titleOutcome site catalogue) k y ≠ .done) < limit) ↔
      (∀ p ∈ before ++ [path], titleOutcome site catalogue p ≠ .stop) ∧
        open Classical in before.countP (fun p => ¬ StatesTitle site p) < limit := by
  classical
  have hcount (hstop : ∀ y ∈ before, titleOutcome site catalogue y ≠ .stop) :
      before.countP (fun y => ∀ k : Nat, (fun _ => titleOutcome site catalogue) k y ≠ .done) =
        before.countP fun p => ¬ StatesTitle site p := by
    refine List.countP_congr fun y hy => ?_
    rw [decide_eq_true_iff, decide_eq_true_iff, ← titleOutcome_eq_done_iff (hstop y hy)]
    exact ⟨fun h => h 0, fun h _ => h⟩
  constructor
  · rintro ⟨⟨_, hdone⟩, hstop, hlt⟩
    refine ⟨fun p hp => ?_, hcount hstop ▸ hlt⟩
    rcases List.mem_append.mp hp with hp | hp
    · exact hstop p hp
    · rw [List.mem_singleton.mp hp]
      have hdone : titleOutcome site catalogue path = .done := hdone
      rw [hdone]
      decide
  · rintro ⟨hstop, hlt⟩
    have hbefore : ∀ y ∈ before, titleOutcome site catalogue y ≠ .stop :=
      fun y hy => hstop y (List.mem_append_left _ hy)
    refine ⟨⟨0, ?_⟩, hbefore, (hcount hbefore).symm ▸ hlt⟩
    exact (titleOutcome_eq_done_iff
      (hstop path (List.mem_append_right _ (List.mem_singleton_self _)))).mpr htitle

theorem settled_dates (site : PublicSite) (maxFutureDays : Nat) (clock : Clock) :
    Backlog.Settled fun k => dateOutcome site (horizonAt maxFutureDays clock k) where
  done k path hdone := by
    have hle : horizonAt maxFutureDays clock k ≤ horizonAt maxFutureDays clock (k + 1) :=
      Int.add_le_add_right (clock.forward (Nat.le_succ k)) _
    exact dateOutcome_eq_done_iff.mpr ((dateOutcome_eq_done_iff.mp hdone).mono hle)
  stop _ _ := dateOutcome_eq_stop_iff

theorem dates_moved_iff {before : List String} {path : String}
    (hdate : ∃ k, StatesDate site (horizonAt maxFutureDays clock k) path) :
    ((∃ k, dateOutcome site (horizonAt maxFutureDays clock k) path = .done) ∧
        (∀ y ∈ before, dateOutcome site (horizonAt maxFutureDays clock 0) y ≠ .stop) ∧
        open Classical in before.countP
          (fun y => ∀ k, dateOutcome site (horizonAt maxFutureDays clock k) y ≠ .done) <
          limit) ↔
      (∀ p ∈ before, dateOutcome site (horizonAt maxFutureDays clock 0) p ≠ .stop) ∧
        open Classical in before.countP
          (fun p => ∀ k, ¬ StatesDate site (horizonAt maxFutureDays clock k) p) < limit := by
  classical
  have hcount : before.countP
      (fun y => ∀ k, dateOutcome site (horizonAt maxFutureDays clock k) y ≠ .done) =
      before.countP fun p => ∀ k, ¬ StatesDate site (horizonAt maxFutureDays clock k) p := by
    refine List.countP_congr fun y _ => ?_
    rw [decide_eq_true_iff, decide_eq_true_iff]
    exact forall_congr' fun k => not_congr dateOutcome_eq_done_iff
  rw [hcount]
  refine ⟨fun h => h.2, fun h => ⟨?_, h⟩⟩
  obtain ⟨k, hk⟩ := hdate
  exact ⟨k, dateOutcome_eq_done_iff.mpr hk⟩

/-- The articles of a backlog that are dated are those that leave it. -/
theorem dated_iff {row : NewsResource} (hrow : row ∈ catalogue.rows) (k : Nat) :
    (∃ row' ∈ (dateRuns collate site limit maxFutureDays clock catalogue k).rows,
      row'.path = row.path ∧ row'.publishedAt ≠ none) ↔
      row.path ∉ Backlog.runs (fun k => dateOutcome site (horizonAt maxFutureDays clock k)) limit
        (catalogue.undated collate) k := by
  have hkeeps (k : Nat) : Catalogue.Keeps catalogue
      (dateRuns collate site limit maxFutureDays clock catalogue k) := by
    induction k with
    | zero => exact Catalogue.Keeps.refl _
    | succ k ih => exact ih.trans (backfillNewsDates_keeps _)
  rw [← dateRuns_left, Catalogue.mem_undated]
  constructor
  · rintro ⟨row', hrow', hpath, hsome⟩ ⟨other, hother, hothernone, hotherpath⟩
    -- the path has one row
    have hsame : other = row' :=
      List.inj_on_of_nodup_map (dateRuns collate site limit maxFutureDays clock
      catalogue k).onePath hother hrow' (hotherpath.trans hpath.symm)
    exact hsome (hsame ▸ hothernone)
  · intro hmissing
    obtain ⟨row', hrow', hpath, -, -⟩ := hkeeps k row hrow
    refine ⟨row', hrow', hpath, fun hrownone => hmissing ⟨row', hrow', hrownone, hpath⟩⟩

theorem titles_progress_iff (hnet : rankedNet collate snapshots today limit = .ok net) :
    (∀ path ∈ net, StatesTitle site path →
        ∃ k, path ∈
          (titleRuns collate site snapshots today limit maxFutureDays clock catalogue k).paths) ↔
      ∀ before path after, catalogue.uncataloguedPaths net = before ++ path :: after →
      StatesTitle site path →
        (∀ p ∈ before ++ [path], titleOutcome site catalogue p ≠ .stop) ∧
          open Classical in before.countP (fun p => ¬ StatesTitle site p) < limit := by
  have hleaves : (∀ path ∈ net, StatesTitle site path →
        ∃ k, path ∈
          (titleRuns collate site snapshots today limit maxFutureDays clock catalogue k).paths) ↔
      ∀ path ∈ catalogue.uncataloguedPaths net, StatesTitle site path →
        ∃ k, path ∉ Backlog.runs (fun _ => titleOutcome site catalogue) limit
          (catalogue.uncataloguedPaths net) k := by
    constructor
    · intro h path hpath htitle
      have hmem := (mem_uncataloguedPaths.mp hpath).1
      obtain ⟨k, hk⟩ := h path hmem htitle
      exact ⟨k, (mem_titleRuns_iff hnet hmem k).mp hk⟩
    · intro h path hpath htitle
      by_cases hknown : path ∈ catalogue.paths
      · exact ⟨0, hknown⟩
      · obtain ⟨k, hk⟩ :=
          h path
            (mem_uncataloguedPaths.mpr ⟨hpath, ne_empty_of_mem_rankedNet hnet hpath, hknown⟩) htitle
        exact ⟨k, (mem_titleRuns_iff hnet hpath k).mpr hk⟩
  have hnodup : (catalogue.uncataloguedPaths net).Nodup :=
    ((nodup_rankedNet hnet).filter _).filter _
  rw [hleaves, Backlog.all_leave_iff (Backlog.settled_const _) hnodup]
  refine forall_congr' fun before => forall_congr' fun path => forall_congr' fun after =>
      forall_congr' fun heq =>
    forall_congr' fun htitle => ?_
  exact titles_moved_iff htitle

theorem dates_progress_iff :
    (∀ row ∈ catalogue.rows, (∃ k, StatesDate site (horizonAt maxFutureDays clock k) row.path) →
      ∃ k, ∃ row' ∈ (dateRuns collate site limit maxFutureDays clock catalogue k).rows,
        row'.path = row.path ∧ row'.publishedAt ≠ none) ↔
      ∀ (before : List String) (path : String) (after : List String), catalogue.undated collate =
        before ++ path :: after →
        (∃ k, StatesDate site (horizonAt maxFutureDays clock k) path) →
        (∀ p ∈ before, dateOutcome site (horizonAt maxFutureDays clock 0) p ≠ .stop) ∧
          open Classical in
            before.countP
              (fun p => ∀ k, ¬ StatesDate site (horizonAt maxFutureDays clock k) p) < limit := by
  have hleaves :
      (∀ row ∈ catalogue.rows, (∃ k, StatesDate site (horizonAt maxFutureDays clock k) row.path) →
      ∃ k, ∃ row' ∈ (dateRuns collate site limit maxFutureDays clock catalogue k).rows,
        row'.path = row.path ∧ row'.publishedAt ≠ none) ↔
      ∀ path ∈ catalogue.undated collate,
        (∃ k, StatesDate site (horizonAt maxFutureDays clock k) path) →
        ∃ k, path ∉ Backlog.runs (fun k => dateOutcome site (horizonAt maxFutureDays clock k)) limit
          (catalogue.undated collate) k := by
    constructor
    · intro h path hpath hdate
      obtain ⟨row, hrow, -, rfl⟩ := (Catalogue.mem_undated collate).mp hpath
      obtain ⟨k, hk⟩ := h row hrow hdate
      exact ⟨k, (dated_iff hrow k).mp hk⟩
    · intro h row hrow hdate
      by_cases hnone : row.publishedAt = none
      · obtain ⟨k, hk⟩ :=
          h row.path ((Catalogue.mem_undated collate).mpr ⟨row, hrow, hnone, rfl⟩) hdate
        exact ⟨k, (dated_iff hrow k).mpr hk⟩
      · exact ⟨0, row, hrow, rfl, hnone⟩
  rw [hleaves, Backlog.all_leave_iff (settled_dates site maxFutureDays clock)
    (Catalogue.nodup_undated collate catalogue)]
  refine forall_congr' fun before => forall_congr' fun path => forall_congr' fun after =>
      forall_congr' fun heq =>
    forall_congr' fun hdate => ?_
  exact dates_moved_iff hdate

/-- The backfills make progress exactly if neither list is held up. -/
theorem backfills_progress_iff (collate : String → κ) (site : PublicSite)
    (snapshots : List Ga4Snapshot) (today : Date) (limit maxFutureDays : Nat) (clock : Clock)
    (catalogue : Catalogue) :
    BackfillsProgress collate site snapshots today limit maxFutureDays clock catalogue ↔
      QueuesMove collate site snapshots today limit maxFutureDays clock catalogue := by
  constructor
  · exact fun h => ⟨fun net hnet => (titles_progress_iff hnet).mp (h.titles net hnet),
      dates_progress_iff.mp h.dates⟩
  · intro h
    refine ⟨fun net hnet => (titles_progress_iff hnet).mpr (h.titles net hnet),
      dates_progress_iff.mpr h.dates, ?_, ?_⟩
    · exact fun k => discoverNewsTitles_keeps _
    · exact fun k => backfillNewsDates_keeps _

end Progress

/-! ## A missing page ahead of a dated one -/

def stampOfArticle : String := "2017-02-20T15:47:09+02:00"

def articleBlock : String :=
  "[\x7b\"@type\": \"NewsArticle\", \"datePublished\": \"" ++ stampOfArticle ++ "\"\x7d]"

def articlePage : String :=
  "<html><head><title>Uudis</title><script type=\"application/ld+json\">" ++ articleBlock ++
    "</script></head><body></body></html>"

/-- A site with one page, which states a date. -/
def onePage : PublicSite where
  fetch url :=
    if url = "https://www.koda.ee/et/uudised/b" then .ok articlePage else .error .publicFetchError
  ogTitle _ := none
  titleTag html := if html = articlePage then some "Uudis" else none
  withoutTags text := text
  unescape text := .ok text
  jsonLd :=
    { findall := fun html => if html = articlePage then [articleBlock] else []
      loads := fun content =>
        if content = articleBlock then .value (.list [.dict [("@type", .str "NewsArticle"),
          ("datePublished", .str stampOfArticle)]])
        else .jsonDecodeError
      repr := fun _ => "" }
  fromisoformat text :=
    if text = stampOfArticle then some (.aware ⟨.of 2017 2 20, 49629000000, by decide⟩) else none
  makeAware wall := wall

/-- Two articles without dates; the page of the first is gone. -/
def missingAhead : Catalogue where
  rows := [⟨"https://www.koda.ee/et/uudised/a", "/et/uudised/a", "a", none, .page, "", 1⟩,
    ⟨"https://www.koda.ee/et/uudised/b", "/et/uudised/b", "b", none, .page, "", 0⟩]
  onePath := by decide
  oneUrl := by decide

def standingClock : Clock := ⟨fun _ => 63900000000000000, fun _ _ _ => le_refl _⟩

/-- One page a run: every run asks for the missing page, and the article behind it is never
dated. -/
theorem missingPage_holds_up : ¬ BackfillsProgress String.length onePage []
    ⟨2026, 8, 20, by decide, by decide, by decide⟩ 1 2 standingClock missingAhead := by
  intro h
  have hstated : parsePublishedAt onePage (horizonAt 2 standingClock 0) articlePage =
      .ok (some ⟨.of 2017 2 20, 49629000000, by decide⟩) := by decide +kernel
  have hmoves := dates_progress_iff.mp h.dates ["/et/uudised/a"] "/et/uudised/b" []
    (by decide +kernel)
    ⟨0, articlePage, _, rfl, hstated⟩
  have hnever : ∀ k, ¬ StatesDate onePage (horizonAt 2 standingClock k) "/et/uudised/a" := by
    rintro k ⟨html, moment, hfetch, -⟩
    rw [show onePage.fetch (pageUrl "/et/uudised/a") = .error .publicFetchError from rfl] at hfetch
    cases hfetch
  simp [hnever] at hmoves

end Dashkoda.News
