import Dashkoda.EventProgramme.Attention
import Dashkoda.Lib.Ranking
import Dashkoda.Lib.Tally

/-!
# The most viewed pages

The current page rows of a period, added up by path.  Sections and exclusions are matched by whole
path segments.
-/

open Lib

namespace Dashkoda.Visibility

open EventProgramme (Ga4Snapshot currentPages)

def LANGUAGE_ROOTS : List String := ["/", "/et", "/en", "/ru"]

def UTILITY_SEGMENTS : List String :=
  ["search", "user", "cart", "checkout", "node", "taxonomy", "system"]

def LANGUAGES : List String := ["et", "en", "ru"]

def BARE_UTILITY_PREFIXES : List String := ["/search", "/sites/default/files"]

def ERROR_DOCUMENT_PREFIXES : List String := ["/403.html", "/404.html"]

def CONTENT_RANKING_PREFIX_EXCLUSIONS : List String :=
  (LANGUAGES.flatMap fun language => UTILITY_SEGMENTS.map fun segment =>
    "/" ++ language ++ "/" ++ segment) ++
    BARE_UTILITY_PREFIXES

def CONTENT_RANKING_EXACT_EXCLUSIONS : List String := LANGUAGE_ROOTS

/-- The prefixes of `SECTION_NEWS`, which are canonical paths. -/
def SECTION_NEWS : List String := ["/et/uudised", "/en/news"]

/-- `Q(path=section) | Q(path__startswith=section + "/")` -/
def underSection (path section_ : String) : Bool :=
  path = section_ || (section_ ++ "/").toList.isPrefixOf path.toList

/-- `only_rankable`, of one path. -/
def rankable (path : String) : Bool :=
  path ∉ CONTENT_RANKING_EXACT_EXCLUSIONS &&
    ERROR_DOCUMENT_PREFIXES.all (fun start => !start.toList.isPrefixOf path.toList) &&
    CONTENT_RANKING_PREFIX_EXCLUSIONS.all (fun excluded => !underSection path excluded)

structure PageTotal where
  path : String
  pageViews : Int
  daysSeen : Nat
  peakActiveUsers : Option Int
  deriving DecidableEq

def pageTotal (rows : List (Date × PageRow)) (path : String) : PageTotal :=
  let own := rows.filter fun row => row.2.path = path
  { path
    pageViews := total (·.2.pageViews) own
    daysSeen := own.length
    peakActiveUsers := (own.filterMap (·.2.activeUsers)).max? }

section Ranking

variable {κ : Type} [LinearOrder κ] (collate : String → κ)

/-- `get_top_pages`, for canonical prefixes. -/
def getTopPages (snapshots : List Ga4Snapshot) (start «end» : Date) (limit : Nat)
    (sections leftOut : List String) :
    List PageTotal :=
  let rows := (currentPages snapshots).filter fun row =>
    start ≤ row.1 && row.1 ≤ «end» && (sections = [] || sections.any (underSection row.2.path)) &&
      row.2.path ∉ leftOut && rankable row.2.path
  let totals := (rows.map (·.2.path)).dedup.map (pageTotal rows)
  (sortOn (fun page => toLex (OrderDual.toDual page.pageViews, collate page.path))
    totals).take limit

/-- A path is ranked once. -/
theorem nodup_getTopPages (snapshots : List Ga4Snapshot) (start «end» : Date) (limit : Nat)
    (sections leftOut : List String) :
    ((getTopPages collate snapshots start «end» limit sections leftOut).map (·.path)).Nodup := by
  unfold getTopPages
  dsimp only
  rw [List.map_take]
  refine List.Nodup.sublist (List.take_sublist _ _) ?_
  refine ((perm_sortOn _ _).map _).nodup_iff.mpr ?_
  rw [List.map_map, show ((fun page : PageTotal => page.path) ∘ pageTotal _) = id from rfl,
    List.map_id]
  exact List.nodup_dedup _

/-- What is ranked lies in one of the sections. -/
theorem underSection_of_mem_getTopPages {snapshots : List Ga4Snapshot} {start «end» : Date}
    {limit : Nat} {sections leftOut : List String} {page : PageTotal} (hsections : sections ≠ [])
    (h : page ∈ getTopPages collate snapshots start «end» limit sections leftOut) :
    sections.any (underSection page.path) = true := by
  unfold getTopPages at h
  dsimp only at h
  obtain ⟨path, hpath, hpage⟩ := List.mem_map.mp (mem_sortOn.mp (List.mem_of_mem_take h))
  obtain ⟨row, hrow, hrowPath⟩ := List.mem_map.mp (List.mem_dedup.mp hpath)
  have hkept := (List.mem_filter.mp hrow).2
  simp only [Bool.and_eq_true, Bool.or_eq_true, decide_eq_true_eq] at hkept
  have hsection := hkept.1.1.2.resolve_left hsections
  rw [← hpage]
  exact hrowPath ▸ hsection

end Ranking

end Dashkoda.Visibility
