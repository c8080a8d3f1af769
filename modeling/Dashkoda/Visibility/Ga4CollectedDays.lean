import Dashkoda.Visibility.Ga4Collect

/-!
# What a collected day is worth

A day that is read from a report has one row for each page.  Its channels are distinct, and its
canonical form is the same whatever the order of the report's rows, only under a condition on the
rows that the collector does not check.
-/

open Lib

namespace Dashkoda.Visibility

section Merging

/-- What the canonical form shows of a page, its path apart. -/
def pageFigures (row : PageRow) : Int × Option Int × Option Int :=
  (row.pageViews, row.activeUsers, row.userEngagementSeconds)

def mergeFigures (a b : Int × Option Int × Option Int) : Int × Option Int × Option Int :=
  (a.1 + b.1, maxOrNone a.2.1 b.2.1, sumOrNone a.2.2 b.2.2)

theorem sumOrNone_comm (a b : Option Int) : sumOrNone a b = sumOrNone b a := by
  cases a <;> cases b <;> first | rfl | exact congrArg some (Int.add_comm _ _)

theorem sumOrNone_assoc (a b c : Option Int) :
    sumOrNone (sumOrNone a b) c = sumOrNone a (sumOrNone b c) := by
  cases a <;> cases b <;> cases c <;> first | rfl | exact congrArg some (Int.add_assoc _ _ _)

theorem maxOrNone_comm (a b : Option Int) : maxOrNone a b = maxOrNone b a := by
  cases a <;> cases b <;> first | rfl | exact congrArg some (Int.max_comm _ _)

theorem maxOrNone_assoc (a b c : Option Int) :
    maxOrNone (maxOrNone a b) c = maxOrNone a (maxOrNone b c) := by
  cases a <;> cases b <;> cases c <;> first | rfl | exact congrArg some (Int.max_assoc _ _ _)

theorem mergeFigures_comm (a b : Int × Option Int × Option Int) :
    mergeFigures a b = mergeFigures b a := by
  unfold mergeFigures
  rw [Int.add_comm, maxOrNone_comm, sumOrNone_comm]

theorem mergeFigures_assoc (a b c : Int × Option Int × Option Int) :
    mergeFigures (mergeFigures a b) c = mergeFigures a (mergeFigures b c) := by
  unfold mergeFigures
  rw [Int.add_assoc, maxOrNone_assoc, sumOrNone_assoc]

variable {rows rows' : List PageRow}

def pagesByPath (rows : List PageRow) : Dict String PageRow := mergeByKey (·.path) mergePage rows

theorem path_of_get? {path : String} {row : PageRow} (h : (pagesByPath rows).get? path = some row) :
    row.path = path :=
  @key_of_get?_mergeByKey PageRow String _ (·.path) mergePage (fun _ _ => rfl) rows path row h

theorem mem_mergePages {row : PageRow} :
    row ∈ mergePages rows ↔ (pagesByPath rows).get? row.path = some row := by
  unfold mergePages
  rw [mem_sortOn, Dict.mem_values]
  constructor
  · intro ⟨path, hentry⟩
    have hget := Dict.get?_eq_some_iff.mpr hentry
    rw [path_of_get? hget]
    exact hget
  · exact fun hget => ⟨row.path, Dict.get?_eq_some_iff.mp hget⟩

/-- Each page of a day is there once. -/
theorem paths_mergePages : ((mergePages rows).map (·.path)).Nodup := by
  unfold mergePages
  rw [((perm_sortOn _ _).map _).nodup_iff]
  have hpaths : (pagesByPath rows).values.map (·.path) = (pagesByPath rows).keys := by
    unfold Dict.values Dict.keys
    rw [List.map_map]
    apply List.map_congr_left
    intro entry hentry
    exact path_of_get? (Dict.get?_eq_some_iff.mpr hentry)
  rw [show (mergeByKey (·.path) mergePage rows).values.map (·.path) =
    (pagesByPath rows).keys from hpaths]
  exact (pagesByPath rows).keys_nodup

theorem path_mergePages {path : String} :
    (∃ row ∈ mergePages rows, row.path = path) ↔ ∃ row ∈ rows, row.path = path := by
  rw [← @mem_keys_mergeByKey PageRow String _ (·.path) mergePage rows path, Dict.mem_keys_iff_get?]
  constructor
  · intro ⟨row, hrow, hpath⟩
    exact ⟨row, hpath ▸ mem_mergePages.mp hrow⟩
  · intro ⟨row, hget⟩
    have hpath : row.path = path := path_of_get? hget
    exact ⟨row, mem_mergePages.mpr (hpath ▸ hget), hpath⟩

theorem views_mergePages : total (·.pageViews) (mergePages rows) = total (·.pageViews) rows := by
  unfold mergePages
  rw [total_perm _ (perm_sortOn _ _)]
  exact total_mergeByKey (fun _ _ => rfl) rows

/-- The shown part of a merged page depends on the rows, not on their order. -/
theorem shown_mergePages (h : rows.Perm rows') {row : PageRow} (hrow : row ∈ mergePages rows) :
    ∃ row' ∈ mergePages rows', row'.path = row.path ∧ pageFigures row' = pageFigures row := by
  have hsame := @get?_mergeByKey_perm PageRow String _ _ (·.path) mergePage pageFigures mergeFigures
    (fun _ _ => rfl) mergeFigures_comm mergeFigures_assoc rows rows' h row.path
  rw [show (mergeByKey (·.path) mergePage rows).get? row.path =
    some row from mem_mergePages.mp hrow]
    at hsame
  obtain ⟨row', hget, hfigures⟩ := Option.map_eq_some_iff.mp hsame.symm
  have hpath : row'.path = row.path := path_of_get? hget
  exact ⟨row', mem_mergePages.mpr (hpath ▸ hget), hpath, hfigures⟩

def shownPage (row : PageRow) : PageRow := { row with rawPath := "" }

theorem shownPage_eq_iff {a b : PageRow} :
    shownPage a = shownPage b ↔ a.path = b.path ∧ pageFigures a = pageFigures b := by
  unfold shownPage pageFigures
  rw [PageRow.mk.injEq, Prod.mk.injEq, Prod.mk.injEq]
  constructor
  · exact fun h => ⟨h.1, h.2.1, h.2.2.1, h.2.2.2.1⟩
  · exact fun h => ⟨h.1, h.2.1, h.2.2.1, h.2.2.2, rfl⟩

theorem shown_perm (h : rows.Perm rows') :
    ((mergePages rows).map shownPage).Perm ((mergePages rows').map shownPage) := by
  have hnodup (rows : List PageRow) : ((mergePages rows).map shownPage).Nodup := by
    apply List.Nodup.of_map (·.path)
    rw [List.map_map]
    exact paths_mergePages
  have hsub {rows rows' : List PageRow} (h : rows.Perm rows') {x : PageRow}
      (hx : x ∈ (mergePages rows).map shownPage) : x ∈ (mergePages rows').map shownPage := by
    obtain ⟨row, hrow, rfl⟩ := List.mem_map.mp hx
    obtain ⟨row', hrow', hsame⟩ := shown_mergePages h hrow
    exact List.mem_map.mpr ⟨row', hrow', shownPage_eq_iff.mpr hsame⟩
  rw [List.perm_ext_iff_of_nodup (hnodup rows) (hnodup rows')]
  exact fun x => ⟨hsub h, hsub h.symm⟩

/-- The page part of the canonical form. -/
theorem payload_mergePages (h : rows.Perm rows') :
    (sortOn (·.path) (mergePages rows)).map PageRow.payload =
      (sortOn (·.path) (mergePages rows')).map PageRow.payload := by
  have hshown (rows : List PageRow) : (sortOn (·.path) (mergePages rows)).map PageRow.payload =
      (sortOn (·.path) ((mergePages rows).map shownPage)).map PageRow.payload := by
    rw [sortOn_map, List.map_map]
    rfl
  rw [hshown, hshown]
  congr 1
  apply sortOn_eq_of_perm (shown_perm h)
  rw [List.map_map]
  exact paths_mergePages

/-- Whether a page has a negative count does not depend on the order either. -/
theorem negative_mergePages (h : rows.Perm rows') :
    (mergePages rows).any (·.pageViews < 0) = (mergePages rows').any (·.pageViews < 0) := by
  have hshown (rows : List PageRow) : (mergePages rows).any (·.pageViews < 0) =
      ((mergePages rows).map shownPage).any (·.pageViews < 0) := by
    rw [List.any_map]
    rfl
  rw [hshown, hshown]
  exact (shown_perm h).any_eq

end Merging

end Dashkoda.Visibility
