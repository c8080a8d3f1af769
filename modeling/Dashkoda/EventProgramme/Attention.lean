import Dashkoda.Lib.Days
import Dashkoda.Lib.Except
import Dashkoda.Lib.Tally
import Dashkoda.Visibility.Ga4Paths
import Dashkoda.Visibility.Models
import Mathlib.Data.List.Dedup

/-!
# How much attention an event's own page received

Every event is compared over a window of the same length that ends on its start.  Whether the window
was measured is judged from the first and the last collected day.
-/

open Lib

namespace Dashkoda.EventProgramme

open Visibility (DailySnapshot Ga4Day PageRow canonicalPath)

/-- A window of thirty days that ends on the event's start. -/
def PRE_EVENT_DAYS : Nat := 30

def LATE_INTEREST_DAYS : Nat := 7

def RECENT_DAYS : Nat := 30

inductive AttentionExn
  /-- `urlsplit` refuses the address. -/
  | valueError
  /-- A window starts before the calendar does. -/
  | overflowError
  deriving DecidableEq

/-! ## What was collected -/

abbrev Ga4Snapshot := DailySnapshot Ga4Day

def currentDays (snapshots : List Ga4Snapshot) : List Ga4Snapshot :=
  snapshots.filter (·.isCurrentForDate)

/-- The page rows of the current revisions, with their days. -/
def currentPages (snapshots : List Ga4Snapshot) : List (Date × PageRow) :=
  (currentDays snapshots).flatMap fun snapshot => snapshot.content.pages.map fun page =>
    (snapshot.day, page)

structure Coverage where
  earliest : Option Date
  latest : Option Date
  daysCovered : Nat
  daysWithPages : Nat

def getCoverage (snapshots : List Ga4Snapshot) : Coverage where
  earliest := ((currentDays snapshots).map (·.day)).min?
  latest := ((currentDays snapshots).map (·.day)).max?
  daysCovered := (currentDays snapshots).length
  daysWithPages := (currentDays snapshots).countP (·.content.hasPageDetail)

/-! ## Pages and windows -/

structure AttentionItem where
  eventId : String
  publicUrl : String
  startDate : Option Date

structure EventAttention where
  eventId : String
  path : String
  startDate : Option Date
  totalViews : Option Int
  preEventViews : Option Int
  lateViews : Option Int
  recentViews : Option Int
  windowIsComplete : Bool
  deriving DecidableEq

/-- `resolve`: the workbook's own address, else the matched one. -/
def resolvedUrl (matched : Dict String String) (item : AttentionItem) : String :=
  if PyText.strip item.publicUrl ≠ "" then PyText.strip item.publicUrl
  else (matched.get? item.eventId).getD ""

/-- `_paths_for`: the canonical path of every event that resolves to a page. -/
def pathsFor (check : NetlocCheck) (matched : Dict String String) (items : List AttentionItem) :
    Except AttentionExn (Dict String String) :=
  items.foldlM (fun resolved item =>
    match canonicalPath check (resolvedUrl matched item).toList with
    | none => .error .valueError
    | some path =>
      .ok (if path = [] then resolved else resolved.set item.eventId (String.ofList path)))
    Dict.empty

/-- A page and the first and last day of a window. -/
abbrev Window := String × Date × Date

def inWindow (window : Window) (row : Date × PageRow) : Bool :=
  row.2.path = window.1 && window.2.1 ≤ row.1 && row.1 ≤ window.2.2

/-- `_sum_windows`: one query for all windows, its rows bucketed by path. -/
def sumWindows (snapshots : List Ga4Snapshot) (windows : List Window) : Dict Window Int :=
  let distinct := windows.dedup
  let rows := (currentPages snapshots).filter fun row => distinct.any fun window =>
    inWindow window row
  let bucket (path : String) := rows.filter fun row => row.2.path = path
  Dict.ofList (distinct.map fun window =>
    (window, total (·.2.pageViews) ((bucket window.1).filter fun row =>
      window.2.1 ≤ row.1 && row.1 ≤ window.2.2)))

/-- `_totals_for`: the views of the paths that were measured. -/
def totalsFor (snapshots : List Ga4Snapshot) (paths : List String) : Dict String Int :=
  let rows := (currentPages snapshots).filter fun row => row.2.path ∈ paths
  Dict.ofList ((rows.map (·.2.path)).dedup.map fun path =>
    (path, totalAt (·.2.path) (·.2.pageViews) rows path))

/-- `start - timedelta(days=days - 1)` -/
def windowStart (days : Nat) (start : Date) : Except AttentionExn Date :=
  match Date.subDays? (days - 1) start with
  | some first => .ok first
  | none => .error .overflowError

/-- The windows the loop over the events asks for: before the event, late, and recent. -/
structure Windows where
  pre : List Window
  late : List Window
  recent : List Window

def collectWindows (paths : Dict String String) (recentStart latest : Date) (windows : Windows)
    (item : AttentionItem) : Except AttentionExn Windows :=
  match paths.get? item.eventId with
  | none => .ok windows
  | some path =>
    let windows := { windows with recent := windows.recent ++ [(path, recentStart, latest)] }
    match item.startDate with
    | none => .ok windows
    | some start => do
      let preStart ← windowStart PRE_EVENT_DAYS start
      let lateStart ← windowStart LATE_INTEREST_DAYS start
      return { windows with pre := windows.pre ++ [(path, preStart, start)],
                            late := windows.late ++ [(path, lateStart, start)] }

/-- What the queries answered. -/
structure Measured where
  earliest : Date
  latest : Date
  recentStart : Date
  pre : Dict Window Int
  late : Dict Window Int
  recent : Dict Window Int
  totals : Dict String Int

/-- Whether the ends of the coverage enclose the window. -/
def windowIsComplete (answers : Measured) : Option (Date × Date × Date) → Bool
  | none => false
  | some (preStart, _, start) => answers.earliest ≤ preStart && start ≤ answers.latest

def attentionIn (answers : Measured) (item : AttentionItem) (path : String)
    (window : Option (Date × Date × Date)) : EventAttention :=
  let measured : Bool := path ∈ answers.totals.keys
  let complete := windowIsComplete answers window
  { eventId := item.eventId
    path
    startDate := item.startDate
    totalViews := answers.totals.get? path
    preEventViews := window.bind fun (preStart, _, start) =>
      if complete && measured then answers.pre.get? (path, preStart, start) else none
    lateViews := window.bind fun (_, lateStart, start) =>
      if complete && measured then answers.late.get? (path, lateStart, start) else none
    recentViews := if measured then answers.recent.get?
      (path, answers.recentStart, answers.latest) else none
    windowIsComplete := complete }

/-- The start of both windows of an event, where it has a start. -/
def windowOf (item : AttentionItem) : Except AttentionExn (Option (Date × Date × Date)) :=
  match item.startDate with
  | none => .ok none
  | some start => do
    let preStart ← windowStart PRE_EVENT_DAYS start
    let lateStart ← windowStart LATE_INTEREST_DAYS start
    return some (preStart, lateStart, start)

def attachOne (paths : Dict String String) (answers : Measured)
    (result : Dict String EventAttention)
    (item : AttentionItem) : Except AttentionExn (Dict String EventAttention) :=
  match paths.get? item.eventId with
  | none => .ok result
  | some path => do
    let window ← windowOf item
    return result.set item.eventId (attentionIn answers item path window)

/-- `attach_attention`, the coverage as given or as the history has it. -/
def attachAttention (check : NetlocCheck) (matched : Dict String String)
    (snapshots : List Ga4Snapshot) (coverage : Option Coverage)
    (items : List AttentionItem) :
    Except AttentionExn (Dict String EventAttention) :=
  if items = [] then .ok Dict.empty
  else
    let coverage := coverage.getD (getCoverage snapshots)
    match coverage.earliest, coverage.latest with
    | some earliest, some latest => do
      let paths ← pathsFor check matched items
      if paths.entries = [] then return Dict.empty
      let recentStart ← windowStart RECENT_DAYS latest
      let windows ← items.foldlM (collectWindows paths recentStart latest) ⟨[], [], []⟩
      let answers : Measured :=
        { earliest, latest, recentStart
          pre := sumWindows snapshots windows.pre
          late := sumWindows snapshots windows.late
          recent := sumWindows snapshots windows.recent
          totals := totalsFor snapshots paths.values }
      items.foldlM (attachOne paths answers) Dict.empty
    | _, _ => .ok Dict.empty

/-! ## What a figure should rest on -/

/-- A current revision of the day was collected page by page. -/
def HasPageDetail (snapshots : List Ga4Snapshot) (day : Date) : Prop :=
  ∃ snapshot ∈ currentDays snapshots, snapshot.day = day ∧ snapshot.content.hasPageDetail = true

def viewsOn (snapshots : List Ga4Snapshot) (path : String) (day : Date) : Int :=
  totalAt (·.1) (·.2.pageViews) ((currentPages snapshots).filter fun row => row.2.path = path) day

/-- Both figures are sums over windows of which every day was collected page by page. -/
def MeasuredOver (snapshots : List Ga4Snapshot) (attention : EventAttention) : Prop :=
  ∃ start preStart lateStart, attention.startDate = some start ∧
    Date.subDays? (PRE_EVENT_DAYS - 1) start = some preStart ∧
    Date.subDays? (LATE_INTEREST_DAYS - 1) start = some lateStart ∧
    (∀ day, preStart ≤ day → day ≤ start → HasPageDetail snapshots day) ∧
    attention.preEventViews =
      some (total (viewsOn snapshots attention.path) (Date.daysBack (PRE_EVENT_DAYS - 1) start)) ∧
    attention.lateViews =
      some (total (viewsOn snapshots attention.path) (Date.daysBack (LATE_INTEREST_DAYS - 1) start))

/-- Every event has its own page and start, and has a figure only where it is measured over its
whole window. -/
def NeverPartial (check : NetlocCheck) (matched : Dict String String) (snapshots : List Ga4Snapshot)
    (items : List AttentionItem) (result : Dict String EventAttention) : Prop :=
  ∀ eventId attention, result.get? eventId = some attention →
    (∃ item ∈ items, item.eventId = eventId ∧ item.startDate = attention.startDate) ∧
    (∃ paths, pathsFor check matched items = .ok paths ∧ paths.get? eventId = some attention.path) ∧
    (attention.preEventViews ≠ none ∨ attention.lateViews ≠ none → MeasuredOver snapshots attention)

/-- The item an event is shown for: the last one with its id. -/
def lastOf (items : List AttentionItem) (eventId : String) : Option AttentionItem :=
  items.reverse.find? (·.eventId = eventId)

/-- A window that lies between the first and the last collected day has no day without page detail,
wherever the event's page was measured at all. -/
def WindowsWhole (check : NetlocCheck) (matched : Dict String String) (snapshots : List Ga4Snapshot)
    (coverage : Coverage) (items : List AttentionItem) : Prop :=
  ∀ paths eventId item path start preStart earliest latest,
    pathsFor check matched items = .ok paths → lastOf items eventId = some item →
    paths.get? eventId = some path → (∃ row ∈ currentPages snapshots, row.2.path = path) →
    item.startDate = some start → Date.subDays? (PRE_EVENT_DAYS - 1) start = some preStart →
    coverage.earliest = some earliest → coverage.latest = some latest →
    earliest ≤ preStart → start ≤ latest →
    ∀ day, preStart ≤ day → day ≤ start → HasPageDetail snapshots day

/-! ## Sums over windows -/

theorem total_inWindow (snapshots : List Ga4Snapshot) (path : String) {n : Nat} {first last : Date}
    (h : Date.subDays? n last = some first) :
    total (·.2.pageViews) ((currentPages snapshots).filter fun row =>
      inWindow (path, first, last) row) =
      total (viewsOn snapshots path) (Date.daysBack n last) := by
  have hsum := total_totalAt (fun row : Date × PageRow => row.1) (fun row => row.2.pageViews)
    ((currentPages snapshots).filter fun row => row.2.path = path) (Date.nodup_daysBack h)
  have hrows : ((currentPages snapshots).filter fun row => row.2.path = path).filter
      (fun row => row.1 ∈ Date.daysBack n last) =
      (currentPages snapshots).filter fun row => inWindow (path, first, last) row := by
    rw [List.filter_filter]
    apply List.filter_congr
    intro row _
    rw [Bool.eq_iff_iff]
    simp only [inWindow, Bool.and_eq_true, decide_eq_true_eq, Date.mem_daysBack h]
    tauto
  rw [hrows] at hsum
  exact hsum.symm

/-- A window that was asked for is answered with its own sum. -/
theorem get?_sumWindows (snapshots : List Ga4Snapshot) {windows : List Window} {window : Window}
    (h : window ∈ windows) : (sumWindows snapshots windows).get? window =
      some
        (total (·.2.pageViews) ((currentPages snapshots).filter fun row =>
          inWindow window row)) := by
  have hmem : window ∈ windows.dedup := List.mem_dedup.mpr h
  unfold sumWindows
  simp only
  rw [Dict.get?_ofList_map windows.nodup_dedup _ hmem]
  congr 2
  rw [List.filter_filter, List.filter_filter]
  apply List.filter_congr
  intro row _
  rw [Bool.eq_iff_iff]
  simp only [inWindow, Bool.and_eq_true, decide_eq_true_eq, List.any_eq_true]
  constructor
  · intro hrow
    exact ⟨⟨hrow.1.2, hrow.1.1.1⟩, hrow.1.1.2⟩
  · intro hrow
    exact ⟨⟨⟨hrow.1.2, hrow.2⟩, hrow.1.1⟩, window, hmem, hrow⟩

theorem mem_keys_totalsFor {snapshots : List Ga4Snapshot} {paths : List String} {path : String}
    (h : path ∈ paths) : path ∈ (totalsFor snapshots paths).keys ↔
      ∃ row ∈ currentPages snapshots, row.2.path = path := by
  unfold totalsFor
  simp only
  rw [Dict.mem_keys_ofList, List.map_map]
  show path ∈
    ((((currentPages snapshots).filter fun row => row.2.path ∈ paths).map
      (·.2.path)).dedup.map id) ↔ _
  rw [List.map_id, List.mem_dedup, List.mem_map]
  constructor
  · intro ⟨row, hrow, heq⟩
    exact ⟨row, (List.mem_filter.mp hrow).1, heq⟩
  · intro ⟨row, hrow, heq⟩
    exact ⟨row, List.mem_filter.mpr ⟨hrow, decide_eq_true (heq ▸ h)⟩, heq⟩

/-! ## The loops over the events -/

theorem windowStart_eq_ok_iff {days : Nat} {start first : Date} :
    windowStart days start = .ok first ↔ Date.subDays? (days - 1) start = some first := by
  unfold windowStart
  cases Date.subDays? (days - 1) start with
  | none => simp
  | some found => simp

/-- The windows of an event are among those that are asked for. -/
structure Asked (windows : Windows) (path : String) (preStart lateStart start : Date) : Prop where
  pre : (path, preStart, start) ∈ windows.pre
  late : (path, lateStart, start) ∈ windows.late

section Loops

variable {paths : Dict String String} {recentStart latest : Date}

theorem collectWindows_keeps {windows windows' : Windows} {item : AttentionItem}
    (h : collectWindows paths recentStart latest windows item = .ok windows') :
    (∀ window ∈ windows.pre, window ∈ windows'.pre) ∧
    ∀ window ∈ windows.late, window ∈ windows'.late := by
  unfold collectWindows at h
  split at h
  · cases h
    exact ⟨fun _ h => h, fun _ h => h⟩
  · simp only at h
    split at h
    · cases h
      exact ⟨fun _ h => h, fun _ h => h⟩
    · obtain ⟨preStart, -, h⟩ := bind_eq_ok_iff.mp h
      obtain ⟨lateStart, -, h⟩ := bind_eq_ok_iff.mp h
      cases h
      exact ⟨fun _ h => List.mem_append_left _ h, fun _ h => List.mem_append_left _ h⟩

theorem collectWindows_asks {windows windows' : Windows} {item : AttentionItem} {path : String}
    {start preStart lateStart : Date}
    (h : collectWindows paths recentStart latest windows item = .ok windows')
    (hpath : paths.get? item.eventId = some path)
    (hwindow : windowOf item = .ok (some (preStart, lateStart, start))) :
    Asked windows' path preStart lateStart start := by
  unfold windowOf at hwindow
  unfold collectWindows at h
  cases hstart : item.startDate with
  | none =>
    rw [hstart] at hwindow
    cases hwindow
  | some day =>
    rw [hstart] at hwindow
    obtain ⟨_, hpre, hwindow⟩ := bind_eq_ok_iff.mp hwindow
    obtain ⟨_, hlate, hwindow⟩ := bind_eq_ok_iff.mp hwindow
    cases hwindow
    rw [hpath, hstart] at h
    simp only [hpre, hlate] at h
    cases h
    exact ⟨List.mem_append_right _ (List.mem_singleton.mpr rfl),
      List.mem_append_right _ (List.mem_singleton.mpr rfl)⟩

theorem foldlM_collectWindows {items : List AttentionItem} {windows windows' : Windows}
    (h : items.foldlM (collectWindows paths recentStart latest) windows = .ok windows') :
    ((∀ window ∈ windows.pre, window ∈ windows'.pre) ∧
      ∀ window ∈ windows.late, window ∈ windows'.late) ∧
    ∀ item ∈ items, ∀ path preStart lateStart start, paths.get? item.eventId = some path →
      windowOf item = .ok (some (preStart, lateStart, start)) →
      Asked windows' path preStart lateStart start := by
  induction items generalizing windows with
  | nil =>
    cases h
    exact ⟨⟨fun _ h => h, fun _ h => h⟩, fun _ hitem => absurd hitem List.not_mem_nil⟩
  | cons first rest ih =>
    rw [List.foldlM_cons] at h
    obtain ⟨between, hfirst, hrest⟩ := bind_eq_ok_iff.mp h
    obtain ⟨hkept, hasked⟩ := ih hrest
    have hbefore := collectWindows_keeps hfirst
    refine ⟨⟨fun w hw => hkept.1 w (hbefore.1 w hw), fun w hw => hkept.2 w (hbefore.2 w hw)⟩, ?_⟩
    intro item hitem path preStart lateStart start hpath hwindow
    cases List.mem_cons.mp hitem with
    | inl heq =>
      subst heq
      have hnow := collectWindows_asks hfirst hpath hwindow
      exact ⟨hkept.1 _ hnow.pre, hkept.2 _ hnow.late⟩
    | inr hmem => exact hasked item hmem path preStart lateStart start hpath hwindow

theorem lastOf_cons (item : AttentionItem) (rest : List AttentionItem) (eventId : String) :
    lastOf (item :: rest) eventId =
      (lastOf rest eventId).or (if item.eventId = eventId then some item else none) := by
  unfold lastOf
  rw [List.reverse_cons, List.find?_append]
  congr 1
  simp [List.find?_cons]
  split <;> simp_all

theorem lastOf_spec {items : List AttentionItem} {eventId : String} {item : AttentionItem}
    (h : lastOf items eventId = some item) : item ∈ items ∧ item.eventId = eventId :=
  ⟨List.mem_reverse.mp (List.mem_of_find?_eq_some h), by simpa using List.find?_some h⟩

variable {answers : Measured}

/-- The result holds what the last item of an event was given. -/
theorem foldlM_attachOne {items : List AttentionItem} {result result' : Dict String EventAttention}
    (h : items.foldlM (attachOne paths answers) result = .ok result') (eventId : String) :
    match lastOf items eventId, paths.get? eventId with
    | some item, some path => ∃ window, windowOf item = .ok window ∧
        result'.get? eventId = some (attentionIn answers item path window)
    | _, _ => result'.get? eventId = result.get? eventId := by
  induction items generalizing result with
  | nil =>
    cases h
    rfl
  | cons first rest ih =>
    rw [List.foldlM_cons] at h
    obtain ⟨between, hfirst, hrest⟩ := bind_eq_ok_iff.mp h
    have hlater := ih hrest
    rw [lastOf_cons]
    unfold attachOne at hfirst
    cases hlast : lastOf rest eventId with
    | some item =>
      rw [hlast] at hlater
      rw [Option.some_or]
      cases hpath : paths.get? eventId with
      | some path =>
        rw [hpath] at hlater
        exact hlater
      | none =>
        rw [hpath] at hlater
        refine hlater.trans ?_
        split at hfirst
        · cases hfirst
          rfl
        · rename_i path hfound
          obtain ⟨window, -, hset⟩ := bind_eq_ok_iff.mp hfirst
          cases hset
          apply Dict.get?_set_ne
          intro heq
          rw [← heq, hpath] at hfound
          cases hfound
    | none =>
      rw [hlast] at hlater
      have hlater : result'.get? eventId = between.get? eventId := hlater
      rw [Option.none_or]
      by_cases hid : first.eventId = eventId
      · rw [if_pos hid]
        rw [hid] at hfirst
        cases hpath : paths.get? eventId with
        | some path =>
          rw [hpath] at hfirst
          obtain ⟨window, hwindow, hset⟩ := bind_eq_ok_iff.mp hfirst
          cases hset
          exact ⟨window, hwindow, hlater.trans (Dict.get?_set_self _ _ _)⟩
        | none =>
          rw [hpath] at hfirst
          cases hfirst
          exact hlater
      · rw [if_neg hid]
        refine hlater.trans ?_
        split at hfirst
        · cases hfirst
          rfl
        · obtain ⟨window, -, hset⟩ := bind_eq_ok_iff.mp hfirst
          cases hset
          exact Dict.get?_set_ne _ _ fun heq => hid heq.symm

end Loops

/-! ## When no figure is partial -/

theorem windowOf_spec {item : AttentionItem} {preStart lateStart start : Date}
    (h : windowOf item = .ok (some (preStart, lateStart, start))) :
    item.startDate = some start ∧ Date.subDays? (PRE_EVENT_DAYS - 1) start = some preStart ∧
      Date.subDays? (LATE_INTEREST_DAYS - 1) start = some lateStart := by
  unfold windowOf at h
  split at h
  · cases h
  · rename_i day hday
    obtain ⟨first, hfirst, h⟩ := bind_eq_ok_iff.mp h
    obtain ⟨second, hsecond, h⟩ := bind_eq_ok_iff.mp h
    cases h
    exact ⟨hday, windowStart_eq_ok_iff.mp hfirst, windowStart_eq_ok_iff.mp hsecond⟩

theorem windowOf_starts {item : AttentionItem} {start preStart : Date}
    {window : Option (Date × Date × Date)} (h : windowOf item = .ok window)
    (hstart : item.startDate = some start)
    (hpre : Date.subDays? (PRE_EVENT_DAYS - 1) start = some preStart) :
    ∃ lateStart, window = some (preStart, lateStart, start) := by
  unfold windowOf at h
  rw [hstart] at h
  obtain ⟨first, hfirst, h⟩ := bind_eq_ok_iff.mp h
  obtain ⟨second, -, h⟩ := bind_eq_ok_iff.mp h
  cases h
  have hsame := (windowStart_eq_ok_iff.mp hfirst).symm.trans hpre
  exact ⟨second, by rw [Option.some.inj hsame]⟩

/-- A figure is shown for a window that the coverage encloses, on a page that was measured. -/
theorem attentionIn_shown {answers : Measured} {item : AttentionItem} {path : String}
    {window : Option (Date × Date × Date)}
    (h : (attentionIn answers item path window).preEventViews ≠ none ∨
      (attentionIn answers item path window).lateViews ≠ none) :
    ∃ preStart lateStart start, window = some (preStart, lateStart, start) ∧
      answers.earliest ≤ preStart ∧ start ≤ answers.latest ∧ path ∈ answers.totals.keys := by
  unfold attentionIn at h
  simp only at h
  match window with
  | none => exact h.elim (fun h => absurd rfl h) fun h => absurd rfl h
  | some (preStart, lateStart, start) =>
    by_cases hshown : (windowIsComplete answers (some (preStart, lateStart, start)) &&
        decide (path ∈ answers.totals.keys)) = true
    · simp only [windowIsComplete, Bool.and_eq_true, decide_eq_true_eq] at hshown
      exact ⟨preStart, lateStart, start, rfl, hshown.1.1, hshown.1.2, hshown.2⟩
    · simp only [Option.bind_some, if_neg hshown] at h
      exact h.elim (fun h => absurd rfl h) fun h => absurd rfl h

theorem attentionIn_figures {answers : Measured} {item : AttentionItem} {path : String}
    {preStart lateStart start : Date} (hearliest : answers.earliest ≤ preStart)
    (hlatest : start ≤ answers.latest) (hmeasured : path ∈ answers.totals.keys) :
    (attentionIn answers item path (some (preStart, lateStart, start))).preEventViews =
        answers.pre.get? (path, preStart, start) ∧
      (attentionIn answers item path (some (preStart, lateStart, start))).lateViews =
        answers.late.get? (path, lateStart, start) := by
  have hshown : (windowIsComplete answers (some (preStart, lateStart, start)) &&
      decide (path ∈ answers.totals.keys)) = true := by
    simp only [windowIsComplete, Bool.and_eq_true, decide_eq_true_eq]
    exact ⟨⟨hearliest, hlatest⟩, hmeasured⟩
  unfold attentionIn
  simp only [Option.bind_some, if_pos hshown]
  exact ⟨trivial, trivial⟩

section Attached

variable {check : NetlocCheck} {matched : Dict String String} {snapshots : List Ga4Snapshot}
  {coverage : Option Coverage} {items : List AttentionItem} {result : Dict String EventAttention}

/-- The figures of an event whose windows the coverage encloses are the sums over its windows. -/
theorem attachAttention_figures
    (h : attachAttention check matched snapshots coverage items = .ok result) :
    (∀ eventId attention, result.get? eventId = some attention →
      ∃ item paths path window answers, lastOf items eventId = some item ∧
        pathsFor check matched items = .ok paths ∧ paths.get? eventId = some path ∧
        windowOf item = .ok window ∧ attention = attentionIn answers item path window ∧
        (coverage.getD (getCoverage snapshots)).earliest = some answers.earliest ∧
        (coverage.getD (getCoverage snapshots)).latest = some answers.latest ∧
        (path ∈ answers.totals.keys ↔ ∃ row ∈ currentPages snapshots, row.2.path = path) ∧
        ∀ preStart lateStart start, window = some (preStart, lateStart, start) →
          answers.pre.get? (path, preStart, start) = some (total (·.2.pageViews)
            ((currentPages snapshots).filter fun row => inWindow (path, preStart, start) row)) ∧
          answers.late.get? (path, lateStart, start) = some (total (·.2.pageViews)
            ((currentPages snapshots).filter fun row => inWindow (path, lateStart, start) row))) ∧
    ∀ paths eventId item path, pathsFor check matched items = .ok paths →
      lastOf items eventId = some item → paths.get? eventId = some path →
      (coverage.getD (getCoverage snapshots)).earliest ≠ none →
      (coverage.getD (getCoverage snapshots)).latest ≠ none →
      ∃ attention, result.get? eventId = some attention := by
  have hempty : ∀ eventId, (Dict.empty : Dict String EventAttention).get? eventId = none :=
    fun _ => rfl
  unfold attachAttention at h
  split at h
  · rename_i hnil
    cases h
    refine ⟨fun eventId attention hget => ?_, fun paths eventId item path _ hlast => ?_⟩
    · rw [hempty] at hget
      cases hget
    · rw [hnil] at hlast
      cases hlast
  · simp only at h
    split at h
    · rename_i earliest latest hearliest hlatest
      obtain ⟨paths, hpaths, h⟩ := bind_eq_ok_iff.mp h
      split at h
      · rename_i hnone
        cases h
        refine ⟨fun eventId attention hget =>
          ?_, fun paths' eventId item path hpaths' _ hpath => ?_⟩
        · rw [hempty] at hget
          cases hget
        · rw [hpaths] at hpaths'
          cases hpaths'
          have hmem := Dict.get?_eq_some_iff.mp hpath
          rw [hnone] at hmem
          cases hmem
      · obtain ⟨recentStart, -, h⟩ := bind_eq_ok_iff.mp h
        obtain ⟨windows, hwindows, h⟩ := bind_eq_ok_iff.mp h
        have hasked := (foldlM_collectWindows hwindows).2
        have hresult := foldlM_attachOne h
        refine ⟨fun eventId attention hget =>
          ?_, fun paths' eventId item path hpaths' hlast hpath _ _ => ?_⟩
        · have hspec := hresult eventId
          cases hlast : lastOf items eventId with
          | none =>
            rw [hlast] at hspec
            have hspec : result.get? eventId = none := hspec
            rw [hspec] at hget
            cases hget
          | some item =>
            rw [hlast] at hspec
            cases hpath : paths.get? eventId with
            | none =>
              rw [hpath] at hspec
              have hspec : result.get? eventId = none := hspec
              rw [hspec] at hget
              cases hget
            | some path =>
              rw [hpath] at hspec
              obtain ⟨window, hwindow, hfound⟩ := hspec
              have hitem := lastOf_spec hlast
              refine ⟨item, paths, path, window, _, rfl, hpaths, hpath, hwindow,
                Option.some.inj (hget.symm.trans hfound), hearliest, hlatest, ?_, ?_⟩
              · exact mem_keys_totalsFor
                  (Dict.mem_values.mpr ⟨eventId, Dict.get?_eq_some_iff.mp hpath⟩)
              · intro preStart lateStart start hwin
                subst hwin
                have hask :=
                  hasked item hitem.1 path preStart lateStart start (by rw [hitem.2]; exact hpath)
                  hwindow
                exact ⟨get?_sumWindows snapshots hask.pre, get?_sumWindows snapshots hask.late⟩
        · rw [hpaths] at hpaths'
          cases hpaths'
          have hspec := hresult eventId
          rw [hlast, hpath] at hspec
          obtain ⟨window, -, hfound⟩ := hspec
          exact ⟨_, hfound⟩
    · rename_i hnot
      cases h
      refine ⟨fun eventId attention hget => ?_, fun _ _ _ _ _ _ _ hearliest hlatest => ?_⟩
      · rw [hempty] at hget
        cases hget
      · obtain ⟨earliest, hearliest⟩ := Option.ne_none_iff_exists'.mp hearliest
        obtain ⟨latest, hlatest⟩ := Option.ne_none_iff_exists'.mp hlatest
        exact absurd hlatest (hnot earliest latest hearliest)

/-- No figure is partial exactly when the windows that the ends of the coverage enclose are
whole. -/
theorem attachAttention_iff
    (h : attachAttention check matched snapshots coverage items = .ok result) :
    NeverPartial check matched snapshots items result ↔
      WindowsWhole check matched snapshots (coverage.getD (getCoverage snapshots)) items := by
  obtain ⟨hentries, hshown⟩ := attachAttention_figures h
  constructor
  · intro hnever paths eventId item path start preStart earliest latest hpaths hlast hpath
      hrow hstart hpre
      hearliest hlatest hfirst hstop
    obtain ⟨attention, hget⟩ := hshown paths eventId item path hpaths hlast hpath
      (by rw [hearliest]; exact Option.some_ne_none _)
        (by rw [hlatest]; exact Option.some_ne_none _)
    obtain ⟨item', paths', path', window, answers, hlast', hpaths', hpath', hwindow,
      hattention, hearliest',
      hlatest', hmeasured, hsums⟩ := hentries eventId attention hget
    cases Option.some.inj (hlast.symm.trans hlast')
    rw [hpaths] at hpaths'
    cases hpaths'
    cases Option.some.inj (hpath.symm.trans hpath')
    cases Option.some.inj (hearliest.symm.trans hearliest')
    cases Option.some.inj (hlatest.symm.trans hlatest')
    obtain ⟨lateStart, hwin⟩ := windowOf_starts hwindow hstart hpre
    subst hwin
    have hfigures := @attentionIn_figures answers item path _ lateStart _ hfirst hstop
      (hmeasured.mpr hrow)
    obtain ⟨start', preStart', -, hstart', hpre', -, hdays, -⟩ :=
      (hnever eventId attention hget).2.2 (by
      left
      rw [hattention, hfigures.1, (hsums _ _ _ rfl).1]
      exact Option.some_ne_none _)
    rw [hattention] at hstart'
    have hsame : start = start' := Option.some.inj (hstart.symm.trans hstart')
    subst hsame
    cases Option.some.inj (hpre.symm.trans hpre')
    exact hdays
  · intro hwhole eventId attention hget
    obtain ⟨item, paths, path, window, answers, hlast, hpaths, hpath, hwindow, hattention,
      hearliest, hlatest,
      hmeasured, hsums⟩ := hentries eventId attention hget
    subst hattention
    have hitem := lastOf_spec hlast
    refine ⟨⟨item, hitem.1, hitem.2, rfl⟩, ⟨paths, hpaths, hpath⟩, fun hfigure => ?_⟩
    obtain ⟨preStart, lateStart, start, hwin, hfirst, hstop, hkey⟩ := attentionIn_shown hfigure
    subst hwin
    obtain ⟨hstart, hpre, hlate⟩ := windowOf_spec hwindow
    have hfigures := @attentionIn_figures answers item path _ lateStart _ hfirst hstop hkey
    have hsum := hsums _ _ _ rfl
    refine ⟨start, preStart, lateStart, hstart, hpre, hlate, ?_, ?_, ?_⟩
    · exact hwhole paths eventId item path start preStart answers.earliest answers.latest
        hpaths hlast hpath
        (hmeasured.mp hkey) hstart hpre hearliest hlatest hfirst hstop
    · rw [hfigures.1, hsum.1, total_inWindow snapshots path hpre]
      rfl
    · rw [hfigures.2, hsum.2, total_inWindow snapshots path hlate]
      rfl

end Attached

/-! ### A window without a single collected day -/

def sampleSnapshot (pk : Nat) (day : Date) : Ga4Snapshot where
  pk := pk
  source := 6
  artifact := pk
  importRun := pk
  day := day
  observedAt := 0
  checksum := ""
  revision := 1
  supersedes := none
  isCurrentForDate := true
  content :=
    { site := ⟨some 9, none, none, some 5, none, none⟩
      hasPageDetail := true
      hasChannelDetail := false
      pages := [⟨"/x", 5, none, none, ""⟩]
      channels := [] }

def sampleFirst : Date := .of 2026 1 1

def sampleLast : Date := .of 2026 3 31

/-- The first and the last day, and nothing between them. -/
def sampleHistory : List Ga4Snapshot := [sampleSnapshot 1 sampleFirst, sampleSnapshot 2 sampleLast]

def sampleEvent : AttentionItem where
  eventId := "E1"
  publicUrl := "https://www.koda.ee/x"
  startDate := some (.of 2026 2 15)

def sampleAttention : EventAttention where
  eventId := "E1"
  path := "/x"
  startDate := sampleEvent.startDate
  totalViews := some 10
  preEventViews := some 0
  lateViews := some 0
  recentViews := some 5
  windowIsComplete := true

theorem sampleHistory_attached :
    (attachAttention Visibility.plainCheck Dict.empty sampleHistory none [sampleEvent]).toOption.map
      (·.entries) = some [("E1", sampleAttention)] := by
  decide +kernel

theorem exists_sampleResult : ∃ result,
    attachAttention Visibility.plainCheck Dict.empty sampleHistory none [sampleEvent] = .ok result ∧
      result.get? "E1" = some sampleAttention := by
  have h := sampleHistory_attached
  cases hresult : attachAttention Visibility.plainCheck Dict.empty sampleHistory none
      [sampleEvent] with
  | error e =>
    rw [hresult] at h
    cases h
  | ok result =>
    rw [hresult] at h
    refine ⟨result, rfl, Dict.get?_eq_some_iff.mpr ?_⟩
    have hentries : result.entries = [("E1", sampleAttention)] := Option.some.inj h
    rw [hentries]
    exact List.mem_singleton.mpr rfl

/-- The event is given a figure although no day of its window was collected. -/
theorem attachAttention_partial : ∃ result,
    attachAttention Visibility.plainCheck Dict.empty sampleHistory none [sampleEvent] = .ok result ∧
      ¬ NeverPartial Visibility.plainCheck Dict.empty sampleHistory [sampleEvent] result := by
  obtain ⟨result, hresult, hget⟩ := exists_sampleResult
  refine ⟨result, hresult, fun hnever => ?_⟩
  obtain ⟨start, preStart, -, hstart, hpre, -, hdays, -⟩ :=
    (hnever "E1" sampleAttention hget).2.2 (Or.inl (Option.some_ne_none _))
  -- the start itself is a day of the window
  have hwindow : preStart ≤ start := Date.subDays?_le hpre
  obtain ⟨snapshot, hmem, hday, -⟩ := hdays start hwindow le_rfl
  have hcollected : ∀ snapshot ∈ currentDays sampleHistory,
      sampleEvent.startDate ≠ some snapshot.day := by
    decide
  exact hcollected snapshot hmem (by rw [hday]; exact hstart)

theorem attachAttention_iff_sample : ∃ result,
    attachAttention Visibility.plainCheck Dict.empty sampleHistory none [sampleEvent] = .ok result ∧
      (NeverPartial Visibility.plainCheck Dict.empty sampleHistory [sampleEvent] result ↔
        WindowsWhole Visibility.plainCheck Dict.empty sampleHistory (getCoverage sampleHistory)
          [sampleEvent]) := by
  obtain ⟨result, hresult, -⟩ := exists_sampleResult
  exact ⟨result, hresult, attachAttention_iff hresult⟩

end Dashkoda.EventProgramme
