import Dashkoda.LegalWork.Workbook
import Dashkoda.Lib.Counting
import Dashkoda.Lib.Grouping
import Dashkoda.Lib.Ordinal
import Dashkoda.Membership.Ranges
import Mathlib.Data.Prod.Lex
import Mathlib.Data.Rat.Cast.Order
import Mathlib.Order.BooleanAlgebra.Defs

/-!
# The figures of the register

A snapshot's rows are grouped by their own dates up to its reporting date.  Every figure has its own
filter, and the figures shown side by side add up: each row falls into one part of each partition.
-/

open Lib

namespace Dashkoda.LegalWork.Analytics

open Dashkoda.Membership (ValueError makeDate)

/-! ## Definitions -/

def UNKNOWN_STAGE_LABEL : String := "Määramata"

def DEADLINE_BANDS : Bands where
  list := [⟨"0–3 päeva", 0, some 3⟩, ⟨"4–7 päeva", 4, some 7⟩, ⟨"8–14 päeva", 8, some 14⟩,
    ⟨"15–21 päeva", 15, some 21⟩,
    ⟨"Hiljem", 22, none⟩]
  nonempty := by decide
  labels_nodup := by decide

def AGE_BANDS : Bands where
  list :=
    [⟨"Alla 30 päeva", 0, some 29⟩, ⟨"30–90 päeva", 30, some 90⟩, ⟨"91–180 päeva", 91, some 180⟩,
    ⟨"181–365 päeva", 181, some 365⟩, ⟨"1–2 aastat", 366, some 730⟩, ⟨"Üle 2 aasta", 731, none⟩]
  nonempty := by decide
  labels_nodup := by decide

def RESPONSE_WINDOW_BANDS : Bands where
  list := [⟨"0–7 päeva", 0, some 7⟩, ⟨"8–14 päeva", 8, some 14⟩, ⟨"15–21 päeva", 15, some 21⟩,
    ⟨"22–30 päeva", 22, some 30⟩,
    ⟨"Üle 30 päeva", 31, none⟩]
  nonempty := by decide
  labels_nodup := by decide

def SHORT_WINDOW_DAYS : Int := 14

/-- A revision of the register, as far as its figures read it. -/
structure RegisterSnapshot where
  reportingDate : Date
  items : List WorkbookRow

/-- `(a - b).days` -/
def daysFrom (b a : Date) : Int := (a.toOrdinal : Int) - b.toOrdinal

/-- `median_days`, of values none of which is absent. -/
def medianDays (values : List Int) : Option ℚ :=
  let ordered := sortOn id values
  let middle := ordered.length / 2
  if values = [] then none
  else if ordered.length % 2 = 1 then ordered[middle]?.map fun value : Int => (value : ℚ)
  else do
    let low ← ordered[middle - 1]?
    let high ← ordered[middle]?
    return ((low : ℚ) + (high : ℚ)) / 2

/-- `mean_days` -/
def meanDays (values : List Int) : Option ℚ :=
  if values = [] then none else some (((values.sum : Int) : ℚ) / values.length)

/-- `_items` -/
def itemsOf : Option RegisterSnapshot → List WorkbookRow
  | none => []
  | some snapshot => snapshot.items

/-- `_sent`: the rows that count as sent, with the date that proves it. -/
def sentOf (snapshot : Option RegisterSnapshot) : List WorkbookRow :=
  (itemsOf snapshot).filter fun row => row.sentStatus = "sent" ∧ row.sentDate ≠ none

def openOf (snapshot : Option RegisterSnapshot) : List WorkbookRow :=
  (itemsOf snapshot).filter (·.isOpen)

/-! ## Stages -/

structure StageCount where
  label : String
  stageKey : String
  count : Nat
  deriving DecidableEq

structure StageBreakdown where
  stages : List StageCount
  total : Nat

/-- What is collected under a key: its count, and the first spelling that is not blank. -/
structure StageEntry where
  count : Nat
  label : String

def collectStage (byKey : Dict String StageEntry) (row : (String × String) × Nat) :
    Dict String StageEntry :=
  let key := PyText.strip row.1.1
  let label := PyText.strip row.1.2
  let entry := (byKey.get? key).getD ⟨0, ""⟩
  byKey.set key ⟨entry.count + row.2, if entry.label = "" then label else entry.label⟩

section Stages

variable {κ : Type} [LinearOrder κ] (collate : String → κ)

/-- `stage_breakdown` -/
def stageBreakdown (snapshot : Option RegisterSnapshot) : StageBreakdown :=
  let items := openOf snapshot
  let rows :=
    sortOn (fun row => toLex (collate row.1.1, toLex (OrderDual.toDual row.2, collate row.1.2)))
    (countBy (fun row : WorkbookRow => (row.stageKey, row.stage)) items)
  let byKey := rows.foldl collectStage Dict.empty
  let stages := byKey.entries.map fun entry =>
    (⟨if entry.2.label = "" then UNKNOWN_STAGE_LABEL else entry.2.label, entry.1,
      entry.2.count⟩ : StageCount)
  { stages := sortOn (fun stage => toLex (OrderDual.toDual stage.count,
      toLex (decide (stage.stageKey = ""), stage.label))) stages
    total := items.length }

end Stages

/-! ## Monthly flow -/

structure MonthlyFlow where
  year : Int
  counts : List Nat
  completeThroughMonth : Nat
  partialMonth : Option Nat
  missingDateCount : Nat
  deriving DecidableEq

def MonthlyFlow.total (flow : MonthlyFlow) : Nat := flow.counts.sum

/-- `_monthly_counts`: the rows whose date is in the year, up to a day. -/
def monthlyCounts (rows : List WorkbookRow) (field : WorkbookRow → Option Date) (year : Int)
    (upper : Option Date) :
    Dict Nat Nat :=
  let dated := (rows.filterMap field).filter fun date => (date.year : Int) = year ∧
    ∀ last ∈ upper, date ≤ last
  Dict.ofList (countBy (·.month) dated)

/-- The month after a month: `dt.date(year + 1, 1, 1)` after December. -/
def nextMonthFirst (year : Nat) (lastMonth : Nat) : Except ValueError Date :=
  if lastMonth = 12 then makeDate (year + 1) 1 1 else makeDate year (lastMonth + 1) 1

/-- The twelve months, or those the year has reached. -/
def flowOf (year : Int) (counts : Dict Nat Nat) (lastMonth : Nat) (partialMonth : Option Nat)
    (missing : Nat) : MonthlyFlow where
  year := year
  counts := (List.range' 1 lastMonth).map fun month => (counts.get? month).getD 0
  completeThroughMonth := if partialMonth = none then lastMonth else lastMonth - 1
  partialMonth := partialMonth
  missingDateCount := missing

/-- `_flow` -/
def flow (year : Int) (counts : Dict Nat Nat) (reportingDate : Date) (missing : Nat) :
    Except ValueError MonthlyFlow :=
  if year = reportingDate.year then do
    let first ← nextMonthFirst reportingDate.year reportingDate.month
    -- a reporting date on the last day of its month describes a whole month
    return flowOf year counts reportingDate.month
      (if Date.subDays? 1 first = some reportingDate then none else
        some reportingDate.month) missing
  else .ok (flowOf year counts 12 none missing)

/-- `monthly_sent_opinions` -/
def monthlySentOpinions (snapshot : Option RegisterSnapshot) (year : Int) :
    Except ValueError MonthlyFlow :=
  match snapshot with
  | none => .ok ⟨year, [], 0, none, 0⟩
  | some register =>
    let upper := if year = register.reportingDate.year then some register.reportingDate else none
    flow year (monthlyCounts (sentOf snapshot) (·.sentDate) year upper) register.reportingDate 0

structure AnnualPoint where
  year : Int
  count : Nat
  isPartial : Bool
  deriving DecidableEq

/-- `annual_sent_opinions` -/
def annualSentOpinions : Option RegisterSnapshot → List AnnualPoint
  | none => []
  | some register =>
    let dates := ((sentOf (some register)).filterMap (·.sentDate)).filter
      (· ≤ register.reportingDate)
    (sortOn Prod.fst (countBy (fun date : Date => (date.year : Int)) dates)).map fun row =>
      ⟨row.1, row.2, row.1 = (register.reportingDate.year : Int)⟩

/-- The annual figure of a year: none of the points is zero. -/
def annualFigure (points : List AnnualPoint) (year : Int) : Nat :=
  ((points.find? (·.year = year)).map (·.count)).getD 0

/-! ## Response windows -/

structure ResponseWindowYear where
  year : Int
  eligible : Nat
  median : Option ℚ
  mean : Option ℚ
  missingDates : Nat
  invalidInterval : Nat
  isPartial : Bool

/-- A row's arrival and deadline, where it has both and they are in order. -/
def responseWindow (row : WorkbookRow) : Option (Date × Date) :=
  match row.receivedDate, row.deadlineDate with
  | some received, some deadline => if received ≤ deadline then some (received, deadline) else none
  | _, _ => none

/-- `_response_window_rows` -/
def responseWindowRows (snapshot : Option RegisterSnapshot) : List (Date × Date) :=
  (itemsOf snapshot).filterMap responseWindow

def lacksDate (row : WorkbookRow) : Bool := row.receivedDate = none || row.deadlineDate = none

/-- Both dates are there, and the deadline is before the arrival. -/
def isInvalid (row : WorkbookRow) : Bool :=
  match row.receivedDate, row.deadlineDate with
  | some received, some deadline => deadline < received
  | _, _ => false

/-- `_year_counts`: by the year of arrival, or by the register's own year where the fallback is
given. -/
def yearCounts (rows : List WorkbookRow) (fallback : Bool) : Dict Int Nat :=
  let dated :=
    Dict.ofList (countBy (fun date : Date => (date.year : Int)) (rows.filterMap (·.receivedDate)))
  if fallback then
    (countBy (·.sourceYear) (rows.filter (·.receivedDate = none))).foldl
      (fun counts row => counts.countUp row.1 row.2) dated
  else dated

/-- `response_window_by_year` -/
def responseWindowByYear : Option RegisterSnapshot → List ResponseWindowYear
  | none => []
  | some register =>
    let byYear := Dict.groupBy ((responseWindowRows (some register)).map fun window =>
      ((window.1.year : Int), daysFrom window.1 window.2))
    let missing := yearCounts (register.items.filter lacksDate) true
    let invalid := yearCounts (register.items.filter isInvalid) false
    let years := sortOn id (byYear.keys ++ missing.keys ++ invalid.keys).dedup
    years.map fun year =>
      let windows := (byYear.get? year).getD []
      { year
        eligible := windows.length
        median := medianDays windows
        mean := meanDays windows
        missingDates := (missing.get? year).getD 0
        invalidInterval := (invalid.get? year).getD 0
        isPartial := year = register.reportingDate.year }

structure ResponseWindowDistribution where
  bands : List (String × Nat)
  eligible : Nat
  shortWindowCount : Nat
  median : Option ℚ

/-- `response_window_distribution` -/
def responseWindowDistribution (snapshot : Option RegisterSnapshot) (year : Option Int) :
    ResponseWindowDistribution :=
  let values :=
    ((responseWindowRows snapshot).filter fun window => ∀ y ∈ year, (window.1.year : Int) = y).map
    fun window => daysFrom window.1 window.2
  { bands := RESPONSE_WINDOW_BANDS.counted values
    eligible := values.length
    shortWindowCount := values.countP (· ≤ SHORT_WINDOW_DAYS)
    median := medianDays values }

/-! ## Open work -/

structure ActiveAge where
  bands : List (String × Nat)
  median : Option ℚ
  measured : Nat
  missingReceivedDate : Nat
  futureReceivedDate : Nat

/-- `active_topic_age` -/
def activeTopicAge : Option RegisterSnapshot → ActiveAge
  | none => ⟨AGE_BANDS.counted [], none, 0, 0, 0⟩
  | some register =>
    let items := openOf (some register)
    let ages := ((items.filterMap (·.receivedDate)).filter (· ≤ register.reportingDate)).map
      fun received => daysFrom received register.reportingDate
    { bands := AGE_BANDS.counted ages
      median := medianDays ages
      measured := ages.length
      missingReceivedDate := items.countP (·.receivedDate = none)
      futureReceivedDate := items.countP fun row =>
        row.receivedDate.any (register.reportingDate < ·) }

structure DeadlinePressure where
  bands : List (String × Nat)
  dueWithin7 : Nat
  overduePending : Nat
  overdueAlreadySent : Nat
  withoutDeadline : Nat

/-- `deadline_pressure` -/
def deadlinePressure : Option RegisterSnapshot → DeadlinePressure
  | none => ⟨DEADLINE_BANDS.counted [], 0, 0, 0, 0⟩
  | some register =>
    let items := openOf (some register)
    let days := ((items.filterMap (·.deadlineDate)).filter (register.reportingDate ≤ ·)).map
      fun deadline => daysFrom register.reportingDate deadline
    let passed := items.filter fun row => row.deadlineDate.any (· < register.reportingDate)
    let within := DEADLINE_BANDS.list.filter fun band => band.high.any (· ≤ 7)
    { bands := DEADLINE_BANDS.counted days
      dueWithin7 := total (fun band => ((DEADLINE_BANDS.counts days).get? band.label).getD 0) within
      overduePending := passed.countP (·.sentStatus ≠ "sent")
      overdueAlreadySent := passed.countP (·.sentStatus = "sent")
      withoutDeadline := items.countP (·.deadlineDate = none) }

/-! ## What is shown side by side -/

/-- The figures of a page add up. -/
structure Reconciles {κ : Type} [LinearOrder κ] (collate : String → κ)
    (register : RegisterSnapshot) : Prop where
  stages : total (·.count) (stageBreakdown collate (some register)).stages =
    (openOf (some register)).length
  months : ∀ year : Int, 1 ≤ year → year ≤ register.reportingDate.year →
    ∃ flow, monthlySentOpinions (some register) year = .ok flow ∧
      flow.total = annualFigure (annualSentOpinions (some register)) year
  windows : total (fun year => year.eligible + year.missingDates + year.invalidInterval)
    (responseWindowByYear (some register)) = register.items.length
  windowBands : ∀ year : Option Int, total Prod.snd
    (responseWindowDistribution (some register) year).bands =
    (responseWindowDistribution (some register) year).eligible
  ages : (activeTopicAge (some register)).measured +
    (activeTopicAge (some register)).missingReceivedDate +
    (activeTopicAge (some register)).futureReceivedDate = (openOf (some register)).length
  ageBands : total Prod.snd (activeTopicAge (some register)).bands =
    (activeTopicAge (some register)).measured
  deadlines : total Prod.snd (deadlinePressure (some register)).bands +
    (deadlinePressure (some register)).overduePending +
    (deadlinePressure (some register)).overdueAlreadySent +
      (deadlinePressure (some register)).withoutDeadline =
      (openOf (some register)).length

/-! ## Stages -/

section Stages

variable {κ : Type} [LinearOrder κ] (collate : String → κ)

/-- One row of the grouped query adds its count, whatever key it falls under. -/
theorem total_collectStage (byKey : Dict String StageEntry) (row : (String × String) × Nat) :
    total (fun entry => entry.2.count) (collectStage byKey row).entries =
      total (fun entry => entry.2.count) byKey.entries + row.2 := by
  have hold : ((byKey.get? (PyText.strip row.1.1)).map StageEntry.count).getD 0 =
      ((byKey.get? (PyText.strip row.1.1)).getD ⟨0, ""⟩).count := by
    cases byKey.get? (PyText.strip row.1.1) with
    | none => rfl
    | some entry => rfl
  unfold collectStage
  dsimp only
  generalize hentry : (⟨_, _⟩ : StageEntry) = entry
  have hset := Dict.total_set StageEntry.count byKey (PyText.strip row.1.1) entry
  rw [hold] at hset
  have hcount : entry.count = ((byKey.get? (PyText.strip row.1.1)).getD ⟨0, ""⟩).count + row.2 :=
    hentry ▸ rfl
  omega

theorem total_foldl_collectStage (rows : List ((String × String) × Nat))
    (byKey : Dict String StageEntry) :
    total (fun entry => entry.2.count) (rows.foldl collectStage byKey).entries =
      total (fun entry => entry.2.count) byKey.entries + total Prod.snd rows := by
  induction rows generalizing byKey with
  | nil => rfl
  | cons row rest ih => rw [List.foldl_cons, ih, total_collectStage, total_cons, add_assoc]

/-- No open row falls out of the stages. -/
theorem total_stages (snapshot : Option RegisterSnapshot) :
    total (·.count) (stageBreakdown collate snapshot).stages = (openOf snapshot).length := by
  unfold stageBreakdown
  dsimp only
  rw [total_perm _ (perm_sortOn _ _), total_map, total_foldl_collectStage,
    total_perm _ (perm_sortOn _ _), total_countBy]
  exact Nat.zero_add _

end Stages

/-! ## Months and years -/

section Months

variable {register : RegisterSnapshot} {year : Int}

/-- The first of the next month leaves the calendar after the last month of the year 9999. -/
theorem nextMonthFirst_iff (date : Date) :
    (∃ first, nextMonthFirst date.year date.month = .ok first) ↔
    ¬ (date.year = 9999 ∧ date.month = 12) := by
  have hyear := date.year_range
  have hmonth := date.month_range
  unfold nextMonthFirst makeDate
  by_cases hlast : date.month = 12
  · rw [if_pos hlast]
    by_cases hend : date.year = 9999
    · refine iff_of_false ?_ (not_not_intro ⟨hend, hlast⟩)
      rintro ⟨first, hok⟩
      rw [hend] at hok
      cases hok
    · obtain ⟨first, hfirst⟩ :=
        @Membership.ofNumbers?_first (date.year + 1) 1 (by omega) (by decide)
      have hnext : ((date.year : Int) + 1).toNat = date.year + 1 := by omega
      refine iff_of_true ⟨first, ?_⟩ fun h => hend h.1
      rw [hnext, show (1 : Int).toNat = 1 from rfl, hfirst]
  · rw [if_neg hlast]
    obtain ⟨first, hfirst⟩ :=
      @Membership.ofNumbers?_first date.year (date.month + 1) hyear (by omega)
    have hnext : ((date.month : Int) + 1).toNat = date.month + 1 := by omega
    refine iff_of_true ⟨first, ?_⟩ fun h => hlast h.2
    rw [Int.toNat_natCast, hnext, show (1 : Int).toNat = 1 from rfl, hfirst]

/-- The days of the sent rows that are in a year, up to the reporting date. -/
def sentDays (register : RegisterSnapshot) (year : Int) : List Date :=
  ((sentOf (some register)).filterMap (·.sentDate)).filter fun date =>
    (date.year : Int) = year ∧ date ≤ register.reportingDate

theorem annualFigure_eq (register : RegisterSnapshot) (year : Int) :
    annualFigure (annualSentOpinions (some register)) year = (sentDays register year).length := by
  unfold annualFigure annualSentOpinions
  dsimp only
  rw [List.find?_map, Option.map_map]
  have hfound := find?_countBy (perm_sortOn Prod.fst (countBy (fun date : Date => (date.year : Int))
    (((sentOf (some register)).filterMap (·.sentDate)).filter (· ≤ register.reportingDate)))) year
  refine Eq.trans (Eq.trans ?_ hfound) ?_
  · rfl
  · unfold sentDays
    rw [List.countP_filter, ← List.countP_eq_length_filter]
    refine List.countP_congr fun date _ => ?_
    simp

/-- The days the months are counted from: the cut-off is needed in the reporting year alone. -/
theorem monthDays_eq (hyear : year ≤ register.reportingDate.year) :
    (((sentOf (some register)).filterMap (·.sentDate)).filter fun date => (date.year : Int) = year ∧
      ∀ last ∈ (if year = register.reportingDate.year then some register.reportingDate else none),
        date ≤ last) =
        sentDays register year := by
  unfold sentDays
  refine List.filter_congr fun date _ => decide_eq_decide.mpr (and_congr_right fun hdate => ?_)
  by_cases h : year = register.reportingDate.year
  · rw [if_pos h]
    simp
  · rw [if_neg h]
    have hbefore : date < register.reportingDate := Date.lt_iff.mpr (Or.inl (by omega))
    exact iff_of_true (fun _ hnone => by cases hnone) hbefore.le

/-- Over the months that are drawn, every day is counted once. -/
theorem total_flowOf {days : List Date} {lastMonth : Nat}
    (hdays : ∀ date ∈ days, date.month ≤ lastMonth) (partialMonth : Option Nat)
    (missing : Nat) :
    (flowOf year (Dict.ofList (countBy (·.month) days)) lastMonth partialMonth missing).total =
      days.length := by
  unfold flowOf MonthlyFlow.total
  show total _ _ = _
  rw [total_congr fun month _ => Dict.get?_countBy (·.month) days month]
  refine total_countP_of_mem (fun date : Date => date.month) List.nodup_range' fun date hdate => ?_
  have hmonth := date.month_range
  have hlast := hdays date hdate
  rw [List.mem_range'_1]
  omega

/-- The months of a year up to the reporting year add up, where the next month is in the
calendar. -/
theorem monthlySentOpinions_total (hyear : year ≤ register.reportingDate.year)
    (hnext : year = register.reportingDate.year →
      ¬ (register.reportingDate.year = 9999 ∧ register.reportingDate.month = 12)) :
    ∃ flow, monthlySentOpinions (some register) year = .ok flow ∧
      flow.total = annualFigure (annualSentOpinions (some register)) year := by
  rw [annualFigure_eq]
  unfold monthlySentOpinions flow monthlyCounts
  dsimp only
  rw [monthDays_eq hyear]
  by_cases h : year = register.reportingDate.year
  · obtain ⟨first, hfirst⟩ := (nextMonthFirst_iff register.reportingDate).mpr (hnext h)
    rw [if_pos h, hfirst]
    refine ⟨_, rfl, total_flowOf (fun date hdate => ?_) _ _⟩
    -- within the reporting year, a day that is not after the reporting date is not in a later month
    have hin := of_decide_eq_true (List.mem_filter.mp hdate).2
    have hle := mt Date.lt_iff.mpr (not_lt.mpr hin.2)
    rw [not_or, not_and] at hle
    omega
  · rw [if_neg h]
    exact ⟨_, rfl, total_flowOf (fun date _ => date.month_range.2) _ _⟩

/-- In the last month of the calendar the reporting year has no months. -/
theorem monthlySentOpinions_fails
    (hend : register.reportingDate.year = 9999 ∧ register.reportingDate.month = 12) :
    ¬ ∃ flow, monthlySentOpinions (some register) register.reportingDate.year = .ok flow := by
  rintro ⟨shown, hshown⟩
  unfold monthlySentOpinions flow at hshown
  dsimp only at hshown
  rw [if_pos rfl] at hshown
  obtain ⟨first, hfirst, -⟩ := bind_eq_ok_iff.mp hshown
  exact (nextMonthFirst_iff register.reportingDate).mp ⟨first, hfirst⟩ hend

end Months

/-! ## Response windows -/

section Windows

/-- The year a row's missing or reversed dates are counted under. -/
def cohortYear (row : WorkbookRow) : Int :=
  match row.receivedDate with
  | some received => received.year
  | none => row.sourceYear

/-- The rows with an arrival are counted by it, the others by the register's own year. -/
theorem countP_cohortYear (rows : List WorkbookRow) (year : Int) :
    ((rows.filterMap (·.receivedDate)).countP fun date => (date.year : Int) = year) +
        ((rows.filter (·.receivedDate = none)).countP fun row => row.sourceYear = year) =
      rows.countP fun row => cohortYear row = year := by
  induction rows with
  | nil => rfl
  | cons row rest ih =>
    rw [List.countP_cons, ← ih]
    cases hreceived : row.receivedDate with
    | none =>
      have hcohort : cohortYear row = row.sourceYear := by
        unfold cohortYear
        rw [hreceived]
      rw [List.filterMap_cons_none hreceived, List.filter_cons_of_pos (by simp [hreceived]),
        List.countP_cons, hcohort,
        add_assoc]
    | some received =>
      have hcohort : cohortYear row = received.year := by
        unfold cohortYear
        rw [hreceived]
      rw [List.filterMap_cons_some hreceived, List.filter_cons_of_neg (by simp [hreceived]),
        List.countP_cons, hcohort,
        add_right_comm]

/-- What `_year_counts` finds for a year: no row is lost to the fallback, where one without an
arrival has it. -/
theorem get?_yearCounts {rows : List WorkbookRow} {fallback : Bool}
    (h : fallback = false → ∀ row ∈ rows, row.receivedDate ≠ none) (year : Int) :
    ((yearCounts rows fallback).get? year).getD 0 = rows.countP fun row =>
      cohortYear row = year := by
  rw [← countP_cohortYear]
  unfold yearCounts
  cases fallback with
  | true =>
    dsimp only
    rw [if_pos rfl, Dict.get?_foldl_countUp, Dict.get?_countBy, totalAt_countBy]
  | false =>
    dsimp only
    have hnone : rows.filter (·.receivedDate = none) = [] :=
      List.filter_eq_nil_iff.mpr fun row hrow hreceived =>
        h rfl row hrow (of_decide_eq_true hreceived)
    rw [if_neg Bool.false_ne_true, Dict.get?_countBy, hnone, List.countP_nil, add_zero]

theorem cohortYear_mem_yearCounts {rows : List WorkbookRow} {fallback : Bool}
    (h : fallback = false → ∀ row ∈ rows, row.receivedDate ≠ none) {row : WorkbookRow}
    (hrow : row ∈ rows) :
    cohortYear row ∈ (yearCounts rows fallback).keys := by
  by_contra hnone
  have hcount := get?_yearCounts h (cohortYear row)
  rw [Dict.get?_eq_none_of_not_mem_keys hnone] at hcount
  exact List.countP_eq_zero.mp hcount.symm row hrow (decide_eq_true rfl)

/-- A row is measured, or lacks a date, or has its dates the wrong way round. -/
theorem length_responseWindows (rows : List WorkbookRow) :
    (rows.filterMap responseWindow).length + (rows.filter lacksDate).length +
      (rows.filter isInvalid).length =
      rows.length := by
  induction rows with
  | nil => rfl
  | cons row rest ih =>
    rw [List.filter_cons, List.filter_cons, List.filterMap_cons, List.length_cons]
    unfold lacksDate isInvalid responseWindow at *
    cases hreceived : row.receivedDate with
    | none =>
      simp only [decide_true, Bool.true_or, if_true, Bool.false_eq_true, if_false, List.length_cons]
      omega
    | some received =>
      cases hdeadline : row.deadlineDate with
      | none =>
        simp only [decide_true, Bool.or_true, if_true, Bool.false_eq_true, if_false,
          List.length_cons]
        omega
      | some deadline =>
        by_cases horder : received ≤ deadline
        · simp [horder, not_lt.mpr horder]
          omega
        · simp [horder, not_le.mp horder]
          omega

theorem total_responseWindowByYear (register : RegisterSnapshot) :
    total (fun year => year.eligible + year.missingDates + year.invalidInterval)
      (responseWindowByYear (some register)) =
      register.items.length := by
  unfold responseWindowByYear
  dsimp only
  generalize hwindows : (responseWindowRows (some register)).map (fun window =>
    ((window.1.year : Int), daysFrom window.1 window.2)) = windows
  have hinvalid : false = false → ∀ row ∈ register.items.filter isInvalid,
      row.receivedDate ≠ none := by
    intro _ row hrow hnone
    have hin := (List.mem_filter.mp hrow).2
    unfold isInvalid at hin
    rw [hnone] at hin
    cases hin
  have hmissing : true = false → ∀ row ∈ register.items.filter lacksDate, row.receivedDate ≠ none :=
    fun h => by cases h
  generalize hyears : sortOn id
    ((Dict.groupBy windows).keys ++ (yearCounts (register.items.filter lacksDate) true).keys ++
    (yearCounts (register.items.filter isInvalid) false).keys).dedup = years
  have hnodup : years.Nodup := hyears ▸ (perm_sortOn id _).nodup_iff.mpr (List.nodup_dedup _)
  have hmem (year : Int) : year ∈ years ↔ (year ∈ (Dict.groupBy windows).keys ∨
      year ∈ (yearCounts (register.items.filter lacksDate) true).keys) ∨
        year ∈ (yearCounts (register.items.filter isInvalid) false).keys := by
    rw [← hyears, (perm_sortOn id _).mem_iff, List.mem_dedup, List.mem_append, List.mem_append]
  rw [total_map, total_add, total_add]
  -- each of the three figures counts its rows by a year that is among the years
  have heligible : total (fun year => (((Dict.groupBy windows).get? year).getD []).length) years =
      windows.length := by
    rw [total_congr fun year _ => show _ = windows.countP fun window => window.1 = year by
      rw [Dict.get?_groupBy, List.length_map, List.countP_eq_length_filter]]
    refine total_countP_of_mem _ hnodup fun window hwindow => (hmem _).mpr (Or.inl (Or.inl ?_))
    exact Dict.mem_keys_groupBy.mpr (List.mem_map_of_mem hwindow)
  have hlack : total
      (fun year => ((yearCounts (register.items.filter lacksDate) true).get? year).getD 0) years =
      (register.items.filter lacksDate).length := by
    rw [total_congr fun year _ => get?_yearCounts hmissing year]
    exact total_countP_of_mem _ hnodup fun row hrow =>
      (hmem _).mpr (Or.inl (Or.inr (cohortYear_mem_yearCounts hmissing hrow)))
  have hreversed : total
      (fun year => ((yearCounts (register.items.filter isInvalid) false).get? year).getD 0) years =
      (register.items.filter isInvalid).length := by
    rw [total_congr fun year _ => get?_yearCounts hinvalid year]
    exact total_countP_of_mem _ hnodup fun row hrow =>
      (hmem _).mpr (Or.inr (cohortYear_mem_yearCounts hinvalid hrow))
  rw [heligible, hlack, hreversed, ← hwindows, List.length_map]
  exact length_responseWindows register.items

end Windows

/-! ## Open work -/

section OpenWork

/-- A row has no date, or one that is counted, or one that is not. -/
theorem length_dated (rows : List WorkbookRow) (field : WorkbookRow → Option Date)
    (counts : Date → Bool) :
    ((rows.filterMap field).filter counts).length + rows.countP (fun row => field row = none) +
        rows.countP (fun row => (field row).any fun date => !counts date) = rows.length := by
  induction rows with
  | nil => rfl
  | cons row rest ih =>
    rw [List.countP_cons, List.countP_cons, List.length_cons, List.filterMap_cons]
    cases hfield : field row with
    | none =>
      simp
      omega
    | some date =>
      cases hcounts : counts date with
      | false =>
        simp [hcounts]
        omega
      | true =>
        simp [hcounts]
        omega

variable (register : RegisterSnapshot)

theorem activeTopicAge_total :
    (activeTopicAge (some register)).measured +
      (activeTopicAge (some register)).missingReceivedDate +
      (activeTopicAge (some register)).futureReceivedDate = (openOf (some register)).length := by
  rw [← length_dated (openOf (some register)) (·.receivedDate) (· ≤ register.reportingDate)]
  unfold activeTopicAge
  dsimp only
  rw [List.length_map]
  congr 1
  refine List.countP_congr fun row _ => ?_
  cases row.receivedDate with
  | none => rfl
  | some received => simp

theorem deadlinePressure_total :
    total Prod.snd (deadlinePressure (some register)).bands +
      (deadlinePressure (some register)).overduePending +
      (deadlinePressure (some register)).overdueAlreadySent +
        (deadlinePressure (some register)).withoutDeadline =
        (openOf (some register)).length := by
  rw [← length_dated (openOf (some register)) (·.deadlineDate) (register.reportingDate ≤ ·)]
  unfold deadlinePressure
  dsimp only
  rw [DEADLINE_BANDS.total_counted, List.length_map]
  have hpassed : ((openOf (some register)).filter fun row =>
      row.deadlineDate.any (· < register.reportingDate)).length =
      (openOf (some register)).countP fun row => row.deadlineDate.any fun date =>
          !decide (register.reportingDate ≤ date) := by
    rw [← List.countP_eq_length_filter]
    refine List.countP_congr fun row _ => ?_
    cases row.deadlineDate with
    | none => rfl
    | some deadline => simp
  have hsent (rows : List WorkbookRow) :
      rows.length = rows.countP (·.sentStatus = "sent") + rows.countP (·.sentStatus ≠ "sent") := by
    rw [List.length_eq_countP_add_countP fun row : WorkbookRow => row.sentStatus = "sent"]
    exact congrArg (_ + ·) (List.countP_congr fun row _ => by simp)
  rw [← hpassed, hsent]
  omega

end OpenWork

/-! ## The page as a whole -/

/-- **The figures reconcile** unless the register is dated in the last month of the calendar, after
which no month follows. -/
theorem reconciles_iff {κ : Type} [LinearOrder κ] (collate : String → κ)
    (register : RegisterSnapshot) :
    Reconciles collate register ↔
    ¬ (register.reportingDate.year = 9999 ∧ register.reportingDate.month = 12) := by
  constructor
  · intro h hend
    have hrange := register.reportingDate.year_range
    obtain ⟨shown, hshown, -⟩ := h.months register.reportingDate.year (by omega) le_rfl
    exact monthlySentOpinions_fails hend ⟨shown, hshown⟩
  · intro hnext
    exact {
      stages := total_stages collate (some register)
      months := fun year _ hyear => monthlySentOpinions_total hyear fun _ => hnext
      windows := total_responseWindowByYear register
      windowBands := fun year => RESPONSE_WINDOW_BANDS.total_counted _ |>.trans rfl
      ages := activeTopicAge_total register
      ageBands := by
        unfold activeTopicAge
        dsimp only
        rw [AGE_BANDS.total_counted]
      deadlines := deadlinePressure_total register }

def lastMonthRegister : RegisterSnapshot where
  reportingDate := .of 9999 12 1
  items :=
    [⟨"9999-1", 9999, some 1, "Maksuseadus", "seadus", some (.of 9999 11 3), none, none, "pending",
      "Ministeerium",
    "Kooskõlastus", "kooskõlastus", "", true, [], 2, none, none, none⟩]

/-- A register dated in December 9999 has no months for its own year. -/
theorem last_month_raises : ¬ Reconciles id lastMonthRegister := by
  intro h
  obtain ⟨shown, hshown, -⟩ := h.months 9999 (by decide) (by decide)
  have hraises : monthlySentOpinions (some lastMonthRegister) 9999 = .error .outOfRange := by
    decide +kernel
  rw [hraises] at hshown
  cases hshown

end Dashkoda.LegalWork.Analytics
