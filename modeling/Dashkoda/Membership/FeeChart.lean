import Dashkoda.Lib.Grouping
import Dashkoda.Membership.Analytics
import Dashkoda.Membership.Intelligence
import Mathlib.Tactic.IntervalCases

/-!
# The fee collection chart

Every year is a line across the calendar year, and every reading is set beside the nearest one of
the year before.
-/

open Lib

namespace Dashkoda.Membership

open Core.Formatting (percent percentagePoints euros longDate)

def BUDGET_TARGET_PCT : ℤ := 100

def FEE_AXIS_FLOOR_CEILING : ℤ := 50

def FEE_AXIS_HEADROOM_PCT : ℤ := 10

def SEASON_TOLERANCE_DAYS : Nat := 45

def COMPARISON_YEARS : Nat := 3

/-- `_year_position`, exactly, up to its four decimals. -/
def yearPosition (day : Date) : ℚ :=
  Decimal.roundHalfEven
    (((day.month : ℚ) - 1 + ((day.day : ℚ) - 1) / daysInMonth day.year day.month) * 10 ^ 4) / 10 ^ 4

theorem le_daysInMonth {year month : Nat} (h : 1 ≤ month ∧ month ≤ 12) :
    28 ≤ daysInMonth year month := by
  obtain ⟨hlow, hhigh⟩ := h
  cases hleap : isLeapYear year <;> interval_cases month <;> simp [daysInMonth, hleap]

/-- `_same_season`: the same month and day in the year of another date; February 29 becomes February
28. -/
def sameSeason (day other : Date) : Date :=
  if h : day.day ≤ daysInMonth other.year day.month then
    ⟨other.year, day.month, day.day, other.year_range, day.month_range, ⟨day.day_range.1, h⟩⟩
  else ⟨other.year, day.month, 28, other.year_range, day.month_range,
    ⟨by decide, le_daysInMonth day.month_range⟩⟩

/-- A row that can be drawn: it has a computed percentage, and its date is known to the day. -/
structure Reading where
  row : FeeRow
  pct : ℚ
  computed : row.computedPct = some pct
  dayPrecise : row.isYearPrecision = false

def Reading.date (reading : Reading) : Date := reading.row.observationDate

def readingOf (row : FeeRow) : Option Reading :=
  match hpct : row.computedPct, hday : row.isYearPrecision with
  | some pct, false => some ⟨row, pct, hpct, hday⟩
  | _, _ => none

def drawable (rows : List FeeRow) : List Reading := rows.filterMap readingOf

/-- The readings of each year, in their order. -/
def byYear (rows : List FeeRow) : Dict Nat (List Reading) :=
  Dict.groupBy ((drawable rows).map fun reading => (reading.date.year, reading))

def readingsOf (rows : List FeeRow) (year : Nat) : List Reading := ((byYear rows).get? year).getD []

def years (rows : List FeeRow) : List Nat := sortOn id (byYear rows).keys

/-- `years[-(COMPARISON_YEARS + 1):]` -/
def drawnYears (rows : List FeeRow) : List Nat :=
  (years rows).drop ((years rows).length - (COMPARISON_YEARS + 1))

def currentYear (rows : List FeeRow) : Option Nat := (years rows).getLast?

structure FeePoint where
  x : ℚ
  y : ℚ
  tip : String
  deriving DecidableEq

def Reading.point (reading : Reading) : FeePoint :=
  ⟨yearPosition reading.date, reading.pct, reading.date.isoformat⟩

structure FeeSeries where
  name : String
  data : List FeePoint
  markLine : Option ℤ
  deriving DecidableEq

/-- One year; the reference line is drawn with the current one. -/
def feeSeries (rows : List FeeRow) (year : Nat) : FeeSeries where
  name := toString year
  data := (sortOn Reading.date (readingsOf rows year)).map Reading.point
  markLine := if currentYear rows = some year then some BUDGET_TARGET_PCT else none

structure TooltipRow where
  label : String
  value : String
  emphasis : Bool
  deriving DecidableEq

structure FeeTooltip where
  title : String
  rows : List TooltipRow
  note : String
  deriving DecidableEq

/-- The readings of the year before, as if they were of the year of a reading. -/
def seasonCandidates (rows : List FeeRow) (reading : Reading) : List (Date × ℚ) :=
  (readingsOf rows (reading.date.year - 1)).map fun other =>
    (sameSeason other.date reading.date, other.pct)

/-- What a reading says of itself. -/
def ownRows (reading : Reading) : List TooltipRow :=
  [⟨"Laekunud", euros (reading.row.received.map Figure.toRat), true⟩,
    ⟨"Aastaeelarve", euros (reading.row.budget.map Figure.toRat), false⟩,
    ⟨"Täitmine", percent (some reading.pct), false⟩]

def comparedRows (reading : Reading) (earlierPct : ℚ) : List TooltipRow :=
  [⟨toString (reading.date.year - 1) ++ " lähim võrreldav", percent (some earlierPct), false⟩,
    ⟨"Erinevus", percentagePoints (shareChange (some reading.pct) (some earlierPct)), false⟩]

def feeTooltip (rows : List FeeRow) (reading : Reading) : FeeTooltip where
  title := longDate reading.date
  rows := ownRows reading ++
    match pickComparable (seasonCandidates rows reading) reading.date SEASON_TOLERANCE_DAYS with
    | none => []
    | some found => comparedRows reading found.2
  note := if currentYear rows = some reading.date.year then "" else
    toString reading.date.year ++ ". aasta võrdlus"

/-- `_fee_tooltips`: a date that is read twice keeps the later readout. -/
def feeTooltips (rows : List FeeRow) : Dict String FeeTooltip :=
  Dict.ofList ((byYear rows).entries.flatMap fun entry =>
    entry.2.map fun reading => (reading.date.isoformat, feeTooltip rows reading))

/-- The lowest and the highest percentage, with the target where there is none. -/
def lowestPct (rows : List FeeRow) : ℚ :=
  (((drawable rows).map (·.pct)).min?).getD BUDGET_TARGET_PCT

def highestPct (rows : List FeeRow) : ℚ := ((drawable rows).map (·.pct)).foldl max BUDGET_TARGET_PCT

structure FeeChart where
  xMin : ℚ
  xMax : ℚ
  yMin : ℤ
  yMax : ℤ
  series : List FeeSeries
  tooltips : Dict String FeeTooltip
  footnotes : List String
  observationLabel : String
  tableRows : List (Date × String × String × String × Option String)
  summary : String

/-- `fee_collection_chart` -/
def feeCollectionChart (rows : List FeeRow) : FeeChart where
  xMin := 0
  xMax := 11
  -- down to a ten-point step below the lowest reading, and never so high that the target loses its
  -- context
  yMin := min FEE_AXIS_FLOOR_CEILING (max 0 (⌊(lowestPct rows - FEE_AXIS_HEADROOM_PCT) / 10⌋ * 10))
  yMax := max (BUDGET_TARGET_PCT + 10) (⌊highestPct rows⌋ + 10)
  series := (drawnYears rows).map (feeSeries rows)
  tooltips := feeTooltips rows
  footnotes :=
    (if rows.any (·.reportedWithheld) then
      ["Mõne vaatluse raporteeritud protsent ei ühti summadega ja on kõrvale jäetud; " ++
        "graafik kasutab summadest arvutatud täitmist."] else []) ++
    (if rows.any (·.isYearPrecision) then
      ["Aastatäpsusega vaatlusi ei ole graafikule kantud, sest neil ei ole kuupäeva."] else [])
  observationLabel :=
    match (currentYear rows).bind fun year => (readingsOf rows year).getLast? with
    | some reading => "Seisuga " ++ longDate reading.date
    | none => ""
  tableRows := rows.map fun row => (row.observationDate, euros (row.received.map Figure.toRat),
    euros (row.budget.map Figure.toRat), percent row.computedPct,
    row.reportedPct.map fun reported => percent (some reported.toRat))
  summary := "Joongraafik eelarve täitmisest " ++ toString (drawnYears rows).length ++
    " aasta kohta kalendriaasta lõikes; jooksev aasta on esile tõstetud ja 100% on aastaeelarve."

/-! ## What is drawn -/

/-- A row whose percentage is computed from an amount that is not negative and a budget that is
positive. -/
structure FeeRow.Measured (row : FeeRow) : Prop where
  computed : row.computedPct = computedCollectionPct (row.received.bind Figure.amount?)
    (row.budget.bind Figure.amount?)
  received : ∀ figure, row.received = some figure → 0 ≤ figure.toRat
  budget : ∀ figure, row.budget = some figure → 0 < figure.toRat

/-- A point of a line of the chart, inside both axes. -/
structure FeeChart.Plots (chart : FeeChart) (year : Nat) (point : FeePoint) : Prop where
  line : ∃ line ∈ chart.series, line.name = toString year ∧ point ∈ line.data
  x : chart.xMin ≤ point.x ∧ point.x ≤ chart.xMax
  y : chart.yMin ≤ point.y ∧ point.y ≤ chart.yMax

/-- What a tooltip compares a reading with: the nearest of the year before within the tolerance, or
nothing. -/
def Compared (rows : List FeeRow) (reading : Reading) (tooltip : FeeTooltip) : Prop :=
  (∃ other ∈ drawable rows, other.date.year + 1 = reading.date.year ∧
      Picked (seasonCandidates rows reading) reading.date SEASON_TOLERANCE_DAYS
        (sameSeason other.date reading.date, other.pct) ∧
      tooltip.rows = ownRows reading ++ comparedRows reading other.pct) ∨
    ((∀ other ∈ drawable rows, other.date.year + 1 = reading.date.year →
        SEASON_TOLERANCE_DAYS < Date.daysBetween (sameSeason other.date reading.date)
          reading.date) ∧
      tooltip.rows = ownRows reading)

/-- The chart draws every reading of the drawn years, each year from left to right, beside the
season before. -/
structure DrawsEvery (rows : List FeeRow) : Prop where
  plotted : ∀ reading ∈ drawable rows, reading.date.year ∈ drawnYears rows →
    (feeCollectionChart rows).Plots reading.date.year reading.point
  onward : ∀ earlier ∈ drawable rows, ∀ later ∈ drawable rows, earlier.date.year = later.date.year →
    earlier.date < later.date → earlier.point.x < later.point.x
  compared : ∀ entry ∈ (feeCollectionChart rows).tooltips.entries, ∃ reading ∈ drawable rows,
    entry.1 = reading.date.isoformat ∧ Compared rows reading entry.2
  target : (feeCollectionChart rows).yMin ≤ BUDGET_TARGET_PCT ∧
    BUDGET_TARGET_PCT ≤ (feeCollectionChart rows).yMax

section Draws

variable {rows : List FeeRow}

/-- A reading is a row with a computed percentage and a date known to the day. -/
theorem mem_drawable {reading : Reading} : reading ∈ drawable rows ↔ reading.row ∈ rows := by
  unfold drawable
  rw [List.mem_filterMap]
  constructor
  · rintro ⟨row, hrow, hreading⟩
    unfold readingOf at hreading
    split at hreading
    · cases hreading
      exact hrow
    · cases hreading
  · intro hrow
    refine ⟨reading.row, hrow, ?_⟩
    obtain ⟨row, pct, hpct, hday⟩ := reading
    unfold readingOf
    split
    · rename_i other hother hother'
      cases hother.symm.trans hpct
      rfl
    · rename_i hneither
      exact absurd hday (hneither pct hpct)

theorem readingsOf_eq (rows : List FeeRow) (year : Nat) :
    readingsOf rows year = (drawable rows).filter fun reading => reading.date.year = year := by
  unfold readingsOf byYear
  rw [Dict.get?_groupBy, List.filter_map, List.map_map]
  exact List.map_id _

theorem mem_readingsOf {reading : Reading} {year : Nat} :
    reading ∈ readingsOf rows year ↔ reading ∈ drawable rows ∧ reading.date.year = year := by
  rw [readingsOf_eq, List.mem_filter, decide_eq_true_eq]

/-! ### The percentages -/

theorem pct_nonneg {row : FeeRow} (h : row.Measured) {pct : ℚ} (hpct : row.computedPct = some pct) :
    0 ≤ pct := by
  rw [h.computed] at hpct
  unfold computedCollectionPct at hpct
  split at hpct
  · rename_i received budget hreceived hbudget
    obtain ⟨figure, hfigure, hamount⟩ := Option.bind_eq_some_iff.mp hreceived
    obtain ⟨figure', hfigure', hamount'⟩ := Option.bind_eq_some_iff.mp hbudget
    have hpos := h.received figure hfigure
    have hpos' := h.budget figure' hfigure'
    cases figure with
    | count n => cases hamount
    | amount d =>
      cases hamount
      cases figure' with
      | count n => cases hamount'
      | amount d' =>
        cases hamount'
        have hreceivedPos : 0 ≤ received.toRat := hpos
        have hbudgetPos : 0 < budget.toRat := hpos'
        rw [if_neg hbudgetPos.ne'] at hpct
        refine Decimal.quantizeCents_nonneg (Decimal.fix_nonneg ?_) hpct
        exact mul_nonneg (Decimal.fix_nonneg (div_nonneg hreceivedPos hbudgetPos.le)) (by norm_num)
  · cases hpct

theorem lowestPct_le {reading : Reading} (h : reading ∈ drawable rows) :
    lowestPct rows ≤ reading.pct := by
  have hmem : reading.pct ∈ (drawable rows).map (·.pct) := List.mem_map_of_mem h
  unfold lowestPct
  cases hmin : ((drawable rows).map (·.pct)).min? with
  | none =>
    rw [List.min?_eq_none_iff.mp hmin] at hmem
    cases hmem
  | some lowest => exact (List.min?_eq_some_iff.mp hmin).2 _ hmem

theorem lowestPct_nonneg (h : ∀ row ∈ rows, row.Measured) : 0 ≤ lowestPct rows := by
  unfold lowestPct
  cases hmin : ((drawable rows).map (·.pct)).min? with
  | none =>
    unfold BUDGET_TARGET_PCT
    norm_num
  | some lowest =>
    obtain ⟨reading, hreading, hpct⟩ := List.mem_map.mp (List.min?_eq_some_iff.mp hmin).1
    exact hpct ▸ pct_nonneg (h _ (mem_drawable.mp hreading)) reading.computed

theorem le_highestPct {reading : Reading} (h : reading ∈ drawable rows) :
    reading.pct ≤ highestPct rows :=
  le_foldl_max _ _ _ (List.mem_cons_of_mem _ (List.mem_map_of_mem h))

/-- The percentage axis contains every reading. -/
theorem yMin_le (h : ∀ row ∈ rows, row.Measured) {reading : Reading}
    (hreading : reading ∈ drawable rows) :
    ((feeCollectionChart rows).yMin : ℚ) ≤ reading.pct := by
  have hlowest := lowestPct_le hreading
  have hnonneg := lowestPct_nonneg h
  have hfloor := Int.floor_le ((lowestPct rows - FEE_AXIS_HEADROOM_PCT) / 10)
  have hheadroom : (FEE_AXIS_HEADROOM_PCT : ℚ) = 10 := by norm_num [FEE_AXIS_HEADROOM_PCT]
  rw [hheadroom] at hfloor
  have hmin : (feeCollectionChart rows).yMin ≤ max 0
      (⌊(lowestPct rows - FEE_AXIS_HEADROOM_PCT) / 10⌋ * 10) :=
    min_le_right _ _
  rw [hheadroom] at hmin
  have hcast : ((feeCollectionChart rows).yMin : ℚ) ≤ max 0
      ((⌊(lowestPct rows - 10) / 10⌋ : ℚ) * 10) := by
    exact_mod_cast hmin
  refine hcast.trans (max_le ?_ ?_) <;> linarith

theorem le_yMax {reading : Reading} (hreading : reading ∈ drawable rows) :
    reading.pct ≤ (feeCollectionChart rows).yMax := by
  have hhighest := le_highestPct hreading
  have hnext := Int.lt_floor_add_one (highestPct rows)
  have hmax : ⌊highestPct rows⌋ + 10 ≤ (feeCollectionChart rows).yMax := le_max_right _ _
  have hcast : (⌊highestPct rows⌋ : ℚ) + 10 ≤ (feeCollectionChart rows).yMax := by
    exact_mod_cast hmax
  linarith

theorem target_inside (rows : List FeeRow) :
    (feeCollectionChart rows).yMin ≤ BUDGET_TARGET_PCT ∧
    BUDGET_TARGET_PCT ≤ (feeCollectionChart rows).yMax := by
  constructor
  · exact (min_le_left _ _).trans (by decide)
  · exact le_trans (by decide) (le_max_left _ _)

/-! ### The months -/

/-- Where a date is in its year, before it is rounded. -/
def exactPosition (day : Date) : ℚ :=
  (day.month : ℚ) - 1 + ((day.day : ℚ) - 1) / daysInMonth day.year day.month

theorem yearPosition_near (day : Date) :
    exactPosition day - 1 / 20000 ≤ yearPosition day ∧
    yearPosition day ≤ exactPosition day + 1 / 20000 := by
  have hround := Decimal.roundHalfEven_mem (exactPosition day * 10 ^ 4)
  have hposition : yearPosition day = Decimal.roundHalfEven
    (exactPosition day * 10 ^ 4) / 10 ^ 4 := rfl
  rw [hposition]
  norm_num at hround ⊢
  constructor <;> linarith

/-- The days of a month lie between its first and the first of the next month. -/
theorem exactPosition_mem (day : Date) :
    (day.month : ℚ) - 1 ≤ exactPosition day ∧ exactPosition day + 1 / 31 ≤ day.month := by
  have hlow : (1 : ℚ) ≤ day.day := by exact_mod_cast day.day_range.1
  have hhigh : (day.day : ℚ) ≤ daysInMonth day.year day.month := by exact_mod_cast day.day_range.2
  have hlength : (daysInMonth day.year day.month : ℚ) ≤ 31 := by exact_mod_cast daysInMonth_le _ _
  have hpos : (0 : ℚ) < daysInMonth day.year day.month := by linarith
  unfold exactPosition
  constructor
  · have hnonneg : (0 : ℚ) ≤ ((day.day : ℚ) - 1) / daysInMonth day.year day.month :=
      div_nonneg (by linarith) hpos.le
    linarith
  · have hlast : ((day.day : ℚ) - 1) / daysInMonth day.year day.month ≤ 1 - 1 / 31 := by
      rw [div_le_iff₀ hpos]
      linarith
    linarith

/-- Later in the year is at least a thirty-first of a month further on. -/
theorem exactPosition_lt {earlier later : Date} (hyear : earlier.year = later.year)
    (h : earlier < later) :
    exactPosition earlier + 1 / 31 ≤ exactPosition later := by
  cases Date.lt_iff.mp h with
  | inl hlt => omega
  | inr hmonth =>
    cases hmonth.2 with
    | inl hlt =>
      have hmonth : (earlier.month : ℚ) + 1 ≤ later.month := by exact_mod_cast hlt
      linarith [(exactPosition_mem earlier).2, (exactPosition_mem later).1]
    | inr hday =>
      have hdays : (earlier.day : ℚ) + 1 ≤ later.day := by exact_mod_cast hday.2
      have hlength : (daysInMonth later.year later.month : ℚ) ≤ 31 := by
        exact_mod_cast daysInMonth_le _ _
      have hlow : (1 : ℚ) ≤ daysInMonth later.year later.month := by
        exact_mod_cast one_le_daysInMonth _ _
      have hpos : (0 : ℚ) < daysInMonth later.year later.month := by linarith
      unfold exactPosition
      rw [hyear, hday.1]
      have hstep : (1 : ℚ) / 31 ≤ 1 / daysInMonth later.year later.month :=
        one_div_le_one_div_of_le hpos hlength
      have hsplit : ((later.day : ℚ) - 1) / daysInMonth later.year later.month =
          ((earlier.day : ℚ) - 1) / daysInMonth later.year later.month +
            (later.day - earlier.day) / daysInMonth later.year later.month := by ring
      have hfar : 1 / (daysInMonth later.year later.month : ℚ) ≤
          (later.day - earlier.day) / daysInMonth later.year later.month := by
        rw [div_le_div_iff_of_pos_right hpos]
        linarith
      linarith

theorem yearPosition_lt {earlier later : Date} (hyear : earlier.year = later.year)
    (h : earlier < later) :
    yearPosition earlier < yearPosition later := by
  have hexact := exactPosition_lt hyear h
  have hearlier := (yearPosition_near earlier).2
  have hlater := (yearPosition_near later).1
  linarith

theorem yearPosition_nonneg (day : Date) : 0 ≤ yearPosition day := by
  have hmonth : (1 : ℚ) ≤ day.month := by exact_mod_cast day.month_range.1
  have hexact : 0 ≤ exactPosition day * 10 ^ 4 :=
    mul_nonneg (by linarith [(exactPosition_mem day).1]) (by positivity)
  have hround : (0 : ℚ) ≤ Decimal.roundHalfEven (exactPosition day * 10 ^ 4) := by
    exact_mod_cast Decimal.roundHalfEven_nonneg hexact
  exact div_nonneg hround (by positivity)

/-- The month axis ends with the first of December. -/
theorem yearPosition_le_iff (day : Date) : yearPosition day ≤ 11 ↔
    ¬(day.month = 12 ∧ 1 < day.day) := by
  constructor
  · rintro h ⟨hmonth, hday⟩
    have hdays : (2 : ℚ) ≤ day.day := by exact_mod_cast hday
    have hlength : (daysInMonth day.year day.month : ℚ) ≤ 31 := by exact_mod_cast daysInMonth_le _ _
    have hlow : (1 : ℚ) ≤ daysInMonth day.year day.month := by exact_mod_cast one_le_daysInMonth _ _
    have hbeyond : 11 + 1 / 31 ≤ exactPosition day := by
      unfold exactPosition
      rw [hmonth] at hlength hlow ⊢
      have hpart : (1 : ℚ) / 31 ≤ ((day.day : ℚ) - 1) / daysInMonth day.year 12 := by
        rw [div_le_div_iff₀ (by norm_num) (by linarith)]
        linarith
      push_cast
      linarith
    linarith [(yearPosition_near day).1]
  · intro h
    have hexact : exactPosition day ≤ 11 := by
      by_cases hmonth : day.month = 12
      · have hday : day.day = 1 :=
          le_antisymm (not_lt.mp fun hlt => h ⟨hmonth, hlt⟩) day.day_range.1
        unfold exactPosition
        rw [hmonth, hday]
        norm_num
      · have hlt : day.month ≤ 11 := by
          have hrange := day.month_range.2
          omega
        have hcast : (day.month : ℚ) ≤ 11 := by exact_mod_cast hlt
        linarith [(exactPosition_mem day).2]
    have hround : Decimal.roundHalfEven (exactPosition day * 10 ^ 4) ≤ 110000 := by
      refine Decimal.roundHalfEven_le ?_
      push_cast
      linarith
    have hcast : (Decimal.roundHalfEven (exactPosition day * 10 ^ 4) : ℚ) ≤ 110000 := by
      exact_mod_cast hround
    have hposition : yearPosition day = Decimal.roundHalfEven
      (exactPosition day * 10 ^ 4) / 10 ^ 4 := rfl
    rw [hposition, div_le_iff₀ (by positivity)]
    linarith

/-! ### The lines and the tooltips -/

theorem exists_line {reading : Reading} (h : reading ∈ drawable rows)
    (hyear : reading.date.year ∈ drawnYears rows) :
    ∃ line ∈ (feeCollectionChart rows).series, line.name = toString reading.date.year ∧
    reading.point ∈ line.data := by
  refine ⟨feeSeries rows reading.date.year, List.mem_map_of_mem hyear, rfl, List.mem_map_of_mem ?_⟩
  exact mem_sortOn.mpr (mem_readingsOf.mpr ⟨h, rfl⟩)

theorem mem_seasonCandidates {reading : Reading} {candidate : Date × ℚ} :
    candidate ∈ seasonCandidates rows reading ↔
    ∃ other ∈ drawable rows, other.date.year + 1 = reading.date.year ∧
      candidate = (sameSeason other.date reading.date, other.pct) := by
  have hfirst := reading.date.year_range.1
  unfold seasonCandidates
  rw [List.mem_map]
  constructor
  · rintro ⟨other, hother, rfl⟩
    obtain ⟨hmem, hyear⟩ := mem_readingsOf.mp hother
    exact ⟨other, hmem, by omega, rfl⟩
  · rintro ⟨other, hmem, hyear, rfl⟩
    exact ⟨other, mem_readingsOf.mpr ⟨hmem, by omega⟩, rfl⟩

theorem feeTooltip_compared (rows : List FeeRow) (reading : Reading) :
    Compared rows reading (feeTooltip rows reading) := by
  have hpick := pickComparable_spec (seasonCandidates rows reading) reading.date
    SEASON_TOLERANCE_DAYS
  unfold Compared feeTooltip
  cases hfound : pickComparable (seasonCandidates rows reading) reading.date
      SEASON_TOLERANCE_DAYS with
  | none =>
    refine Or.inr ⟨fun other hother hyear => ?_, List.append_nil _⟩
    have hcandidate : (sameSeason other.date reading.date, other.pct) ∈ seasonCandidates
        rows reading :=
      mem_seasonCandidates.mpr ⟨other, hother, hyear, rfl⟩
    have hfar := hpick.1 hfound _ hcandidate
    exact hfar
  | some found =>
    have hpicked := hpick.2 found hfound
    obtain ⟨other, hother, hyear, heq⟩ := mem_seasonCandidates.mp hpicked.mem
    subst heq
    exact Or.inl ⟨other, hother, hyear, hpicked, rfl⟩

theorem mem_feeTooltips {entry : String × FeeTooltip} (h : entry ∈ (feeTooltips rows).entries) :
    ∃ reading ∈ drawable rows, entry = (reading.date.isoformat, feeTooltip rows reading) := by
  obtain ⟨year, hyear, hentry⟩ := List.mem_flatMap.mp (Dict.mem_of_mem_ofList h)
  obtain ⟨reading, hreading, rfl⟩ := List.mem_map.mp hentry
  have hget : (byYear rows).get? year.1 = some year.2 := Dict.get?_eq_some_iff.mpr hyear
  have hmem : reading ∈ readingsOf rows year.1 := by
    unfold readingsOf
    rw [hget]
    exact hreading
  exact ⟨reading, (mem_readingsOf.mp hmem).1, rfl⟩

/-- The chart draws every reading exactly where none of the drawn years was read after the first of
December. -/
theorem drawsEvery_iff (h : ∀ row ∈ rows, row.Measured) : DrawsEvery rows ↔
    ∀ reading ∈ drawable rows, reading.date.year ∈ drawnYears rows →
      ¬(reading.date.month = 12 ∧ 1 < reading.date.day) := by
  constructor
  · intro hdraws reading hreading hyear
    exact (yearPosition_le_iff reading.date).mp (hdraws.plotted reading hreading hyear).x.2
  · intro hcalendar
    refine ⟨fun reading hreading hyear => ?_, fun earlier _ later _ hyear hlt =>
      yearPosition_lt hyear hlt,
      fun entry hentry => ?_, target_inside rows⟩
    · refine ⟨exists_line hreading hyear, ⟨yearPosition_nonneg _, ?_⟩, yMin_le h hreading,
        le_yMax hreading⟩
      exact (yearPosition_le_iff reading.date).mpr (hcalendar reading hreading hyear)
    · obtain ⟨reading, hreading, heq⟩ := mem_feeTooltips hentry
      subst heq
      exact ⟨reading, hreading, rfl, feeTooltip_compared rows reading⟩

end Draws

/-- A report that nine tenths of the budget were collected. -/
def reportOf (day : Date) : FeeRow where
  observationDate := day
  received := some (.amount ⟨90000, -2⟩)
  budget := some (.amount ⟨100000, -2⟩)
  reportedPct := none
  computedPct := some 90
  reportedWithheld := false
  isYearPrecision := false

theorem measured_reportOf (day : Date) : (reportOf day).Measured where
  computed := by
    show some (90 : ℚ) = computedCollectionPct (some ⟨90000, -2⟩) (some ⟨100000, -2⟩)
    decide +kernel
  received figure h := by
    cases h
    show (0 : ℚ) ≤ (⟨90000, -2⟩ : Decimal).toRat
    decide +kernel
  budget figure h := by
    cases h
    show (0 : ℚ) < (⟨100000, -2⟩ : Decimal).toRat
    decide +kernel

/-- A chart with a report of the middle of December clips it. -/
theorem december_clipped :
    ¬DrawsEvery [reportOf ⟨2025, 12, 15, by decide, by decide, by decide⟩] := by
  intro h
  have hplotted :=
    h.plotted ⟨reportOf ⟨2025, 12, 15, by decide, by decide, by decide⟩, 90, rfl, rfl⟩
    (mem_drawable.mpr List.mem_cons_self) (by decide)
  exact (yearPosition_le_iff _).mp hplotted.x.2 ⟨rfl, by decide⟩

/-- Reports of two years are drawn: the later one of a year further to the right, and each with a
tooltip of its own. -/
theorem two_years_drawn :
    let rows := [reportOf (.of 2024 7 31), reportOf (.of 2025 7 31), reportOf (.of 2025 9 30)]
    DrawsEvery rows ∧ (feeCollectionChart rows).tooltips.keys.length = 3 := by
  intro rows
  have hrows : ∀ row ∈ rows, row.Measured ∧ row.observationDate.month < 12 := by
    intro row hrow
    simp only [rows, List.mem_cons, List.not_mem_nil, or_false] at hrow
    rcases hrow with rfl | rfl | rfl
    all_goals exact ⟨measured_reportOf _, by decide⟩
  refine ⟨(drawsEvery_iff fun row hrow => (hrows row hrow).1).mpr ?_, by decide +kernel⟩
  intro reading hreading _ hdecember
  have hmonth := (hrows _ (mem_drawable.mp hreading)).2
  exact Nat.ne_of_lt hmonth hdecember.1

end Dashkoda.Membership
