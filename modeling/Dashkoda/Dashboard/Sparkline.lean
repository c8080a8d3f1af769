import Dashkoda.Core.Formatting
import Dashkoda.Lib.Grouping
import Dashkoda.Lib.Ordinal
import Dashkoda.Lib.PyText
import Dashkoda.Lib.Ranking
import Dashkoda.Lib.Strips
import Mathlib.Algebra.Order.Field.Rat

/-!
# A trend as a drawing

Several dated series on one pair of axes, and the strips a pointer meets: one for each date, from
halfway back to halfway on.
-/

open Lib

namespace Dashkoda.Dashboard

open Core (fixed fixedParts groupThousands shortDate)

def VIEWBOX_WIDTH : ℚ := 100
def CHART_HEIGHT : ℚ := 40
def VERTICAL_PADDING : ℚ := 3
def MINIMUM_POINTS : Nat := 2

def MONTH_LABELS : List String :=
  ["jaan", "veebr", "märts", "apr", "mai", "juuni", "juuli", "aug", "sept", "okt", "nov", "dets"]

inductive Stamp
  | date (day : Date)
  | datetime (day : Date) (seconds : Nat)

/-- `_as_date` -/
def asDate : Stamp → Date
  | .date day => day
  | .datetime day _ => day

abbrev Point := Stamp × Option ℚ

structure TrendSource where
  label : String
  style : String
  source : String
  series : List Point

structure TrendMarker where
  x : ℚ
  y : ℚ
  when : Date
  value : ℚ

structure TrendLine where
  label : String
  style : String
  source : String
  points : String
  observations : List (Date × ℚ)
  minimum : ℚ
  maximum : ℚ
  markers : List TrendMarker

structure TrendBand where
  x : ℚ
  width : ℚ
  pointX : ℚ
  when : Date
  readout : String

structure MonthTick where
  label : String
  year : String

structure TrendChart where
  lines : List TrendLine
  ticks : List MonthTick
  minimum : ℚ
  maximum : ℚ
  start : Date
  «end» : Date
  bands : List TrendBand

/-- The readings of a series; an absent value is none. -/
def readings (series : List Point) : List (Date × ℚ) :=
  series.filterMap fun point => point.2.map fun value => (asDate point.1, value)

/-- `_observations` -/
def observations (series : List Point) : List (Date × ℚ) := sortOn toLex (readings series)

/-- `_readable` -/
def readable (value : ℚ) : String :=
  let whole := value.num.tdiv value.den
  if value = whole then groupThousands whole
  else
    let parts := fixedParts 1 |value|
    (if value < 0 then "-" else "") ++ groupThousands parts.1 ++ "," ++ parts.2

/-- `_readout` -/
def readoutOf (when : Date) (readings : List (String × ℚ)) : String :=
  PyText.join "\n" (shortDate when :: readings.map fun reading =>
    reading.1 ++ " " ++ readable reading.2)

/-- `_month_ticks`, from a month on. -/
def ticksFrom («end» : Date) : Nat → Nat → Nat → Option Nat → List MonthTick
  | 0, _, _, _ => []
  | fuel + 1, year, month, previous =>
    if year < «end».year ∨ year = «end».year ∧ month ≤ «end».month then
      -- the year is stated once, where it turns
      ⟨MONTH_LABELS.getD (month - 1) "", if previous.any (· ≠ year) then toString year else ""⟩ ::
        ticksFrom «end» fuel (if month = 12 then year + 1 else year)
          (if month = 12 then 1 else month + 1) (some year)
    else []

/-- `_month_ticks` -/
def monthTicks (start «end» : Date) : List MonthTick :=
  ticksFrom «end» (12 * («end».year + 1 - start.year)) start.year start.month none

/-- `(a - b).days` -/
def days (a b : Date) : Int := (a.toOrdinal : Int) - b.toOrdinal

section Axes

variable (start : Date) (spanDays : Int) (minimum maximum : ℚ)

/-- How far a date is along the axis. -/
def xOf (day : Date) : ℚ := (days day start : ℚ) / spanDays * VIEWBOX_WIDTH

/-- How far down a value is; a flat set of values lies on the centre line. -/
def yOf (value : ℚ) : ℚ :=
  let offset := if maximum - minimum = 0 then 1 / 2 else (value - minimum) / (maximum - minimum)
  CHART_HEIGHT - VERTICAL_PADDING - offset * (CHART_HEIGHT - 2 * VERTICAL_PADDING)

def markerOf (point : Date × ℚ) : TrendMarker :=
  ⟨xOf start spanDays point.1, yOf minimum maximum point.2, point.1, point.2⟩

def lineOf (source : TrendSource) (points : List (Date × ℚ)) : TrendLine :=
  let markers := points.map (markerOf start spanDays minimum maximum)
  { label := source.label
    style := source.style
    source := source.source
    points :=
      PyText.join " " (markers.map fun marker => fixed 2 marker.x ++ "," ++ fixed 2 marker.y)
    observations := points
    minimum := (points.map Prod.snd).min?.getD 0
    maximum := (points.map Prod.snd).max?.getD 0
    markers := markers }

/-- `_bands` -/
def bandsOf (lines : List TrendLine) : List TrendBand :=
  let byDate := Dict.groupBy (lines.flatMap fun line => line.markers.map fun marker =>
    (marker.when, line.label, marker.value))
  let dates := sortOn id byDate.keys
  let positions := dates.map (xOf start spanDays)
  let edges := Strip.edges 0 VIEWBOX_WIDTH positions
  List.zipWith (fun day sides =>
    ⟨sides.1, sides.2 - sides.1, day.2, day.1, readoutOf day.1 ((byDate.get? day.1).getD [])⟩)
    (dates.zip positions) (edges.zip edges.tail)

end Axes

def plotted (sources : List TrendSource) : List (TrendSource × List (Date × ℚ)) :=
  (sources.map fun source => (source, observations source.series)).filter fun pair =>
    MINIMUM_POINTS ≤ pair.2.length

/-- `build_trend_chart` -/
def buildTrendChart (sources : List TrendSource) : Option TrendChart :=
  let everyPoint := (plotted sources).flatMap Prod.snd
  match (everyPoint.map Prod.fst).min?, (everyPoint.map Prod.fst).max?,
    (everyPoint.map Prod.snd).min?, (everyPoint.map Prod.snd).max? with
  | some start, some «end», some minimum, some maximum =>
    let spanDays := days «end» start
    if spanDays ≤ 0 then none
    else
      let lines := (plotted sources).map fun pair =>
        lineOf start spanDays minimum maximum pair.1 pair.2
      some ⟨lines, monthTicks start «end», minimum, maximum, start, «end»,
        bandsOf start spanDays lines⟩
  -- nothing is plotted
  | _, _, _, _ => none

/-! ## What a drawing promises -/

def plottedReadings (sources : List TrendSource) : List (Date × ℚ) :=
  (sources.filter fun source => 2 ≤ (readings source.series).length).flatMap fun source =>
    readings source.series

/-- What is drawn of all lines: dates, labels and values. -/
def chartReadings (lines : List TrendLine) : List (Date × String × ℚ) :=
  lines.flatMap fun line => line.markers.map fun marker => (marker.when, line.label, marker.value)

def TrendChart.markers (chart : TrendChart) : List TrendMarker := chart.lines.flatMap (·.markers)

structure Drawn (sources : List TrendSource) (chart : TrendChart) : Prop where
  plotted : List.Forall₂ (fun line source => line.label = source.label ∧
      (line.markers.map fun marker => (marker.when, marker.value)).Perm
        (readings source.series)) chart.lines
    (sources.filter fun source => 2 ≤ (readings source.series).length)
  inside : ∀ marker ∈ chart.markers, 0 ≤ marker.x ∧ marker.x ≤ VIEWBOX_WIDTH ∧ 0 ≤ marker.y ∧
    marker.y ≤ CHART_HEIGHT
  compares : ∀ a ∈ chart.markers, ∀ b ∈ chart.markers, a.y < b.y ↔ b.value < a.value
  tiles : Tiles 0 VIEWBOX_WIDTH (chart.bands.map fun band => (band.x, band.x + band.width))
  holds : ∀ band ∈ chart.bands, ∀ marker ∈ chart.markers,
    band.x ≤ marker.x ∧ marker.x ≤ band.x + band.width ↔ marker.when = band.when
  own : ∀ band ∈ chart.bands, ∃ marker ∈ chart.markers, marker.when = band.when ∧
    marker.x = band.pointX
  oneBand : ∀ marker ∈ chart.markers, (chart.bands.map (·.when)).count marker.when = 1
  readout : ∀ band ∈ chart.bands, band.readout =
    readoutOf band.when (((chartReadings chart.lines).filter (·.1 = band.when)).map Prod.snd)

section Axes

variable {start «end» : Date} {spanDays : Int} {minimum maximum a b : ℚ}

theorem xOf_strictMono (h : 0 < spanDays) : StrictMono (xOf start spanDays) := by
  intro first second hlt
  have hordinal := Date.toOrdinal_lt_iff.mpr hlt
  have hdays : (days first start : ℚ) < days second start := by
    unfold days
    push_cast
    have hcast : (first.toOrdinal : ℚ) < second.toOrdinal := by exact_mod_cast hordinal
    linarith
  have hspan : (0 : ℚ) < spanDays := by exact_mod_cast h
  unfold xOf
  exact mul_lt_mul_of_pos_right (div_lt_div_of_pos_right hdays hspan) (by norm_num [VIEWBOX_WIDTH])

theorem xOf_start : xOf start spanDays start = 0 := by
  unfold xOf days
  rw [sub_self, Int.cast_zero, zero_div, zero_mul]

theorem xOf_end (h : 0 < days «end» start) : xOf start (days «end» start) «end» =
    VIEWBOX_WIDTH := by
  have hspan : (days «end» start : ℚ) ≠ 0 := by exact_mod_cast h.ne'
  unfold xOf
  rw [div_self hspan, one_mul]

/-- The offset of a value between the two extremes. -/
theorem yOf_bounds (hlow : minimum ≤ a) (hhigh : a ≤ maximum) :
    VERTICAL_PADDING ≤ yOf minimum maximum a ∧
    yOf minimum maximum a ≤ CHART_HEIGHT - VERTICAL_PADDING := by
  have hoffset :
      0 ≤ (if maximum - minimum = 0 then 1 / 2 else (a - minimum) / (maximum - minimum)) ∧
      (if maximum - minimum = 0 then 1 / 2 else (a - minimum) / (maximum - minimum)) ≤ 1 := by
    split
    · norm_num
    · rename_i hspan
      have hpos : 0 < maximum - minimum := lt_of_le_of_ne (by linarith) (Ne.symm hspan)
      exact ⟨div_nonneg (by linarith) hpos.le, (div_le_one hpos).mpr (by linarith)⟩
  unfold yOf CHART_HEIGHT VERTICAL_PADDING
  dsimp only
  constructor
  · linarith [hoffset.2]
  · linarith [hoffset.1]

/-- A higher value lies higher. -/
theorem yOf_lt_iff (ha : minimum ≤ a) (ha' : a ≤ maximum) (hb : minimum ≤ b) (hb' : b ≤ maximum) :
    yOf minimum maximum a < yOf minimum maximum b ↔ b < a := by
  unfold yOf CHART_HEIGHT VERTICAL_PADDING
  dsimp only
  by_cases hspan : maximum - minimum = 0
  · rw [if_pos hspan, if_pos hspan]
    have hflat : a = b := by linarith
    rw [hflat]
    exact iff_of_false (lt_irrefl _) (lt_irrefl _)
  · have hpos : 0 < maximum - minimum := lt_of_le_of_ne (by linarith) (Ne.symm hspan)
    have hdiv : (b - minimum) / (maximum - minimum) <
        (a - minimum) / (maximum - minimum) ↔ b < a := by
      rw [div_lt_div_iff_of_pos_right hpos]
      exact sub_lt_sub_iff_right minimum
    rw [if_neg hspan, if_neg hspan, ← hdiv]
    constructor
    · intro h
      linarith
    · intro h
      linarith

end Axes

section Series

variable {sources : List TrendSource}

theorem length_observations (series : List Point) :
    (observations series).length = (readings series).length :=
  (perm_sortOn _ _).length_eq

theorem plotted_eq (sources : List TrendSource) : plotted sources =
    (sources.filter fun source => 2 ≤ (readings source.series).length).map fun source =>
      (source, observations source.series) := by
  unfold plotted MINIMUM_POINTS
  rw [List.filter_map]
  congr 1
  refine List.filter_congr fun source _ => ?_
  show decide (2 ≤ (observations source.series).length) = _
  rw [length_observations]

theorem mem_everyPoint {point : Date × ℚ} :
    point ∈ (plotted sources).flatMap Prod.snd ↔ point ∈ plottedReadings sources := by
  rw [plotted_eq]
  unfold plottedReadings
  rw [List.flatMap_map, List.mem_flatMap, List.mem_flatMap]
  simp only [observations, mem_sortOn]

structure Extent (sources : List TrendSource) (start «end» : Date)
    (minimum maximum : ℚ) : Prop where
  first : ∃ point ∈ plottedReadings sources, point.1 = start
  last : ∃ point ∈ plottedReadings sources, point.1 = «end»
  dates : ∀ point ∈ plottedReadings sources, start ≤ point.1 ∧ point.1 ≤ «end»
  values : ∀ point ∈ plottedReadings sources, minimum ≤ point.2 ∧ point.2 ≤ maximum
  span : 0 < days «end» start

def chartOf (sources : List TrendSource) (start «end» : Date) (minimum maximum : ℚ) : TrendChart :=
  let lines := (plotted sources).map fun pair =>
    lineOf start (days «end» start) minimum maximum pair.1 pair.2
  ⟨lines, monthTicks start «end», minimum, maximum, start, «end»,
    bandsOf start (days «end» start) lines⟩

/-- Either everything lies on one date, or there is an extent to draw. -/
theorem buildTrendChart_cases (sources : List TrendSource) :
    (buildTrendChart sources = none ∧ ∀ a ∈ plottedReadings sources, ∀ b ∈ plottedReadings sources,
      a.1 = b.1) ∨
      ∃ start «end» minimum maximum, Extent sources start «end» minimum maximum ∧
        buildTrendChart sources = some (chartOf sources start «end» minimum maximum) := by
  unfold buildTrendChart
  dsimp only
  have hpoints : ∀ point, point ∈ (plotted sources).flatMap Prod.snd ↔
      point ∈ plottedReadings sources :=
    fun _ => mem_everyPoint
  generalize (plotted sources).flatMap Prod.snd = everyPoint at hpoints
  cases hpoint : everyPoint with
  | nil =>
    refine Or.inl ⟨rfl, fun a ha => ?_⟩
    rw [← hpoints, hpoint] at ha
    cases ha
  | cons point rest =>
    obtain ⟨start, hstart⟩ : ∃ start, (everyPoint.map Prod.fst).min? = some start := by
      rw [hpoint]
      exact ⟨_, rfl⟩
    obtain ⟨«end», hend⟩ : ∃ «end», (everyPoint.map Prod.fst).max? = some «end» := by
      rw [hpoint]
      exact ⟨_, rfl⟩
    obtain ⟨minimum, hminimum⟩ : ∃ minimum, (everyPoint.map Prod.snd).min? = some minimum := by
      rw [hpoint]
      exact ⟨_, rfl⟩
    obtain ⟨maximum, hmaximum⟩ : ∃ maximum, (everyPoint.map Prod.snd).max? = some maximum := by
      rw [hpoint]
      exact ⟨_, rfl⟩
    rw [← hpoint, hstart, hend, hminimum, hmaximum]
    dsimp only
    obtain ⟨hfirst, hlow⟩ := List.min?_eq_some_iff.mp hstart
    obtain ⟨hlast, hhigh⟩ := List.max?_eq_some_iff.mp hend
    obtain ⟨-, hlowest⟩ := List.min?_eq_some_iff.mp hminimum
    obtain ⟨-, hhighest⟩ := List.max?_eq_some_iff.mp hmaximum
    have hdates : ∀ point ∈ plottedReadings sources, start ≤ point.1 ∧ point.1 ≤ «end» :=
        fun point hin =>
      have hmem := List.mem_map_of_mem (f := Prod.fst) ((hpoints point).mpr hin)
      ⟨hlow _ hmem, hhigh _ hmem⟩
    have hvalues : ∀ point ∈ plottedReadings sources, minimum ≤ point.2 ∧ point.2 ≤ maximum :=
        fun point hin =>
      have hmem := List.mem_map_of_mem (f := Prod.snd) ((hpoints point).mpr hin)
      ⟨hlowest _ hmem, hhighest _ hmem⟩
    by_cases hspan : days «end» start ≤ 0
    · rw [if_pos hspan]
      refine Or.inl ⟨rfl, fun a ha b hb => ?_⟩
      -- no date lies between the ends but the one
      have hends : «end» ≤ start := by
        rw [← Date.toOrdinal_le_iff]
        unfold days at hspan
        omega
      have ha := hdates a ha
      have hb := hdates b hb
      exact (le_antisymm (ha.2.trans hends) ha.1).trans (le_antisymm (hb.2.trans hends) hb.1).symm
    · rw [if_neg hspan]
      obtain ⟨first, hmem, hfirst⟩ := List.mem_map.mp hfirst
      obtain ⟨last, hmem', hlast⟩ := List.mem_map.mp hlast
      exact Or.inr ⟨start, «end», minimum, maximum, ⟨⟨first, (hpoints first).mp hmem, hfirst⟩,
        ⟨last, (hpoints last).mp hmem', hlast⟩, hdates, hvalues, not_le.mp hspan⟩, rfl⟩

end Series

section Bands

variable {start «end» : Date} {minimum maximum : ℚ} {sources : List TrendSource} {spanDays : Int}
  {lines : List TrendLine}

def bandDates (lines : List TrendLine) : List Date :=
  sortOn id (Dict.groupBy (chartReadings lines)).keys

theorem mem_bandDates {day : Date} : day ∈ bandDates lines ↔
    ∃ reading ∈ chartReadings lines, reading.1 = day := by
  unfold bandDates
  rw [mem_sortOn, Dict.mem_keys_groupBy, List.mem_map]

theorem pairwise_bandDates (lines : List TrendLine) : (bandDates lines).Pairwise (· < ·) := by
  have hsorted : (bandDates lines).Pairwise (· ≤ ·) := pairwise_sortOn id _
  have hnodup : (bandDates lines).Nodup :=
    (perm_sortOn id _).nodup_iff.mpr (Dict.groupBy (chartReadings lines)).keys_nodup
  exact (hsorted.and hnodup).imp fun h => lt_of_le_of_ne h.1 h.2

def bandOf (start : Date) (spanDays : Int) (lines : List TrendLine) (day : Date) (strip : Strip ℚ) :
    TrendBand :=
  ⟨strip.left, strip.right - strip.left, xOf start spanDays day, day,
    readoutOf day (((chartReadings lines).filter (·.1 = day)).map Prod.snd)⟩

def bandStrips (start : Date) (spanDays : Int) (lines : List TrendLine) : List (Strip ℚ) :=
  Strip.cut 0 VIEWBOX_WIDTH ((bandDates lines).map (xOf start spanDays))

theorem bandsOf_eq (hne : bandDates lines ≠ []) : bandsOf start spanDays lines =
    List.zipWith (bandOf start spanDays lines) (bandDates lines)
      (bandStrips start spanDays lines) := by
  have hpositions : (bandDates lines).map (xOf start spanDays) ≠ [] :=
    fun hnil => hne (List.map_eq_nil_iff.mp hnil)
  unfold bandsOf
  dsimp only
  show List.zipWith _ ((bandDates lines).zip ((bandDates lines).map (xOf start spanDays)))
    ((Strip.edges 0 VIEWBOX_WIDTH ((bandDates lines).map (xOf start spanDays))).zip
      (Strip.edges 0 VIEWBOX_WIDTH ((bandDates lines).map (xOf start spanDays))).tail) = _
  rw [Strip.zip_edges _ _ hpositions, ← List.map_prod_left_eq_zip, List.zipWith_map]
  show List.zipWith (fun day strip => _) (bandDates lines) (bandStrips start spanDays lines) = _
  congr 1
  funext day strip
  unfold bandOf
  rw [← Dict.get?_groupBy]
  rfl

theorem length_bandStrips : (bandStrips start spanDays lines).length =
    (bandDates lines).length := by
  have hlength := congrArg List.length
    (Strip.map_point_cut 0 VIEWBOX_WIDTH ((bandDates lines).map (xOf start spanDays)))
  rw [List.length_map, List.length_map] at hlength
  exact hlength

/-- A band is the strip of a date. -/
theorem exists_of_mem_bandsOf (hne : bandDates lines ≠ []) {band : TrendBand}
    (h : band ∈ bandsOf start spanDays lines) :
    ∃ day ∈ bandDates lines, ∃ strip ∈ bandStrips start spanDays lines,
      strip.point = xOf start spanDays day ∧ band = bandOf start spanDays lines day strip := by
  rw [bandsOf_eq hne] at h
  obtain ⟨i, hi, heq⟩ := List.mem_iff_getElem.mp h
  rw [List.length_zipWith, length_bandStrips, min_self] at hi
  have hi' : i < (bandStrips start spanDays lines).length := by rw [length_bandStrips]; exact hi
  have hpoints := Strip.map_point_cut 0 VIEWBOX_WIDTH ((bandDates lines).map (xOf start spanDays))
  have hpoint : ((bandStrips start spanDays lines).map (·.point))[i]? =
      ((bandDates lines).map (xOf start spanDays))[i]? := congrArg (·[i]?) hpoints
  rw [List.getElem?_map, List.getElem?_map, List.getElem?_eq_getElem hi,
    List.getElem?_eq_getElem hi'] at hpoint
  refine ⟨(bandDates lines)[i], List.getElem_mem hi, (bandStrips start spanDays lines)[i],
    List.getElem_mem hi',
    Option.some.inj hpoint, ?_⟩
  rw [← heq, List.getElem_zipWith]

theorem map_when_bandsOf (hne : bandDates lines ≠ []) :
    (bandsOf start spanDays lines).map (·.when) = bandDates lines := by
  rw [bandsOf_eq hne, List.map_zipWith]
  refine List.ext_getElem ?_ fun i _ _ => ?_
  · rw [List.length_zipWith, length_bandStrips, min_self]
  · rw [List.getElem_zipWith]
    rfl

theorem map_sides_bandsOf (hne : bandDates lines ≠ []) :
    ((bandsOf start spanDays lines).map fun band => (band.x, band.x + band.width)) =
      (bandStrips start spanDays lines).map fun strip => (strip.left, strip.right) := by
  rw [bandsOf_eq hne, List.map_zipWith]
  refine List.ext_getElem ?_ fun i _ _ => ?_
  · rw [List.length_zipWith, length_bandStrips, min_self, List.length_map, length_bandStrips]
  · rw [List.getElem_zipWith, List.getElem_map]
    exact Prod.ext rfl (add_sub_cancel _ _)

end Bands

section Chart

variable {start «end» : Date} {minimum maximum : ℚ} {sources : List TrendSource}

theorem mem_markers {marker : TrendMarker} :
    marker ∈ (chartOf sources start «end» minimum maximum).markers ↔
    ∃ point ∈ plottedReadings sources, marker =
      markerOf start (days «end» start) minimum maximum point := by
  unfold TrendChart.markers chartOf
  dsimp only
  rw [List.flatMap_map, List.mem_flatMap]
  simp only [← mem_everyPoint, List.mem_flatMap]
  constructor
  · rintro ⟨pair, hpair, hmarker⟩
    obtain ⟨point, hpoint, heq⟩ := List.mem_map.mp hmarker
    exact ⟨point, ⟨pair, hpair, hpoint⟩, heq.symm⟩
  · rintro ⟨point, ⟨pair, hpair, hpoint⟩, heq⟩
    exact ⟨pair, hpair, List.mem_map.mpr ⟨point, hpoint, heq.symm⟩⟩

theorem mem_dates_iff {day : Date} : day ∈ bandDates
    (chartOf sources start «end» minimum maximum).lines ↔
    ∃ point ∈ plottedReadings sources, point.1 = day := by
  rw [mem_bandDates]
  constructor
  · rintro ⟨reading, hreading, rfl⟩
    obtain ⟨line, hline, hmarker⟩ := List.mem_flatMap.mp hreading
    obtain ⟨marker, hmem, rfl⟩ := List.mem_map.mp hmarker
    obtain ⟨point, hpoint, heq⟩ := mem_markers.mp (List.mem_flatMap.mpr ⟨line, hline, hmem⟩)
    exact ⟨point, hpoint, by rw [heq]; rfl⟩
  · rintro ⟨point, hpoint, rfl⟩
    obtain ⟨line, hline, hmem⟩ := List.mem_flatMap.mp (mem_markers.mpr ⟨point, hpoint, rfl⟩)
    exact ⟨_, List.mem_flatMap.mpr ⟨line, hline, List.mem_map_of_mem hmem⟩, rfl⟩

/-- A chart of an extent keeps what a drawing promises. -/
theorem Extent.drawn (h : Extent sources start «end» minimum maximum) :
    Drawn sources (chartOf sources start «end» minimum maximum) := by
  let lines := (chartOf sources start «end» minimum maximum).lines
  have hmono := @xOf_strictMono start (days «end» start) h.span
  have hbox : ∀ point ∈ plottedReadings sources, 0 ≤ xOf start (days «end» start) point.1 ∧
      xOf start (days «end» start) point.1 ≤ VIEWBOX_WIDTH := by
    intro point hpoint
    have hdates := h.dates point hpoint
    constructor
    · rw [← @xOf_start start (days «end» start)]
      exact hmono.monotone hdates.1
    · rw [← xOf_end h.span]
      exact hmono.monotone hdates.2
  have hne : bandDates lines ≠ [] := by
    obtain ⟨point, hpoint, -⟩ := h.first
    exact List.ne_nil_of_mem (mem_dates_iff.mpr ⟨point, hpoint, rfl⟩)
  have hpositions : ((bandDates lines).map (xOf start (days «end» start))).Pairwise (· < ·) :=
    List.pairwise_map.mpr ((pairwise_bandDates lines).imp fun hlt => hmono hlt)
  have hinside : ∀ p ∈ (bandDates lines).map (xOf start (days «end» start)), 0 ≤ p ∧
      p ≤ VIEWBOX_WIDTH := by
    intro p hp
    obtain ⟨day, hday, rfl⟩ := List.mem_map.mp hp
    obtain ⟨point, hpoint, rfl⟩ := mem_dates_iff.mp hday
    exact hbox point hpoint
  refine ⟨?_, ?_, ?_, ?_, ?_, ?_, ?_, ?_⟩
  · show List.Forall₂ _ ((plotted sources).map _) _
    rw [plotted_eq, List.map_map, List.forall₂_map_left_iff, List.forall₂_same]
    intro source _
    refine ⟨rfl, ?_⟩
    show (((observations source.series).map _).map _).Perm _
    rw [List.map_map]
    exact (List.map_id _).symm ▸ perm_sortOn _ _
  · intro marker hmarker
    obtain ⟨point, hpoint, rfl⟩ := mem_markers.mp hmarker
    have hvalues := h.values point hpoint
    have hy := yOf_bounds hvalues.1 hvalues.2
    have hx := hbox point hpoint
    unfold VERTICAL_PADDING CHART_HEIGHT at hy
    refine ⟨hx.1, hx.2, ?_, ?_⟩
    · exact le_trans (by norm_num) hy.1
    · exact le_trans hy.2 (by norm_num [CHART_HEIGHT])
  · intro a ha b hb
    obtain ⟨point, hpoint, rfl⟩ := mem_markers.mp ha
    obtain ⟨other, hother, rfl⟩ := mem_markers.mp hb
    have hvalues := h.values point hpoint
    have hvalues' := h.values other hother
    exact yOf_lt_iff hvalues.1 hvalues.2 hvalues'.1 hvalues'.2
  · show Tiles 0 VIEWBOX_WIDTH ((bandsOf start (days «end» start) lines).map _)
    rw [map_sides_bandsOf hne]
    refine Strip.tiles_cut (fun hnil => hne (List.map_eq_nil_iff.mp hnil))
      (by norm_num [VIEWBOX_WIDTH]) hpositions
      (fun p hp => (hinside p hp).1) fun p hp => (hinside p hp).2
  · intro band hband marker hmarker
    obtain ⟨day, -, strip, hstrip, hpoint, rfl⟩ := exists_of_mem_bandsOf hne hband
    obtain ⟨point, hin, rfl⟩ := mem_markers.mp hmarker
    have hmem : xOf start (days «end» start) point.1 ∈ (bandDates lines).map
        (xOf start (days «end» start)) :=
      List.mem_map_of_mem (mem_dates_iff.mpr ⟨point, hin, rfl⟩)
    have hiff := Strip.mem_strip_iff hpositions (fun p hp => (hinside p hp).1)
      (fun p hp => (hinside p hp).2) hstrip hmem
    show strip.left ≤ xOf start (days «end» start) point.1 ∧
      xOf start (days «end» start) point.1 ≤ strip.left + (strip.right - strip.left) ↔ point.1 = day
    rw [add_sub_cancel, hiff, hpoint, hmono.injective.eq_iff]
  · intro band hband
    obtain ⟨day, hday, strip, -, -, rfl⟩ := exists_of_mem_bandsOf hne hband
    obtain ⟨point, hpoint, rfl⟩ := mem_dates_iff.mp hday
    exact ⟨_, mem_markers.mpr ⟨point, hpoint, rfl⟩, rfl, rfl⟩
  · intro marker hmarker
    obtain ⟨point, hpoint, rfl⟩ := mem_markers.mp hmarker
    show ((bandsOf start (days «end» start) lines).map (·.when)).count point.1 = 1
    rw [map_when_bandsOf hne]
    exact List.count_eq_one_of_mem ((pairwise_bandDates lines).imp fun hlt => ne_of_lt hlt)
      (mem_dates_iff.mpr ⟨point, hpoint, rfl⟩)
  · intro band hband
    obtain ⟨day, -, strip, -, -, rfl⟩ := exists_of_mem_bandsOf hne hband
    rfl

end Chart

/-- A trend is drawn exactly where the series with two readings have two dates, and a drawing keeps
its promises. -/
theorem buildTrendChart_drawn (sources : List TrendSource) :
    (buildTrendChart sources = none ↔ (∀ source ∈ sources, (readings source.series).length < 2) ∨
      ∀ a ∈ plottedReadings sources, ∀ b ∈ plottedReadings sources, a.1 = b.1) ∧
    match buildTrendChart sources with
      | none => True
      | some chart => Drawn sources chart := by
  have hcases := buildTrendChart_cases sources
  have hshort : (∀ source ∈ sources, (readings source.series).length < 2) →
      plottedReadings sources = [] := by
    intro hshort
    unfold plottedReadings
    rw [List.filter_eq_nil_iff.mpr fun source hsource => by simpa using hshort source hsource]
    rfl
  cases hcases with
  | inl h =>
    rw [h.1]
    exact ⟨iff_of_true rfl (Or.inr h.2), trivial⟩
  | inr h =>
    obtain ⟨start, «end», minimum, maximum, hextent, hchart⟩ := h
    rw [hchart]
    refine ⟨iff_of_false (fun hnone => (by cases hnone)) ?_, hextent.drawn⟩
    obtain ⟨first, hfirst, hstart⟩ := hextent.first
    obtain ⟨last, hlast, hend⟩ := hextent.last
    rintro (hnothing | hsame)
    · rw [hshort hnothing] at hfirst
      cases hfirst
    · have hspan := hextent.span
      rw [← hstart, ← hend, hsame first hfirst last hlast] at hspan
      unfold days at hspan
      omega

/-- Two readings of one date, and one reading of another series on another date. -/
def strayReading : List TrendSource :=
  [⟨"Liikmeid", "solid", "", [(.date (.of 2026 1 31), some 10),
      (.date (.of 2026 1 31), some 20)]⟩,
    ⟨"Tasunud", "dashed", "", [(.date (.of 2026 2 28), some 5)]⟩]

/-- A series of one reading is left out before the dates are looked at. -/
theorem strayReading_none : ¬∀ sources : List TrendSource, buildTrendChart sources = none ↔
    (∀ source ∈ sources, (readings source.series).length < 2) ∨
      ∀ a ∈ sources.flatMap fun source => readings source.series,
        ∀ b ∈ sources.flatMap fun source => readings source.series, a.1 = b.1 := by
  intro h
  have hnone : (buildTrendChart strayReading).isNone = true := by decide +kernel
  cases (h strayReading).mp (Option.isNone_iff_eq_none.mp hnone) with
  | inl hshort => exact absurd (hshort _ List.mem_cons_self) (by decide)
  | inr hsame =>
    have hdates := hsame _ List.mem_cons_self _
      (List.mem_cons_of_mem _ (List.mem_cons_of_mem _ List.mem_cons_self))
    exact absurd hdates (by decide)

end Dashkoda.Dashboard
