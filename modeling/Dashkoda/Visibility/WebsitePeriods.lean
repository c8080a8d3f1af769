import Dashkoda.Shop.Periods

/-!
# The measurement window of the website pages

A window is a request that is resolved against what was measured; the window before it is offered
where it was measured too, and a coverage says which of its days were.
-/

open Lib

namespace Dashkoda.Visibility

open Core (OverflowError inCalendar inCalendar_eq_ok_iff parseIsoDate stripped)
open EventProgramme (Coverage Ga4Snapshot currentDays getCoverage)
open Shop (InWindow Precedes precedes_iff)

namespace Website

def CUSTOM_KEY : String := "kohandatud"

def MIN_CUSTOM_DAYS : Nat := 2

structure PeriodPreset where
  key : String
  label : String
  days : Option Nat
  deriving DecidableEq

def PeriodPreset.isAll (preset : PeriodPreset) : Bool := preset.days = none

def DEFAULT_DAYS : Nat := 30

def DEFAULT_PRESET : PeriodPreset := ⟨"30", "30 päeva", some DEFAULT_DAYS⟩

def PERIOD_PRESETS : List PeriodPreset :=
  [DEFAULT_PRESET, ⟨"90", "90 päeva", some 90⟩, ⟨"1a", "1 aasta", some 365⟩,
    ⟨"3a", "3 aastat", some 1095⟩,
    ⟨"5a", "5 aastat", some 1825⟩, ⟨"koik", "Kõik", none⟩]

/-- `_PRESETS_BY_KEY.get(key, DEFAULT_PRESET)` -/
def presetOf (key : String) : PeriodPreset :=
  (PERIOD_PRESETS.find? (·.key = key)).getD DEFAULT_PRESET

structure WebsitePeriod where
  key : String
  label : String
  start : Option Date
  «end» : Option Date
  isAll : Bool
  isCustom : Bool
  customNote : String

/-- What `get_coverage` found: a first and a last day, or neither. -/
structure SiteCoverage extends Coverage where
  ends : match earliest, latest with
    | some earliest, some latest => earliest ≤ latest
    | none, none => True
    | _, _ => False

/-- `f"{day:%d.%m.%Y}"` -/
def dayText (day : Date) : String :=
  Date.zeroPadded 2 day.day ++ "." ++ Date.zeroPadded 2
    day.month ++ "." ++ Date.zeroPadded 4 day.year

def presetPeriod (preset : PeriodPreset) (coverage : SiteCoverage) :
    Except OverflowError WebsitePeriod :=
  match coverage.earliest, coverage.latest with
  | some earliest, some latest =>
    match preset.days with
    | none => .ok ⟨preset.key, preset.label, some earliest, some latest, true, false, ""⟩
    | some days => do
      let start ← inCalendar (Date.subDays? (days - 1) latest)
      return ⟨preset.key, preset.label, some (max start earliest), some latest, false, false, ""⟩
  | _, _ => .ok ⟨preset.key, preset.label, none, none, preset.isAll, false, ""⟩

def customWindow (start «end» : Option Date) (note : String) : WebsitePeriod :=
  ⟨CUSTOM_KEY, "Kohandatud", start, «end», false, true, note⟩

/-- The default window, under the dates that were asked for. -/
def customFallback (coverage : SiteCoverage) (note : String) :
    Except OverflowError WebsitePeriod := do
  let fallback ← presetPeriod DEFAULT_PRESET coverage
  return customWindow fallback.start fallback.end note

/-- One day is widened by a day inside coverage. -/
def widened (earliest latest start «end» : Date) : Except OverflowError (Date × Date) :=
  if «end» < latest then do
    let «end» ← inCalendar (Date.addDays? 1 «end»)
    return (start, «end»)
  else if earliest < start then do
    let start ← inCalendar (Date.subDays? 1 start)
    return (start, «end»)
  else .ok (start, «end»)

def clampedPeriod (earliest latest : Date) (asked clamped : Date × Date) (note : String) :
    Except OverflowError WebsitePeriod :=
  let note := if clamped ≠ asked then
      "Vahemik piiratud mõõdetud andmetega: " ++ dayText clamped.1 ++ "–" ++ dayText
        clamped.2 ++ "."
    else note
  if clamped.2.toOrdinal - clamped.1.toOrdinal + 1 < MIN_CUSTOM_DAYS then do
    let range ← widened earliest latest clamped.1 clamped.2
    return customWindow (some range.1) (some range.2) "Lühim vahemik on kaks päeva."
  else .ok (customWindow (some clamped.1) (some clamped.2) note)

/-- A range in order, clamped to what exists. -/
def rangePeriod (coverage : SiteCoverage) (earliest latest : Date) (asked : Date × Date)
    (note : String) :
    Except OverflowError WebsitePeriod :=
  let clamped := (max asked.1 earliest, min asked.2 latest)
  if clamped.2 < clamped.1 then
    customFallback coverage "Valitud vahemikus mõõtmisandmed puuduvad, kuvatud 30 päeva."
  else clampedPeriod earliest latest asked clamped note

/-- `_custom_period` -/
def customPeriod (rawFrom rawTo : Option String) (coverage : SiteCoverage) :
    Except OverflowError WebsitePeriod :=
  match coverage.earliest, coverage.latest with
  | some earliest, some latest =>
    if parseIsoDate rawFrom = none ∧ parseIsoDate rawTo = none then
      customFallback coverage "Kuupäevi ei antud, kuvatud 30 päeva."
    else
      let start := (parseIsoDate rawFrom).getD earliest
      let «end» := (parseIsoDate rawTo).getD latest
      -- the fields were filled in the order they are read
      if «end» < start then rangePeriod coverage earliest latest
        («end», start) "Kuupäevad olid vastupidi ja vahetati."
      else rangePeriod coverage earliest latest (start, «end») ""
  | _, _ => .ok (customWindow none none "")

/-- `parse_period` -/
def parsePeriod (raw rawFrom rawTo : Option String) (coverage : SiteCoverage) :
    Except OverflowError WebsitePeriod :=
  if stripped raw = CUSTOM_KEY then customPeriod rawFrom rawTo coverage
  else presetPeriod (presetOf (stripped raw)) coverage

/-- How much of an interval was measured. -/
structure WebsitePeriodCoverage where
  start : Option Date
  «end» : Option Date
  expectedDays : Nat
  snapshotDays : Nat
  daysWithPageDetail : Nat
  daysWithChannelDetail : Nat
  daysWithSessions : Nat
  daysWithPageViews : Nat
  daysWithEngagedSessions : Nat
  daysWithEngagementSeconds : Nat
  missingDates : List Date

/-- The snapshots, with what their constraint promises of one source. -/
structure SiteSnapshots where
  rows : List Ga4Snapshot
  one_source : ∀ a ∈ rows, ∀ b ∈ rows, a.source = b.source
  one_current : ((currentDays rows).map fun row => (row.source, row.day)).Nodup

/-- Nothing of an interval that is none. -/
def WebsitePeriodCoverage.empty (start «end» : Option Date) : WebsitePeriodCoverage :=
  ⟨start, «end», 0, 0, 0, 0, 0, 0, 0, 0, []⟩

def daysInside (snapshots : SiteSnapshots) (start «end» : Date) : List Ga4Snapshot :=
  (currentDays snapshots.rows).filter fun row => start ≤ row.day ∧ row.day ≤ «end»

/-- `get_period_coverage` -/
def getPeriodCoverage (snapshots : SiteSnapshots) : Option Date → Option Date →
    WebsitePeriodCoverage
  | some start, some «end» =>
    if «end» < start then .empty (some start) (some «end»)
    else
      let rows := daysInside snapshots start «end»
      { start := some start
        «end» := some «end»
        expectedDays := «end».toOrdinal - start.toOrdinal + 1
        snapshotDays := rows.length
        daysWithPageDetail := rows.countP (·.content.hasPageDetail)
        daysWithChannelDetail := rows.countP (·.content.hasChannelDetail)
        daysWithSessions := rows.countP (·.content.site.sessions.isSome)
        daysWithPageViews := rows.countP (·.content.site.pageViews.isSome)
        daysWithEngagedSessions := rows.countP (·.content.site.engagedSessions.isSome)
        daysWithEngagementSeconds := rows.countP (·.content.site.userEngagementSeconds.isSome)
        missingDates := (Date.eachDay start «end»).filter fun day => day ∉ rows.map (·.day) }
  | start, «end» => .empty start «end»

structure WebsiteComparison where
  start : Option Date
  «end» : Option Date
  coverage : WebsitePeriodCoverage
  currentCoverage : WebsitePeriodCoverage
  isAvailable : Bool
  unavailableReason : String

/-- `build_comparison` -/
def buildComparison (snapshots : SiteSnapshots) (period : WebsitePeriod) (coverage : SiteCoverage)
    (currentCoverage : WebsitePeriodCoverage) : Except OverflowError WebsiteComparison :=
  let empty := WebsitePeriodCoverage.empty none none
  match period.start, period.end with
  | some start, some «end» =>
    if period.isAll then
      .ok ⟨none, none, empty, currentCoverage, false, "Kogu ajaloole eelnevat perioodi ei ole."⟩
    else do
      let days := «end».toOrdinal - start.toOrdinal + 1
      let previousEnd ← inCalendar (Date.subDays? 1 start)
      let previousStart ← inCalendar (Date.subDays? (days - 1) previousEnd)
      return if coverage.earliest.all (previousStart < ·) then
          ⟨some previousStart, some previousEnd, empty, currentCoverage, false,
            "Eelnev võrdlusperiood jääb mõõtmise algusest varasemaks."⟩
        else ⟨some previousStart, some previousEnd,
          getPeriodCoverage snapshots (some previousStart) (some previousEnd),
          currentCoverage, true, ""⟩
  | _, _ => .ok ⟨none, none, empty, currentCoverage, false, "Mõõtmisandmed puuduvad."⟩

/-! ## What a window promises -/

/-- A day of the range that was asked for; reversed dates are meant the other way around. -/
def Stated : Option Date × Option Date → Date → Prop
  | (some start, some «end»), day => min start «end» ≤ day ∧ day ≤ max start «end»
  | (some start, none), day => start ≤ day
  | (none, some «end»), day => day ≤ «end»
  | (none, none), _ => True

/-- No day that was asked for was inside coverage. -/
def AsksOutside (earliest latest : Date) (asked : Option Date × Option Date) : Prop :=
  ∀ day, earliest ≤ day → day ≤ latest → ¬ Stated asked day

def Offered (snapshots : SiteSnapshots) (period : WebsitePeriod) (coverage : SiteCoverage)
    (previousStart previousEnd : Date) : Prop :=
  ∃ comparison, buildComparison snapshots period coverage
      (getPeriodCoverage snapshots period.start period.end) =
      .ok comparison ∧ comparison.isAvailable = true ∧ comparison.start = some previousStart ∧
    comparison.end = some previousEnd

/-- What holds of a window that resolves dates asked for. -/
structure CustomHolds (earliest latest : Date) (asked : Option Date × Option Date)
    (coverage : SiteCoverage)
    (period : WebsitePeriod) : Prop where
  twoDays : earliest < latest → ∃ start «end», period.start = some start ∧ period.end = some «end» ∧
    start < «end»
  noted : (∃ day, (asked.1 = some day ∧ period.start ≠ some day) ∨
    (asked.2 = some day ∧ period.end ≠ some day)) →
    period.customNote ≠ ""
  outside : AsksOutside earliest latest asked →
    ∃ default, presetPeriod DEFAULT_PRESET coverage = .ok default ∧
    period.start = default.start ∧ period.end = default.end

/-- What holds of a window that is resolved against a first and a last measured day. -/
structure WindowHolds (snapshots : SiteSnapshots) (raw rawFrom rawTo : Option String)
    (coverage : SiteCoverage) (earliest latest : Date)
    (period : WebsitePeriod) : Prop where
  inside : ∃ start «end», period.start = some start ∧ period.end = some «end» ∧ earliest ≤ start ∧
    start ≤ «end» ∧
    «end» ≤ latest
  custom : stripped raw = CUSTOM_KEY →
    CustomHolds earliest latest (parseIsoDate rawFrom, parseIsoDate rawTo) coverage period
  previous : ∀ previousStart previousEnd, Offered snapshots period coverage previousStart
    previousEnd ↔
    ∃ start «end», period.start = some start ∧ period.end = some «end» ∧
    Precedes start «end» previousStart previousEnd ∧
      InWindow coverage.earliest coverage.latest previousStart ∧
      InWindow coverage.earliest coverage.latest previousEnd

/-- The days of an interval are collected or missing. -/
structure Counted (snapshots : SiteSnapshots) (start «end» : Date) : Prop where
  days : (getPeriodCoverage snapshots (some start) (some «end»)).missingDates.length +
      (getPeriodCoverage snapshots (some start) (some «end»)).snapshotDays =
        (Date.eachDay start «end»).length
  missing : ∀ day, day ∈ (getPeriodCoverage snapshots (some start) (some «end»)).missingDates ↔
    start ≤ day ∧ day ≤ «end» ∧ ∀ row ∈ currentDays snapshots.rows, row.day ≠ day

/-- A request resolves to a window that keeps its promises. -/
def Resolves (snapshots : SiteSnapshots) (raw rawFrom rawTo : Option String)
    (coverage : SiteCoverage) : Prop :=
  (∃ period, parsePeriod raw rawFrom rawTo coverage = .ok period ∧
    match coverage.earliest, coverage.latest with
    | some earliest, some latest =>
      WindowHolds snapshots raw rawFrom rawTo coverage earliest latest period
    | _, _ => period.start = none ∧ period.end = none) ∧
  ∀ start «end», Counted snapshots start «end»

/-- The preset that is used fits into the calendar, and a range that is open at one end reaches into
coverage. -/
def Fits (raw rawFrom rawTo : Option String) (coverage : SiteCoverage) : Prop :=
  match coverage.earliest, coverage.latest with
  | some earliest, some latest =>
    if stripped raw = CUSTOM_KEY then
      let asked := (parseIsoDate rawFrom, parseIsoDate rawTo)
      (asked = (none, none) ∨ AsksOutside earliest latest asked → DEFAULT_DAYS ≤ latest.toOrdinal) ∧
        (AsksOutside earliest latest asked →
          (asked.1 ≠ none ∧ asked.2 ≠ none) ∨ latest.toOrdinal ≤ earliest.toOrdinal + 1)
    else ∀ days, (presetOf (stripped raw)).days = some days → days ≤ latest.toOrdinal
  | _, _ => True

/-! ## Presets -/

section Presets

variable {coverage : SiteCoverage} {earliest latest : Date} {preset : PeriodPreset}
  {period : WebsitePeriod}

theorem SiteCoverage.le (hearliest : coverage.earliest = some earliest)
    (hlatest : coverage.latest = some latest) :
    earliest ≤ latest := by
  have hends := coverage.ends
  rw [hearliest, hlatest] at hends
  exact hends

/-- The window of a preset ends with coverage. -/
structure EndsLatest (earliest latest : Date) (preset : PeriodPreset)
    (period : WebsitePeriod) : Prop where
  last : period.end = some latest
  first : ∃ start, period.start = some start ∧ earliest ≤ start ∧ start ≤ latest ∧
    (preset.days = none → start = earliest) ∧ ∀ days, preset.days = some days →
      start.toOrdinal = max (latest.toOrdinal - (days - 1)) earliest.toOrdinal
  whole : period.isAll = preset.isAll
  custom : period.isCustom = false

theorem toOrdinal_max (a b : Date) : (max a b).toOrdinal = max a.toOrdinal b.toOrdinal :=
  Date.toOrdinal_strictMono.monotone.map_max

theorem presetPeriod_endsLatest (hearliest : coverage.earliest = some earliest)
    (hlatest : coverage.latest = some latest)
    (h : presetPeriod preset coverage = .ok period) : EndsLatest earliest latest preset period := by
  have hle := SiteCoverage.le hearliest hlatest
  unfold presetPeriod at h
  rw [hearliest, hlatest] at h
  dsimp only at h
  cases hdays : preset.days with
  | none =>
    rw [hdays] at h
    cases h
    have hall : preset.isAll = true := by
      unfold PeriodPreset.isAll
      rw [hdays]
      rfl
    exact ⟨rfl, ⟨earliest, rfl, le_refl _, hle, fun _ =>
      rfl, fun days hsome => by rw [hdays] at hsome; cases hsome⟩,
      hall.symm, rfl⟩
  | some days =>
    rw [hdays] at h
    obtain ⟨start, hstart, hok⟩ := bind_eq_ok_iff.mp h
    cases hok
    rw [inCalendar_eq_ok_iff, Date.subDays?_eq_some_iff] at hstart
    have hpart : preset.isAll = false := by
      unfold PeriodPreset.isAll
      rw [hdays]
      rfl
    have hbefore : start ≤ latest := by
      rw [← Date.toOrdinal_le_iff]
      omega
    refine ⟨rfl, ⟨max start earliest, rfl, le_max_right _ _, max_le hbefore hle, fun hnone =>
      ?_, fun other hother => ?_⟩,
      hpart.symm, rfl⟩
    · rw [hdays] at hnone
      cases hnone
    · rw [hdays] at hother
      cases hother
      rw [toOrdinal_max]
      omega

theorem presetPeriod_isOk_iff (hearliest : coverage.earliest = some earliest)
    (hlatest : coverage.latest = some latest)
    (hpositive : ∀ days, preset.days = some days → 0 < days) :
    (∃ period, presetPeriod preset coverage = .ok period) ↔ ∀ days, preset.days = some days →
    days ≤ latest.toOrdinal := by
  unfold presetPeriod
  rw [hearliest, hlatest]
  dsimp only
  cases hdays : preset.days with
  | none => exact ⟨fun _ days hnone => (by cases hnone), fun _ => ⟨_, rfl⟩⟩
  | some days =>
    have hpositive := hpositive days hdays
    dsimp only
    constructor
    · rintro ⟨period, hok⟩ other hother
      cases hother
      obtain ⟨start, hstart, -⟩ := bind_eq_ok_iff.mp hok
      have hlt := Date.subDays?_isSome.mp ⟨start, inCalendar_eq_ok_iff.mp hstart⟩
      omega
    · intro h
      have hle := h days rfl
      obtain ⟨start, hstart⟩ :=
        (Date.subDays?_isSome (n := days - 1)).mpr (show days - 1 < latest.toOrdinal by omega)
      exact ⟨_, bind_eq_ok_iff.mpr ⟨start, inCalendar_eq_ok_iff.mpr hstart, rfl⟩⟩

theorem presetOf_mem (key : String) : presetOf key ∈ PERIOD_PRESETS := by
  unfold presetOf
  cases hfind : PERIOD_PRESETS.find? (·.key = key) with
  | none => exact List.mem_cons_self
  | some preset => exact List.mem_of_find?_eq_some hfind

theorem days_pos {preset : PeriodPreset} (h : preset ∈ PERIOD_PRESETS) {days : Nat}
    (hdays : preset.days = some days) :
    0 < days := by
  have hall : PERIOD_PRESETS.all (fun preset => preset.days.all (0 < ·)) = true := by decide
  have hpreset := List.all_eq_true.mp hall preset h
  rw [hdays] at hpreset
  exact of_decide_eq_true hpreset

end Presets

/-! ## The window before -/

section Previous

variable {snapshots : SiteSnapshots} {coverage : SiteCoverage}
  {earliest latest start «end» previousStart previousEnd : Date}
  {period : WebsitePeriod}

theorem inWindow_some {first last day : Date} : InWindow (some first) (some last) day ↔
    first ≤ day ∧ day ≤ last := by
  constructor
  · rintro ⟨_, _, h, h', hboth⟩
    cases h
    cases h'
    exact hboth
  · exact fun h => ⟨_, _, rfl, rfl, h⟩

/-- The window before is offered exactly where it lies inside coverage. -/
theorem offered_iff (hearliest : coverage.earliest = some earliest)
    (hlatest : coverage.latest = some latest) (hstart : period.start = some start)
    (hend : period.end = some «end») (horder : start ≤ «end») (hbefore : «end» ≤ latest)
    (hall : period.isAll = true → start = earliest) :
    Offered snapshots period coverage previousStart previousEnd ↔
      ∃ start «end», period.start = some start ∧ period.end = some «end» ∧
      Precedes start «end» previousStart previousEnd ∧
        InWindow coverage.earliest coverage.latest previousStart ∧
        InWindow coverage.earliest coverage.latest previousEnd := by
  have hordinal := Date.toOrdinal_le_iff.mpr horder
  have hends := Date.toOrdinal_le_iff.mpr hbefore
  -- where the window is in the calendar, only its start can be outside coverage
  have hwithin : Precedes start «end» previousStart previousEnd →
      (InWindow coverage.earliest coverage.latest previousStart ∧
        InWindow coverage.earliest coverage.latest previousEnd ↔
        earliest ≤ previousStart) := by
    intro hprecedes
    rw [hearliest, hlatest, inWindow_some, inWindow_some]
    have hgap := hprecedes.1
    have hlength := hprecedes.2
    constructor
    · exact fun h => h.1.1
    · intro h
      have hfirst := Date.toOrdinal_le_iff.mpr h
      simp only [← Date.toOrdinal_le_iff]
      omega
  unfold Offered buildComparison
  rw [hstart, hend]
  dsimp only
  by_cases hwhole : period.isAll = true
  · rw [if_pos hwhole]
    have hsame := hall hwhole
    constructor
    · rintro ⟨comparison, hok, havailable, -⟩
      cases hok
      cases havailable
    · rintro ⟨first, last, hfirst, hlast, hprecedes, hinside⟩
      cases hfirst
      cases hlast
      have hle := (hwithin hprecedes).mp hinside
      have hordinal' := Date.toOrdinal_le_iff.mpr hle
      have hgap := hprecedes.1
      have hlength := hprecedes.2
      rw [← hsame] at hordinal'
      omega
  · rw [if_neg hwhole]
    constructor
    · rintro ⟨comparison, hok, havailable, hprevious, hprevious'⟩
      obtain ⟨lastDay, hlastDay, hok⟩ := bind_eq_ok_iff.mp hok
      obtain ⟨firstDay, hfirstDay, hok⟩ := bind_eq_ok_iff.mp hok
      have hok := Except.ok.inj hok
      rw [inCalendar_eq_ok_iff] at hlastDay hfirstDay
      rw [hearliest] at hok
      by_cases hearly : firstDay < earliest
      · rw [if_pos (by simpa using hearly)] at hok
        rw [← hok] at havailable
        cases havailable
      · rw [if_neg (by simpa using hearly)] at hok
        rw [← hok] at hprevious hprevious'
        cases hprevious
        cases hprevious'
        have hprecedes := (precedes_iff horder).mpr ⟨hlastDay, hfirstDay⟩
        exact ⟨start, «end», rfl, rfl, hprecedes, (hwithin hprecedes).mpr (not_lt.mp hearly)⟩
    · rintro ⟨first, last, hfirst, hlast, hprecedes, hinside⟩
      cases hfirst
      cases hlast
      have hle := (hwithin hprecedes).mp hinside
      obtain ⟨hlastDay, hfirstDay⟩ := (precedes_iff horder).mp hprecedes
      refine ⟨_, bind_eq_ok_iff.mpr ⟨_, inCalendar_eq_ok_iff.mpr hlastDay, bind_eq_ok_iff.mpr
        ⟨_, inCalendar_eq_ok_iff.mpr hfirstDay, rfl⟩⟩, ?_⟩
      rw [hearliest, if_neg (by simpa using hle)]
      exact ⟨rfl, rfl, rfl⟩

end Previous

/-! ## Dates that were asked for -/

section Custom

variable {coverage : SiteCoverage} {earliest latest : Date} {period : WebsitePeriod}

/-- The default window starts at most thirty days back. -/
theorem default_start (hearliest : coverage.earliest = some earliest)
    (hlatest : coverage.latest = some latest) {default : WebsitePeriod}
    (h : presetPeriod DEFAULT_PRESET coverage = .ok default) :
    ∃ start, default.start = some start ∧ default.end = some latest ∧ earliest ≤ start ∧
    start ≤ latest ∧
      start.toOrdinal = max (latest.toOrdinal - 29) earliest.toOrdinal := by
  have hends := presetPeriod_endsLatest hearliest hlatest h
  obtain ⟨start, hstart, hinside, hbefore, -, hordinal⟩ := hends.first
  exact ⟨start, hstart, hends.last, hinside, hbefore, hordinal DEFAULT_DAYS rfl⟩

structure CustomWindow (earliest latest start «end» : Date) (period : WebsitePeriod) : Prop where
  starts : period.start = some start
  ends : period.end = some «end»
  inside : earliest ≤ start ∧ start ≤ «end» ∧ «end» ≤ latest
  part : period.isAll = false
  twoDays : earliest < latest → start < «end»

theorem customFallback_isOk_iff (hearliest : coverage.earliest = some earliest)
    (hlatest : coverage.latest = some latest)
    (note : String) : (∃ period, customFallback coverage note = .ok period) ↔
    DEFAULT_DAYS ≤ latest.toOrdinal := by
  have hdefault := @presetPeriod_isOk_iff coverage earliest latest DEFAULT_PRESET hearliest hlatest
    fun days hdays => days_pos List.mem_cons_self hdays
  have hdays : (∀ days, DEFAULT_PRESET.days = some days → days ≤ latest.toOrdinal) ↔
      DEFAULT_DAYS ≤ latest.toOrdinal :=
    ⟨fun h => h DEFAULT_DAYS rfl, fun h days hdays => Option.some.inj hdays ▸ h⟩
  rw [← hdays, ← hdefault]
  unfold customFallback
  constructor
  · rintro ⟨period, hok⟩
    obtain ⟨default, hdefault, -⟩ := bind_eq_ok_iff.mp hok
    exact ⟨default, hdefault⟩
  · rintro ⟨default, hdefault⟩
    exact ⟨_, bind_eq_ok_iff.mpr ⟨default, hdefault, rfl⟩⟩

/-- The fallback shows the default window, with a note. -/
theorem customFallback_spec (hearliest : coverage.earliest = some earliest)
    (hlatest : coverage.latest = some latest) {note : String}
    (h : customFallback coverage note = .ok period) :
    (∃ start, CustomWindow earliest latest start latest period) ∧ period.customNote = note ∧
      ∃ default, presetPeriod DEFAULT_PRESET coverage = .ok default ∧ period.start = default.start ∧
        period.end = default.end := by
  obtain ⟨default, hdefault, hok⟩ := bind_eq_ok_iff.mp h
  cases hok
  obtain ⟨start, hstart, hend, hinside, hbefore, hordinal⟩ :=
    default_start hearliest hlatest hdefault
  refine ⟨⟨start, hstart, hend, ⟨hinside, hbefore, le_refl _⟩, rfl, fun hlt => ?_⟩, rfl, default,
    hdefault, rfl, rfl⟩
  have hordinal' := Date.toOrdinal_lt_iff.mpr hlt
  have hone := Date.one_le_toOrdinal earliest
  rw [← Date.toOrdinal_lt_iff, hordinal]
  omega

/-- A day is widened inside coverage. -/
theorem widened_spec {day : Date} (hfirst : earliest ≤ day) (hlast : day ≤ latest) :
    ∃ start «end», widened earliest latest day day = .ok (start, «end») ∧ earliest ≤ start ∧
    start ≤ «end» ∧ «end» ≤ latest ∧
      (earliest < latest → start < «end») ∧
      (day < latest → start = day ∧ «end».toOrdinal = day.toOrdinal + 1) ∧
      (day = latest → «end» = latest ∧ start.toOrdinal =
        max (latest.toOrdinal - 1) earliest.toOrdinal) := by
  unfold widened
  by_cases hroom : day < latest
  · obtain ⟨next, hnext, hle⟩ := Date.exists_next? hroom
    have hadd : Date.addDays? 1 day = some next := by
      rw [Date.addDays?_eq_some_iff, Date.toOrdinal_next? hnext]
    have hlt := (Date.covBy_next? hnext).lt
    rw [if_pos hroom]
    refine ⟨day, next, bind_eq_ok_iff.mpr ⟨next, inCalendar_eq_ok_iff.mpr hadd, rfl⟩, hfirst,
      hlt.le, hle, fun _ => hlt,
      fun _ => ⟨rfl, Date.addDays?_eq_some_iff.mp hadd⟩, fun heq =>
        absurd hroom (not_lt.mpr heq.ge)⟩
  · have heq : day = latest := le_antisymm hlast (not_lt.mp hroom)
    rw [if_neg hroom]
    by_cases hback : earliest < day
    · have hordinal := Date.toOrdinal_lt_iff.mpr hback
      have hone := Date.one_le_toOrdinal earliest
      obtain ⟨before, hbefore⟩ :=
        (Date.subDays?_isSome (n := 1)).mpr (show 1 < day.toOrdinal by omega)
      have hstep := Date.subDays?_eq_some_iff.mp hbefore
      rw [if_pos hback]
      have hlt : before < day := by
        rw [← Date.toOrdinal_lt_iff]
        omega
      have hinside : earliest ≤ before := by
        rw [← Date.toOrdinal_le_iff]
        omega
      refine ⟨before, day, bind_eq_ok_iff.mpr ⟨before, inCalendar_eq_ok_iff.mpr hbefore, rfl⟩,
        hinside, hlt.le, hlast,
        fun _ => hlt, fun hlt' => absurd hlt' hroom, fun _ => ⟨heq, ?_⟩⟩
      rw [← heq]
      omega
    · have hsame : day = earliest := le_antisymm (not_lt.mp hback) hfirst
      rw [if_neg hback]
      refine ⟨day, day, rfl, hfirst, le_refl _, hlast, fun hlt =>
        absurd (hsame ▸ heq ▸ hlt) (lt_irrefl _),
        fun hlt => absurd hlt hroom, fun _ => ⟨heq, ?_⟩⟩
      rw [← heq, hsame]
      omega

/-- A single day is widened, and a note says so. -/
theorem clampedPeriod_day {asked : Date × Date} {note : String} {day start «end» : Date}
    (h : widened earliest latest day day = .ok (start, «end»)) :
    clampedPeriod earliest latest asked (day, day) note =
      .ok (customWindow (some start) (some «end») "Lühim vahemik on kaks päeva.") := by
  unfold clampedPeriod
  dsimp only
  rw [if_pos (by rw [Nat.sub_self]; decide), h]
  rfl

/-- A range with days inside coverage resolves, and says where it was changed. -/
theorem clampedPeriod_spec {asked : Date × Date} {note : String}
    (hdays : max asked.1 earliest ≤ min asked.2 latest) :
    ∃ start «end» period, clampedPeriod earliest latest asked
      (max asked.1 earliest, min asked.2 latest) note = .ok period ∧
      CustomWindow earliest latest start «end» period ∧
      (period.customNote = "" → note = "" ∧ start = asked.1 ∧ «end» = asked.2) := by
  have hinside : earliest ≤ max asked.1 earliest := le_max_right _ _
  have hbefore : min asked.2 latest ≤ latest := min_le_right _ _
  generalize max asked.1 earliest = first at hdays hinside ⊢
  generalize min asked.2 latest = last at hdays hbefore ⊢
  by_cases hday : first = last
  · subst hday
    obtain ⟨start, «end», hwidened, hfirst, hle, hlast, htwo, -⟩ :=
      @widened_spec earliest latest first hinside hbefore
    refine ⟨start, «end», _, clampedPeriod_day hwidened,
      ⟨rfl, rfl, ⟨hfirst, hle, hlast⟩, rfl, htwo⟩, fun hnote => ?_⟩
    have htext : "Lühim vahemik on kaks päeva." = "" := hnote
    exact absurd htext (by decide)
  · have hlt := lt_of_le_of_ne hdays hday
    have hordinal := Date.toOrdinal_lt_iff.mpr hlt
    have hlong : ¬last.toOrdinal - first.toOrdinal + 1 < MIN_CUSTOM_DAYS := by
      unfold MIN_CUSTOM_DAYS
      omega
    unfold clampedPeriod
    dsimp only
    rw [if_neg hlong]
    refine ⟨first, last, _, rfl, ⟨rfl, rfl, ⟨hinside, hdays, hbefore⟩, rfl, fun _ => hlt⟩,
      fun hnote => ?_⟩
    by_cases hsame : (first, last) ≠ asked
    · have htext : "Vahemik piiratud mõõdetud andmetega: " ++ dayText first ++ "–" ++ dayText
          last ++ "." = "" := by
        rw [← hnote]
        exact (if_pos hsame).symm
      have hchars := congrArg String.toList htext
      rw [String.toList_append, String.toList_empty, List.append_eq_nil_iff] at hchars
      exact absurd hchars.2 (by decide)
    · have heq := not_not.mp hsame
      have hempty : note = "" := by
        rw [← hnote]
        exact (if_neg hsame).symm
      exact ⟨hempty, by rw [← heq], by rw [← heq]⟩

/-- Where no day that was asked for was inside coverage. -/
theorem asksOutside_both (start «end» : Date) :
    AsksOutside earliest latest (some start, some «end») ↔
    min (max start «end») latest < max (min start «end») earliest := by
  constructor
  · intro h
    by_contra hdays
    have hdays := not_lt.mp hdays
    refine h (max (min start «end») earliest) (le_max_right _ _)
      (hdays.trans (min_le_right _ _)) ⟨le_max_left _ _, ?_⟩
    exact hdays.trans (min_le_left _ _)
  · intro h day hfirst hlast hstated
    exact absurd ((max_le hstated.1 hfirst).trans (le_min hstated.2 hlast)) (not_le.mpr h)

theorem asksOutside_from (horder : earliest ≤ latest) (start : Date) :
    AsksOutside earliest latest (some start, none) ↔ latest < start := by
  constructor
  · intro h
    by_contra hle
    exact h latest horder (le_refl _) (not_lt.mp hle)
  · exact fun h day _ hlast hstated => absurd (hstated.trans hlast) (not_le.mpr h)

theorem asksOutside_to (horder : earliest ≤ latest) («end» : Date) :
    AsksOutside earliest latest (none, some «end») ↔ «end» < earliest := by
  constructor
  · intro h
    by_contra hle
    exact h earliest (le_refl _) horder (not_lt.mp hle)
  · exact fun h day hfirst _ hstated => absurd (hfirst.trans hstated) (not_le.mpr h)

theorem not_asksOutside_none (horder : earliest ≤ latest) :
    ¬AsksOutside earliest latest (none, none) :=
  fun h => h earliest (le_refl _) horder trivial

end Custom

section Resolve

variable {coverage : SiteCoverage} {earliest latest : Date} {rawFrom rawTo : Option String}

def CustomResolves (earliest latest : Date) (asked : Option Date × Option Date)
    (coverage : SiteCoverage)
    (outcome : Except OverflowError WebsitePeriod) : Prop :=
  ∃ period, outcome = .ok period ∧
    (∃ start «end», CustomWindow earliest latest start «end» period) ∧
    CustomHolds earliest latest asked coverage period

theorem CustomWindow.twoDays_some {start «end» : Date} {period : WebsitePeriod}
    (h : CustomWindow earliest latest start «end» period) (hlt : earliest < latest) :
    ∃ start «end», period.start = some start ∧ period.end = some «end» ∧ start < «end» :=
  ⟨start, «end», h.starts, h.ends, h.twoDays hlt⟩

/-- The fallback holds wherever it is in the calendar. -/
theorem fallback_resolves_iff (hearliest : coverage.earliest = some earliest)
    (hlatest : coverage.latest = some latest) {note : String}
    (hnote : note ≠ "") (asked : Option Date × Option Date) :
    CustomResolves earliest latest asked coverage (customFallback coverage note) ↔
    DEFAULT_DAYS ≤ latest.toOrdinal := by
  rw [← customFallback_isOk_iff hearliest hlatest note]
  constructor
  · exact fun ⟨period, hok, _⟩ => ⟨period, hok⟩
  · rintro ⟨period, hok⟩
    obtain ⟨⟨start, hwindow⟩, hsame, hdefault⟩ := customFallback_spec hearliest hlatest hok
    exact ⟨period, hok, ⟨start, latest, hwindow⟩, hwindow.twoDays_some, fun _ =>
      hsame ▸ hnote, fun _ => hdefault⟩

/-- A range with days inside coverage resolves. -/
theorem clamped_resolves {asked : Option Date × Option Date} {start «end» : Date} {note : String}
    (hdays : max start earliest ≤ min «end» latest) (hinside : ¬AsksOutside earliest latest asked)
    (hasked : note = "" → (∀ day, asked.1 = some day → start = day) ∧ ∀ day, asked.2 = some day →
      «end» = day) :
    CustomResolves earliest latest asked coverage
      (clampedPeriod earliest latest (start, «end»)
        (max start earliest, min «end» latest) note) := by
  obtain ⟨first, last, period, hok, hwindow, hkept⟩ :=
    @clampedPeriod_spec earliest latest (start, «end») note hdays
  refine ⟨period, hok, ⟨first, last, hwindow⟩, hwindow.twoDays_some, fun ⟨day, hday⟩ hnote => ?_,
    fun houtside => absurd houtside hinside⟩
  obtain ⟨hempty, hfirst, hlast⟩ := hkept hnote
  have hsame := hasked hempty
  cases hday with
  | inl h => exact h.2 (by rw [hwindow.starts, hfirst, ← hsame.1 day h.1])
  | inr h => exact h.2 (by rw [hwindow.ends, hlast, ← hsame.2 day h.1])

/-- A single day beyond the range that was asked for is the default window of a short coverage. -/
theorem day_resolves_iff (hearliest : coverage.earliest = some earliest)
    (hlatest : coverage.latest = some latest) {asked : Option Date × Option Date}
    {range : Date × Date} {note : String} {day : Date} (hfirst : earliest ≤ day)
    (hlast : day ≤ latest) (hends : day = earliest ∨ day = latest)
    (houtside : AsksOutside earliest latest asked) :
    CustomResolves earliest latest asked coverage
      (clampedPeriod earliest latest range (day, day) note) ↔
      DEFAULT_DAYS ≤ latest.toOrdinal ∧ latest.toOrdinal ≤ earliest.toOrdinal + 1 := by
  obtain ⟨start, «end», hwidened, hstart, hle, hend, htwo, hnext, hback⟩ :=
    @widened_spec earliest latest day hfirst hlast
  have hok := @clampedPeriod_day earliest latest range note day start «end» hwidened
  have hcoverage := Date.toOrdinal_le_iff.mpr (SiteCoverage.le hearliest hlatest)
  have hfirst' := Date.toOrdinal_le_iff.mpr hfirst
  have hlast' := Date.toOrdinal_le_iff.mpr hlast
  constructor
  · rintro ⟨period, hperiod, -, hholds⟩
    cases Except.ok.inj (hok.symm.trans hperiod)
    obtain ⟨default, hdefault, hsame, hsame'⟩ := hholds.outside houtside
    have hfits := (customFallback_isOk_iff hearliest hlatest "").mp
      ⟨_, bind_eq_ok_iff.mpr ⟨default, hdefault, rfl⟩⟩
    obtain ⟨defaultStart, hdefaultStart, hdefaultEnd, -, -, hordinal⟩ :=
      default_start hearliest hlatest hdefault
    have hstarts : start = defaultStart := Option.some.inj (hsame.trans hdefaultStart)
    have hlasts : «end» = latest := Option.some.inj (hsame'.trans hdefaultEnd)
    refine ⟨hfits, ?_⟩
    cases hends with
    | inl heq =>
      by_cases hroom : day < latest
      · have hstep := (hnext hroom).2
        rw [hlasts, heq] at hstep
        omega
      · have heq' : day = latest := le_antisymm hlast (not_lt.mp hroom)
        rw [← heq', heq]
        omega
    | inr heq =>
      have hstep := (hback heq).2
      rw [hstarts, hordinal] at hstep
      omega
  · rintro ⟨hfits, hshort⟩
    obtain ⟨period, hfallback⟩ := (customFallback_isOk_iff hearliest hlatest "").mpr hfits
    obtain ⟨default, hdefault, -⟩ := bind_eq_ok_iff.mp hfallback
    obtain ⟨defaultStart, hdefaultStart, hdefaultEnd, -, -, hordinal⟩ :=
      default_start hearliest hlatest hdefault
    have hnote : "Lühim vahemik on kaks päeva." ≠ "" := by decide
    refine ⟨_, hok, ⟨start, «end», rfl, rfl, ⟨hstart, hle, hend⟩, rfl, htwo⟩,
      fun hlt => ⟨start, «end», rfl, rfl, htwo hlt⟩, fun _ => hnote, fun _ =>
        ⟨default, hdefault, ?_⟩⟩
    rw [hdefaultStart, hdefaultEnd]
    -- both windows are all of coverage
    have hends : «end» = latest ∧ start = earliest := by
      have hstart' := Date.toOrdinal_le_iff.mpr hstart
      have hend' := Date.toOrdinal_le_iff.mpr hend
      simp only [← Date.toOrdinal_inj]
      by_cases hroom : day < latest
      · have hstep := hnext hroom
        have hroom' := Date.toOrdinal_lt_iff.mpr hroom
        rw [hstep.1] at hstart' ⊢
        omega
      · have hstep := hback (le_antisymm hlast (not_lt.mp hroom))
        have hlast'' := congrArg Date.toOrdinal hstep.1
        omega
    have hdefaults : defaultStart = earliest := by
      rw [← Date.toOrdinal_inj, hordinal]
      omega
    rw [hends.1, hends.2, hdefaults]
    exact ⟨rfl, rfl⟩

/-- When the dates that were asked for resolve. -/
theorem customPeriod_resolves_iff (hearliest : coverage.earliest = some earliest)
    (hlatest : coverage.latest = some latest) :
    CustomResolves earliest latest (parseIsoDate rawFrom, parseIsoDate rawTo) coverage
      (customPeriod rawFrom rawTo coverage) ↔
      ((parseIsoDate rawFrom, parseIsoDate rawTo) = (none, none) ∨
          AsksOutside earliest latest (parseIsoDate rawFrom, parseIsoDate rawTo) →
          DEFAULT_DAYS ≤ latest.toOrdinal) ∧
        (AsksOutside earliest latest (parseIsoDate rawFrom, parseIsoDate rawTo) →
          (parseIsoDate rawFrom ≠ none ∧ parseIsoDate rawTo ≠ none) ∨
          latest.toOrdinal ≤ earliest.toOrdinal + 1) := by
  have hcoverage := SiteCoverage.le hearliest hlatest
  unfold customPeriod
  rw [hearliest, hlatest]
  dsimp only
  cases hfrom : parseIsoDate rawFrom with
  | none =>
    cases hto : parseIsoDate rawTo with
    | none =>
      rw [if_pos ⟨rfl, rfl⟩, fallback_resolves_iff hearliest hlatest (by decide)]
      have hinside := not_asksOutside_none hcoverage
      exact ⟨fun h => ⟨fun _ => h, fun houtside => absurd houtside hinside⟩, fun h =>
        h.1 (Or.inl rfl)⟩
    | some «end» =>
      rw [if_neg (by rintro ⟨-, h⟩; cases h), asksOutside_to hcoverage]
      dsimp only [Option.getD_none, Option.getD_some]
      by_cases hbefore : «end» < earliest
      · rw [if_pos hbefore]
        unfold rangePeriod
        dsimp only
        rw [max_eq_right hbefore.le, min_eq_left hcoverage, if_neg (lt_irrefl _),
          day_resolves_iff hearliest hlatest (le_refl _) hcoverage (Or.inl rfl)
            ((asksOutside_to hcoverage _).mpr hbefore)]
        constructor
        · exact fun h => ⟨fun _ => h.1, fun _ => Or.inr h.2⟩
        · exact fun h => ⟨h.1 (Or.inr hbefore), (h.2 hbefore).resolve_left fun hboth => hboth.1 rfl⟩
      · rw [if_neg hbefore]
        have hdays : max earliest earliest ≤ min «end» latest := by
          rw [max_self]
          exact le_min (not_lt.mp hbefore) hcoverage
        unfold rangePeriod
        dsimp only
        rw [if_neg (not_lt.mpr hdays)]
        refine iff_of_true
            (clamped_resolves hdays (fun h => hbefore ((asksOutside_to hcoverage _).mp h)) fun _ =>
          ⟨fun day h => (by cases h), fun day h => Option.some.inj h⟩)
            ⟨?_, fun h => absurd h hbefore⟩
        rintro (h | h)
        · cases h
        · exact absurd h hbefore
  | some start =>
    cases hto : parseIsoDate rawTo with
    | none =>
      rw [if_neg (by rintro ⟨h, -⟩; cases h), asksOutside_from hcoverage]
      dsimp only [Option.getD_none, Option.getD_some]
      by_cases hafter : latest < start
      · rw [if_pos hafter]
        unfold rangePeriod
        dsimp only
        rw [max_eq_left hcoverage, min_eq_right hafter.le, if_neg (lt_irrefl _),
          day_resolves_iff hearliest hlatest hcoverage (le_refl _) (Or.inr rfl)
            ((asksOutside_from hcoverage _).mpr hafter)]
        constructor
        · exact fun h => ⟨fun _ => h.1, fun _ => Or.inr h.2⟩
        · exact fun h => ⟨h.1 (Or.inr hafter), (h.2 hafter).resolve_left fun hboth => hboth.2 rfl⟩
      · rw [if_neg hafter]
        have hdays : max start earliest ≤ min latest latest := by
          rw [min_self]
          exact max_le (not_lt.mp hafter) hcoverage
        unfold rangePeriod
        dsimp only
        rw [if_neg (not_lt.mpr hdays)]
        refine iff_of_true
            (clamped_resolves hdays (fun h => hafter ((asksOutside_from hcoverage _).mp h)) fun _ =>
          ⟨fun day h => Option.some.inj h, fun day h => (by cases h)⟩)
            ⟨?_, fun h => absurd h hafter⟩
        rintro (h | h)
        · cases h
        · exact absurd h hafter
    | some «end» =>
      rw [if_neg (by rintro ⟨h, -⟩; cases h), asksOutside_both]
      dsimp only [Option.getD_some]
      -- reversed or not, the range is the one between the two dates
      obtain ⟨note, hnote, hrange⟩ : ∃ note : String, (note = "" → start ≤ «end») ∧
          (if «end» < start then
              rangePeriod coverage earliest latest
                («end», start) "Kuupäevad olid vastupidi ja vahetati."
            else rangePeriod coverage earliest latest (start, «end») "") =
          rangePeriod coverage earliest latest (min start «end», max start «end») note := by
        by_cases hreversed : «end» < start
        · rw [if_pos hreversed, min_eq_right hreversed.le, max_eq_left hreversed.le]
          exact ⟨_, fun hempty => absurd hempty (by decide), rfl⟩
        · rw [if_neg hreversed, min_eq_left (not_lt.mp hreversed),
            max_eq_right (not_lt.mp hreversed)]
          exact ⟨_, fun _ => not_lt.mp hreversed, rfl⟩
      rw [hrange]
      unfold rangePeriod
      dsimp only
      by_cases houtside : min (max start «end») latest < max (min start «end») earliest
      · rw [if_pos houtside, fallback_resolves_iff hearliest hlatest (by decide)]
        constructor
        · exact fun h =>
            ⟨fun _ => h, fun _ =>
              Or.inl ⟨fun hnone => (by cases hnone), fun hnone => (by cases hnone)⟩⟩
        · exact fun h => h.1 (Or.inr houtside)
      · rw [if_neg houtside]
        refine iff_of_true
          (clamped_resolves (not_lt.mp houtside) (fun h => houtside ((asksOutside_both _ _).mp h))
          fun hempty => ?_) ⟨?_, fun h => absurd h houtside⟩
        · have horder := hnote hempty
          rw [min_eq_left horder, max_eq_right horder]
          exact ⟨fun day h => Option.some.inj h, fun day h => Option.some.inj h⟩
        · rintro (h | h)
          · cases h
          · exact absurd h houtside

end Resolve

theorem rangePeriod_part {coverage : SiteCoverage} {earliest latest : Date} {asked : Date × Date}
    {note : String} {period : WebsitePeriod}
    (h : rangePeriod coverage earliest latest asked note = .ok period) :
      period.isAll = false := by
  unfold rangePeriod at h
  dsimp only at h
  split at h
  · obtain ⟨default, -, hok⟩ := bind_eq_ok_iff.mp h
    cases hok
    rfl
  · unfold clampedPeriod at h
    dsimp only at h
    split at h
    · obtain ⟨range, -, hok⟩ := bind_eq_ok_iff.mp h
      cases hok
      rfl
    · cases h
      rfl

/-- A custom window is never that of all days. -/
theorem customPeriod_part {coverage : SiteCoverage} {earliest latest : Date}
    {rawFrom rawTo : Option String} {period : WebsitePeriod}
    (hearliest : coverage.earliest = some earliest) (hlatest : coverage.latest = some latest)
    (h : customPeriod rawFrom rawTo coverage = .ok period) : period.isAll = false := by
  unfold customPeriod at h
  rw [hearliest, hlatest] at h
  dsimp only at h
  split at h
  · obtain ⟨default, -, hok⟩ := bind_eq_ok_iff.mp h
    cases hok
    rfl
  · split at h <;> exact rangePeriod_part h

/-! ## Collected and missing days -/

section Days

variable {snapshots : SiteSnapshots} {start «end» : Date}

theorem mem_daysInside {row : Ga4Snapshot} : row ∈ daysInside snapshots start «end» ↔
    row ∈ currentDays snapshots.rows ∧ start ≤ row.day ∧ row.day ≤ «end» := by
  unfold daysInside
  rw [List.mem_filter, decide_eq_true_eq]

/-- A day of an interval is collected once. -/
theorem nodup_daysInside (snapshots : SiteSnapshots) (start «end» : Date) :
    ((daysInside snapshots start «end»).map (·.day)).Nodup := by
  have hcurrent := (List.pairwise_map.mp snapshots.one_current).sublist
    (List.filter_sublist (p := fun row : Ga4Snapshot => decide (start ≤ row.day ∧ row.day ≤ «end»)))
  refine List.pairwise_map.mpr (List.Pairwise.imp_of_mem (fun ha hb hne hday => hne ?_) hcurrent)
  have hsource := snapshots.one_source _ (List.mem_of_mem_filter (List.mem_of_mem_filter ha)) _
    (List.mem_of_mem_filter (List.mem_of_mem_filter hb))
  exact Prod.ext hsource hday

/-- Every day of an interval is collected or missing. -/
theorem counted (snapshots : SiteSnapshots) (start «end» : Date) :
    Counted snapshots start «end» := by
  by_cases hempty : «end» < start
  · have hcoverage : getPeriodCoverage snapshots (some start) (some «end») =
        .empty (some start) (some «end») :=
      if_pos hempty
    have hordinal := Date.toOrdinal_lt_iff.mpr hempty
    constructor
    · rw [hcoverage, Date.length_eachDay]
      show 0 + 0 = _
      omega
    · intro day
      rw [hcoverage]
      refine iff_of_false List.not_mem_nil fun h => ?_
      exact absurd (h.1.trans h.2.1) (not_le.mpr hempty)
  · let collected := (daysInside snapshots start «end»).map (·.day)
    have hmissing : (getPeriodCoverage snapshots (some start) (some «end»)).missingDates =
        (Date.eachDay start «end»).filter fun day => day ∉ collected := by
      unfold getPeriodCoverage
      dsimp only
      rw [if_neg hempty]
    have hdays : (getPeriodCoverage snapshots (some start) (some «end»)).snapshotDays =
        collected.length := by
      unfold getPeriodCoverage
      dsimp only
      rw [if_neg hempty]
      exact (List.length_map _).symm
    have hcollected : ∀ day, day ∈ collected ↔ start ≤ day ∧ day ≤ «end» ∧
        ∃ row ∈ currentDays snapshots.rows, row.day = day := by
      intro day
      constructor
      · intro h
        obtain ⟨row, hrow, rfl⟩ := List.mem_map.mp h
        obtain ⟨hcurrent, hinside⟩ := mem_daysInside.mp hrow
        exact ⟨hinside.1, hinside.2, row, hcurrent, rfl⟩
      · rintro ⟨hfirst, hlast, row, hcurrent, rfl⟩
        exact List.mem_map_of_mem (mem_daysInside.mpr ⟨hcurrent, hfirst, hlast⟩)
    constructor
    · -- the collected days of the interval, once in its order and once in that of the rows
      have hperm : ((Date.eachDay start «end»).filter fun day => day ∈ collected).Perm collected :=
        (List.perm_ext_iff_of_nodup ((Date.nodup_eachDay start «end»).filter _)
            (nodup_daysInside _ _ _)).mpr fun day => by
          rw [List.mem_filter, decide_eq_true_eq, Date.mem_eachDay]
          exact ⟨fun h => h.2, fun h =>
            ⟨⟨((hcollected day).mp h).1, ((hcollected day).mp h).2.1⟩, h⟩⟩
      have hsplit := List.length_eq_length_filter_add (l := Date.eachDay start «end») fun day =>
        decide (day ∈ collected)
      rw [hmissing, hdays, hsplit, hperm.length_eq, add_comm]
      congr 2
      refine List.filter_congr fun day _ => ?_
      exact decide_not
    · intro day
      rw [hmissing, List.mem_filter, decide_eq_true_eq, Date.mem_eachDay, hcollected]
      constructor
      · rintro ⟨hinside, hnot⟩
        exact ⟨hinside.1, hinside.2, fun row hrow hday =>
          hnot ⟨hinside.1, hinside.2, row, hrow, hday⟩⟩
      · rintro ⟨hfirst, hlast, hnone⟩
        exact ⟨⟨hfirst, hlast⟩, fun h => h.2.2.elim fun row hrow => hnone row hrow.1 hrow.2⟩

end Days

/-- The promises of a window include those of the dates asked for. -/
theorem WindowHolds.customResolves {snapshots : SiteSnapshots} {raw rawFrom rawTo : Option String}
    {coverage : SiteCoverage} {earliest latest : Date} {period : WebsitePeriod}
    (hearliest : coverage.earliest = some earliest) (hlatest : coverage.latest = some latest)
    (hcustom : stripped raw = CUSTOM_KEY) (hok : customPeriod rawFrom rawTo coverage = .ok period)
    (h : WindowHolds snapshots raw rawFrom rawTo coverage earliest latest period) :
    CustomResolves earliest latest (parseIsoDate rawFrom, parseIsoDate rawTo) coverage
      (customPeriod rawFrom rawTo coverage) := by
  obtain ⟨start, «end», hstart, hend, hinside, horder, hbefore⟩ := h.inside
  have hcustomHolds := h.custom hcustom
  refine ⟨period, hok, ⟨start, «end», hstart, hend, ⟨hinside, horder, hbefore⟩, ?_, fun hlt => ?_⟩,
    hcustomHolds⟩
  · exact customPeriod_part hearliest hlatest hok
  · obtain ⟨first, last, hfirst, hlast, hlt⟩ := hcustomHolds.twoDays hlt
    rw [hstart] at hfirst
    rw [hend] at hlast
    exact Option.some.inj hfirst ▸ Option.some.inj hlast ▸ hlt

/-- A request keeps its promises exactly where the preset that is used fits into the calendar and a
range that is open at one end reaches into coverage. -/
theorem resolves_iff (snapshots : SiteSnapshots) (raw rawFrom rawTo : Option String)
    (coverage : SiteCoverage) :
    Resolves snapshots raw rawFrom rawTo coverage ↔ Fits raw rawFrom rawTo coverage := by
  have hcounted : ∀ start «end», Counted snapshots start «end» := counted snapshots
  unfold Resolves
  rw [and_iff_left hcounted]
  unfold Fits
  cases hearliest : coverage.earliest with
  | none =>
    refine iff_of_true ?_ trivial
    unfold parsePeriod customPeriod presetPeriod
    rw [hearliest]
    by_cases hcustom : stripped raw = CUSTOM_KEY
    · rw [if_pos hcustom]
      exact ⟨_, rfl, rfl, rfl⟩
    · rw [if_neg hcustom]
      exact ⟨_, rfl, rfl, rfl⟩
  | some earliest =>
    cases hlatest : coverage.latest with
    | none =>
      have hends := coverage.ends
      rw [hearliest, hlatest] at hends
      exact hends.elim
    | some latest =>
      dsimp only
      unfold parsePeriod
      by_cases hcustom : stripped raw = CUSTOM_KEY
      · rw [if_pos hcustom, if_pos hcustom, ← customPeriod_resolves_iff hearliest hlatest]
        constructor
        · rintro ⟨period, hok, hholds⟩
          exact hholds.customResolves hearliest hlatest hcustom hok
        · rintro ⟨period, hok, ⟨start, «end», hwindow⟩, hholds⟩
          refine ⟨period, hok, ⟨start, «end», hwindow.starts, hwindow.ends, hwindow.inside⟩,
            fun _ => hholds,
            fun previousStart previousEnd => ?_⟩
          exact offered_iff hearliest hlatest hwindow.starts hwindow.ends hwindow.inside.2.1
            hwindow.inside.2.2 fun hall => absurd (hwindow.part.symm.trans hall) Bool.false_ne_true
      · rw [if_neg hcustom, if_neg hcustom, ← presetPeriod_isOk_iff hearliest hlatest
          fun days hdays => days_pos (presetOf_mem _) hdays]
        constructor
        · rintro ⟨period, hok, -⟩
          exact ⟨period, hok⟩
        · rintro ⟨period, hok⟩
          have hends := presetPeriod_endsLatest hearliest hlatest hok
          obtain ⟨start, hstart, hinside, hbefore, hwhole, -⟩ := hends.first
          refine ⟨period, hok, ⟨start, latest, hstart, hends.last, hinside, hbefore, le_refl _⟩,
            fun h => absurd h hcustom, fun previousStart previousEnd => ?_⟩
          refine offered_iff hearliest hlatest hstart hends.last hbefore
            (le_refl _) fun hall => hwhole ?_
          rw [hends.whole] at hall
          exact of_decide_eq_true hall

/-- What was measured from January to the middle of August 2026. -/
def coverage2026 : SiteCoverage where
  earliest := some (.of 2026 1 1)
  latest := some (.of 2026 8 15)
  daysCovered := 227
  daysWithPages := 227
  ends := by decide

def noSnapshots : SiteSnapshots := ⟨[], fun _ h => (by cases h), List.nodup_nil⟩

/-- A range from September on shows the last two measured days. -/
theorem openRange_outside : ¬Resolves noSnapshots (some "kohandatud")
    (some "2026-09-01") none coverage2026 := by
  rintro ⟨⟨period, hok, hholds⟩, -⟩
  have hcustom : stripped (some "kohandatud") = CUSTOM_KEY := by decide +kernel
  have hfrom : parseIsoDate (some "2026-09-01") =
    some ⟨2026, 9, 1, by decide, by decide, by decide⟩ := by decide +kernel
  have hto : parseIsoDate none = none := rfl
  unfold parsePeriod at hok
  rw [if_pos hcustom] at hok
  have hresolves := hholds.customResolves rfl rfl hcustom hok
  have hopen := ((customPeriod_resolves_iff rfl rfl).mp hresolves).2
  rw [hfrom, hto] at hopen
  exact absurd (hopen ((asksOutside_from (by decide) _).mpr (by decide))) (by decide)

end Website

end Dashkoda.Visibility
