import Dashkoda.Core.QueryState
import Dashkoda.EventProgramme.Attention

/-!
# Which days an E-pood figure is about

A period is anchored on the end of the imported dataset, then clamped to what the dataset covers,
then to what GA4 measured of that, and compared with the window of the same length before it.
-/

open Lib

namespace Dashkoda.Shop

open Core (DateRange OverflowError inCalendar inCalendar_eq_ok_iff inOrder parseIsoDate stripped)

abbrev Ga4Coverage := EventProgramme.Coverage

def CUSTOM_KEY : String := "kohandatud"
def ALL_KEY : String := "koik"

structure ShopPeriod where
  key : String
  label : String
  days : Option Nat
  isPrimary : Bool
  deriving DecidableEq

namespace ShopPeriod

def isAll (period : ShopPeriod) : Bool := period.days = none && period.key ≠ CUSTOM_KEY

def isCustom (period : ShopPeriod) : Bool := period.key = CUSTOM_KEY

end ShopPeriod

def DEFAULT_DAYS : Nat := 365

def DEFAULT_PERIOD : ShopPeriod := ⟨"1a", "1 a", some DEFAULT_DAYS, true⟩

def CUSTOM_PERIOD : ShopPeriod := ⟨CUSTOM_KEY, "Kohandatud", none, false⟩

def PERIODS : List ShopPeriod :=
  [⟨"30", "30 p", some 30, true⟩, ⟨"90", "90 p", some 90, true⟩, DEFAULT_PERIOD,
    ⟨"3a", "3 a", some 1095, true⟩,
    ⟨ALL_KEY, "Kõik", none, true⟩, ⟨"5a", "5 aastat", some 1825, false⟩, CUSTOM_PERIOD]

/-- `_BY_KEY.get(key)` -/
def byKey (key : String) : Option ShopPeriod := PERIODS.find? fun period => period.key = key

structure ResolvedShopPeriod where
  period : ShopPeriod
  start : Option Date
  «end» : Option Date
  deriving DecidableEq

/-- The custom range of what the two date fields hold. -/
def customRange (anchor : Date) : DateRange → Except OverflowError DateRange
  | (none, none) => do
    let start ← inCalendar (Date.subDays? (DEFAULT_DAYS - 1) anchor)
    return inOrder (some start, some anchor)
  | (none, «end») => .ok (none, «end»)
  | (some start, none) => .ok (inOrder (some start, some (max anchor start)))
  | (some start, some «end») => .ok (inOrder (some start, some «end»))

/-- `wants_custom` -/
def wantsCustom (rawPeriod rawFrom rawTo : Option String) : Bool :=
  stripped rawPeriod = CUSTOM_KEY ||
    (byKey (stripped rawPeriod) = none &&
      (parseIsoDate rawFrom ≠ none || parseIsoDate rawTo ≠ none))

def preset (rawPeriod : Option String) : ShopPeriod :=
  match byKey (stripped rawPeriod) with
  | some period => if period.isCustom then DEFAULT_PERIOD else period
  | none => DEFAULT_PERIOD

/-- `resolve_period` -/
def resolvePeriod (rawPeriod rawFrom rawTo : Option String) (anchor : Option Date) :
    Except OverflowError ResolvedShopPeriod :=
  match wantsCustom rawPeriod rawFrom rawTo, anchor with
  | true, some anchor => do
    let range ← customRange anchor (parseIsoDate rawFrom, parseIsoDate rawTo)
    return ⟨CUSTOM_PERIOD, range.1, range.2⟩
  | _, none =>
    .ok ⟨if (preset rawPeriod).isAll then preset rawPeriod else DEFAULT_PERIOD, none, none⟩
  | false, some anchor =>
    match (preset rawPeriod).days with
    -- a preset without a length is the whole history
    | none => .ok ⟨preset rawPeriod, none, none⟩
    | some days => do
      let start ← inCalendar (Date.subDays? (days - 1) anchor)
      return ⟨preset rawPeriod, some start, some anchor⟩

structure ShopCoverage where
  coverageStart : Option Date
  coverageEnd : Option Date
  deriving DecidableEq

/-- Which days the two halves of a question may read. -/
structure ComparisonWindow where
  commerceStart : Option Date
  commerceEnd : Option Date
  webStart : Option Date
  webEnd : Option Date
  pageDetailComplete : Bool
  deriving DecidableEq

namespace ComparisonWindow

def hasCommerce (window : ComparisonWindow) : Bool :=
  window.commerceStart.any fun start => window.commerceEnd.any fun «end» => start ≤ «end»

def hasWeb (window : ComparisonWindow) : Bool :=
  window.webStart.any fun start => window.webEnd.any fun «end» => start ≤ «end»

end ComparisonWindow

/-- `clamp_windows` -/
def clampWindows (start «end» : Option Date) (shop : ShopCoverage) (ga4 : Ga4Coverage) :
    ComparisonWindow :=
  match shop.coverageStart, shop.coverageEnd with
  | some coverageStart, some coverageEnd =>
    let commerceStart := (start.map fun start => max start coverageStart).getD coverageStart
    let commerceEnd := («end».map fun «end» => min «end» coverageEnd).getD coverageEnd
    match ga4.earliest, ga4.latest with
    | some earliest, some latest =>
      if commerceEnd < commerceStart then ⟨some commerceStart, some commerceEnd, none, none, false⟩
      else
        let webStart := max commerceStart earliest
        let webEnd := min commerceEnd latest
        if webEnd < webStart then ⟨some commerceStart, some commerceEnd, none, none, false⟩
        else ⟨some commerceStart, some commerceEnd, some webStart, some webEnd, false⟩
    | _, _ => ⟨some commerceStart, some commerceEnd, none, none, false⟩
  | _, _ => ⟨none, none, none, none, false⟩

def NO_CURRENT : String := "no_current_period"
def NO_COVERAGE : String := "no_coverage"
def TOO_SHORT : String := "history_too_short"

/-- A selected window and the window of the same length before it. -/
structure PeriodPair where
  currentStart : Option Date
  currentEnd : Option Date
  previousStart : Option Date
  previousEnd : Option Date
  unavailableReason : String
  deriving DecidableEq

namespace PeriodPair

def hasCurrent (pair : PeriodPair) : Bool := pair.currentStart ≠ none && pair.currentEnd ≠ none

def isAvailable (pair : PeriodPair) : Bool :=
  pair.hasCurrent && pair.previousStart ≠ none && pair.previousEnd ≠ none &&
    pair.unavailableReason = ""

end PeriodPair

/-- `derive_period_pair` -/
def derivePeriodPair (currentStart currentEnd coverageStart : Option Date) :
    Except OverflowError PeriodPair :=
  match currentStart, currentEnd with
  | some start, some «end» =>
    if «end» < start then .ok ⟨currentStart, currentEnd, none, none, NO_CURRENT⟩
    else
      match coverageStart with
      | none => .ok ⟨currentStart, currentEnd, none, none, NO_COVERAGE⟩
      | some coverageStart => do
        let length := «end».toOrdinal - start.toOrdinal + 1
        let previousEnd ← inCalendar (Date.subDays? 1 start)
        let previousStart ← inCalendar (Date.subDays? (length - 1) previousEnd)
        return if previousStart < coverageStart then
          ⟨currentStart, currentEnd, none, none, TOO_SHORT⟩
          else ⟨currentStart, currentEnd, some previousStart, some previousEnd, ""⟩
  | _, _ => .ok ⟨currentStart, currentEnd, none, none, NO_CURRENT⟩

/-! ## Days of a range -/

/-- The day is not outside the ends a range has. -/
def InRange (range : DateRange) (day : Date) : Prop :=
  (∀ start, range.1 = some start → start ≤ day) ∧ ∀ «end», range.2 = some «end» → day ≤ «end»

/-- The day lies in a range of which both ends are known. -/
def InWindow (start «end» : Option Date) (day : Date) : Prop :=
  ∃ first last, start = some first ∧ «end» = some last ∧ first ≤ day ∧ day ≤ last

/-- The range is the one of the same length that ends on the day before a window. -/
def Precedes (currentStart currentEnd previousStart previousEnd : Date) : Prop :=
  previousEnd.toOrdinal + 1 = currentStart.toOrdinal ∧
    previousStart.toOrdinal + (currentEnd.toOrdinal - currentStart.toOrdinal) =
      previousEnd.toOrdinal

section Windows

variable {shop : ShopCoverage} {ga4 : Ga4Coverage} {range : DateRange} {start «end» : Option Date}

/-- The Commerce window is what of the selection lies inside coverage. -/
theorem mem_commerce (day : Date) :
    InWindow (clampWindows start «end» shop ga4).commerceStart
      (clampWindows start «end» shop ga4).commerceEnd day ↔
      InRange (start, «end») day ∧ InWindow shop.coverageStart shop.coverageEnd day := by
  have hends (coverageStart coverageEnd : Date) :
      InWindow (some ((start.map fun start => max start coverageStart).getD coverageStart))
        (some ((«end».map fun «end» => min «end» coverageEnd).getD coverageEnd)) day ↔
      InRange (start, «end») day ∧ InWindow (some coverageStart) (some coverageEnd) day := by
    have hlow : (start.map fun start => max start coverageStart).getD coverageStart ≤ day ↔
        (∀ first, start = some first → first ≤ day) ∧ coverageStart ≤ day := by
      cases start with
      | none => exact ⟨fun h => ⟨fun _ hnone => (by cases hnone), h⟩, fun h => h.2⟩
      | some first =>
        show max first coverageStart ≤ day ↔ _
        rw [max_le_iff]
        exact ⟨fun h => ⟨fun _ heq => Option.some.inj heq ▸ h.1, h.2⟩, fun h =>
          ⟨h.1 first rfl, h.2⟩⟩
    have hhigh : day ≤ («end».map fun «end» => min «end» coverageEnd).getD coverageEnd ↔
        (∀ last, «end» = some last → day ≤ last) ∧ day ≤ coverageEnd := by
      cases «end» with
      | none => exact ⟨fun h => ⟨fun _ hnone => (by cases hnone), h⟩, fun h => h.2⟩
      | some last =>
        show day ≤ min last coverageEnd ↔ _
        rw [le_min_iff]
        exact ⟨fun h => ⟨fun _ heq => Option.some.inj heq ▸ h.1, h.2⟩, fun h => ⟨h.1 last rfl, h.2⟩⟩
    constructor
    · rintro ⟨first, last, hfirst, hlast, hle, hle'⟩
      cases hfirst
      cases hlast
      exact ⟨⟨(hlow.mp hle).1, (hhigh.mp hle').1⟩, _, _, rfl, rfl, (hlow.mp hle).2,
        (hhigh.mp hle').2⟩
    · rintro ⟨hrange, first, last, hfirst, hlast, hle, hle'⟩
      cases hfirst
      cases hlast
      exact ⟨_, _, rfl, rfl, hlow.mpr ⟨hrange.1, hle⟩, hhigh.mpr ⟨hrange.2, hle'⟩⟩
  unfold clampWindows
  cases shop.coverageStart with
  | none =>
    exact ⟨fun ⟨_, _, h, _⟩ => (by cases h), fun ⟨_, _, _, h, _⟩ => (by cases h)⟩
  | some coverageStart =>
    cases shop.coverageEnd with
    | none => exact ⟨fun ⟨_, _, h, _⟩ => (by cases h), fun ⟨_, _, _, _, h, _⟩ => (by cases h)⟩
    | some coverageEnd =>
      -- the Commerce window is the same in every branch
      dsimp only
      rw [← hends]
      cases ga4.earliest with
      | none => exact Iff.rfl
      | some earliest =>
        cases ga4.latest with
        | none => exact Iff.rfl
        | some latest =>
          dsimp only
          split
          · exact Iff.rfl
          · split
            · exact Iff.rfl
            · exact Iff.rfl

/-- The web window is what of the Commerce window GA4 covers. -/
theorem mem_web (day : Date) :
    InWindow (clampWindows start «end» shop ga4).webStart
      (clampWindows start «end» shop ga4).webEnd day ↔
      InWindow (clampWindows start «end» shop ga4).commerceStart
        (clampWindows start «end» shop ga4).commerceEnd day ∧
        InWindow ga4.earliest ga4.latest day := by
  have hno (a b : Option Date) : ¬ (InWindow a b day ∧ InWindow none ga4.latest day) :=
    fun ⟨_, _, _, h, _⟩ => by cases h
  have hno' (a b c : Option Date) : ¬ (InWindow a b day ∧ InWindow c none day) :=
    fun ⟨_, _, _, _, h, _⟩ => by cases h
  have hnone : ¬ InWindow none none day := fun ⟨_, _, h, _⟩ => by cases h
  have hwindow (first last : Date) : InWindow (some first) (some last) day ↔ first ≤ day ∧
      day ≤ last :=
    ⟨fun ⟨_, _, h, h', hboth⟩ => by cases h; cases h'; exact hboth, fun h => ⟨_, _, rfl, rfl, h⟩⟩
  unfold clampWindows
  cases shop.coverageStart with
  | none => exact ⟨fun h => absurd h hnone, fun h => absurd h.1 hnone⟩
  | some coverageStart =>
    cases shop.coverageEnd with
    | none => exact ⟨fun h => absurd h hnone, fun h => absurd h.1 hnone⟩
    | some coverageEnd =>
      dsimp only
      cases ga4.earliest with
      | none => exact ⟨fun h => absurd h hnone, fun h => absurd h (hno _ _)⟩
      | some earliest =>
        cases ga4.latest with
        | none => exact ⟨fun h => absurd h hnone, fun h => absurd h (hno' _ _ _)⟩
        | some latest =>
          dsimp only
          generalize (start.map fun start => max start coverageStart).getD coverageStart = first
          generalize («end».map fun «end» => min «end» coverageEnd).getD coverageEnd = last
          by_cases hempty : last < first
          · rw [if_pos hempty]
            refine ⟨fun h => absurd h hnone, fun h => ?_⟩
            have hboth := (hwindow first last).mp h.1
            exact absurd (hboth.1.trans hboth.2) (not_le.mpr hempty)
          · rw [if_neg hempty]
            by_cases hapart : min last latest < max first earliest
            · rw [if_pos hapart]
              refine ⟨fun h => absurd h hnone, fun h => ?_⟩
              have hcommerce := (hwindow first last).mp h.1
              have hmeasured := (hwindow earliest latest).mp h.2
              exact absurd ((max_le hcommerce.1 hmeasured.1).trans (le_min hcommerce.2 hmeasured.2))
                (not_le.mpr hapart)
            · rw [if_neg hapart]
              show InWindow (some (max first earliest)) (some (min last latest)) day ↔
                InWindow (some first) (some last) day ∧ _
              rw [hwindow, hwindow, hwindow, max_le_iff, le_min_iff]
              exact ⟨fun h => ⟨⟨h.1.1, h.2.1⟩, h.1.2, h.2.2⟩, fun h =>
                ⟨⟨h.1.1, h.2.1⟩, h.1.2, h.2.2⟩⟩

/-- A web window that is there has days. -/
theorem web_present : ((clampWindows start «end» shop ga4).webStart = none ∧
      (clampWindows start «end» shop ga4).webEnd = none) ∨
      (clampWindows start «end» shop ga4).hasWeb = true := by
  unfold clampWindows ComparisonWindow.hasWeb
  cases shop.coverageStart with
  | none => exact Or.inl ⟨rfl, rfl⟩
  | some coverageStart =>
    cases shop.coverageEnd with
    | none => exact Or.inl ⟨rfl, rfl⟩
    | some coverageEnd =>
      cases ga4.earliest with
      | none => exact Or.inl ⟨rfl, rfl⟩
      | some earliest =>
        cases ga4.latest with
        | none => exact Or.inl ⟨rfl, rfl⟩
        | some latest =>
          dsimp only
          split
          · exact Or.inl ⟨rfl, rfl⟩
          · split
            · exact Or.inl ⟨rfl, rfl⟩
            · rename_i hapart
              exact Or.inr (decide_eq_true (not_lt.mp hapart))

end Windows

/-! ## The window before -/

def Offered (currentStart currentEnd coverageStart : Option Date)
    (previousStart previousEnd : Date) : Prop :=
  ∃ pair, derivePeriodPair currentStart currentEnd coverageStart = .ok pair ∧
    pair.isAvailable = true ∧
    pair.previousStart = some previousStart ∧ pair.previousEnd = some previousEnd

section Previous

variable {start «end» coverageStart previousStart previousEnd : Date}

/-- The ends of the previous window are found exactly if the calendar has them. -/
theorem precedes_iff (h : start ≤ «end») : Precedes start «end» previousStart previousEnd ↔
    Date.subDays? 1 start = some previousEnd ∧
      Date.subDays? («end».toOrdinal - start.toOrdinal + 1 - 1) previousEnd =
        some previousStart := by
  have hordinal := Date.toOrdinal_le_iff.mpr h
  rw [Date.subDays?_eq_some_iff, Date.subDays?_eq_some_iff, Nat.add_sub_cancel]
  rfl

theorem derivePeriodPair_some (h : start ≤ «end») :
    derivePeriodPair (some start) (some «end») (some coverageStart) = (do
      let previousEnd ← inCalendar (Date.subDays? 1 start)
      let previousStart ← inCalendar
        (Date.subDays? («end».toOrdinal - start.toOrdinal + 1 - 1) previousEnd)
      return if previousStart < coverageStart then ⟨some start, some «end», none, none, TOO_SHORT⟩
        else ⟨some start, some «end», some previousStart, some previousEnd, ""⟩) := by
  unfold derivePeriodPair
  exact if_neg (not_lt.mpr h)

/-- A previous window is offered exactly if it reaches no further back than coverage. -/
theorem offered_some (h : start ≤ «end») :
    Offered (some start) (some «end») (some coverageStart) previousStart previousEnd ↔
      Precedes start «end» previousStart previousEnd ∧ coverageStart ≤ previousStart := by
  unfold Offered
  rw [derivePeriodPair_some h, precedes_iff h]
  constructor
  · rintro ⟨pair, hok, havailable, hstart, hend⟩
    obtain ⟨stop, hstop, hrest⟩ := bind_eq_ok_iff.mp hok
    obtain ⟨first, hfirst, hpair⟩ := bind_eq_ok_iff.mp hrest
    have hpair :
        (if first < coverageStart then PeriodPair.mk (some start) (some «end») none none TOO_SHORT
        else ⟨some start, some «end», some first, some stop, ""⟩) = pair := Except.ok.inj hpair
    by_cases hshort : first < coverageStart
    · rw [if_pos hshort] at hpair
      rw [← hpair] at hstart
      cases hstart
    · rw [if_neg hshort] at hpair
      rw [← hpair] at hstart hend
      cases hstart
      cases hend
      exact ⟨⟨inCalendar_eq_ok_iff.mp hstop, inCalendar_eq_ok_iff.mp hfirst⟩, not_lt.mp hshort⟩
  · rintro ⟨⟨hstop, hfirst⟩, hinside⟩
    refine ⟨⟨some start, some «end», some previousStart, some previousEnd, ""⟩, ?_, rfl, rfl, rfl⟩
    refine bind_eq_ok_iff.mpr ⟨previousEnd, inCalendar_eq_ok_iff.mpr hstop,
      bind_eq_ok_iff.mpr ⟨previousStart, inCalendar_eq_ok_iff.mpr hfirst, ?_⟩⟩
    rw [if_neg (not_lt.mpr hinside)]
    rfl

theorem offered_iff {currentStart currentEnd coverageFirst : Option Date} :
    Offered currentStart currentEnd coverageFirst previousStart previousEnd ↔
      ∃ start «end» coverageStart, currentStart = some start ∧ currentEnd = some «end» ∧
        coverageFirst = some coverageStart ∧ start ≤ «end» ∧
        Precedes start «end» previousStart previousEnd ∧ coverageStart ≤ previousStart := by
  have hrefused (pair : PeriodPair) (h : pair.previousStart = none)
      (hok : derivePeriodPair currentStart currentEnd coverageFirst = .ok pair) :
      ¬ Offered currentStart currentEnd coverageFirst previousStart previousEnd := by
    rintro ⟨other, hother, -, hstart, -⟩
    cases hok.symm.trans hother
    rw [h] at hstart
    cases hstart
  cases hstart : currentStart with
  | none =>
    subst hstart
    exact ⟨fun h => absurd h (hrefused _ rfl rfl), fun ⟨_, _, _, h, _⟩ => (by cases h)⟩
  | some start =>
    cases hend : currentEnd with
    | none =>
      subst hstart hend
      exact ⟨fun h => absurd h (hrefused _ rfl rfl), fun ⟨_, _, _, _, h, _⟩ => (by cases h)⟩
    | some «end» =>
      subst hstart hend
      by_cases hreversed : «end» < start
      · refine ⟨fun h => absurd h
          (hrefused ⟨some start, some «end», none, none, NO_CURRENT⟩ rfl (if_pos hreversed)), ?_⟩
        rintro ⟨_, _, _, h, h', -, hle, -⟩
        cases h
        cases h'
        exact absurd hle (not_le.mpr hreversed)
      · have hle := not_lt.mp hreversed
        cases hcoverage : coverageFirst with
        | none =>
          subst hcoverage
          refine ⟨fun h => absurd h (hrefused ⟨some start, some «end», none, none, NO_COVERAGE⟩ rfl
            (if_neg hreversed)), fun ⟨_, _, _, _, _, h, _⟩ => (by cases h)⟩
        | some coverageStart =>
          rw [offered_some hle]
          constructor
          · exact fun h => ⟨start, «end», coverageStart, rfl, rfl, rfl, hle, h⟩
          · rintro ⟨_, _, _, h₁, h₂, h₃, -, hboth⟩
            cases h₁
            cases h₂
            cases h₃
            exact hboth

end Previous

/-! ## All windows of a request -/

/-- What the windows of a resolved period have to satisfy. -/
structure WindowsHold (shop : ShopCoverage) (ga4 : Ga4Coverage) (resolved : ResolvedShopPeriod)
    (window : ComparisonWindow) : Prop where
  selected : ∀ «end» coverageEnd, resolved.end = some «end» → shop.coverageEnd = some coverageEnd →
    «end» ≤ coverageEnd
  commerce : ∀ day, InWindow window.commerceStart window.commerceEnd day ↔
    InRange (resolved.start, resolved.end) day ∧ InWindow shop.coverageStart shop.coverageEnd day
  web : ∀ day, InWindow window.webStart window.webEnd day ↔
    InWindow window.commerceStart window.commerceEnd day ∧ InWindow ga4.earliest ga4.latest day
  webPresent : (window.webStart = none ∧ window.webEnd = none) ∨ window.hasWeb = true
  previous : ∀ previousStart previousEnd,
    Offered window.commerceStart window.commerceEnd shop.coverageStart previousStart previousEnd ↔
      ∃ start «end», window.commerceStart = some start ∧ window.commerceEnd = some «end» ∧
      start ≤ «end» ∧
        Precedes start «end» previousStart previousEnd ∧
        InWindow shop.coverageStart shop.coverageEnd previousStart ∧
        InWindow shop.coverageStart shop.coverageEnd previousEnd

/-- The custom range asked for has no date after the end of coverage. -/
def AsksInside (rawPeriod rawFrom rawTo : Option String) (shop : ShopCoverage) : Prop :=
  ∀ anchor, shop.coverageEnd = some anchor → wantsCustom rawPeriod rawFrom rawTo = true →
    (∀ start, parseIsoDate rawFrom = some start → start ≤ anchor) ∧
      ∀ «end», parseIsoDate rawTo = some «end» → «end» ≤ anchor

section Request

variable {shop : ShopCoverage} {ga4 : Ga4Coverage} {resolved : ResolvedShopPeriod}
  {rawPeriod rawFrom rawTo : Option String}

theorem previous_clamped (start «end» : Option Date) (previousStart previousEnd : Date) :
    Offered (clampWindows start «end» shop ga4).commerceStart
      (clampWindows start «end» shop ga4).commerceEnd
        shop.coverageStart previousStart previousEnd ↔
      ∃ first last, (clampWindows start «end» shop ga4).commerceStart = some first ∧
        (clampWindows start «end» shop ga4).commerceEnd = some last ∧ first ≤ last ∧
        Precedes first last previousStart previousEnd ∧
        InWindow shop.coverageStart shop.coverageEnd previousStart ∧
        InWindow shop.coverageStart shop.coverageEnd previousEnd := by
  rw [offered_iff]
  constructor
  · rintro ⟨first, last, coverageStart, hfirst, hlast, hcoverage, hle, hprecedes, hinside⟩
    refine ⟨first, last, hfirst, hlast, hle, hprecedes, ?_⟩
    -- the first day of the Commerce window lies in coverage, so what is before it ends in coverage
    have hmem := (@mem_commerce shop ga4 start «end» first).mp
      ⟨first, last, hfirst, hlast, le_refl first, hle⟩
    obtain ⟨coverageFirst, coverageEnd, hstart, hend, -, hbefore⟩ := hmem.2
    cases hcoverage.symm.trans hstart
    have hprevious : previousStart ≤ previousEnd := by
      rw [← Date.toOrdinal_le_iff, ← hprecedes.2]
      exact Nat.le_add_right _ _
    have hends : previousEnd ≤ coverageEnd := by
      refine le_trans ?_ hbefore
      rw [← Date.toOrdinal_le_iff, ← hprecedes.1]
      exact Nat.le_succ _
    exact ⟨⟨_, _, hstart, hend, hinside, hprevious.trans hends⟩, _, _, hstart, hend,
      hinside.trans hprevious, hends⟩
  · rintro ⟨first, last, hfirst, hlast, hle, hprecedes,
      ⟨coverageStart, _, hcoverage, -, hinside, -⟩, -⟩
    exact ⟨first, last, coverageStart, hfirst, hlast, hcoverage, hle, hprecedes, hinside⟩

/-- Only the end of the selection decides whether the windows of a request hold. -/
theorem windowsHold_iff : WindowsHold shop ga4 resolved
    (clampWindows resolved.start resolved.end shop ga4) ↔
    ∀ «end» coverageEnd, resolved.end = some «end» → shop.coverageEnd = some coverageEnd →
    «end» ≤ coverageEnd :=
  ⟨fun h => h.selected, fun h => ⟨h, mem_commerce, mem_web, web_present, previous_clamped _ _⟩⟩

theorem last_inOrder (start «end» anchor : Date) :
    (∀ day, (inOrder (some start, some «end»)).2 = some day → day ≤ anchor) ↔ start ≤ anchor ∧
    «end» ≤ anchor := by
  rw [Core.inOrder_spec, ← max_le_iff]
  exact ⟨fun h => h _ rfl, fun h day hday => Option.some.inj hday ▸ h⟩

/-- A custom range ends inside coverage exactly if no date it was made of is after coverage. -/
theorem customRange_inside (anchor : Date) (range : DateRange) :
    (∀ out, customRange anchor range = .ok out → ∀ «end», out.2 = some «end» → «end» ≤ anchor) ↔
      (∀ start, range.1 = some start → start ≤ anchor) ∧ ∀ «end», range.2 = some «end» →
      «end» ≤ anchor := by
  obtain ⟨from', to'⟩ := range
  cases from' with
  | none =>
    cases to' with
    | none =>
      refine ⟨fun _ => ⟨fun _ h => (by cases h), fun _ h => (by cases h)⟩,
        fun _ out hout day hday => ?_⟩
      obtain ⟨start, hstart, hrange⟩ := bind_eq_ok_iff.mp hout
      cases hrange
      have hle := Date.subDays?_le (inCalendar_eq_ok_iff.mp hstart)
      exact (last_inOrder start anchor anchor).mpr ⟨hle, le_refl anchor⟩ day hday
    | some «end» =>
      constructor
      · exact fun h => ⟨fun _ hnone => (by cases hnone), h (none, some «end») rfl⟩
      · rintro ⟨-, h⟩ out hout
        cases hout
        exact h
  | some start =>
    cases to' with
    | none =>
      have hspec := last_inOrder start (max anchor start) anchor
      constructor
      · intro h
        have hboth := hspec.mp (h _ rfl)
        exact ⟨fun _ heq => Option.some.inj heq ▸ hboth.1, fun _ hnone => (by cases hnone)⟩
      · rintro ⟨h, -⟩ out hout
        cases hout
        exact hspec.mpr ⟨h start rfl, max_le (le_refl anchor) (h start rfl)⟩
    | some «end» =>
      have hspec := last_inOrder start «end» anchor
      constructor
      · intro h
        have hboth := hspec.mp (h _ rfl)
        exact ⟨fun _ heq => Option.some.inj heq ▸ hboth.1, fun _ heq =>
          Option.some.inj heq ▸ hboth.2⟩
      · rintro ⟨h, h'⟩ out hout
        cases hout
        exact hspec.mpr ⟨h start rfl, h' «end» rfl⟩

/-- The windows of a request hold exactly if its custom range asks for nothing after the end of
coverage. -/
theorem windowsHold_request_iff (rawPeriod rawFrom rawTo : Option String) (shop : ShopCoverage)
    (ga4 : Ga4Coverage) :
    (∀ resolved, resolvePeriod rawPeriod rawFrom rawTo shop.coverageEnd = .ok resolved →
      WindowsHold shop ga4 resolved (clampWindows resolved.start resolved.end shop ga4)) ↔
      AsksInside rawPeriod rawFrom rawTo shop := by
  simp only [windowsHold_iff]
  unfold AsksInside
  cases hcoverage : shop.coverageEnd with
  | none => exact ⟨fun _ _ h => (by cases h), fun _ _ _ _ _ _ h => (by cases h)⟩
  | some anchor =>
    cases hcustom : wantsCustom rawPeriod rawFrom rawTo with
    | true =>
      have hresolve (resolved : ResolvedShopPeriod) :
          resolvePeriod rawPeriod rawFrom rawTo (some anchor) = .ok resolved ↔
            ∃ range, customRange anchor (parseIsoDate rawFrom, parseIsoDate rawTo) = .ok range ∧
              resolved = ⟨CUSTOM_PERIOD, range.1, range.2⟩ := by
        unfold resolvePeriod
        rw [hcustom]
        dsimp only
        rw [bind_eq_ok_iff]
        exact ⟨fun ⟨range, hrange, hok⟩ => ⟨range, hrange, (Except.ok.inj hok).symm⟩,
          fun ⟨range, hrange, hok⟩ => ⟨range, hrange, congrArg Except.ok hok.symm⟩⟩
      have hinside := customRange_inside anchor (parseIsoDate rawFrom, parseIsoDate rawTo)
      constructor
      · intro h other hother _
        cases hother
        refine hinside.mp fun out hout «end» hend => ?_
        exact h _ ((hresolve _).mpr ⟨out, hout, rfl⟩) «end» anchor hend rfl
      · intro h resolved hok «end» coverageEnd hend hother
        cases hother
        obtain ⟨range, hrange, rfl⟩ := (hresolve resolved).mp hok
        exact hinside.mpr (h anchor rfl rfl) range hrange «end» hend
    | false =>
      refine ⟨fun _ _ _ h => (by cases h), fun _ resolved hok «end» coverageEnd hend hother => ?_⟩
      cases hother
      unfold resolvePeriod at hok
      rw [hcustom] at hok
      dsimp only at hok
      cases hdays : (preset rawPeriod).days with
      | none =>
        rw [hdays] at hok
        cases hok
        cases hend
      | some days =>
        rw [hdays] at hok
        obtain ⟨start, -, hresolved⟩ := bind_eq_ok_iff.mp hok
        cases hresolved
        cases hend
        exact le_refl anchor

end Request

/-- The dataset of 2020 to the middle of August 2026. -/
def coverage2026 : ShopCoverage where
  coverageStart := some (.of 2020 10 22)
  coverageEnd := some (.of 2026 8 15)

/-- A range that is asked for up to the end of 2099 stays selected up to there. -/
theorem futureEnd_selected : ¬ ∀ resolved,
    resolvePeriod (some "kohandatud") (some "2026-01-01")
      (some "2099-12-31") coverage2026.coverageEnd = .ok resolved →
      WindowsHold coverage2026 ⟨none, none, 0, 0⟩ resolved
        (clampWindows resolved.start resolved.end coverage2026 ⟨none, none, 0, 0⟩) := by
  intro h
  have hresolved : resolvePeriod (some "kohandatud") (some "2026-01-01") (some "2099-12-31")
      coverage2026.coverageEnd =
        .ok ⟨CUSTOM_PERIOD, some ⟨2026, 1, 1, by decide, by decide, by decide⟩,
        some ⟨2099, 12, 31, by decide, by decide, by decide⟩⟩ := by decide +kernel
  have hle := (h _ hresolved).selected _ _ rfl rfl
  exact absurd hle (by decide +kernel)

end Dashkoda.Shop
