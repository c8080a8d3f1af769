import Dashkoda.EventProgramme.Attention
import Dashkoda.Lib.Ordinal
import Dashkoda.Shop.Models
import Mathlib.Data.List.ReduceOption

/-!
# When registrations happen

Events, pages, products and facts are joined through the page of the event, and the units of the
facts are put into bands by how many days before the event's start they are dated.
-/

open Lib

namespace Dashkoda.EventProgramme

open Shop (ShopDailyFact ShopSourceState)
open Visibility (canonicalPath)

/-- A band of days before the start of an event, open at its far end where there is no last day. -/
structure LeadBand where
  label : String
  low : Nat
  high : Option Nat
  deriving DecidableEq

def LEAD_BANDS : List LeadBand :=
  [⟨"0–7 päeva enne", 0, some 7⟩, ⟨"8–14 päeva enne", 8, some 14⟩,
    ⟨"15–30 päeva enne", 15, some 30⟩,
    ⟨"30+ päeva enne", 31, none⟩]

/-- `pages`: the registration products of each page. -/
structure RegistrationPages where
  products : Dict String (List Nat)
  nodup : ∀ path ids, products.get? path = some ids → ids.Nodup

/-- The facts, of which the table keeps no negative units. -/
structure RegistrationFacts where
  rows : List ShopDailyFact
  units_nonneg : ∀ fact ∈ rows, 0 ≤ fact.fields.units

/-- `int(units)` -/
def wholeUnits (units : ℚ) : Int := if 0 ≤ units then ⌊units⌋ else ⌈units⌉

/-- An event whose page sells registrations and whose start lies in coverage. -/
structure LeadWindow where
  products : List Nat
  start : Date
  deriving DecidableEq

/-- The first band that holds so many days. -/
def bandOf (ahead : Nat) : Option LeadBand :=
  LEAD_BANDS.find? fun band => band.low ≤ ahead && band.high.all fun high => ahead ≤ high

section Bands

variable (check : NetlocCheck) (matched : Dict String String) (pages : RegistrationPages)
  (state : Option ShopSourceState) (facts : RegistrationFacts)

def leadWindow (state : ShopSourceState) (item : AttentionItem) :
    Except AttentionExn (Option LeadWindow) :=
  match item.startDate with
  | none => .ok none
  | some start =>
    match canonicalPath check (resolvedUrl matched item).toList with
    | none => .error .valueError
    | some path =>
      if path = [] then .ok none
      else
        match pages.products.get? (String.ofList path) with
        | none => .ok none
        | some ids =>
          if state.manifest.coverageEnd < start ∨ start < state.manifest.coverageStart then .ok none
          else .ok (some ⟨ids, start⟩)

/-- The events that contribute, with the products of their pages. -/
def leadWindows (items : List AttentionItem) : Except AttentionExn (List LeadWindow) :=
  if pages.products.isEmpty then .ok []
  else
    match state with
    | none => .ok []
    | some state =>
      (items.mapM (leadWindow check matched pages state)).map fun windows => windows.reduceOption

def factsOf (pid : Nat) : List ShopDailyFact :=
  facts.rows.filter fun fact => fact.isCurrent && fact.key.product = pid

/-- What the loops add: days before the start, and units. -/
def added (windows : List LeadWindow) : List (Nat × Int) :=
  windows.flatMap fun window => window.products.flatMap fun pid =>
    ((factsOf facts pid).filter fun fact => !(window.start < fact.key.reportDate)).map fun fact =>
      (window.start.toOrdinal - fact.key.reportDate.toOrdinal, wholeUnits fact.fields.units)

def banded (rows : List (Nat × Int)) : List (String × Int) :=
  LEAD_BANDS.filterMap fun band =>
    let units := totalAt (fun row => bandOf row.1) (·.2) rows (some band)
    if units ≠ 0 then some (band.label, units) else none

/-- `registration_lead_bands` -/
def registrationLeadBands (items : List AttentionItem) :
    Except AttentionExn (List (String × Int)) :=
  (leadWindows check matched pages state items).map fun windows => banded (added facts windows)

end Bands

/-! ## What the bands add up to -/

section Sums

theorem exists_band (ahead : Nat) : ∃ band ∈ LEAD_BANDS, bandOf ahead = some band := by
  cases h : bandOf ahead with
  | some band => exact ⟨band, List.mem_of_find?_eq_some h, rfl⟩
  | none =>
    have hnone := List.find?_eq_none.mp h
    have hbands := hnone
    simp only [LEAD_BANDS, List.mem_cons, List.not_mem_nil, or_false, forall_eq_or_imp, forall_eq,
      Option.all_some,
      Option.all_none, Bool.and_eq_true, decide_eq_true_eq, and_true] at hbands
    omega

/-- Every added number is in one band. -/
theorem total_banded (rows : List (Nat × Int)) : total (·.2) (banded rows) = total (·.2) rows := by
  have hkeep (bands : List LeadBand) : total (·.2) (bands.filterMap fun band =>
      let units := totalAt (fun row => bandOf row.1) (·.2) rows (some band)
      if units ≠ 0 then some (band.label, units) else none) =
        total (totalAt (fun row => bandOf row.1) (·.2) rows) (bands.map some) := by
    induction bands with
    | nil => rfl
    | cons band rest ih =>
      rw [List.filterMap_cons, List.map_cons, total_cons, ← ih]
      dsimp only
      by_cases hzero : totalAt (fun row => bandOf row.1) (·.2) rows (some band) = 0
      · rw [if_neg (fun h => h hzero), hzero, zero_add]
      · rw [if_pos hzero, total_cons]
  unfold banded
  rw [hkeep, total_totalAt_of_mem]
  · decide
  · intro row _
    obtain ⟨band, hband, hof⟩ := exists_band row.1
    rw [hof]
    exact List.mem_map_of_mem hband

/-- The fact is dated on or before the start of the event, on a product of its page. -/
def counts (window : LeadWindow) (fact : ShopDailyFact) : Bool :=
  fact.isCurrent && fact.key.product ∈ window.products && !(window.start < fact.key.reportDate)

variable {facts : RegistrationFacts} {windows : List LeadWindow}

/-- An event adds each fact of its products once. -/
theorem total_window (window : LeadWindow) (h : window.products.Nodup) :
    total (fun pid => total (fun fact => wholeUnits fact.fields.units)
      ((factsOf facts pid).filter fun fact => !(window.start < fact.key.reportDate)))
        window.products =
      total (fun fact => wholeUnits fact.fields.units) (facts.rows.filter (counts window)) := by
  have hkey : (fun pid => total (fun fact => wholeUnits fact.fields.units)
      ((factsOf facts pid).filter fun fact => !(window.start < fact.key.reportDate))) =
      totalAt (fun fact => fact.key.product) (fun fact => wholeUnits fact.fields.units)
        (facts.rows.filter fun fact =>
          fact.isCurrent && !(window.start < fact.key.reportDate)) := by
    funext pid
    unfold totalAt factsOf
    rw [List.filter_filter, List.filter_filter]
    congr 2
    funext fact
    cases fact.isCurrent <;> cases decide (fact.key.product = pid) <;>
      cases decide (window.start < fact.key.reportDate) <;> rfl
  rw [hkey, total_totalAt _ _ _ h, List.filter_filter]
  congr 2
  funext fact
  unfold counts
  cases fact.isCurrent <;> cases decide (fact.key.product ∈ window.products) <;>
    cases decide (window.start < fact.key.reportDate) <;> rfl

/-- The loops add every fact once for each event that counts it. -/
theorem total_added (h : ∀ window ∈ windows, window.products.Nodup) :
    total (·.2) (added facts windows) =
      total (fun fact => (windows.countP fun window => counts window fact) • wholeUnits
        fact.fields.units)
        facts.rows := by
  unfold added
  rw [total_flatMap, ← total_selections]
  apply total_congr
  intro window hwindow
  rw [total_flatMap, ← total_window window (h window hwindow)]
  apply total_congr
  intro pid _
  rw [total_map]

end Sums

/-! ## What has to hold of the bands -/

/-- The last band that ends goes so many days back. -/
def RUN_UP_DAYS : Nat := 30

/-- The days before an event that the bands are about lie inside coverage. -/
def RunUpCovered (state : Option ShopSourceState) (start : Date) : Prop :=
  ∃ current, state = some current ∧
    current.manifest.coverageStart.toOrdinal + RUN_UP_DAYS ≤ start.toOrdinal ∧
    start ≤ current.manifest.coverageEnd

/-- The bands add up to the facts that an event counts, each of them once, and every event that
counts was measured over its whole run-up. -/
structure LeadBandsRight (state : Option ShopSourceState) (facts : RegistrationFacts)
    (windows : List LeadWindow)
    (bands : List (String × Int)) : Prop where
  units : ((total (·.2) bands : Int) : ℚ) =
    total (·.fields.units) (facts.rows.filter fun fact => windows.any fun window =>
      counts window fact)
  once : ∀ fact ∈ facts.rows, wholeUnits fact.fields.units ≠ 0 →
    (windows.countP fun window => counts window fact) ≤ 1
  covered : ∀ window ∈ windows, RunUpCovered state window.start

/-- No two events count a fact of a whole unit or more, every fact they count has whole units, and
no event starts less than thirty days into coverage. -/
structure LeadInputs (state : Option ShopSourceState) (facts : RegistrationFacts)
    (windows : List LeadWindow) :
    Prop where
  apart : windows.Pairwise fun a b => ∀ fact ∈ facts.rows, counts a fact = true →
    counts b fact = true →
    fact.fields.units < 1
  whole : ∀ fact ∈ facts.rows, (∃ window ∈ windows, counts window fact = true) →
    ∃ n : Int, fact.fields.units = n
  late : ∀ window ∈ windows, ∀ current, state = some current →
    current.manifest.coverageStart.toOrdinal + RUN_UP_DAYS ≤ window.start.toOrdinal

section Right

variable {check : NetlocCheck} {matched : Dict String String} {pages : RegistrationPages}
  {state : Option ShopSourceState} {facts : RegistrationFacts} {items : List AttentionItem}
  {windows : List LeadWindow}

theorem wholeUnits_nonneg {units : ℚ} (h : 0 ≤ units) : wholeUnits units = ⌊units⌋ := if_pos h

theorem wholeUnits_le {units : ℚ} (h : 0 ≤ units) : (wholeUnits units : ℚ) ≤ units := by
  rw [wholeUnits_nonneg h]
  exact Int.floor_le units

theorem wholeUnits_eq_zero_iff {units : ℚ} (h : 0 ≤ units) : wholeUnits units = 0 ↔ units < 1 := by
  rw [wholeUnits_nonneg h, Int.floor_eq_zero_iff, Set.mem_Ico]
  exact ⟨fun hboth => hboth.2, fun hlt => ⟨h, hlt⟩⟩

theorem wholeUnits_eq_iff {units : ℚ} (h : 0 ≤ units) : (wholeUnits units : ℚ) = units ↔
    ∃ n : Int, units = n := by
  rw [wholeUnits_nonneg h]
  constructor
  · exact fun heq => ⟨⌊units⌋, heq.symm⟩
  · rintro ⟨n, rfl⟩
    rw [Int.floor_intCast]

/-- Two of a list pass exactly if more than one does. -/
theorem countP_le_one_iff {α : Type} (p : α → Bool) (rows : List α) :
    rows.countP p ≤ 1 ↔ rows.Pairwise fun a b => ¬ (p a = true ∧ p b = true) := by
  induction rows with
  | nil => exact ⟨fun _ => List.Pairwise.nil, fun _ => Nat.zero_le _⟩
  | cons row rest ih =>
    rw [List.countP_cons, List.pairwise_cons, ← ih]
    by_cases h : p row = true
    · rw [if_pos h]
      have hzero : rest.countP p = 0 ↔ ∀ other ∈ rest, ¬ (p row = true ∧ p other = true) := by
        rw [List.countP_eq_zero]
        exact ⟨fun hnone other hother hboth => hnone other hother hboth.2,
          fun hnone other hother hp => hnone other hother ⟨h, hp⟩⟩
      rw [← hzero]
      omega
    · rw [if_neg h]
      exact ⟨fun hle => ⟨fun _ _ hboth => h hboth.1, hle⟩, fun hboth => hboth.2⟩

theorem pairwise_forall_iff {α β : Type} {R : β → α → α → Prop} {rows : List α} {values : List β} :
    (rows.Pairwise fun a b => ∀ value ∈ values, R value a b) ↔
    ∀ value ∈ values, rows.Pairwise (R value) := by
  induction rows with
  | nil => exact ⟨fun _ _ _ => List.Pairwise.nil, fun _ => List.Pairwise.nil⟩
  | cons row rest ih =>
    simp only [List.pairwise_cons, ih]
    exact ⟨fun h value hvalue =>
      ⟨fun other hother => h.1 other hother value hvalue, h.2 value hvalue⟩,
      fun h => ⟨fun other hother value hvalue =>
        (h value hvalue).1 other hother, fun value hvalue => (h value hvalue).2⟩⟩

theorem cast_total {α : Type} (f : α → Int) (rows : List α) :
    ((total f rows : Int) : ℚ) = total (fun row => (f row : ℚ)) rows := by
  induction rows with
  | nil => rfl
  | cons row rest ih => rw [total_cons, total_cons, Int.cast_add, ih]

/-- Smaller summands with the same sum are the same summands. -/
theorem eq_of_total_eq {α : Type} {f g : α → ℚ} {rows : List α} (hle : ∀ row ∈ rows, f row ≤ g row)
    (heq : total f rows = total g rows) : ∀ row ∈ rows, f row = g row := by
  have hmono (rows : List α) (hle : ∀ row ∈ rows, f row ≤ g row) : total f rows ≤ total g rows := by
    induction rows with
    | nil => exact le_refl _
    | cons row rest ih =>
      rw [total_cons, total_cons]
      exact add_le_add (hle row List.mem_cons_self)
        (ih fun other hother => hle other (List.mem_cons_of_mem _ hother))
  induction rows with
  | nil => exact fun _ h => (by cases h)
  | cons row rest ih =>
    have hrow := hle row List.mem_cons_self
    have hrest := fun other hother => hle other (List.mem_cons_of_mem _ hother)
    have hsum := hmono rest hrest
    rw [total_cons, total_cons] at heq
    refine List.forall_mem_cons.mpr ⟨by linarith, ih hrest (by linarith)⟩

/-- Where no fact is added twice, the bands add up to the whole units of the counted facts. -/
theorem units_of_once (hnodup : ∀ window ∈ windows, window.products.Nodup)
    (honce : ∀ fact ∈ facts.rows, wholeUnits fact.fields.units ≠ 0 →
      (windows.countP fun window => counts window fact) ≤ 1) :
    ((total (·.2) (banded (added facts windows)) : Int) : ℚ) =
      total (fun fact => (wholeUnits fact.fields.units : ℚ))
        (facts.rows.filter fun fact => windows.any fun window => counts window fact) := by
  rw [total_banded, total_added hnodup, cast_total, total_filter]
  apply total_congr
  intro fact hfact
  by_cases hany : (windows.any fun window => counts window fact) = true
  · rw [if_pos hany]
    by_cases hzero : wholeUnits fact.fields.units = 0
    · rw [hzero, nsmul_zero]
    · have hpos : 0 < windows.countP fun window => counts window fact :=
        List.countP_pos_iff.mpr (List.any_eq_true.mp hany)
      have hone := honce fact hfact hzero
      rw [show (windows.countP fun window => counts window fact) = 1 by omega, one_nsmul]
  · have hnone : (windows.countP fun window => counts window fact) = 0 := by
      rw [List.countP_eq_zero]
      exact fun window hwindow hcounts => hany (List.any_eq_true.mpr ⟨window, hwindow, hcounts⟩)
    rw [if_neg hany, hnone, zero_nsmul, Int.cast_zero]

theorem once_iff_apart : (∀ fact ∈ facts.rows, wholeUnits fact.fields.units ≠ 0 →
      (windows.countP fun window => counts window fact) ≤ 1) ↔
    windows.Pairwise fun a b => ∀ fact ∈ facts.rows, counts a fact = true → counts b fact = true →
      fact.fields.units < 1 := by
  rw [pairwise_forall_iff (R := fun fact a b => counts a fact = true → counts b fact = true →
    fact.fields.units < 1)]
  constructor
  · intro h fact hfact
    by_cases hsmall : fact.fields.units < 1
    · exact List.pairwise_of_forall fun _ _ _ _ => hsmall
    · have hle := h fact hfact fun hzero =>
        hsmall ((wholeUnits_eq_zero_iff (facts.units_nonneg fact hfact)).mp hzero)
      exact ((countP_le_one_iff _ _).mp hle).imp fun hnot ha hb => absurd ⟨ha, hb⟩ hnot
  · intro h fact hfact hwhole
    have hzero (hlt : fact.fields.units < 1) : wholeUnits fact.fields.units = 0 :=
      (wholeUnits_eq_zero_iff (facts.units_nonneg fact hfact)).mpr hlt
    refine (countP_le_one_iff _ _).mpr ((h fact hfact).imp ?_)
    exact fun hlt hboth => hwhole (hzero (hlt hboth.1 hboth.2))

/-- A contributing event has its page's products, and starts inside coverage. -/
theorem leadWindows_mem (h : leadWindows check matched pages state items = .ok windows) :
    ∀ window ∈ windows, window.products.Nodup ∧ ∃ current, state = some current ∧
      current.manifest.coverageStart ≤ window.start ∧
      window.start ≤ current.manifest.coverageEnd := by
  unfold leadWindows at h
  split at h
  · cases h
    exact fun _ hmem => (by cases hmem)
  · cases hstate : state with
    | none =>
      rw [hstate] at h
      cases h
      exact fun _ hmem => (by cases hmem)
    | some current =>
      rw [hstate] at h
      obtain ⟨found, hfound, rfl⟩ := map_eq_ok_iff.mp h
      intro window hwindow
      rw [List.reduceOption_mem_iff] at hwindow
      obtain ⟨item, -, hitem⟩ := exists_of_mem_forall₂ (forall₂_of_mapM_eq_ok hfound) hwindow
      unfold leadWindow at hitem
      split at hitem
      · cases hitem
      · split at hitem
        · cases hitem
        · split at hitem
          · cases hitem
          · split at hitem
            · cases hitem
            · rename_i ids hids
              split at hitem
              · cases hitem
              · rename_i hcoverage
                cases hitem
                rw [not_or, not_lt, not_lt] at hcoverage
                exact ⟨pages.nodup _ _ hids, current, rfl, hcoverage.2, hcoverage.1⟩

/-- The bands of the events are right exactly if the inputs are. -/
theorem leadBandsRight_iff (hwindows : leadWindows check matched pages state items = .ok windows) :
    LeadBandsRight state facts windows (banded (added facts windows)) ↔
    LeadInputs state facts windows := by
  have hnodup := fun window hwindow => (leadWindows_mem hwindows window hwindow).1
  have hcounted (fact : ShopDailyFact) : (windows.any fun window => counts window fact) = true ↔
      ∃ window ∈ windows, counts window fact = true := List.any_eq_true
  constructor
  · intro h
    refine ⟨once_iff_apart.mp h.once, fun fact hfact hcount =>
      ?_, fun window hwindow current hcurrent => ?_⟩
    · -- whole parts that add up to the units leave no fraction
      have hsum := (units_of_once hnodup h.once).symm.trans h.units
      have hle : ∀ fact ∈ facts.rows.filter (fun fact => windows.any fun window =>
          counts window fact),
          (wholeUnits fact.fields.units : ℚ) ≤ fact.fields.units :=
        fun fact hfact => wholeUnits_le (facts.units_nonneg fact (List.mem_filter.mp hfact).1)
      have hall :=
        eq_of_total_eq hle hsum fact (List.mem_filter.mpr ⟨hfact, (hcounted fact).mpr hcount⟩)
      exact (wholeUnits_eq_iff (facts.units_nonneg fact hfact)).mp hall
    · obtain ⟨other, hother, hlate, -⟩ := h.covered window hwindow
      cases hcurrent.symm.trans hother
      exact hlate
  · intro h
    have honce := once_iff_apart.mpr h.apart
    refine ⟨?_, honce, fun window hwindow => ?_⟩
    · rw [units_of_once hnodup honce]
      refine total_congr fun fact hfact => ?_
      obtain ⟨hfact, hcount⟩ := List.mem_filter.mp hfact
      exact (wholeUnits_eq_iff (facts.units_nonneg fact hfact)).mpr
        (h.whole fact hfact ((hcounted fact).mp hcount))
    · obtain ⟨-, current, hcurrent, -, hend⟩ := leadWindows_mem hwindows window hwindow
      exact ⟨current, hcurrent, h.late window hwindow current hcurrent, hend⟩

end Right

/-- The bands of a list of events are right exactly if no two of the events count one fact of a
whole unit or more, the counted facts have whole units, and no counted event starts in the first
thirty days of coverage. -/
theorem registrationLeadBands_right_iff (check : NetlocCheck) (matched : Dict String String)
    (pages : RegistrationPages) (state : Option ShopSourceState) (facts : RegistrationFacts)
    (items : List AttentionItem) :
    (∀ windows bands, leadWindows check matched pages state items = .ok windows →
      registrationLeadBands check matched pages state facts items = .ok bands →
        LeadBandsRight state facts windows bands) ↔
      ∀ windows, leadWindows check matched pages state items = .ok windows →
      LeadInputs state facts windows := by
  have hbands (windows : List LeadWindow)
      (hwindows : leadWindows check matched pages state items = .ok windows) :
      registrationLeadBands check matched pages state facts items =
        .ok (banded (added facts windows)) := by
    unfold registrationLeadBands
    rw [hwindows]
    rfl
  constructor
  · intro h windows hwindows
    exact (leadBandsRight_iff hwindows).mp (h windows _ hwindows (hbands windows hwindows))
  · intro h windows bands hwindows hok
    cases (hbands windows hwindows).symm.trans hok
    exact (leadBandsRight_iff hwindows).mpr (h windows hwindows)

section Sample

/-- A session of a series, on the page of the series. -/
def sessionAt (eventId : String) (start : Date) : AttentionItem where
  eventId := eventId
  publicUrl := "https://www.koda.ee/x"
  startDate := some start

def sampleDays : Date × Date := (.of 2026 6 1, .of 2026 6 2)

def samplePages : RegistrationPages where
  products := Dict.empty.set "/x" [1]
  nodup path ids h := by
    by_cases hpath : path = "/x"
    · rw [hpath, Dict.get?_set_self] at h
      rw [← Option.some.inj h]
      decide
    · rw [Dict.get?_set_ne _ _ hpath] at h
      cases h

def sampleState : ShopSourceState where
  pk := 1
  source := 1
  importRun := 1
  manifest := ⟨.of 2026 8 15, .of 2020 10 22,
    .of 2026 8 15, true, true⟩
  contentChecksum := ""
  productCount := 1
  factCount := 1
  pageCount := 1
  isCurrent := true

def sampleFacts : RegistrationFacts where
  rows := [⟨1, ⟨1, .of 2026 5 28, .member, .invoice, "EUR"⟩,
    ⟨1, 3, 90, none, none, none⟩, true, none, 1⟩]
  units_nonneg := by
    intro fact hfact
    rw [List.mem_singleton.mp hfact]
    decide +kernel

/-- Two sessions of a series share its page, and its three units are counted as six. -/
theorem sharedPage_counted_twice : ¬ ∀ windows bands,
    leadWindows Visibility.plainCheck Dict.empty samplePages (some sampleState)
        [sessionAt "E1" sampleDays.1, sessionAt "E2" sampleDays.2] = .ok windows →
      registrationLeadBands Visibility.plainCheck Dict.empty samplePages
        (some sampleState) sampleFacts
        [sessionAt "E1" sampleDays.1, sessionAt "E2" sampleDays.2] = .ok bands →
      LeadBandsRight (some sampleState) sampleFacts windows bands := by
  intro h
  have hwindows : leadWindows Visibility.plainCheck Dict.empty samplePages (some sampleState)
      [sessionAt "E1" sampleDays.1, sessionAt "E2" sampleDays.2] =
        .ok [⟨[1], sampleDays.1⟩, ⟨[1], sampleDays.2⟩] := by decide +kernel
  have hbands : registrationLeadBands Visibility.plainCheck Dict.empty samplePages
      (some sampleState) sampleFacts
      [sessionAt "E1" sampleDays.1, sessionAt "E2" sampleDays.2] = .ok [("0–7 päeva enne", 6)] := by
        decide +kernel
  have hunits := (h _ _ hwindows hbands).units
  have hthree : total (·.fields.units) (sampleFacts.rows.filter fun fact =>
      ([⟨[1], sampleDays.1⟩, ⟨[1], sampleDays.2⟩] : List LeadWindow).any fun window =>
          counts window fact) = 3 := by
    decide +kernel
  rw [hthree] at hunits
  exact absurd hunits (by decide +kernel)

end Sample

end Dashkoda.EventProgramme
