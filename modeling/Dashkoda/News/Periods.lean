import Dashkoda.Core.QueryState
import Dashkoda.Lib.Except
import Dashkoda.Lib.Zone

/-!
# Which articles the news archive is about

The period is a publication window.  Named presets count back from today, a custom range is what the
two date fields submit, and the whole state of the page is written back into every link.
-/

open Lib

namespace Dashkoda.News

open Core (DateRange OverflowError inCalendar inCalendar_eq_ok_iff inOrder parseIsoDate stripped)

def PARAM_PERIOD : String := "periood"
def PARAM_FROM : String := "alates"
def PARAM_TO : String := "kuni"
def PARAM_SORT : String := "sort"
def PARAM_PAGE : String := "lk"
def PARAM_SEARCH : String := "otsing"
def PARAM_CATEGORY : String := "kategooria"

def CUSTOM_KEY : String := "kohandatud"

structure NewsPeriod where
  key : String
  label : String
  days : Option Nat
  deriving DecidableEq

namespace NewsPeriod

def isCustom (period : NewsPeriod) : Bool := period.key = CUSTOM_KEY

def isAll (period : NewsPeriod) : Bool := period.days = none && period.key ≠ CUSTOM_KEY

end NewsPeriod

def DEFAULT_DAYS : Nat := 30

def DEFAULT_PERIOD : NewsPeriod := ⟨"30", "30 päeva", some DEFAULT_DAYS⟩

def CUSTOM_PERIOD : NewsPeriod := ⟨CUSTOM_KEY, "Kohandatud", none⟩

def PERIODS : List NewsPeriod :=
  [DEFAULT_PERIOD, ⟨"90", "90 päeva", some 90⟩, ⟨"1a", "1 aasta", some 365⟩, ⟨"koik", "Kõik", none⟩,
    CUSTOM_PERIOD]

/-- `_BY_KEY.get(key)` -/
def byKey (key : String) : Option NewsPeriod := PERIODS.find? fun period => period.key = key

structure ResolvedPeriod where
  period : NewsPeriod
  start : Option Date
  «end» : Option Date
  deriving DecidableEq

/-- The custom range of what the two date fields hold. -/
def customRange (today : Date) : DateRange → Except OverflowError DateRange
  | (none, none) => do
    let start ← inCalendar (Date.subDays? (DEFAULT_DAYS - 1) today)
    return inOrder (some start, some today)
  | (none, «end») => .ok (none, «end»)
  | (some start, none) => .ok (inOrder (some start, some (max today start)))
  | (some start, some «end») => .ok (inOrder (some start, some «end»))

/-- `wants_custom` -/
def wantsCustom (rawPeriod rawFrom rawTo : Option String) : Bool :=
  stripped rawPeriod = CUSTOM_KEY ||
    (byKey (stripped rawPeriod) = none &&
      (parseIsoDate rawFrom ≠ none || parseIsoDate rawTo ≠ none))

def preset (rawPeriod : Option String) : NewsPeriod :=
  match byKey (stripped rawPeriod) with
  | some period => if period.isCustom then DEFAULT_PERIOD else period
  | none => DEFAULT_PERIOD

/-- `resolve_period` -/
def resolvePeriod (rawPeriod rawFrom rawTo : Option String) (today : Date) :
    Except OverflowError ResolvedPeriod :=
  if wantsCustom rawPeriod rawFrom rawTo then do
    let range ← customRange today (parseIsoDate rawFrom, parseIsoDate rawTo)
    return ⟨CUSTOM_PERIOD, range.1, range.2⟩
  else
    match (preset rawPeriod).days with
    | none => .ok ⟨preset rawPeriod, none, none⟩
    | some days => do
      let start ← inCalendar (Date.subDays? (days - 1) today)
      return ⟨preset rawPeriod, some start, some today⟩

/-- `f"{name}={text}"` -/
def part (name : String) (text : List Char) : List Char := name.toList ++ '=' :: text

namespace ResolvedPeriod

variable (resolved : ResolvedPeriod)

def key : String := resolved.period.key

def isWindowed : Bool := resolved.start ≠ none || resolved.end ≠ none

def query : List Char :=
  match resolved.period.isCustom, resolved.start, resolved.end with
  | true, some start, some «end» =>
    ['&'].intercalate [part PARAM_PERIOD CUSTOM_KEY.toList, part PARAM_FROM start.isoformat.toList,
      part PARAM_TO «end».isoformat.toList]
  | _, _, _ => part PARAM_PERIOD resolved.key.toList

/-- The window as two moments, half-open at the top. -/
def bounds (zone : Zone) : Except OverflowError (Option Int × Option Int) :=
  let lower := resolved.start.map fun start => zone.midnight start.toOrdinal
  match resolved.end with
  | none => .ok (lower, none)
  | some «end» => do
    let after ← inCalendar (Date.addDays? 1 «end»)
    return (lower, some (zone.midnight after.toOrdinal))

end ResolvedPeriod

/-! ## Links -/

def SORT_NEWEST : String := "uusimad"
def SORT_VIEWS : String := "vaadatud"

def PARAM_NEWSLETTER : String := "uudiskiri"
def PARAM_NEWSLETTER_SEARCH : String := "otsi"
def ALL_NEWSLETTERS : String := "koik"

def NEWSLETTER_KEYS : List String :=
  ["muu", "newsletter_eteataja", "newsletter_enews", "newsletter_evestnik"]

def MAX_NEWSLETTER_SEARCH : Nat := 80

/-- `parse_newsletter` -/
def parseNewsletter (raw : Option String) : String :=
  if stripped raw ∈ NEWSLETTER_KEYS then stripped raw else ALL_NEWSLETTERS

/-- `newsletter_state`: what the other section of the page carries through. -/
def newsletterState (newsletterKey search : Option String) : List Char :=
  let active := parseNewsletter newsletterKey
  let term := Core.parseSearch search MAX_NEWSLETTER_SEARCH
  if active = ALL_NEWSLETTERS ∧ term = "" then []
  else ['&'].intercalate (part PARAM_NEWSLETTER active.toList ::
    (if term ≠ "" then [part PARAM_NEWSLETTER_SEARCH (QueryString.quote term)] else []))

/-- What a control of the page is about. -/
structure PageState where
  sort : String
  search : String
  category : String
  page : Option Int

/-- `build_query` -/
def buildQuery (periodKey : String) (range : DateRange) (state : PageState) (carried : List Char) :
    List Char :=
  ['&'].intercalate (
    [part PARAM_PERIOD (QueryString.quote periodKey)] ++
    (if periodKey = CUSTOM_KEY then
      (range.1.map fun start => part PARAM_FROM start.isoformat.toList).toList ++
        (range.2.map fun «end» => part PARAM_TO «end».isoformat.toList).toList
    else []) ++
    (if state.sort ≠ SORT_NEWEST then [part PARAM_SORT (QueryString.quote state.sort)] else []) ++
    (if state.search ≠ "" then [part PARAM_SEARCH (QueryString.quote state.search)] else []) ++
    (if state.category ≠ "" then
      [part PARAM_CATEGORY (QueryString.quote state.category)] else []) ++
    (match state.page with
      | some page => if 1 < page then [part PARAM_PAGE (toString page).toList] else []
      | none => []) ++
    (if carried ≠ [] then [carried] else []))

/-- The period the page resolves from a query string. -/
def resolveQuery (text : List Char) (today : Date) : Option (Except OverflowError ResolvedPeriod) :=
  (QueryString.parseQsl text).map fun fields =>
    resolvePeriod (QueryString.get fields PARAM_PERIOD) (QueryString.get fields PARAM_FROM)
      (QueryString.get fields PARAM_TO) today

/-! ## Resolving a link again -/

/-- The dates a link carries, which only the custom range has. -/
def carriedRange (periodKey : String) (range : DateRange) : DateRange :=
  if periodKey = CUSTOM_KEY then range else (none, none)

def queryFields (periodKey : String) (range : DateRange) (state : PageState) :
    List (String × String) :=
  let carried := carriedRange periodKey range
  let given (text : String) : Option String := if text ≠ "" then some text else none
  (PARAM_PERIOD, periodKey) :: (QueryString.optional PARAM_FROM (carried.1.map Date.isoformat) ++
    QueryString.optional PARAM_TO (carried.2.map Date.isoformat) ++
    QueryString.optional PARAM_SORT (if state.sort ≠ SORT_NEWEST then some state.sort else none) ++
    QueryString.optional PARAM_SEARCH (given state.search) ++
    QueryString.optional PARAM_CATEGORY (given state.category) ++
    QueryString.optional PARAM_PAGE
      (state.page.bind fun page => if 1 < page then some (toString page) else none))

def newsletterFields (newsletterKey search : Option String) : List (String × String) :=
  let active := parseNewsletter newsletterKey
  let term := Core.parseSearch search MAX_NEWSLETTER_SEARCH
  if active = ALL_NEWSLETTERS ∧ term = "" then []
  else (PARAM_NEWSLETTER, active) ::
    QueryString.optional PARAM_NEWSLETTER_SEARCH (if term ≠ "" then some term else none)

section Links

open QueryString (Plain field joined optional)

variable {today : Date} {state : PageState} {range : DateRange} {periodKey : String}
  {newsletterKey search : Option String}

theorem part_quote (name value : String) : part name (QueryString.quote value) =
    field (name, value) := rfl

theorem part_plain {value : String} (name : String) (h : Plain value) :
    part name value.toList = field (name, value) := by
  rw [← part_quote, QueryString.quote_of_isSafe h]

theorem part_isoformat (name : String) (date : Date) :
    part name date.isoformat.toList = field (name, date.isoformat) :=
  part_plain name fun _ hc => Core.isSafe_isoformat hc

theorem plain_parseNewsletter : Plain (parseNewsletter newsletterKey) := by
  unfold parseNewsletter
  by_cases h : stripped newsletterKey ∈ NEWSLETTER_KEYS
  · rw [if_pos h]
    have hall : ∀ key ∈ NEWSLETTER_KEYS, Plain key := by
      have hbool : ∀ key ∈ NEWSLETTER_KEYS, key.toList.all QueryString.isSafe = true := by decide
      exact fun key hkey => QueryString.plain_of_all (hbool key hkey)
    exact hall _ h
  · rw [if_neg h]
    exact QueryString.plain_of_all (by decide)

theorem newsletterState_eq : newsletterState newsletterKey search =
    joined (newsletterFields newsletterKey search) := by
  unfold newsletterState newsletterFields joined
  dsimp only
  by_cases hdefault : parseNewsletter newsletterKey = ALL_NEWSLETTERS ∧
      Core.parseSearch search MAX_NEWSLETTER_SEARCH = ""
  · rw [if_pos hdefault, if_pos hdefault]
    rfl
  · rw [if_neg hdefault, if_neg hdefault, part_plain _ plain_parseNewsletter]
    by_cases hterm : Core.parseSearch search MAX_NEWSLETTER_SEARCH ≠ ""
    · rw [if_pos hterm, if_pos hterm]
      rfl
    · rw [if_neg hterm, if_neg hterm]
      rfl

/-- The parts of a link are its fields. -/
theorem buildQuery_eq (carried : List Char) : buildQuery periodKey range state carried =
    ['&'].intercalate ((queryFields periodKey range state).map field ++ if carried ≠ [] then
      [carried] else []) := by
  have hwhen (name value : String) (c : Prop) [Decidable c] :
      (if c then [part name (QueryString.quote value)] else []) =
        (optional name (if c then some value else none)).map field := by
    by_cases h : c
    · rw [if_pos h, if_pos h]
      rfl
    · rw [if_neg h, if_neg h]
      rfl
  have hdate (name : String) (date : Option Date) :
      (date.map fun day => part name day.isoformat.toList).toList =
        (optional name (date.map Date.isoformat)).map field := by
    cases date with
    | none => rfl
    | some day => exact congrArg (fun text => [text]) (part_isoformat name day)
  have hrange : (if periodKey = CUSTOM_KEY then
      (range.1.map fun start => part PARAM_FROM start.isoformat.toList).toList ++
        (range.2.map fun «end» => part PARAM_TO «end».isoformat.toList).toList
      else []) = (optional PARAM_FROM ((carriedRange periodKey range).1.map Date.isoformat) ++
        optional PARAM_TO ((carriedRange periodKey range).2.map Date.isoformat)).map field := by
    unfold carriedRange
    by_cases hcustom : periodKey = CUSTOM_KEY
    · rw [if_pos hcustom, if_pos hcustom, List.map_append, hdate, hdate]
    · rw [if_neg hcustom, if_neg hcustom]
      rfl
  have hpage : (match state.page with
      | some page => if 1 < page then [part PARAM_PAGE (toString page).toList] else []
      | none => []) = (optional PARAM_PAGE
        (state.page.bind fun page => if 1 < page then some (toString page) else
          none)).map field := by
    cases state.page with
    | none => rfl
    | some page =>
      dsimp only [Option.bind_some]
      by_cases hone : 1 < page
      · rw [if_pos hone, if_pos hone]
        have hplain : Plain (toString page) := by
          obtain ⟨n, rfl⟩ := Int.eq_ofNat_of_zero_le (show 0 ≤ page by omega)
          intro c hc
          have htext : (toString (n : Int)).toList = Nat.toDigits 10 n := Nat.toList_repr
          rw [htext] at hc
          have hdigit : c.isDigit = true := Nat.isDigit_of_mem_toDigits (by decide) (by decide) hc
          unfold QueryString.isSafe Char.isAlphanum
          rw [hdigit]
          simp
        exact congrArg (fun text => [text]) (part_plain PARAM_PAGE hplain)
      · rw [if_neg hone, if_neg hone]
        rfl
  unfold buildQuery queryFields
  dsimp only
  rw [hrange, hwhen, hwhen, hwhen, hpage, part_quote]
  simp only [List.map_cons, List.map_append, List.append_assoc, List.cons_append, List.nil_append]

theorem newsletterFields_names : ∀ pair ∈ newsletterFields newsletterKey search,
    pair.1 = PARAM_NEWSLETTER ∨ pair.1 = PARAM_NEWSLETTER_SEARCH := by
  unfold newsletterFields
  dsimp only
  by_cases hdefault : parseNewsletter newsletterKey = ALL_NEWSLETTERS ∧
      Core.parseSearch search MAX_NEWSLETTER_SEARCH = ""
  · rw [if_pos hdefault]
    exact fun pair hpair => by cases hpair
  · rw [if_neg hdefault]
    intro pair hpair
    rcases List.mem_cons.mp hpair with rfl | hpair
    · exact Or.inl rfl
    · exact Or.inr (QueryString.mem_optional hpair)

theorem queryFields_names : ∀ pair ∈ queryFields periodKey range state, pair.1 ∈
    [PARAM_PERIOD, PARAM_FROM, PARAM_TO, PARAM_SORT, PARAM_SEARCH, PARAM_CATEGORY, PARAM_PAGE] := by
  intro pair hpair
  unfold queryFields at hpair
  simp only [List.mem_cons, List.mem_append] at hpair
  rcases hpair with rfl | ((((hpair | hpair) | hpair) | hpair) | hpair) | hpair
  · exact List.mem_cons_self
  all_goals
    rw [QueryString.mem_optional hpair]
    decide

theorem length_optional_le (name : String) (value : Option String) :
    (optional name value).length ≤ 1 := by
  cases value
  · exact Nat.zero_le _
  · exact Nat.le_refl _

theorem length_queryFields_le : (queryFields periodKey range state).length ≤ 7 := by
  unfold queryFields
  simp only [List.length_cons, List.length_append]
  have hone := length_optional_le
  have hfrom := hone PARAM_FROM ((carriedRange periodKey range).1.map Date.isoformat)
  have hto := hone PARAM_TO ((carriedRange periodKey range).2.map Date.isoformat)
  have hsort := hone PARAM_SORT (if state.sort ≠ SORT_NEWEST then some state.sort else none)
  have hsearch := hone PARAM_SEARCH (if state.search ≠ "" then some state.search else none)
  have hcategory := hone PARAM_CATEGORY (if state.category ≠ "" then some state.category else none)
  have hpage := hone PARAM_PAGE
    (state.page.bind fun page => if 1 < page then some (toString page) else none)
  omega

theorem length_newsletterFields_le : (newsletterFields newsletterKey search).length ≤ 2 := by
  unfold newsletterFields
  dsimp only
  split
  · exact Nat.zero_le _
  · rw [List.length_cons]
    exact Nat.succ_le_succ (length_optional_le _ _)

/-- A link is read as the fields it was built from. -/
theorem parseQsl_buildQuery :
    QueryString.parseQsl (buildQuery periodKey range state (newsletterState newsletterKey search)) =
      some (queryFields periodKey range state ++ newsletterFields newsletterKey search) := by
  have hplain : ∀ pair ∈ queryFields periodKey range state ++ newsletterFields newsletterKey search,
      Plain pair.1 := by
    have hnames :
        ∀ name ∈ [PARAM_PERIOD, PARAM_FROM, PARAM_TO, PARAM_SORT, PARAM_SEARCH, PARAM_CATEGORY,
        PARAM_PAGE, PARAM_NEWSLETTER, PARAM_NEWSLETTER_SEARCH],
        name.toList.all QueryString.isSafe = true := by
      decide
    intro pair hpair
    apply QueryString.plain_of_all
    apply hnames
    cases List.mem_append.mp hpair with
    | inl hquery =>
      exact List.mem_append_left [PARAM_NEWSLETTER, PARAM_NEWSLETTER_SEARCH]
        (queryFields_names pair hquery)
    | inr hnewsletter =>
      refine List.mem_append_right
        [PARAM_PERIOD, PARAM_FROM, PARAM_TO, PARAM_SORT, PARAM_SEARCH, PARAM_CATEGORY,
        PARAM_PAGE] ?_
      cases newsletterFields_names pair hnewsletter with
      | inl hname => rw [hname]; exact List.mem_cons_self
      | inr hname => rw [hname]; exact List.mem_cons_of_mem _ List.mem_cons_self
  have htext : buildQuery periodKey range state (newsletterState newsletterKey search) =
      joined (queryFields periodKey range state ++ newsletterFields newsletterKey search) := by
    rw [buildQuery_eq, newsletterState_eq]
    by_cases hnone : newsletterFields newsletterKey search = []
    · rw [hnone, if_neg (fun h => h rfl), List.append_nil, List.append_nil]
      rfl
    · rw [if_pos (QueryString.joined_ne_nil hnone)]
      exact QueryString.joined_append (List.cons_ne_nil _ _) hnone
  rw [htext]
  apply QueryString.parseQsl_joined hplain
  have hquery := @length_queryFields_le state range periodKey
  have hnewsletter := @length_newsletterFields_le newsletterKey search
  rw [List.length_append]
  show _ ≤ 1000
  omega

/-- What a link says of the period is what it was built from. -/
theorem resolveQuery_buildQuery :
    resolveQuery (buildQuery periodKey range state (newsletterState newsletterKey search)) today =
      some (resolvePeriod (some periodKey) ((carriedRange periodKey range).1.map Date.isoformat)
        ((carriedRange periodKey range).2.map Date.isoformat) today) := by
  have hnewsletter (key : String) (hkey : key ≠ PARAM_NEWSLETTER)
      (hkey' : key ≠ PARAM_NEWSLETTER_SEARCH) :
      QueryString.get (newsletterFields newsletterKey search) key = none := by
    apply QueryString.get_eq_none
    intro hmem
    obtain ⟨pair, hpair, hname⟩ := List.mem_map.mp hmem
    cases newsletterFields_names pair hpair with
    | inl h => exact hkey (hname.symm.trans h)
    | inr h => exact hkey' (hname.symm.trans h)
  unfold resolveQuery
  rw [parseQsl_buildQuery]
  simp only [Option.map_some, QueryString.get_append,
    hnewsletter PARAM_PERIOD (by decide) (by decide),
    hnewsletter PARAM_FROM (by decide) (by decide), hnewsletter PARAM_TO (by decide) (by decide),
    Option.none_or]
  unfold queryFields
  simp only [QueryString.get_cons, QueryString.get_append, QueryString.get_optional,
    PARAM_PERIOD, PARAM_FROM,
    PARAM_TO, PARAM_SORT, PARAM_SEARCH, PARAM_CATEGORY, PARAM_PAGE, String.reduceEq, reduceIte,
    Option.none_or,
    Option.or_none]

end Links

/-! ## Which windows a link keeps -/

section Resolve

variable {rawPeriod rawFrom rawTo : Option String} {today : Date} {resolved : ResolvedPeriod}
  {range range' : DateRange}

theorem start_inOrder (start «end» : Date) : (inOrder (some start, some «end»)).1 ≠ none := by
  rw [Core.inOrder_spec]
  exact Option.some_ne_none _

/-- A custom range is ordered, and open at its start only. -/
theorem customRange_spec (h : customRange today range = .ok range') :
    (∃ «end», range' = (none, some «end»)) ∨ ∃ start «end», range' = (some start, some «end») ∧
    start ≤ «end» := by
  have hordered (start «end» : Date) :
      ∃ a b, inOrder (some start, some «end») = (some a, some b) ∧ a ≤ b :=
    ⟨_, _, Core.inOrder_spec start «end», min_le_max⟩
  obtain ⟨from', to'⟩ := range
  cases from' with
  | none =>
    cases to' with
    | none =>
      unfold customRange at h
      cases hstart : Date.subDays? (DEFAULT_DAYS - 1) today with
      | none =>
        rw [hstart] at h
        cases h
      | some start =>
        rw [hstart] at h
        obtain ⟨a, b, heq, hle⟩ := hordered start today
        cases h
        exact Or.inr ⟨a, b, heq, hle⟩
    | some «end» =>
      cases h
      exact Or.inl ⟨«end», rfl⟩
  | some start =>
    cases to' with
    | none =>
      obtain ⟨a, b, heq, hle⟩ := hordered start (max today start)
      cases h
      exact Or.inr ⟨a, b, heq, hle⟩
    | some «end» =>
      obtain ⟨a, b, heq, hle⟩ := hordered start «end»
      cases h
      exact Or.inr ⟨a, b, heq, hle⟩

/-- A custom range is its own custom range. -/
theorem customRange_idem (h : customRange today range = .ok range') :
    customRange today range' = .ok range' := by
  rcases customRange_spec h with ⟨«end», rfl⟩ | ⟨start, «end», rfl, hle⟩
  · rfl
  · show Except.ok (if «end» < start then _ else _) = _
    rw [if_neg (not_lt.mpr hle)]

/-- The presets are found under their keys. -/
theorem preset_spec (rawPeriod : Option String) :
    (preset rawPeriod).key ≠ CUSTOM_KEY ∧ stripped (some (preset rawPeriod).key) =
      (preset rawPeriod).key ∧
      byKey (preset rawPeriod).key = some (preset rawPeriod) := by
  have hall : ∀ period ∈ PERIODS, period.isCustom = false → period.key ≠ CUSTOM_KEY ∧
      stripped (some period.key) = period.key ∧ byKey period.key = some period := by decide +kernel
  have hpreset : preset rawPeriod ∈ PERIODS ∧ (preset rawPeriod).isCustom = false := by
    unfold preset
    cases hnamed : byKey (stripped rawPeriod) with
    | none => exact ⟨List.mem_cons_self, by decide⟩
    | some period =>
      dsimp only
      by_cases hcustom : period.isCustom = true
      · rw [if_pos hcustom]
        exact ⟨List.mem_cons_self, by decide⟩
      · rw [if_neg hcustom]
        exact ⟨List.mem_of_find?_eq_some hnamed, Bool.eq_false_iff.mpr hcustom⟩
  exact hall _ hpreset.1 hpreset.2

theorem preset_of_byKey {period : NewsPeriod} (h : byKey (stripped rawPeriod) = some period)
    (hcustom : period.isCustom = false) : preset rawPeriod = period := by
  unfold preset
  rw [h]
  dsimp only
  rw [if_neg (by rw [hcustom]; exact Bool.false_ne_true)]

theorem preset_self (rawPeriod : Option String) :
    preset (some (preset rawPeriod).key) = preset rawPeriod := by
  obtain ⟨hkey, hstripped, hfound⟩ := preset_spec rawPeriod
  refine preset_of_byKey ?_ (decide_eq_false hkey)
  rw [hstripped, hfound]

theorem wantsCustom_preset (rawPeriod rawFrom rawTo : Option String) :
    wantsCustom (some (preset rawPeriod).key) rawFrom rawTo = false := by
  obtain ⟨hkey, hstripped, hfound⟩ := preset_spec rawPeriod
  unfold wantsCustom
  rw [hstripped, hfound, decide_eq_false hkey]
  rfl

theorem wantsCustom_custom (rawFrom rawTo : Option String) :
    wantsCustom (some CUSTOM_KEY) rawFrom rawTo = true := by
  have hkey : stripped (some CUSTOM_KEY) = CUSTOM_KEY := by decide +kernel
  unfold wantsCustom
  rw [hkey, decide_eq_true rfl]
  rfl

theorem resolvePeriod_custom (h : wantsCustom rawPeriod rawFrom rawTo = true) :
    resolvePeriod rawPeriod rawFrom rawTo today =
      (customRange today (parseIsoDate rawFrom, parseIsoDate rawTo)).map fun range =>
        ⟨CUSTOM_PERIOD, range.1, range.2⟩ := by
  unfold resolvePeriod
  rw [if_pos h]
  cases customRange today (parseIsoDate rawFrom, parseIsoDate rawTo) <;> rfl

theorem parseIsoDate_map (date : Option Date) : parseIsoDate (date.map Date.isoformat) = date := by
  cases date with
  | none => rfl
  | some day => exact Core.parseIsoDate_isoformat day

/-- A window is either a custom range or a preset. -/
theorem resolved_cases (h : resolvePeriod rawPeriod rawFrom rawTo today = .ok resolved) :
    (wantsCustom rawPeriod rawFrom rawTo = true ∧ resolved.period = CUSTOM_PERIOD ∧
      customRange today (parseIsoDate rawFrom, parseIsoDate rawTo) =
        .ok (resolved.start, resolved.end)) ∨
    (wantsCustom rawPeriod rawFrom rawTo = false ∧ resolved.period = preset rawPeriod ∧
      ((preset rawPeriod).days = none ∧ resolved.start = none ∧ resolved.end = none ∨
        ∃ days start, (preset rawPeriod).days = some days ∧
        Date.subDays? (days - 1) today = some start ∧
          resolved.start = some start ∧ resolved.end = some today)) := by
  by_cases hcustom : wantsCustom rawPeriod rawFrom rawTo = true
  · rw [resolvePeriod_custom hcustom] at h
    obtain ⟨range, hrange, rfl⟩ := map_eq_ok_iff.mp h
    exact Or.inl ⟨hcustom, rfl, hrange⟩
  · refine Or.inr ⟨Bool.eq_false_iff.mpr hcustom, ?_⟩
    unfold resolvePeriod at h
    rw [if_neg hcustom] at h
    cases hdays : (preset rawPeriod).days with
    | none =>
      rw [hdays] at h
      cases h
      exact ⟨rfl, Or.inl ⟨rfl, rfl, rfl⟩⟩
    | some days =>
      rw [hdays] at h
      cases hstart : Date.subDays? (days - 1) today with
      | none =>
        dsimp only at h
        rw [hstart] at h
        cases h
      | some start =>
        dsimp only at h
        rw [hstart] at h
        cases h
        exact ⟨rfl, Or.inr ⟨days, start, rfl, hstart, rfl, rfl⟩⟩

/-- The state of the page resolves to the window it was built from. -/
theorem resolvePeriod_again (h : resolvePeriod rawPeriod rawFrom rawTo today = .ok resolved) :
    resolvePeriod (some resolved.key)
      ((carriedRange resolved.key (resolved.start, resolved.end)).1.map Date.isoformat)
      ((carriedRange resolved.key (resolved.start, resolved.end)).2.map Date.isoformat) today =
        .ok resolved := by
  obtain ⟨period, start, «end»⟩ := resolved
  rcases resolved_cases h with ⟨-, hperiod, hrange⟩ | ⟨-, hperiod, hwindow⟩
  · have hperiod : period = CUSTOM_PERIOD := hperiod
    subst hperiod
    have hcarried : carriedRange (ResolvedPeriod.key ⟨CUSTOM_PERIOD, start, «end»⟩) (start, «end») =
        (start, «end») :=
      if_pos rfl
    rw [hcarried]
    show resolvePeriod (some CUSTOM_KEY) _ _ _ = _
    rw [resolvePeriod_custom (wantsCustom_custom _ _), parseIsoDate_map, parseIsoDate_map,
      customRange_idem hrange]
    rfl
  · have hperiod : period = preset rawPeriod := hperiod
    subst hperiod
    have hcarried : carriedRange (ResolvedPeriod.key ⟨preset rawPeriod, start, «end»⟩)
        (start, «end») = (none, none) :=
      if_neg (preset_spec rawPeriod).1
    rw [hcarried]
    show resolvePeriod (some (preset rawPeriod).key) none none today = _
    unfold resolvePeriod
    rw [if_neg (by rw [wantsCustom_preset]; exact Bool.false_ne_true), preset_self]
    rcases hwindow with ⟨hdays, hstart, hend⟩ | ⟨days, first, hdays, hfirst, hstart, hend⟩
    · have hstart : start = none := hstart
      have hend : «end» = none := hend
      rw [hdays, hstart, hend]
    · have hstart : start = some first := hstart
      have hend : «end» = some today := hend
      rw [hdays, hstart, hend]
      dsimp only
      rw [hfirst]
      rfl

/-! ## Both ways of writing a window down -/

/-- A page at its defaults. -/
def defaultState : PageState := ⟨SORT_NEWEST, "", "", none⟩

def closedRange : DateRange → DateRange
  | (some start, some «end») => (some start, some «end»)
  | _ => (none, none)

theorem plain_key (h : resolvePeriod rawPeriod rawFrom rawTo today = .ok resolved) :
    QueryString.Plain resolved.key := by
  have hall : ∀ period ∈ PERIODS, period.key.toList.all QueryString.isSafe = true := by decide
  have hmem : resolved.period ∈ PERIODS := by
    rcases resolved_cases h with ⟨-, hperiod, -⟩ | ⟨-, hperiod, -⟩
    · rw [hperiod]
      decide
    · rw [hperiod]
      exact List.mem_of_find?_eq_some (preset_spec rawPeriod).2.2
  exact QueryString.plain_of_all (hall _ hmem)

/-- The fragment of a window is a link that carries the dates of a closed range only. -/
theorem query_eq (h : resolvePeriod rawPeriod rawFrom rawTo today = .ok resolved) :
    resolved.query = buildQuery resolved.key (closedRange (resolved.start, resolved.end))
      defaultState
      (newsletterState none none) := by
  have hkey := plain_key h
  have hnewsletter : newsletterState none none = [] := by decide +kernel
  have hopen (range : DateRange) (hrange : carriedRange resolved.key range = (none, none)) :
      part PARAM_PERIOD resolved.key.toList = buildQuery resolved.key range defaultState [] := by
    rw [buildQuery_eq, part_plain _ hkey]
    unfold queryFields
    rw [hrange]
    exact (List.append_nil _).symm
  rw [hnewsletter]
  unfold ResolvedPeriod.query
  cases hcustom : resolved.period.isCustom with
  | false =>
    have hnot : resolved.key ≠ CUSTOM_KEY := of_decide_eq_false hcustom
    exact hopen _ (if_neg hnot)
  | true =>
    have his : resolved.key = CUSTOM_KEY := of_decide_eq_true hcustom
    cases hstart : resolved.start with
    | none => exact hopen _ (if_pos his)
    | some start =>
      cases hend : resolved.end with
      | none => exact hopen _ (if_pos his)
      | some «end» =>
        dsimp only [closedRange]
        rw [buildQuery_eq, part_isoformat, part_isoformat, ← his, part_plain _ hkey]
        unfold queryFields carriedRange
        rw [if_pos his]
        rfl

theorem resolveQuery_query (h : resolvePeriod rawPeriod rawFrom rawTo today = .ok resolved) :
    resolveQuery resolved.query today = some (resolvePeriod (some resolved.key)
      ((carriedRange resolved.key (closedRange (resolved.start, resolved.end))).1.map
        Date.isoformat)
      ((carriedRange resolved.key (closedRange (resolved.start, resolved.end))).2.map
        Date.isoformat) today) := by
  rw [query_eq h, resolveQuery_buildQuery]

/-- A window is kept: it has bounds and an order, and whatever else its links and its fragment
carry, they lead back to it. -/
structure Keeps (zone : Zone) (today : Date) (resolved : ResolvedPeriod) : Prop where
  bounds : ∃ moments, resolved.bounds zone = .ok moments
  ordered : ∀ start «end», resolved.start = some start → resolved.end = some «end» → start ≤ «end»
  links : ∀ (state : PageState) (newsletterKey search : Option String),
    resolveQuery (buildQuery resolved.key (resolved.start, resolved.end) state
      (newsletterState newsletterKey search)) today = some (.ok resolved)
  fragment : resolveQuery resolved.query today = some (.ok resolved)

/-- The request does not leave the start of a custom range open, and neither the days counted back
from today nor the day after the last one are outside the calendar. -/
def KeptRequest (rawPeriod rawFrom rawTo : Option String) (today : Date) : Prop :=
  if wantsCustom rawPeriod rawFrom rawTo then
    match parseIsoDate rawFrom, parseIsoDate rawTo with
    | none, none => DEFAULT_DAYS - 1 < today.toOrdinal ∧ today < Date.last
    | none, some _ => False
    | some start, none => start < Date.last ∧ today < Date.last
    | some start, some «end» => start < Date.last ∧ «end» < Date.last
  else
    match (preset rawPeriod).days with
    | none => True
    | some days => days - 1 < today.toOrdinal ∧ today < Date.last

/-- Every window has bounds but the one that ends on the last day of the calendar. -/
theorem bounds_iff (zone : Zone) : (∃ moments, resolved.bounds zone = .ok moments) ↔
    ∀ «end», resolved.end = some «end» → «end» < Date.last := by
  unfold ResolvedPeriod.bounds
  cases hend : resolved.end with
  | none => exact ⟨fun _ _ h => (by cases h), fun _ => ⟨_, rfl⟩⟩
  | some «end» =>
    have hnext : (∃ after, Date.addDays? 1 «end» = some after) ↔ «end» < Date.last := by
      rw [Date.addDays?_isSome, ← Date.toOrdinal_lt_iff, Date.toOrdinal_last]
      exact Nat.succ_le_iff
    constructor
    · rintro ⟨moments, hok⟩ other hother
      obtain ⟨after, hafter, -⟩ := bind_eq_ok_iff.mp hok
      rw [← Option.some.inj hother]
      exact hnext.mp ⟨after, inCalendar_eq_ok_iff.mp hafter⟩
    · intro hlt
      obtain ⟨after, hafter⟩ := hnext.mpr (hlt «end» rfl)
      exact ⟨_, bind_eq_ok_iff.mpr ⟨after, inCalendar_eq_ok_iff.mpr hafter, rfl⟩⟩

/-- A resolved window is kept as soon as it has bounds and is not open at its start only. -/
theorem keeps_iff (zone : Zone) (h : resolvePeriod rawPeriod rawFrom rawTo today = .ok resolved) :
    Keeps zone today resolved ↔ (∀ «end», resolved.end = some «end» → «end» < Date.last) ∧
      (resolved.start = none → resolved.end = none) := by
  have hlinks (state : PageState) (newsletterKey search : Option String) :=
    @resolveQuery_buildQuery today state
    (resolved.start, resolved.end) resolved.key newsletterKey search
  have hagain := resolvePeriod_again h
  constructor
  · intro hkeeps
    refine ⟨(bounds_iff zone).mp hkeeps.bounds, fun hstart => ?_⟩
    by_contra hend
    -- the fragment of a range without a start carries no date, so it leads to the default window
    obtain ⟨period, start, «end»⟩ := resolved
    have hstart : start = none := hstart
    subst hstart
    have hfragment := hkeeps.fragment
    rw [resolveQuery_query h] at hfragment
    have hnone (range : DateRange) : carriedRange (ResolvedPeriod.key ⟨period, none, «end»⟩)
        (closedRange (none, range.2)) = (none, none) := by
      unfold carriedRange
      exact ite_self (none, none)
    dsimp only at hfragment
    rw [hnone (none, «end»)] at hfragment
    rcases resolved_cases (Option.some.inj hfragment) with
      ⟨-, -, hrange⟩ | ⟨-, -, ⟨-, -, hend'⟩ | ⟨_, first, -, -, hstart, -⟩⟩
    · have hrange : customRange today (none, none) = .ok (none, «end») := hrange
      obtain ⟨first, -, hordered⟩ := bind_eq_ok_iff.mp hrange
      have hpair : inOrder (some first, some today) = (none, «end») := Except.ok.inj hordered
      exact start_inOrder first today (congrArg Prod.fst hpair)
    · exact hend hend'
    · cases hstart
  · rintro ⟨hlast, hopen⟩
    refine ⟨(bounds_iff zone).mpr hlast, fun start «end» hstart hend =>
      ?_, fun state key search => ?_, ?_⟩
    · rcases resolved_cases h with
        ⟨-, -, hrange⟩ | ⟨-, -, ⟨-, hnone, -⟩ | ⟨days, first, -, hfirst, hstart', hend'⟩⟩
      · rcases customRange_spec hrange with ⟨_, heq⟩ | ⟨a, b, heq, hle⟩
        · rw [hstart] at heq
          cases heq
        · rw [hstart, hend] at heq
          cases heq
          exact hle
      · rw [hstart] at hnone
        cases hnone
      · rw [hstart] at hstart'
        rw [hend] at hend'
        cases hstart'
        cases hend'
        exact Date.subDays?_le hfirst
    · rw [hlinks, hagain]
    · rw [resolveQuery_query h]
      have hclosed : closedRange (resolved.start, resolved.end) =
          (resolved.start, resolved.end) := by
        cases hstart : resolved.start with
        | none => rw [hopen hstart]; rfl
        | some start =>
          cases hend : resolved.end with
          | some «end» => rfl
          | none =>
            rcases resolved_cases h with
              ⟨-, -, hrange⟩ | ⟨-, -, ⟨-, hnone, -⟩ | ⟨_, _, -, -, -, hend'⟩⟩
            · rw [hstart, hend] at hrange
              rcases customRange_spec hrange with ⟨_, heq⟩ | ⟨_, _, heq, -⟩
              · cases heq
              · cases heq
            · rw [hstart] at hnone
              cases hnone
            · rw [hend] at hend'
              cases hend'
      rw [hclosed, hagain]

theorem last_inOrder (start «end» : Date) :
    (∀ day, (inOrder (some start, some «end»)).2 = some day → day < Date.last) ↔
    start < Date.last ∧ «end» < Date.last := by
  rw [Core.inOrder_spec, ← max_lt_iff]
  exact ⟨fun h => h _ rfl, fun h day hday => Option.some.inj hday ▸ h⟩

/-- Which requests have a window that can be kept. -/
theorem keptRequest_iff : KeptRequest rawPeriod rawFrom rawTo today ↔
    ∃ resolved, resolvePeriod rawPeriod rawFrom rawTo today = .ok resolved ∧
      (∀ «end», resolved.end = some «end» → «end» < Date.last) ∧
      (resolved.start = none → resolved.end = none) := by
  have hback (days : Nat) : (∃ start, Date.subDays? (days - 1) today = some start) ↔
      days - 1 < today.toOrdinal :=
    Date.subDays?_isSome
  unfold KeptRequest
  by_cases hcustom : wantsCustom rawPeriod rawFrom rawTo = true
  · rw [if_pos hcustom, resolvePeriod_custom hcustom]
    have hordered (start «end» : Date) : start < Date.last ∧ «end» < Date.last ↔
        ∃ resolved, Except.map (fun range => ResolvedPeriod.mk CUSTOM_PERIOD range.1 range.2)
          (Except.ok (inOrder (some start, some «end»)) : Except OverflowError DateRange) =
            .ok resolved ∧
          (∀ «end», resolved.end = some «end» → «end» < Date.last) ∧
          (resolved.start = none → resolved.end = none) := by
      rw [← last_inOrder]
      constructor
      · exact fun h => ⟨_, rfl, h, fun hnone => absurd hnone (start_inOrder start «end»)⟩
      · rintro ⟨resolved, hok, hlast, -⟩
        cases hok
        exact hlast
    cases parseIsoDate rawFrom with
    | none =>
      cases parseIsoDate rawTo with
      | none =>
        show DEFAULT_DAYS - 1 < _ ∧ _ ↔ _
        rw [← hback DEFAULT_DAYS]
        unfold customRange
        cases hstart : Date.subDays? (DEFAULT_DAYS - 1) today with
        | none =>
          constructor
          · rintro ⟨⟨start, hsome⟩, -⟩
            cases hsome
          · rintro ⟨resolved, hok, -⟩
            cases hok
        | some start =>
          have hle := Date.subDays?_le hstart
          show _ ↔ ∃ resolved, Except.map _ (Except.ok (inOrder (some start, some today))) = _ ∧ _
          rw [← hordered start today]
          exact ⟨fun h => ⟨lt_of_le_of_lt hle h.2, h.2⟩, fun h => ⟨⟨start, rfl⟩, h.2⟩⟩
      | some «end» =>
        refine ⟨fun h => h.elim, ?_⟩
        rintro ⟨resolved, hok, -, hopen⟩
        cases hok
        cases hopen rfl
    | some start =>
      cases parseIsoDate rawTo with
      | none =>
        show _ ↔ ∃ resolved, Except.map _
          (Except.ok (inOrder (some start, some (max today start)))) = _ ∧ _
        rw [← hordered start (max today start), max_lt_iff]
        exact ⟨fun h => ⟨h.1, h.2, h.1⟩, fun h => ⟨h.1, h.2.1⟩⟩
      | some «end» => exact hordered start «end»
  · rw [if_neg hcustom]
    unfold resolvePeriod
    rw [if_neg hcustom]
    cases (preset rawPeriod).days with
    | none => exact ⟨fun _ => ⟨_, rfl, fun _ h => (by cases h), fun _ => rfl⟩, fun _ => trivial⟩
    | some days =>
      dsimp only
      rw [← hback days]
      constructor
      · rintro ⟨⟨start, hstart⟩, htoday⟩
        rw [hstart]
        exact ⟨_, rfl, fun day hday => Option.some.inj hday ▸ htoday, fun hnone => (by cases hnone)⟩
      · rintro ⟨resolved, hok, hlast, -⟩
        obtain ⟨start, hstart, hresolved⟩ := bind_eq_ok_iff.mp hok
        cases hresolved
        exact ⟨⟨start, inCalendar_eq_ok_iff.mp hstart⟩, hlast today rfl⟩

/-- A request resolves to a window that is kept exactly if it leaves no start open and stays in the
calendar. -/
theorem resolvePeriod_keeps_iff (zone : Zone) (rawPeriod rawFrom rawTo : Option String)
    (today : Date) :
    (∃ resolved, resolvePeriod rawPeriod rawFrom rawTo today = .ok resolved ∧
      Keeps zone today resolved) ↔
      KeptRequest rawPeriod rawFrom rawTo today := by
  rw [keptRequest_iff]
  constructor
  · rintro ⟨resolved, hok, hkeeps⟩
    exact ⟨resolved, hok, (keeps_iff zone hok).mp hkeeps⟩
  · rintro ⟨resolved, hok, hboth⟩
    exact ⟨resolved, hok, (keeps_iff zone hok).mpr hboth⟩

/-- Everything up to the end of March: the fragment of that window leads to the last thirty days. -/
theorem openStart_not_kept :
    let today : Date := ⟨2026, 8, 20, by decide, by decide, by decide⟩
    ¬ ∃ resolved, resolvePeriod (some "kohandatud") none (some "2026-03-31") today = .ok resolved ∧
      Keeps ⟨7200000000, []⟩ today resolved := by
  intro today
  have hresolved : resolvePeriod (some "kohandatud") none (some "2026-03-31") today =
      .ok ⟨CUSTOM_PERIOD, none, some ⟨2026, 3, 31, by decide, by decide, by decide⟩⟩ := by
        decide +kernel
  have hfragment : resolveQuery (ResolvedPeriod.query ⟨CUSTOM_PERIOD, none,
      some ⟨2026, 3, 31, by decide, by decide, by decide⟩⟩) today = some (.ok ⟨CUSTOM_PERIOD,
        some ⟨2026, 7, 22, by decide, by decide, by decide⟩, some today⟩) := by decide +kernel
  rintro ⟨resolved, hok, hkeeps⟩
  cases hresolved.symm.trans hok
  have hsame := hkeeps.fragment
  rw [hfragment] at hsame
  exact absurd hsame (by decide +kernel)

end Resolve

end Dashkoda.News
