import Dashkoda.Core.QueryState
import Dashkoda.LegalWork.Analytics
import Dashkoda.Lib.Paging
import Dashkoda.Lib.PyInt
import Mathlib.Order.WithBot

/-!
# The register explorer

The filters of the register are read from the query string, checked against what the snapshot
contains, and written back into every link.  What is asked for is filtered, ordered and shown a page
at a time.
-/

open Lib

namespace Dashkoda.LegalWork.Register

open Dashkoda.LegalWork.Analytics (RegisterSnapshot)

def PARAM_QUERY : String := "otsing"
def PARAM_STATUS : String := "seis"
def PARAM_PAGE : String := "lk"
def PARAM_YEAR : String := "aasta"
def PARAM_STAGE : String := "etapp"
def PARAM_RECIPIENT : String := "saaja"
def PARAM_ACT_TYPE : String := "liik"
def PARAM_DEADLINE : String := "tahtaeg"
def PARAM_FEEDBACK : String := "tagasiside"

def PER_PAGE : Nat := 25

def MAX_SEARCH_LENGTH : Nat := 120

def SEARCH_ALL : String := ""
def SEARCH_OPEN : String := "toos"
def SEARCH_SENT : String := "valjas"

def SEARCH_STATUSES : List String := [SEARCH_ALL, SEARCH_OPEN, SEARCH_SENT]

def DEADLINE_ANY : String := ""
def DEADLINE_OVERDUE : String := "moodas"
def DEADLINE_NONE : String := "puudub"

def DEADLINE_STATES : List String :=
  [DEADLINE_ANY, DEADLINE_OVERDUE, "7", "14", "21", DEADLINE_NONE]

def DEADLINE_HORIZONS : List (String × Nat) := [("7", 7), ("14", 14), ("21", 21)]

def FEEDBACK_ANY : String := ""
def FEEDBACK_PRESENT : String := "on"
def FEEDBACK_ZERO : String := "null"
def FEEDBACK_UNTRACKED : String := "puudub"

def FEEDBACK_STATES : List String :=
  [FEEDBACK_ANY, FEEDBACK_PRESENT, FEEDBACK_ZERO, FEEDBACK_UNTRACKED]

def STATUS_LABELS : List (String × String) :=
  [(SEARCH_ALL, "Kõik"), (SEARCH_OPEN, "Töös"), (SEARCH_SENT, "Välja läinud")]

def DEADLINE_LABELS : List (String × String) :=
  [(DEADLINE_ANY, "Kõik"), (DEADLINE_OVERDUE, "Tähtaeg möödas, arvamus ootel"),
    ("7", "Tähtaeg 7 päeva jooksul"),
    ("14", "Tähtaeg 14 päeva jooksul"), ("21", "Tähtaeg 21 päeva jooksul"),
    (DEADLINE_NONE, "Tähtaeg puudub")]

def FEEDBACK_LABELS : List (String × String) :=
  [(FEEDBACK_ANY, "Kõik"), (FEEDBACK_PRESENT, "Liikmed andsid tagasisidet"),
    (FEEDBACK_ZERO, "Mõõdetud, tagasisidet ei antud"),
    (FEEDBACK_UNTRACKED, "Tagasisidet ei ole mõõdetud")]

/-! ## The state of a page -/

/-- The categories a snapshot contains.  The table's own constraint keeps its years positive. -/
structure RegisterFacets where
  years : List Int
  stages : List (String × String)
  recipients : List String
  actTypes : List String
  years_positive : ∀ year ∈ years, 1 ≤ year

def RegisterFacets.stageKeys (facets : RegisterFacets) : List String := facets.stages.map Prod.fst

structure RegisterQuery where
  query : String
  status : String
  year : Option Int
  stageKey : String
  recipient : String
  actType : String
  deadline : String
  feedback : String
  page : Int
  deriving DecidableEq

section Parsing

variable (classes : CharClasses)

/-- `parse_text` -/
def parseText (raw : Option String) : String := Core.parseSearch raw MAX_SEARCH_LENGTH

def parseChoice (raw : Option String) (allowed : List String) : String :=
  if Core.stripped raw ∈ allowed then Core.stripped raw else ""

def parsePage (raw : Option String) : Int :=
  match raw.bind fun text => PyInt.parse classes text.toList with
  | none => 1
  | some page => max page 1

def parseYear (raw : Option String) (allowed : List Int) : Option Int :=
  (PyInt.parse classes (Core.stripped raw).toList).filter (· ∈ allowed)

/-- `parse_register_query`, of what `params.get` answers. -/
def parseRegisterQuery (facets : RegisterFacets) (params : String → Option String) :
    RegisterQuery where
  query := parseText (params PARAM_QUERY)
  status := parseChoice (params PARAM_STATUS) SEARCH_STATUSES
  year := parseYear classes (params PARAM_YEAR) facets.years
  stageKey := parseChoice (params PARAM_STAGE) facets.stageKeys
  recipient := parseChoice (params PARAM_RECIPIENT) facets.recipients
  actType := parseChoice (params PARAM_ACT_TYPE) facets.actTypes
  deadline := parseChoice (params PARAM_DEADLINE) DEADLINE_STATES
  feedback := parseChoice (params PARAM_FEEDBACK) FEEDBACK_STATES
  page := parsePage classes (params PARAM_PAGE)

/-- A request for an address; `none` is `TooManyFieldsSent`. -/
def readAddress (facets : RegisterFacets) (text : List Char) : Option RegisterQuery :=
  (QueryString.parseQsl text).map fun fields =>
    parseRegisterQuery classes facets (QueryString.get fields)

end Parsing

/-! ## Links -/

/-- One keyword argument of `build_query`. -/
inductive Override
  | query (value : String)
  | status (value : String)
  | year (value : Option Int)
  | stageKey (value : String)
  | recipient (value : String)
  | actType (value : String)
  | deadline (value : String)
  | feedback (value : String)
  | page (value : Int)
  deriving DecidableEq

/-- `replace(state, **overrides)`, one argument at a time. -/
def RegisterQuery.replace (state : RegisterQuery) : Override → RegisterQuery
  | .query value => { state with query := value }
  | .status value => { state with status := value }
  | .year value => { state with year := value }
  | .stageKey value => { state with stageKey := value }
  | .recipient value => { state with recipient := value }
  | .actType value => { state with actType := value }
  | .deadline value => { state with deadline := value }
  | .feedback value => { state with feedback := value }
  | .page value => { state with page := value }

def Override.isPage : Override → Bool
  | .page _ => true
  | _ => false

/-- The state a link leads to: anything but a new page goes back to the first one. -/
def RegisterQuery.overridden (state : RegisterQuery) (overrides : List Override) : RegisterQuery :=
  let replaced := overrides.foldl RegisterQuery.replace state
  if overrides.any (!·.isPage) then { replaced with page := 1 } else replaced

theorem overridden_singleton (state : RegisterQuery) (change : Override) :
    state.overridden [change] =
      if change.isPage then state.replace change else { state.replace change with page := 1 } := by
  cases change <;> rfl

/-- A year is written where it is not zero. -/
def yearText : Option Int → String
  | none => ""
  | some year => if year = 0 then "" else toString year

/-- The parameters of a link, with the values that are not written. -/
def fields (state : RegisterQuery) : List (String × String) :=
  [(PARAM_QUERY, state.query), (PARAM_STATUS, state.status), (PARAM_YEAR, yearText state.year),
    (PARAM_STAGE, state.stageKey), (PARAM_RECIPIENT, state.recipient),
    (PARAM_ACT_TYPE, state.actType),
    (PARAM_DEADLINE, state.deadline), (PARAM_FEEDBACK, state.feedback)]

def buildQuery (state : RegisterQuery) (overrides : List Override) : List Char :=
  let state := state.overridden overrides
  let parts := ((fields state).filter (·.2 ≠ "")).map fun part =>
    part.1.toList ++ '=' :: QueryString.quote part.2
  ['&'].intercalate
    (parts ++ if 1 < state.page then
      [PARAM_PAGE.toList ++ '=' :: (toString state.page).toList] else [])

/-- A filter in force, and the address that removes it. -/
structure AppliedFilter where
  label : String
  value : String
  removeQuery : List Char
  deriving DecidableEq

def labelIn (labels : List (String × String)) (value : String) : String :=
  ((Dict.ofList labels).get? value).getD value

/-- One entry of `_applied`, where the value is there. -/
def appliedFilter (state : RegisterQuery) (label value : String) (shown : String)
    (clear : Override) :
    List AppliedFilter :=
  if value = "" then [] else [⟨label, shown, buildQuery state [clear]⟩]

/-- `_applied` -/
def applied (facets : RegisterFacets) (state : RegisterQuery) : List AppliedFilter :=
  appliedFilter state "Olek" state.status (labelIn STATUS_LABELS state.status)
    (.status SEARCH_ALL) ++
  (state.year.toList.map fun year => ⟨"Aasta", toString year, buildQuery state [.year none]⟩) ++
  appliedFilter state "Hetkeseis" state.stageKey (labelIn facets.stages state.stageKey)
    (.stageKey "") ++
  appliedFilter state "Saaja" state.recipient state.recipient (.recipient "") ++
  appliedFilter state "Õigusakti liik" state.actType state.actType (.actType "") ++
  appliedFilter state "Tähtaeg" state.deadline (labelIn DEADLINE_LABELS state.deadline)
    (.deadline DEADLINE_ANY) ++
  appliedFilter state "Tagasiside" state.feedback (labelIn FEEDBACK_LABELS state.feedback)
    (.feedback FEEDBACK_ANY)

/-- `active_filter_count` -/
def RegisterQuery.activeFilterCount (state : RegisterQuery) : Nat :=
  [state.status, yearText state.year, state.stageKey, state.recipient, state.actType,
    state.deadline,
    state.feedback].countP (· ≠ "")

/-- A choice a menu offers, and the address that makes it. -/
structure FacetOption where
  value : String
  label : String
  isActive : Bool
  query : List Char

/-- `_options`, of a filter whose values are texts. -/
def options (state : RegisterQuery) (active : String) (choose : String → Override)
    (pairs : List (String × String)) :
    List FacetOption :=
  pairs.map fun pair => ⟨pair.1, pair.2, pair.1 = active, buildQuery state [choose pair.1]⟩

/-- `_options`, of the years. -/
def yearOptions (state : RegisterQuery) (years : List Int) : List FacetOption :=
  years.map fun year => ⟨toString year, toString year, toString year = yearText state.year,
    buildQuery state [.year (if year = 0 then none else some year)]⟩

/-! ## Searching -/

section Search

variable {κ : Type} [LinearOrder κ] (collate : String → κ) (icontains : String → String → Bool)

/-- `_apply_deadline_filter`, of one row. -/
def deadlineHolds (reportingDate : Date) (deadline : String) (row : WorkbookRow) : Bool :=
  if deadline = DEADLINE_ANY then true
  else if deadline = DEADLINE_NONE then row.deadlineDate = none
  else if deadline = DEADLINE_OVERDUE then
    row.deadlineDate.any (· < reportingDate) && row.sentStatus ≠ "sent"
  else match DEADLINE_HORIZONS.lookup deadline with
    | none => true
    | some horizon => row.deadlineDate.any fun date =>
      reportingDate ≤ date && date.toOrdinal ≤ reportingDate.toOrdinal + horizon

def feedbackHolds (feedback : String) (row : WorkbookRow) : Bool :=
  if feedback = FEEDBACK_PRESENT then row.feedbackMemberCount.any (0 < ·)
  else if feedback = FEEDBACK_ZERO then row.feedbackMemberCount = some 0
  else if feedback = FEEDBACK_UNTRACKED then row.feedbackMemberCount = none
  else true

def statusHolds (status : String) (row : WorkbookRow) : Bool :=
  if status = SEARCH_OPEN then row.isOpen
  else if status = SEARCH_SENT then row.sentStatus = "sent" && row.sentDate ≠ none
  else true

def termHolds (term : String) (row : WorkbookRow) : Bool :=
  term = "" || [row.topic, row.recordId, row.actType, row.recipient, row.stage, row.nextStep].any
    (icontains · term)

/-- The filters of `search_items`, of one row. -/
def holds (reportingDate : Date) (state : RegisterQuery) (row : WorkbookRow) : Bool :=
  statusHolds state.status row && termHolds icontains (PyText.strip state.query) row &&
    (state.year = none || state.year = some row.sourceYear) &&
    (state.stageKey = "" || row.stageKey = state.stageKey) &&
    (state.recipient = "" || row.recipient = state.recipient) &&
    (state.actType = "" || row.actType = state.actType) &&
    deadlineHolds reportingDate state.deadline row && feedbackHolds state.feedback row

/-- Newest arrivals first, undated last, then by topic. -/
def newestFirst (row : WorkbookRow) : (WithBot Date)ᵒᵈ ×ₗ κ ×ₗ κ :=
  toLex (OrderDual.toDual row.receivedDate, toLex (collate row.topic, collate row.recordId))

/-- `search_items` -/
def searchItems (snapshot : Option RegisterSnapshot) (state : RegisterQuery) : List WorkbookRow :=
  match snapshot with
  | none => []
  | some snapshot =>
    sortOn (newestFirst collate)
      (snapshot.items.filter (holds icontains snapshot.reportingDate state))

end Search

/-! ## Reading a link back -/

section RoundTrip

variable {classes : CharClasses} {facets : RegisterFacets}

/-- A value that is chosen again when it is read. -/
def Chosen (allowed : List String) (value : String) : Prop :=
  value = "" ∨ (value ∈ allowed ∧ PyText.strip value = value)

/-- A number that can be written and read again. -/
structure Written (n : Int) : Prop where
  positive : 1 ≤ n
  short : n.natAbs < 10 ^ PyInt.maxDigits

structure Valid (facets : RegisterFacets) (state : RegisterQuery) : Prop where
  query : state.query.length ≤ MAX_SEARCH_LENGTH
  status : Chosen SEARCH_STATUSES state.status
  year : ∀ year, state.year = some year → year ∈ facets.years ∧ Written year
  stageKey : Chosen facets.stageKeys state.stageKey
  recipient : Chosen facets.recipients state.recipient
  actType : Chosen facets.actTypes state.actType
  deadline : Chosen DEADLINE_STATES state.deadline
  feedback : Chosen FEEDBACK_STATES state.feedback
  page : Written state.page

theorem strip_empty : PyText.strip "" = "" := rfl

theorem chosen_parseChoice (raw : Option String) (allowed : List String) :
    Chosen allowed (parseChoice raw allowed) := by
  unfold parseChoice
  by_cases h : Core.stripped raw ∈ allowed
  · rw [if_pos h]
    exact Or.inr ⟨h, PyText.strip_strip _⟩
  · rw [if_neg h]
    exact Or.inl rfl

theorem written_one : Written 1 := by
  refine ⟨Int.le_refl 1, ?_⟩
  rw [Int.natAbs_one]
  have hne : PyInt.maxDigits ≠ 0 := by decide
  exact Nat.one_lt_pow hne (by decide)

theorem written_parsePage (h : PyInt.ReadsDecimals classes) (raw : Option String) :
    Written (parsePage classes raw) := by
  unfold parsePage
  cases hparse : raw.bind fun text => PyInt.parse classes text.toList with
  | none => exact written_one
  | some page =>
    obtain ⟨text, -, hpage⟩ := Option.bind_eq_some_iff.mp hparse
    have hlt := PyInt.natAbs_lt_of_parse h hpage
    show Written (max page 1)
    rcases le_total page 1 with hle | hle
    · rw [max_eq_right hle]
      exact written_one
    · rw [max_eq_left hle]
      exact ⟨hle, hlt⟩

theorem written_parseYear (h : PyInt.ReadsDecimals classes) {raw : Option String} {year : Int}
    (hyear : parseYear classes raw facets.years = some year) : year ∈ facets.years ∧
    Written year := by
  obtain ⟨hparse, hmem⟩ := Option.filter_eq_some_iff.mp hyear
  have hin := of_decide_eq_true hmem
  exact ⟨hin, facets.years_positive year hin, PyInt.natAbs_lt_of_parse h hparse⟩

theorem length_parseText_le (raw : Option String) : (parseText raw).length ≤ MAX_SEARCH_LENGTH := by
  unfold parseText Core.parseSearch PyText.take
  rw [String.length_ofList, List.length_take]
  exact Nat.min_le_left _ _

theorem valid_parseRegisterQuery (h : PyInt.ReadsDecimals classes)
    (params : String → Option String) :
    Valid facets (parseRegisterQuery classes facets params) := by
  unfold parseRegisterQuery
  constructor <;> dsimp only
  · exact length_parseText_le _
  · exact chosen_parseChoice _ _
  · intro year hyear
    exact written_parseYear h hyear
  · exact chosen_parseChoice _ _
  · exact chosen_parseChoice _ _
  · exact chosen_parseChoice _ _
  · exact chosen_parseChoice _ _
  · exact chosen_parseChoice _ _
  · exact written_parsePage h _

/-! The parameters of a link, with its page. -/

def pageText (page : Int) : String := if 1 < page then toString page else ""

def allFields (state : RegisterQuery) : List (String × String) :=
  fields state ++ [(PARAM_PAGE, pageText state.page)]

theorem names_allFields (state : RegisterQuery) : (allFields state).map Prod.fst =
    [PARAM_QUERY, PARAM_STATUS, PARAM_YEAR, PARAM_STAGE, PARAM_RECIPIENT, PARAM_ACT_TYPE,
      PARAM_DEADLINE,
      PARAM_FEEDBACK, PARAM_PAGE] := rfl

theorem nodup_allFields (state : RegisterQuery) : ((allFields state).map Prod.fst).Nodup := by
  rw [names_allFields]
  decide

theorem plain_allFields {state : RegisterQuery} {field : String × String}
    (h : field ∈ allFields state) :
    QueryString.Plain field.1 := by
  have hnames : ∀ name ∈ (allFields state).map Prod.fst,
      name.toList.all QueryString.isSafe = true := by
    rw [names_allFields]
    decide
  exact QueryString.plain_of_all (hnames _ (List.mem_map_of_mem h))

theorem isSafe_toString {n : Int} (h : 1 ≤ n) : ∀ c ∈ (toString n).toList,
    QueryString.isSafe c = true := by
  cases n with
  | negSucc m => omega
  | ofNat m =>
    intro c hc
    have htext : (toString (Int.ofNat m)).toList = Nat.toDigits 10 m := Nat.toList_repr
    rw [htext] at hc
    have hdigit : c.isDigit = true := Nat.isDigit_of_mem_toDigits (by decide) (by decide) hc
    unfold QueryString.isSafe Char.isAlphanum
    rw [hdigit, Bool.or_true]
    rfl

theorem strip_toString {n : Int} (h : 1 ≤ n) : PyText.strip (toString n) = toString n :=
  PyText.strip_of_not_isSpace fun c hc => Core.not_isSpace_of_isSafe (isSafe_toString h c hc)

theorem toString_ne_empty {n : Int} (h : 1 ≤ n) : toString n ≠ "" := by
  cases n with
  | negSucc m => omega
  | ofNat m =>
    intro hempty
    have htext : (toString (Int.ofNat m)).toList = Nat.toDigits 10 m := Nat.toList_repr
    have hpos : 0 < (Nat.toDigits 10 m).length := Nat.length_toDigits_pos
    rw [← htext, hempty] at hpos
    exact absurd hpos (by decide)

/-- A link is its parameters that are not empty. -/
theorem buildQuery_eq_joined (state : RegisterQuery) (overrides : List Override) :
    buildQuery state overrides = QueryString.joined
      ((allFields (state.overridden overrides)).filter (·.2 ≠ "")) := by
  have hpage (page : Int) :
      (if 1 < page then [PARAM_PAGE.toList ++ '=' :: (toString page).toList] else []) =
      ([(PARAM_PAGE, pageText page)].filter (·.2 ≠ "")).map QueryString.field := by
    unfold pageText
    by_cases hafter : 1 < page
    · have hne : toString page ≠ "" := toString_ne_empty (by omega)
      rw [if_pos hafter, if_pos hafter, List.filter_cons_of_pos (by simpa using hne)]
      show _ = [PARAM_PAGE.toList ++ '=' :: QueryString.quote (toString page)]
      rw [QueryString.quote_of_isSafe (isSafe_toString (by omega))]
    · rw [if_neg hafter, if_neg hafter]
      rfl
  unfold buildQuery QueryString.joined allFields
  dsimp only
  rw [hpage, List.filter_append, List.map_append]
  rfl

/-! What is written of a value, read back. -/

def sent (value : String) : Option String := if value = "" then none else some value

/-- Every value of a state, written and read. -/
def RegisterQuery.reread (state : RegisterQuery) (classes : CharClasses)
    (facets : RegisterFacets) : RegisterQuery where
  query := parseText (sent state.query)
  status := parseChoice (sent state.status) SEARCH_STATUSES
  year := parseYear classes (sent (yearText state.year)) facets.years
  stageKey := parseChoice (sent state.stageKey) facets.stageKeys
  recipient := parseChoice (sent state.recipient) facets.recipients
  actType := parseChoice (sent state.actType) facets.actTypes
  deadline := parseChoice (sent state.deadline) DEADLINE_STATES
  feedback := parseChoice (sent state.feedback) FEEDBACK_STATES
  page := parsePage classes (sent (pageText state.page))

theorem get_allFields {state : RegisterQuery} : ∀ field ∈ allFields state,
    QueryString.get ((allFields state).filter (·.2 ≠ "")) field.1 = sent field.2 :=
  fun _ => QueryString.get_written (nodup_allFields state)

theorem stripped_sent (value : String) : Core.stripped (sent value) = PyText.strip value := by
  unfold sent Core.stripped
  by_cases h : value = ""
  · rw [if_pos h, h]
    rfl
  · rw [if_neg h]
    rfl

theorem parseChoice_sent {allowed : List String} {value : String} (h : Chosen allowed value) :
    parseChoice (sent value) allowed = value := by
  unfold parseChoice
  rw [stripped_sent]
  rcases h with rfl | ⟨hmem, hstrip⟩
  · rw [strip_empty]
    exact ite_self _
  · rw [hstrip, if_pos hmem]

theorem parseText_sent {query : String} (h : query.length ≤ MAX_SEARCH_LENGTH) :
    parseText (sent query) = PyText.strip query := by
  have hshort := Nat.le_trans (PyText.length_stripChars_le query.toList) h
  unfold parseText Core.parseSearch PyText.take
  rw [stripped_sent]
  unfold PyText.strip
  rw [String.toList_ofList, List.take_of_length_le hshort]

theorem parseYear_sent (h : PyInt.ReadsDecimals classes) {year : Option Int}
    (hyear : ∀ value, year = some value → value ∈ facets.years ∧ Written value) :
    parseYear classes (sent (yearText year)) facets.years = year := by
  unfold parseYear
  rw [stripped_sent]
  cases year with
  | none => rfl
  | some value =>
    obtain ⟨hmem, hwritten⟩ := hyear value rfl
    have hpositive := hwritten.positive
    unfold yearText
    dsimp only
    rw [if_neg (by omega), strip_toString hpositive, PyInt.parse_toString h hwritten.short]
    exact if_pos (decide_eq_true hmem)

theorem parsePage_sent (h : PyInt.ReadsDecimals classes) {page : Int} (hpage : Written page) :
    parsePage classes (sent (pageText page)) = page := by
  have hpositive := hpage.positive
  unfold parsePage pageText sent
  by_cases hafter : 1 < page
  · rw [if_pos hafter, if_neg (toString_ne_empty hpositive)]
    dsimp only [Option.bind_some]
    rw [PyInt.parse_toString h hpage.short]
    exact max_eq_left hpositive
  · rw [if_neg hafter, if_pos rfl]
    dsimp only [Option.bind_none]
    omega

theorem parseRegisterQuery_sent {state : RegisterQuery} {params : String → Option String}
    (hparams : ∀ field ∈ allFields state, params field.1 = sent field.2) :
    parseRegisterQuery classes facets params = state.reread classes facets := by
  obtain ⟨hquery, hstatus, hyear, hstage, hrecipient, hactType, hdeadline, hfeedback, hpage⟩ :
      params PARAM_QUERY = sent state.query ∧ params PARAM_STATUS = sent state.status ∧
        params PARAM_YEAR = sent (yearText state.year) ∧
        params PARAM_STAGE = sent state.stageKey ∧
        params PARAM_RECIPIENT = sent state.recipient ∧
        params PARAM_ACT_TYPE = sent state.actType ∧ params PARAM_DEADLINE = sent state.deadline ∧
        params PARAM_FEEDBACK = sent state.feedback ∧
        params PARAM_PAGE = sent (pageText state.page) := by
    simpa [allFields, fields] using hparams
  unfold parseRegisterQuery
  rw [hquery, hstatus, hyear, hstage, hrecipient, hactType, hdeadline, hfeedback, hpage]
  rfl

/-- What is read of a link is what is written of its state, read value by value. -/
theorem readAddress_written (state : RegisterQuery) (overrides : List Override) :
    readAddress classes facets (buildQuery state overrides) =
      some ((state.overridden overrides).reread classes facets) := by
  have hfew : ((allFields (state.overridden overrides)).filter (·.2 ≠ "")).length ≤
      QueryString.maxFields := by
    have hle := (List.filter_sublist (l := allFields (state.overridden overrides))
      (p := (·.2 ≠ ""))).length_le
    exact Nat.le_trans hle (by decide : 9 ≤ QueryString.maxFields)
  unfold readAddress
  rw [buildQuery_eq_joined, QueryString.parseQsl_joined (fun field hfield =>
    plain_allFields (List.mem_filter.mp hfield).1) hfew]
  exact congrArg some (parseRegisterQuery_sent get_allFields)

/-- The state without blanks at the ends of its text. -/
def RegisterQuery.settled (state : RegisterQuery) : RegisterQuery :=
  { state with query := PyText.strip state.query }

/-- A state that was read is read again, but for blanks at the ends of its text. -/
theorem reread_of_valid (h : PyInt.ReadsDecimals classes) {state : RegisterQuery}
    (hvalid : Valid facets state) : state.reread classes facets = state.settled := by
  unfold RegisterQuery.reread
  rw [parseText_sent hvalid.query, parseChoice_sent hvalid.status, parseYear_sent h hvalid.year,
    parseChoice_sent hvalid.stageKey, parseChoice_sent hvalid.recipient,
    parseChoice_sent hvalid.actType, parseChoice_sent hvalid.deadline,
    parseChoice_sent hvalid.feedback, parsePage_sent h hvalid.page]
  rfl

theorem readAddress_buildQuery (h : PyInt.ReadsDecimals classes) {state : RegisterQuery}
    {overrides : List Override} (hvalid : Valid facets (state.overridden overrides)) :
    readAddress classes facets (buildQuery state overrides) =
      some (state.overridden overrides).settled := by
  rw [readAddress_written, reread_of_valid h hvalid]

theorem valid_settled {state : RegisterQuery} (hvalid : Valid facets state) :
    Valid facets state.settled := by
  have hquery : (PyText.strip state.query).length ≤ MAX_SEARCH_LENGTH := by
    unfold PyText.strip
    rw [String.length_ofList]
    exact Nat.le_trans (PyText.length_stripChars_le _) hvalid.query
  exact { hvalid with query := hquery }

/-! ## What a link changes -/

/-- A change as it is read back from the link that makes it. -/
def Override.reread (classes : CharClasses) (facets : RegisterFacets) : Override → Override
  | .query value => .query (parseText (sent value))
  | .status value => .status (parseChoice (sent value) SEARCH_STATUSES)
  | .year value => .year (parseYear classes (sent (yearText value)) facets.years)
  | .stageKey value => .stageKey (parseChoice (sent value) facets.stageKeys)
  | .recipient value => .recipient (parseChoice (sent value) facets.recipients)
  | .actType value => .actType (parseChoice (sent value) facets.actTypes)
  | .deadline value => .deadline (parseChoice (sent value) DEADLINE_STATES)
  | .feedback value => .feedback (parseChoice (sent value) FEEDBACK_STATES)
  | .page value => .page (parsePage classes (sent (pageText value)))

theorem isPage_reread (change : Override) :
    (change.reread classes facets).isPage = change.isPage := by
  unfold Override.reread
  cases change <;> simp only [Override.isPage]

theorem reread_replace (state : RegisterQuery) (change : Override) :
    (state.replace change).reread classes facets =
      (state.reread classes facets).replace (change.reread classes facets) := by
  unfold Override.reread RegisterQuery.reread
  cases change <;> simp only [RegisterQuery.replace]

theorem parsePage_first : parsePage classes (sent (pageText 1)) = 1 := rfl

theorem reread_overridden (state : RegisterQuery) (change : Override) :
    (state.overridden [change]).reread classes facets =
      (state.reread classes facets).overridden [change.reread classes facets] := by
  rw [overridden_singleton, overridden_singleton, isPage_reread, ← reread_replace]
  cases change.isPage with
  | true => rfl
  | false =>
    unfold RegisterQuery.reread
    simp only [Bool.false_eq_true, if_false, parsePage_first]

/-- A link makes its own change, as it is read back, and no other. -/
theorem readAddress_link (h : PyInt.ReadsDecimals classes) {state : RegisterQuery}
    (hvalid : Valid facets state) (change : Override) :
    readAddress classes facets (buildQuery state [change]) =
      some (state.settled.overridden [change.reread classes facets]) := by
  rw [readAddress_written, reread_overridden, reread_of_valid h hvalid]

/-- What the links of a page change: a category of the snapshot, or none, or the page. -/
def Override.Offered (facets : RegisterFacets) : Override → Prop
  | .query _ => False
  | .status value => value ∈ SEARCH_STATUSES
  | .year value => ∀ number, value = some number → number ∈ facets.years
  | .stageKey value => value = "" ∨ value ∈ facets.stageKeys
  | .recipient value => value = "" ∨ value ∈ facets.recipients
  | .actType value => value = "" ∨ value ∈ facets.actTypes
  | .deadline value => value ∈ DEADLINE_STATES
  | .feedback value => value ∈ FEEDBACK_STATES
  | .page number => 1 ≤ number

/-- A change that the reader of its link sees as it was made.  The workbook's texts are cut after
they are stripped, so that one may end in a blank. -/
def Override.Kept : Override → Prop
  | .year (some number) => Written number
  | .stageKey value => PyText.strip value = value
  | .recipient value => PyText.strip value = value
  | .actType value => PyText.strip value = value
  | .page number => Written number
  | _ => True

/-- A choice is kept just where its value has no blanks at its ends. -/
theorem parseChoice_sent_iff {allowed : List String} {value : String}
    (hallowed : value = "" ∨ value ∈ allowed) :
    parseChoice (sent value) allowed = value ↔ PyText.strip value = value := by
  constructor
  · intro hparse
    rcases chosen_parseChoice (sent value) allowed with hempty | ⟨-, hstrip⟩
    · rw [← hparse, hempty]
      rfl
    · rwa [hparse] at hstrip
  · intro hstrip
    refine parseChoice_sent ?_
    rcases hallowed with hempty | hmem
    · exact Or.inl hempty
    · exact Or.inr ⟨hmem, hstrip⟩

theorem parseYear_sent_iff (h : PyInt.ReadsDecimals classes) {year : Int}
    (hmem : year ∈ facets.years) :
    parseYear classes (sent (yearText (some year))) facets.years = some year ↔ Written year := by
  constructor
  · exact fun hparse => (written_parseYear h hparse).2
  · intro hwritten
    refine parseYear_sent h fun value hvalue => ?_
    rw [← Option.some.inj hvalue]
    exact ⟨hmem, hwritten⟩

theorem plain_states : ∀ allowed ∈ [SEARCH_STATUSES, DEADLINE_STATES, FEEDBACK_STATES],
    ∀ value ∈ allowed, PyText.strip value = value := by
  decide +kernel

/-- A change is read back as it was made just where it is kept. -/
theorem reread_eq_iff (h : PyInt.ReadsDecimals classes) {change : Override}
    (hoffered : change.Offered facets) : change.reread classes facets = change ↔ change.Kept := by
  have hconstant {allowed : List String} {value : String}
      (hstate : allowed ∈ [SEARCH_STATUSES, DEADLINE_STATES, FEEDBACK_STATES])
      (hmem : value ∈ allowed) : parseChoice (sent value) allowed = value :=
    (parseChoice_sent_iff (Or.inr hmem)).mpr (plain_states allowed hstate value hmem)
  unfold Override.Offered at hoffered
  unfold Override.reread Override.Kept
  cases change with
  | query value => exact hoffered.elim
  | status value =>
    exact iff_of_true (congrArg Override.status (hconstant (by decide) hoffered)) trivial
  | deadline value =>
    exact iff_of_true (congrArg Override.deadline (hconstant (by decide) hoffered)) trivial
  | feedback value =>
    exact iff_of_true (congrArg Override.feedback (hconstant (by decide) hoffered)) trivial
  | stageKey value =>
    rw [Override.stageKey.injEq]
    exact parseChoice_sent_iff hoffered
  | recipient value =>
    rw [Override.recipient.injEq]
    exact parseChoice_sent_iff hoffered
  | actType value =>
    rw [Override.actType.injEq]
    exact parseChoice_sent_iff hoffered
  | year value =>
    rw [Override.year.injEq]
    cases value with
    | none => exact iff_of_true rfl trivial
    | some year => exact parseYear_sent_iff h (hoffered year rfl)
  | page page =>
    rw [Override.page.injEq]
    constructor
    · intro hpage
      rw [← hpage]
      exact written_parsePage h _
    · exact parsePage_sent h

theorem settled_overridden {change : Override} (hoffered : change.Offered facets)
    (state : RegisterQuery) :
    (state.settled.overridden [change.reread classes facets]).settled =
      state.settled.overridden [change.reread classes facets] := by
  rw [overridden_singleton, isPage_reread]
  cases change with
  | query value => exact hoffered.elim
  | _ =>
    unfold RegisterQuery.settled
    simp only [Override.reread, RegisterQuery.replace, Override.isPage, Bool.false_eq_true,
      if_false, if_true, PyText.strip_strip]

/-! ## The filters in force -/

theorem length_appliedFilter (state : RegisterQuery) (label value shown : String)
    (clear : Override) :
    (appliedFilter state label value shown clear).length = [value].countP (· ≠ "") := by
  unfold appliedFilter
  by_cases h : value = ""
  · rw [if_pos h, h]
    rfl
  · rw [if_neg h]
    simp [h]

theorem yearText_ne_empty {state : RegisterQuery} (hvalid : Valid facets state) {year : Int}
    (hyear : state.year = some year) : yearText state.year ≠ "" := by
  have hpositive := (hvalid.year year hyear).2.positive
  rw [hyear]
  unfold yearText
  dsimp only
  rw [if_neg (by omega)]
  exact toString_ne_empty hpositive

/-- Every filter in force is shown, and counted. -/
theorem length_applied {state : RegisterQuery} (hvalid : Valid facets state) :
    (applied facets state).length = state.activeFilterCount := by
  have hyear : (state.year.toList.map fun year =>
      (⟨"Aasta", toString year, buildQuery state [.year none]⟩ : AppliedFilter)).length =
      [yearText state.year].countP (· ≠ "") := by
    rw [List.length_map]
    cases hstate : state.year with
    | none => rfl
    | some year =>
      have hne := yearText_ne_empty hvalid hstate
      rw [hstate] at hne
      simp [hne]
  unfold applied RegisterQuery.activeFilterCount
  simp only [List.length_append, length_appliedFilter, hyear]
  simp only [List.countP_cons, List.countP_nil]
  omega

theorem mem_appliedFilter {state : RegisterQuery} {label value shown : String} {clear : Override}
    {filter : AppliedFilter} (h : filter ∈ appliedFilter state label value shown clear) :
    value ≠ "" ∧ filter = ⟨label, shown, buildQuery state [clear]⟩ := by
  unfold appliedFilter at h
  by_cases hvalue : value = ""
  · rw [if_pos hvalue] at h
    cases h
  · rw [if_neg hvalue] at h
    exact ⟨hvalue, List.mem_singleton.mp h⟩

/-- What removes a filter, by its label. -/
def removals : List (String × Override) :=
  [("Olek", .status SEARCH_ALL), ("Aasta", .year none), ("Hetkeseis", .stageKey ""),
    ("Saaja", .recipient ""), ("Õigusakti liik", .actType ""), ("Tähtaeg", .deadline DEADLINE_ANY),
    ("Tagasiside", .feedback FEEDBACK_ANY)]

theorem nodup_removals : (removals.map Prod.fst).Nodup := by decide

theorem kept_removals : ∀ removal ∈ removals, removal.2.Kept := by
  have hempty : PyText.strip "" = "" := strip_empty
  simp [removals, Override.Kept, hempty]

/-- The link of a filter is the one that removes what it is labelled with. -/
theorem removeQuery_applied {state : RegisterQuery} {filter : AppliedFilter}
    (h : filter ∈ applied facets state) :
    ∃ clear, (filter.label, clear) ∈ removals ∧ filter.removeQuery = buildQuery state [clear] := by
  have hclear {label value shown : String} {clear : Override}
      (hfilter : filter ∈ appliedFilter state label value shown clear)
      (hmem : (label, clear) ∈ removals) :
      ∃ clear, (filter.label, clear) ∈ removals ∧
        filter.removeQuery = buildQuery state [clear] := by
    rw [(mem_appliedFilter hfilter).2]
    exact ⟨clear, hmem, rfl⟩
  unfold applied at h
  simp only [List.mem_append, List.mem_map, Option.mem_toList] at h
  rcases h with (((((h | ⟨year, -, rfl⟩) | h) | h) | h) | h) | h
  case inl.inl.inl.inl.inl.inr =>
    have hyear : ("Aasta", Override.year none) ∈ removals := by decide
    exact ⟨.year none, hyear, rfl⟩
  all_goals exact hclear h (by decide)

/-- What a reader sees of a filter. -/
def AppliedFilter.face (filter : AppliedFilter) : String × String := (filter.label, filter.value)

theorem face_appliedFilter (state : RegisterQuery) (label value shown : String) (clear : Override) :
    (appliedFilter state label value shown clear).map AppliedFilter.face =
      if value = "" then [] else [(label, shown)] := by
  unfold appliedFilter
  split <;> rfl

theorem filter_face (label other value shown : String) :
    (if value = "" then [] else [(label, shown)]).filter (·.1 ≠ other) =
      if label = other then [] else if value = "" then [] else [(label, shown)] := by
  split <;> split <;> simp_all

/-- The filters a reader sees, by what they are of. -/
theorem faces_applied (facets : RegisterFacets) (state : RegisterQuery) :
    (applied facets state).map AppliedFilter.face =
      (if state.status = "" then [] else [("Olek", labelIn STATUS_LABELS state.status)]) ++
      (state.year.toList.map fun year => ("Aasta", toString year)) ++
      (if state.stageKey = "" then [] else [("Hetkeseis", labelIn facets.stages state.stageKey)]) ++
      (if state.recipient = "" then [] else [("Saaja", state.recipient)]) ++
      (if state.actType = "" then [] else [("Õigusakti liik", state.actType)]) ++
      (if state.deadline = "" then [] else
        [("Tähtaeg", labelIn DEADLINE_LABELS state.deadline)]) ++
      (if state.feedback = "" then [] else
        [("Tagasiside", labelIn FEEDBACK_LABELS state.feedback)]) := by
  unfold applied
  simp only [List.map_append, face_appliedFilter, List.map_map]
  rfl

/-- Removing a filter leaves the others as they are. -/
theorem faces_removed {label : String} {clear : Override} (h : (label, clear) ∈ removals)
    (state : RegisterQuery) :
    (applied facets (state.settled.overridden [clear])).map AppliedFilter.face =
      ((applied facets state).map AppliedFilter.face).filter (·.1 ≠ label) := by
  have hyear (other : String) : (state.year.toList.map fun year => ("Aasta", toString year)).filter
      (·.1 ≠ other) = if "Aasta" = other then [] else
        state.year.toList.map fun year => ("Aasta", toString year) := by
    cases state.year with
    | none => simp
    | some year => by_cases hother : "Aasta" = other <;> simp [hother]
  rw [faces_applied, faces_applied]
  simp only [List.filter_append, filter_face, hyear]
  unfold removals at h
  simp only [List.mem_cons, List.not_mem_nil, or_false, Prod.mk.injEq] at h
  rcases h with ⟨rfl, rfl⟩ | ⟨rfl, rfl⟩ | ⟨rfl, rfl⟩ | ⟨rfl, rfl⟩ | ⟨rfl, rfl⟩ | ⟨rfl, rfl⟩ |
    ⟨rfl, rfl⟩ <;> rfl

/-- The labels of the filters differ. -/
theorem labels_applied (facets : RegisterFacets) (state : RegisterQuery) :
    ((applied facets state).map AppliedFilter.label).Nodup := by
  have hface : (applied facets state).map AppliedFilter.label =
      ((applied facets state).map AppliedFilter.face).map Prod.fst := by
    rw [List.map_map]
    rfl
  have hone (label value shown : String) :
      ((if value = "" then [] else [(label, shown)]).map Prod.fst).Sublist [label] := by
    split
    · exact List.nil_sublist _
    · exact List.Sublist.refl _
  have hyear : ((state.year.toList.map fun year => ("Aasta", toString year)).map
      Prod.fst).Sublist ["Aasta"] := by
    cases state.year with
    | none => exact List.nil_sublist _
    | some year => exact List.Sublist.refl _
  have hsub : ((applied facets state).map AppliedFilter.label).Sublist (removals.map Prod.fst) := by
    rw [hface, faces_applied]
    simp only [List.map_append]
    exact ((((((hone _ _ _).append hyear).append (hone _ _ _)).append (hone _ _ _)).append
      (hone _ _ _)).append (hone _ _ _)).append (hone _ _ _)
  exact hsub.nodup nodup_removals

end RoundTrip

/-! ## The page -/

structure RegisterView where
  state : RegisterQuery
  applied : List AppliedFilter
  statusOptions : List FacetOption
  yearOptions : List FacetOption
  stageOptions : List FacetOption
  recipientOptions : List FacetOption
  actTypeOptions : List FacetOption
  deadlineOptions : List FacetOption
  feedbackOptions : List FacetOption
  records : List WorkbookRow
  total : Nat
  totalPages : Nat

def RegisterView.previousQuery (view : RegisterView) : List Char :=
  buildQuery view.state [.page (max (view.state.page - 1) 1)]

def RegisterView.nextQuery (view : RegisterView) : List Char :=
  buildQuery view.state [.page (min (view.state.page + 1) (max (view.totalPages : Int) 1))]

/-- The page that is shown: the last one where there are not as many. -/
def shownPage (totalPages : Nat) (asked : Int) : Nat := min asked.toNat totalPages

section View

variable {κ : Type} [LinearOrder κ] (collate : String → κ) (icontains : String → String → Bool)
  (classes : CharClasses)

def viewOf (facets : RegisterFacets) (snapshot : Option RegisterSnapshot) (state : RegisterQuery) :
    RegisterView :=
  let rows := searchItems collate icontains snapshot state
  let totalPages := numPages PER_PAGE rows.length
  let current := shownPage totalPages state.page
  { state := { state with page := current }
    applied := applied facets state
    statusOptions := options state state.status .status STATUS_LABELS
    yearOptions := yearOptions state facets.years
    stageOptions := options state state.stageKey .stageKey facets.stages
    recipientOptions := options state state.recipient .recipient
      (facets.recipients.map fun value => (value, value))
    actTypeOptions := options state state.actType .actType
      (facets.actTypes.map fun value => (value, value))
    deadlineOptions := options state state.deadline .deadline DEADLINE_LABELS
    feedbackOptions := options state state.feedback .feedback FEEDBACK_LABELS
    records := pageOf PER_PAGE rows current
    total := rows.length
    totalPages }

/-- `build_register`, of the facets of the snapshot. -/
def buildRegister (facets : RegisterFacets) (snapshot : Option RegisterSnapshot)
    (params : String → Option String) :
    RegisterView :=
  viewOf collate icontains facets snapshot (parseRegisterQuery classes facets params)

def visit (facets : RegisterFacets) (snapshot : Option RegisterSnapshot) (text : List Char) :
    Option RegisterView :=
  (QueryString.parseQsl text).map fun fields =>
    buildRegister collate icontains classes facets snapshot (QueryString.get fields)

end View

/-! ## The links of a page -/

/-- A link of a page: what it says it changes, and where it leads. -/
inductive RegisterView.Shows (view : RegisterView) : Override → List Char → Prop
  | status {option} : option ∈ view.statusOptions → view.Shows (.status option.value) option.query
  | year {option} {number : Nat} : option ∈ view.yearOptions → option.value = toString number →
      view.Shows (.year (some (number : Int))) option.query
  | stageKey {option} : option ∈ view.stageOptions →
      view.Shows (.stageKey option.value) option.query
  | recipient {option} : option ∈ view.recipientOptions →
      view.Shows (.recipient option.value) option.query
  | actType {option} : option ∈ view.actTypeOptions →
      view.Shows (.actType option.value) option.query
  | deadline {option} : option ∈ view.deadlineOptions →
      view.Shows (.deadline option.value) option.query
  | feedback {option} : option ∈ view.feedbackOptions →
      view.Shows (.feedback option.value) option.query
  | removal {filter clear} : filter ∈ view.applied → (filter.label, clear) ∈ removals →
      view.Shows clear filter.removeQuery
  | previous : view.Shows (.page (max (view.state.page - 1) 1)) view.previousQuery
  | next : view.Shows (.page (min (view.state.page + 1) (max (view.totalPages : Int) 1)))
      view.nextQuery

/-! ## Walking through the register -/

section Walk

variable {κ : Type} [LinearOrder κ] {collate : String → κ} {icontains : String → String → Bool}
  {classes : CharClasses}
variable {facets : RegisterFacets} {snapshot : Option RegisterSnapshot}

/-- The pages that the link to the next one leads through. -/
def walk (collate : String → κ) (icontains : String → String → Bool) (classes : CharClasses)
    (facets : RegisterFacets)
    (snapshot : Option RegisterSnapshot) : Nat → List Char → List RegisterView
  | 0, _ => []
  | count + 1, text =>
    match visit collate icontains classes facets snapshot text with
    | none => []
    | some view => view :: walk collate icontains classes facets snapshot count view.nextQuery

/-- Blanks at the ends of the text do not change what is found. -/
theorem searchItems_settled (state : RegisterQuery) :
    searchItems collate icontains snapshot state.settled =
      searchItems collate icontains snapshot state := by
  have hholds (reportingDate : Date) : holds icontains reportingDate state.settled =
      holds icontains reportingDate state := by
    funext row
    unfold holds RegisterQuery.settled
    dsimp only
    rw [PyText.strip_strip]
  unfold searchItems
  cases snapshot with
  | none => rfl
  | some snapshot =>
    dsimp only
    rw [hholds]

/-- The page does not decide what is found. -/
theorem searchItems_page (state : RegisterQuery) (page : Int) :
    searchItems collate icontains snapshot { state with page } =
      searchItems collate icontains snapshot state := rfl

theorem searchItems_perm (state : RegisterQuery) :
    (searchItems collate icontains snapshot state).Perm
    ((Analytics.itemsOf snapshot).filter fun row =>
      snapshot.any fun snapshot => holds icontains snapshot.reportingDate state row) := by
  cases snapshot with
  | none => exact List.Perm.refl _
  | some snapshot => exact List.perm_insertionSort _ _

theorem length_searchItems_le (collate : String → κ) (icontains : String → String → Bool)
    (snapshot : Option RegisterSnapshot) (state : RegisterQuery) :
    (searchItems collate icontains snapshot state).length ≤
      (Analytics.itemsOf snapshot).length := by
  rw [(searchItems_perm state).length_eq]
  exact List.filter_sublist.length_le

def pagesOf (collate : String → κ) (icontains : String → String → Bool)
    (snapshot : Option RegisterSnapshot)
    (state : RegisterQuery) : Nat :=
      numPages PER_PAGE (searchItems collate icontains snapshot state).length

theorem visit_of_readAddress {text : List Char} {state : RegisterQuery}
    (h : readAddress classes facets text = some state) :
    visit collate icontains classes facets snapshot text =
      some (viewOf collate icontains facets snapshot state) := by
  unfold readAddress at h
  obtain ⟨pairs, hpairs, hstate⟩ := Option.map_eq_some_iff.mp h
  unfold visit buildRegister
  rw [hpairs, Option.map_some, hstate]

theorem readAddress_of_visit {text : List Char} {view : RegisterView}
    (h : visit collate icontains classes facets snapshot text = some view) :
    ∃ state, readAddress classes facets text = some state ∧
    view = viewOf collate icontains facets snapshot state := by
  unfold visit at h
  obtain ⟨pairs, hpairs, hview⟩ := Option.map_eq_some_iff.mp h
  refine ⟨parseRegisterQuery classes facets (QueryString.get pairs), ?_, hview.symm⟩
  unfold readAddress
  rw [hpairs]
  rfl

theorem valid_readAddress (h : PyInt.ReadsDecimals classes) {text : List Char}
    {state : RegisterQuery}
    (hread : readAddress classes facets text = some state) : Valid facets state := by
  unfold readAddress at hread
  obtain ⟨pairs, -, hstate⟩ := Option.map_eq_some_iff.mp hread
  rw [← hstate]
  exact valid_parseRegisterQuery h _

theorem pagesOf_pos (collate : String → κ) (icontains : String → String → Bool)
    (snapshot : Option RegisterSnapshot)
    (state : RegisterQuery) : 0 < pagesOf collate icontains snapshot state :=
  numPages_pos (by decide) _

theorem written_page (hfew : (Analytics.itemsOf snapshot).length < 10 ^ PyInt.maxDigits)
    {state : RegisterQuery} {page : Nat} (hpos : 1 ≤ page)
    (hle : page ≤ pagesOf collate icontains snapshot state) : Written page := by
  have hpages := numPages_le (by decide : 0 < PER_PAGE)
    (searchItems collate icontains snapshot state).length
  have hfound := length_searchItems_le collate icontains snapshot state
  have hone := written_one.short
  unfold pagesOf at hle
  constructor
  · exact_mod_cast hpos
  · rw [Int.natAbs_natCast]
    rw [Int.natAbs_one] at hone
    generalize 10 ^ PyInt.maxDigits = bound at hfew hone
    omega

theorem shownPage_pos {pages : Nat} (hpages : 0 < pages) {asked : Int} (h : 1 ≤ asked) :
    1 ≤ shownPage pages asked := by
  unfold shownPage
  omega

theorem shownPage_of_le {pages page : Nat} (h : page ≤ pages) :
    shownPage pages (page : Int) = page := by
  unfold shownPage
  rw [Int.toNat_natCast, min_eq_left h]

/-- A link to another page asks for the same records. -/
theorem readAddress_page (h : PyInt.ReadsDecimals classes)
    (hfew : (Analytics.itemsOf snapshot).length < 10 ^ PyInt.maxDigits) {state : RegisterQuery}
    (hvalid : Valid facets state) {page : Nat} (hpos : 1 ≤ page)
    (hle : page ≤ pagesOf collate icontains snapshot state) (current : Int) :
    readAddress classes facets (buildQuery { state with page := current } [.page page]) =
      some { state with page := (page : Int) }.settled := by
  have hwritten := written_page hfew hpos hle
  exact readAddress_buildQuery h { hvalid with page := hwritten }

theorem pagesOf_settled (state : RegisterQuery) (page : Int) :
    pagesOf collate icontains snapshot { state with page }.settled =
      pagesOf collate icontains snapshot state := by
  unfold pagesOf
  rw [searchItems_settled]
  rfl

theorem nextQuery_viewOf (state : RegisterQuery) :
    (viewOf collate icontains facets snapshot state).nextQuery =
      buildQuery
      { state with page := (shownPage (pagesOf collate icontains snapshot state) state.page : Int) }
        [.page (min (shownPage (pagesOf collate icontains snapshot state) state.page + 1)
          (pagesOf collate icontains snapshot state) : Nat)] := by
  have hpos : 1 ≤ pagesOf collate icontains snapshot state :=
    pagesOf_pos collate icontains snapshot state
  have hmax : max (pagesOf collate icontains snapshot state : Int) 1 =
      pagesOf collate icontains snapshot state :=
    max_eq_left (by exact_mod_cast hpos)
  rw [Nat.cast_min, Nat.cast_add, Nat.cast_one, ← hmax]
  rfl

theorem previousQuery_viewOf (state : RegisterQuery) :
    (viewOf collate icontains facets snapshot state).previousQuery =
      buildQuery
      { state with page := (shownPage (pagesOf collate icontains snapshot state) state.page : Int) }
        [.page
          (max (shownPage (pagesOf collate icontains snapshot state) state.page - 1) 1 : Nat)] := by
  have hcast :
      ((max (shownPage (pagesOf collate icontains snapshot state) state.page - 1) 1 : Nat) : Int) =
      max (shownPage (pagesOf collate icontains snapshot state) state.page - 1 : Int) 1 := by omega
  rw [hcast]
  rfl

/-- From a page on, the links to the next one show one page after another. -/
theorem records_walk (h : PyInt.ReadsDecimals classes)
    (hfew : (Analytics.itemsOf snapshot).length < 10 ^ PyInt.maxDigits) (count : Nat) {page : Nat}
    {text : List Char} {state : RegisterQuery}
    (hread : readAddress classes facets text = some state)
    (hpage : shownPage (pagesOf collate icontains snapshot state) state.page = page)
    (hle : page + count ≤ pagesOf collate icontains snapshot state + 1) :
    (walk collate icontains classes facets snapshot count text).map (·.records) =
      (List.range count).map fun index =>
        pageOf PER_PAGE (searchItems collate icontains snapshot state) (page + index) := by
  induction count generalizing page text state with
  | zero => rfl
  | succ count ih =>
    have hvalid := valid_readAddress h hread
    unfold walk
    rw [visit_of_readAddress hread]
    dsimp only
    rw [List.map_cons, List.range_succ_eq_map, List.map_cons, List.map_map]
    have hfirst : (viewOf collate icontains facets snapshot state).records =
        pageOf PER_PAGE (searchItems collate icontains snapshot state) (page + 0) := by
      rw [← hpage]
      rfl
    rw [hfirst]
    congr 1
    cases count with
    | zero => rfl
    | succ count =>
      have hmore : page + 1 ≤ pagesOf collate icontains snapshot state := by omega
      have hnext := readAddress_page h hfew hvalid (Nat.le_add_left 1 page) hmore page
      rw [nextQuery_viewOf, hpage, min_eq_left hmore]
      rw [ih hnext]
      · rw [searchItems_settled, searchItems_page]
        refine List.map_congr_left fun index _ => ?_
        show pageOf _ _ (page + 1 + index) = pageOf _ _ (page + (index + 1))
        rw [Nat.add_right_comm, Nat.add_assoc]
      · rw [pagesOf_settled]
        exact shownPage_of_le hmore
      · rw [pagesOf_settled]
        omega

theorem page_viewOf (state : RegisterQuery) :
    (viewOf collate icontains facets snapshot state).state.page =
    (shownPage (pagesOf collate icontains snapshot state) state.page : Int) := rfl

theorem totalPages_viewOf (state : RegisterQuery) :
    (viewOf collate icontains facets snapshot state).totalPages =
      pagesOf collate icontains snapshot state := rfl

theorem records_viewOf (state : RegisterQuery) :
    (viewOf collate icontains facets snapshot state).records =
    pageOf PER_PAGE (searchItems collate icontains snapshot state)
      (shownPage (pagesOf collate icontains snapshot state) state.page) := rfl

theorem visit_nextQuery (h : PyInt.ReadsDecimals classes)
    (hfew : (Analytics.itemsOf snapshot).length < 10 ^ PyInt.maxDigits) {state : RegisterQuery}
    (hvalid : Valid facets state) {page : Nat}
    (hpage : shownPage (pagesOf collate icontains snapshot state) state.page = page)
    (hmore : page + 1 ≤ pagesOf collate icontains snapshot state) :
    visit collate icontains classes facets snapshot
      (viewOf collate icontains facets snapshot state).nextQuery =
      some (viewOf collate icontains facets snapshot
        { state with page := ((page + 1 : Nat) : Int) }.settled) := by
  rw [nextQuery_viewOf, hpage, min_eq_left hmore]
  exact visit_of_readAddress (readAddress_page h hfew hvalid (Nat.le_add_left 1 page) hmore page)

theorem visit_previousQuery (h : PyInt.ReadsDecimals classes)
    (hfew : (Analytics.itemsOf snapshot).length < 10 ^ PyInt.maxDigits) {state : RegisterQuery}
    (hvalid : Valid facets state) {page : Nat}
    (hpage : shownPage (pagesOf collate icontains snapshot state) state.page =
      page + 1) (hpos : 1 ≤ page) :
    visit collate icontains classes facets snapshot
      (viewOf collate icontains facets snapshot state).previousQuery =
      some
        (viewOf collate icontains facets snapshot { state with page := (page : Int) }.settled) := by
  have hle : page ≤ pagesOf collate icontains snapshot state := by
    unfold shownPage at hpage
    omega
  rw [previousQuery_viewOf, hpage, Nat.add_sub_cancel, max_eq_left hpos]
  exact visit_of_readAddress (readAddress_page h hfew hvalid hpos hle _)

/-- Walking from the first page to the last shows every record that is asked for, once and in order;
from every page before the last one, the link to the next page and the link back lead to the records
of that page again. -/
theorem walk_register (h : PyInt.ReadsDecimals classes)
    (hfew : (Analytics.itemsOf snapshot).length < 10 ^ PyInt.maxDigits) {text : List Char}
    {view : RegisterView}
    (hvisit : visit collate icontains classes facets snapshot text = some view) :
    (view.state.page = 1 →
      (walk collate icontains classes facets snapshot view.totalPages text).flatMap (·.records) =
      searchItems collate icontains snapshot view.state) ∧
    (searchItems collate icontains snapshot view.state).Perm
      ((Analytics.itemsOf snapshot).filter fun row =>
      snapshot.any fun snapshot => holds icontains snapshot.reportingDate view.state row) ∧
    (view.state.page < view.totalPages → ∃ next back,
      visit collate icontains classes facets snapshot view.nextQuery = some next ∧
      visit collate icontains classes facets snapshot next.previousQuery = some back ∧
      next.state.page = view.state.page + 1 ∧ back.state.page = view.state.page ∧
      back.records = view.records) := by
  obtain ⟨state, hread, rfl⟩ := readAddress_of_visit hvisit
  have hvalid := valid_readAddress h hread
  have hpages := pagesOf_pos collate icontains snapshot state
  have hshown := shownPage_pos hpages hvalid.page.positive
  refine ⟨fun hfirst => ?_, searchItems_perm _, fun hbefore => ?_⟩
  · have hone : shownPage (pagesOf collate icontains snapshot state) state.page = 1 := by
      rw [page_viewOf] at hfirst
      exact_mod_cast hfirst
    have hwalk := records_walk h hfew (pagesOf collate icontains snapshot state) hread
      hone (by omega)
    rw [totalPages_viewOf, List.flatMap_def, hwalk]
    have hall := flatten_all_pages (by decide : 0 < PER_PAGE)
      (searchItems collate icontains snapshot state)
    simp only [Nat.add_comm 1]
    exact hall
  · rw [page_viewOf, totalPages_viewOf] at hbefore
    have hmore : shownPage (pagesOf collate icontains snapshot state) state.page + 1 ≤ pagesOf
        collate icontains snapshot state := by
      exact_mod_cast hbefore
    generalize hpage : shownPage (pagesOf collate icontains snapshot state) state.page =
      page at hshown hmore
    have hnext := visit_nextQuery h hfew hvalid hpage hmore
    have hnextPage : shownPage
        (pagesOf collate icontains snapshot { state with page := ((page + 1 : Nat) : Int) }.settled)
        ((page + 1 : Nat) : Int) = page + 1 := by
      rw [pagesOf_settled]
      exact shownPage_of_le hmore
    have hnextValid : Valid facets { state with page := ((page + 1 : Nat) : Int) }.settled :=
      valid_settled { hvalid with page := written_page hfew (Nat.le_add_left 1 page) hmore }
    have hback := visit_previousQuery h hfew hnextValid hnextPage hshown
    have hbackPage : shownPage (pagesOf collate icontains snapshot
        { { state with page := ((page + 1 : Nat) : Int) }.settled with
          page := (page : Int) }.settled) (page : Int) = page := by
      rw [pagesOf_settled, pagesOf_settled]
      exact shownPage_of_le (by omega)
    refine ⟨_, _, hnext, hback, ?_, ?_, ?_⟩
    · rw [page_viewOf, page_viewOf, hpage]
      show (shownPage _ ((page + 1 : Nat) : Int) : Int) = page + 1
      rw [hnextPage]
      rfl
    · rw [page_viewOf, page_viewOf, hpage]
      exact congrArg Nat.cast hbackPage
    · rw [records_viewOf, records_viewOf, hpage]
      show pageOf _ _ (shownPage _ (page : Int)) = _
      rw [hbackPage, searchItems_settled, searchItems_page, searchItems_settled, searchItems_page]

/-! ## Following links -/

/-- The addresses that links lead to, one after another, with what each says it changes. -/
inductive Leads (collate : String → κ) (icontains : String → String → Bool) (classes : CharClasses)
    (facets : RegisterFacets) (snapshot : Option RegisterSnapshot) (text : List Char) :
    List Override → List Char → Prop
  | start : Leads collate icontains classes facets snapshot text [] text
  | link {changes address view change next} :
      Leads collate icontains classes facets snapshot text changes address →
      visit collate icontains classes facets snapshot address = some view →
      view.Shows change next →
      Leads collate icontains classes facets snapshot text (changes ++ [change]) next

theorem mem_options {state : RegisterQuery} {active : String} {choose : String → Override}
    {pairs : List (String × String)} {option : FacetOption}
    (h : option ∈ options state active choose pairs) :
    option.value ∈ pairs.map Prod.fst ∧ option.query = buildQuery state [choose option.value] := by
  obtain ⟨pair, hpair, rfl⟩ := List.mem_map.mp h
  exact ⟨List.mem_map_of_mem hpair, rfl⟩

theorem mem_yearOptions {facets : RegisterFacets} {state : RegisterQuery} {option : FacetOption}
    {number : Nat} (h : option ∈ yearOptions state facets.years)
    (hvalue : option.value = toString number) :
    (number : Int) ∈ facets.years ∧
      option.query = buildQuery state [.year (some (number : Int))] := by
  obtain ⟨year, hyear, rfl⟩ := List.mem_map.mp h
  have hpositive := facets.years_positive year hyear
  obtain ⟨m, rfl⟩ := Int.eq_ofNat_of_zero_le (by omega : 0 ≤ year)
  have hdigits : Nat.toDigits 10 m = Nat.toDigits 10 number := by
    rw [← Nat.toList_repr, ← Nat.toList_repr]
    exact congrArg String.toList hvalue
  have hsame : m = number := by
    rw [← Nat.ofDigitChars_ten_toDigits (n := m), hdigits, Nat.ofDigitChars_ten_toDigits]
  rw [← hsame]
  dsimp only
  rw [if_neg (by omega)]
  exact ⟨hyear, rfl⟩

/-- A link of the page of a state changes that state, as it says. -/
theorem shows_viewOf {state : RegisterQuery} {change : Override} {next : List Char}
    (h : (viewOf collate icontains facets snapshot state).Shows change next) :
    next = buildQuery state [change] ∧ change.Offered facets := by
  have hcategory {values : List String} {value : String}
      (hmem : value ∈ (values.map fun value => (value, value)).map Prod.fst) : value ∈ values := by
    rw [List.map_map] at hmem
    simpa using hmem
  have hremoval : ∀ removal ∈ removals, removal.2.Offered facets := by
    simp [removals, Override.Offered, SEARCH_STATUSES, DEADLINE_STATES, FEEDBACK_STATES,
      SEARCH_ALL, DEADLINE_ANY, FEEDBACK_ANY]
  cases h with
  | status hmem =>
    obtain ⟨hvalue, hquery⟩ := mem_options hmem
    exact ⟨hquery, hvalue⟩
  | year hmem hvalue =>
    obtain ⟨hyear, hquery⟩ := mem_yearOptions hmem hvalue
    refine ⟨hquery, fun number hnumber => ?_⟩
    rwa [← Option.some.inj hnumber]
  | stageKey hmem =>
    obtain ⟨hvalue, hquery⟩ := mem_options hmem
    exact ⟨hquery, Or.inr hvalue⟩
  | recipient hmem =>
    obtain ⟨hvalue, hquery⟩ := mem_options hmem
    exact ⟨hquery, Or.inr (hcategory hvalue)⟩
  | actType hmem =>
    obtain ⟨hvalue, hquery⟩ := mem_options hmem
    exact ⟨hquery, Or.inr (hcategory hvalue)⟩
  | deadline hmem =>
    obtain ⟨hvalue, hquery⟩ := mem_options hmem
    exact ⟨hquery, hvalue⟩
  | feedback hmem =>
    obtain ⟨hvalue, hquery⟩ := mem_options hmem
    exact ⟨hquery, hvalue⟩
  | removal hmem hlabel =>
    obtain ⟨removed, hremoved, hquery⟩ := removeQuery_applied hmem
    have hsame := congrArg Prod.snd (List.inj_on_of_nodup_map nodup_removals hremoved hlabel rfl)
    dsimp only at hsame
    rw [← hsame]
    exact ⟨hquery, hremoval _ hremoved⟩
  | previous => exact ⟨rfl, le_max_right _ _⟩
  | next =>
    refine ⟨rfl, ?_⟩
    rw [page_viewOf]
    show 1 ≤ min _ _
    omega

def RegisterQuery.changed (state : RegisterQuery) (changes : List Override) : RegisterQuery :=
  changes.foldl (fun state change => state.overridden [change]) state

/-- Every link makes its own change, as it is read back, and no other. -/
theorem readAddress_leads (h : PyInt.ReadsDecimals classes) {text address : List Char}
    {state : RegisterQuery} {changes : List Override}
    (hread : readAddress classes facets text = some state)
    (hleads : Leads collate icontains classes facets snapshot text changes address) :
    ∃ now, readAddress classes facets address = some now ∧
      now.settled = state.settled.changed (changes.map (Override.reread classes facets)) ∧
      (changes ≠ [] → now.settled = now) := by
  induction hleads with
  | start => exact ⟨state, hread, rfl, fun hne => absurd rfl hne⟩
  | @link changes address view change next _ hvisit hshows ih =>
    obtain ⟨now, hnow, hstate, -⟩ := ih
    have hview : view = viewOf collate icontains facets snapshot now :=
      Option.some.inj (hvisit.symm.trans (visit_of_readAddress hnow))
    rw [hview] at hshows
    obtain ⟨hnext, hoffered⟩ := shows_viewOf hshows
    have hsettled := @settled_overridden classes facets change hoffered now
    refine ⟨now.settled.overridden [change.reread classes facets], ?_, ?_, fun _ => hsettled⟩
    · rw [hnext]
      exact readAddress_link h (valid_readAddress h hnow) change
    · rw [hsettled, hstate, List.map_append]
      unfold RegisterQuery.changed
      rw [List.foldl_append]
      rfl

/-- How the links of the register compose, from the page of a state on. -/
structure LinksCompose (collate : String → κ) (icontains : String → String → Bool)
    (classes : CharClasses) (facets : RegisterFacets) (snapshot : Option RegisterSnapshot)
    (text : List Char) (state : RegisterQuery) : Prop where
  /-- Each link that is followed makes its own change, as it is read back, and no other. -/
  composed {changes address} :
    Leads collate icontains classes facets snapshot text changes address → changes ≠ [] →
    readAddress classes facets address =
      some (state.settled.changed (changes.map (Override.reread classes facets)))
  /-- Which changes are read back as they were made. -/
  kept {change address} :
    (viewOf collate icontains facets snapshot state).Shows change address →
    (change.reread classes facets = change ↔ change.Kept)
  /-- Only blanks where a long text was cut are lost. -/
  settled : state.settled = state ↔ ¬ PyText.EndsInBlank state.query
  /-- They do not change what is found. -/
  found : searchItems collate icontains snapshot state.settled =
    searchItems collate icontains snapshot state
  /-- Every filter in force is shown, once. -/
  counted : (viewOf collate icontains facets snapshot state).applied.length =
    state.activeFilterCount
  labelled : ((viewOf collate icontains facets snapshot state).applied.map
    AppliedFilter.label).Nodup
  /-- The link of a filter removes that filter: the others are shown as they were. -/
  removed {filter} : filter ∈ (viewOf collate icontains facets snapshot state).applied →
    ∃ clear after, (filter.label, clear) ∈ removals ∧
      visit collate icontains classes facets snapshot filter.removeQuery = some after ∧
      after = viewOf collate icontains facets snapshot (state.settled.overridden [clear]) ∧
      after.applied.map AppliedFilter.face =
        ((viewOf collate icontains facets snapshot state).applied.map AppliedFilter.face).filter
          (·.1 ≠ filter.label)

/-- Links compose: whichever are followed from an address, each makes its own change, and a change
of a filter goes back to the first page.  Every filter in force is shown with the link that removes
it and no other. -/
theorem links_compose (h : PyInt.ReadsDecimals classes) {text : List Char} {state : RegisterQuery}
    (hread : readAddress classes facets text = some state) :
    LinksCompose collate icontains classes facets snapshot text state where
  composed hleads hne := by
    obtain ⟨now, hnow, hstate, hsettled⟩ := readAddress_leads h hread hleads
    rw [hnow, ← hstate, hsettled hne]
  kept hshows := reread_eq_iff h (shows_viewOf hshows).2
  settled := by
    obtain ⟨pairs, -, hstate⟩ := Option.map_eq_some_iff.mp hread
    have hquery : state.query =
        PyText.take MAX_SEARCH_LENGTH
          (PyText.strip ((QueryString.get pairs PARAM_QUERY).getD "")) := by
      rw [← hstate]
      rfl
    have hsame : state.settled = state ↔ PyText.strip state.query = state.query :=
      ⟨fun heq => congrArg RegisterQuery.query heq, fun heq => by
        unfold RegisterQuery.settled
        rw [heq]⟩
    rw [hsame, hquery]
    exact PyText.strip_take_strip_iff _ _
  found := searchItems_settled state
  counted := length_applied (valid_readAddress h hread)
  labelled := labels_applied facets state
  removed {filter} hfilter := by
    obtain ⟨clear, hclear, hquery⟩ := removeQuery_applied hfilter
    have hshows := RegisterView.Shows.removal hfilter hclear
    have hkept : clear.reread classes facets = clear := by
      refine (reread_eq_iff h (shows_viewOf hshows).2).mpr ?_
      exact kept_removals _ hclear
    have hnext := readAddress_link h (valid_readAddress h hread) clear
    rw [hkept, ← hquery] at hnext
    exact ⟨clear, _, hclear, visit_of_readAddress hnext, rfl, faces_removed hclear state⟩

end Walk

/-! ## A small register -/

section Sample

def sampleFacets : RegisterFacets where
  years := [2026, 2025]
  stages := [("menetluses", "Menetluses")]
  recipients := ["Justiitsministeerium", "Ministeerium "]
  actTypes := ["seadus"]
  years_positive := by decide

def sampleRow (recordId : String) (sourceYear : Int) : WorkbookRow where
  recordId
  sourceYear
  sourceNr := none
  topic := "Teema"
  actType := "seadus"
  receivedDate := none
  deadlineDate := none
  sentDate := none
  sentStatus := "not_sent"
  recipient := "Justiitsministeerium"
  stage := "Menetluses"
  stageKey := "menetluses"
  nextStep := ""
  isOpen := true
  warningCodes := []
  sourceRow := 1
  refreshedAt := none
  feedbackMemberCount := none
  feedbackRequestedMemberCount := none

def sampleRegister : RegisterSnapshot where
  reportingDate := .of 2026 3 1
  items := [sampleRow "A1" 2026, sampleRow "A2" 2025, sampleRow "A3" 2026]

theorem written_of_lt_ten {n : Nat} (hpos : 1 ≤ n) (hlt : n < 10) : Written n := by
  have hpow : (10 : Nat) ^ 1 ≤ 10 ^ PyInt.maxDigits := Nat.pow_le_pow_right (by decide) (by decide)
  refine ⟨by exact_mod_cast hpos, ?_⟩
  rw [Int.natAbs_natCast]
  exact Nat.lt_of_lt_of_le (by omega) hpow

/-- A status is chosen, the year removed and a recipient chosen whose name was cut at a blank. -/
theorem links_compose_sample : ∃ address,
    Leads (fun _ => 0) (fun _ _ => true) asciiClasses sampleFacets (some sampleRegister)
      "aasta=2026&lk=2".toList [.status SEARCH_OPEN, .year none, .recipient "Ministeerium "]
      address ∧
    readAddress asciiClasses sampleFacets address =
      some ⟨"", SEARCH_OPEN, none, "", "", "", "", "", 1⟩ := by
  have hread : readAddress asciiClasses sampleFacets "aasta=2026&lk=2".toList =
      some ⟨"", "", some 2026, "", "", "", "", "", 2⟩ := by decide +kernel
  have hstatus : readAddress asciiClasses sampleFacets
      (buildQuery ⟨"", "", some 2026, "", "", "", "", "", 2⟩ [.status SEARCH_OPEN]) =
      some ⟨"", SEARCH_OPEN, some 2026, "", "", "", "", "", 1⟩ := by decide +kernel
  have hyear : readAddress asciiClasses sampleFacets
      (buildQuery ⟨"", SEARCH_OPEN, some 2026, "", "", "", "", "", 1⟩ [.year none]) =
      some ⟨"", SEARCH_OPEN, none, "", "", "", "", "", 1⟩ := by decide +kernel
  have hopen : (SEARCH_OPEN, "Töös") ∈ STATUS_LABELS := by decide
  have hcut : ("Ministeerium ", "Ministeerium ") ∈
      sampleFacets.recipients.map fun value => (value, value) := by decide
  have hlabel : ("Aasta", Override.year none) ∈ removals := by decide
  have hstart : Leads (fun _ => 0) (fun _ _ => true) asciiClasses sampleFacets
      (some sampleRegister) "aasta=2026&lk=2".toList [] "aasta=2026&lk=2".toList := .start
  have hfirst := hstart.link (visit_of_readAddress hread)
    (.status (List.mem_map_of_mem hopen))
  have hsecond := hfirst.link (visit_of_readAddress hstatus)
    (.removal (List.mem_cons_of_mem _ List.mem_cons_self) hlabel)
  have hthird := hsecond.link (visit_of_readAddress hyear)
    (.recipient (List.mem_map_of_mem hcut))
  refine ⟨_, hthird, ?_⟩
  rw [(links_compose PyInt.readsDecimals_ascii hread).composed hthird (by simp)]
  decide +kernel

theorem walk_register_sample : ∃ view, visit (fun _ => 0)
    (fun _ _ => true) asciiClasses sampleFacets (some sampleRegister)
    "aasta=2026".toList = some view ∧
      ((walk (fun _ => 0) (fun _ _ => true) asciiClasses sampleFacets
        (some sampleRegister) view.totalPages
        "aasta=2026".toList).flatMap (·.records)).map (·.recordId) = ["A1", "A3"] := by
  have hread : readAddress asciiClasses sampleFacets "aasta=2026".toList =
      some ⟨"", "", some 2026, "", "", "", "", "", 1⟩ := by decide +kernel
  have hvisit := @visit_of_readAddress Nat _ (fun _ => 0)
    (fun _ _ => true) asciiClasses sampleFacets
    (some sampleRegister) _ _ hread
  have hfew : (Analytics.itemsOf (some sampleRegister)).length < 10 ^ PyInt.maxDigits :=
    (written_of_lt_ten (by decide : 1 ≤ 3) (by decide)).short
  have hwalk := (walk_register PyInt.readsDecimals_ascii hfew hvisit).1 (by decide +kernel)
  refine ⟨_, hvisit, ?_⟩
  rw [hwalk]
  decide +kernel

end Sample

end Dashkoda.LegalWork.Register
