import Dashkoda.Lib.Csv
import Dashkoda.Lib.Dict
import Dashkoda.Lib.Except
import Dashkoda.Lib.Firsts
import Dashkoda.Lib.IsoDate
import Dashkoda.Lib.PyInt
import Dashkoda.Membership.RosterImport

/-!
# Reading the member register

The export is a text of separated values whose encoding and separator are told from its bytes.  A
row is kept, or it repeats the code of a row before it; what was wrong with the rows is counted,
never named.
-/

open Lib

namespace Dashkoda.Membership.MemberRegister

open Roster (RosterExn)
open Sources (JsonObject)

/-- What the reader asks of the language and its codecs. -/
structure TextLibrary where
  classes : CharClasses
  /-- `str.isdigit` of one character, which holds of digits `int` refuses as well. -/
  isDigit : Char → Bool
  casefold : String → String
  /-- `raw.decode("utf-16")` -/
  decodeUtf16 : List UInt8 → Option String
  /-- `raw.decode("utf-8-sig")` -/
  decodeUtf8Sig : List UInt8 → Option String
  /-- `raw.decode("utf-8")` -/
  decodeUtf8 : List UInt8 → Option String
  minus_not_digit : isDigit '-' = false
  /-- A character takes a byte at least. -/
  decoded_length : ∀ raw decoded, decodeUtf16 raw = some decoded ∨
    decodeUtf8Sig raw = some decoded ∨
    decodeUtf8 raw = some decoded → decoded.length ≤ raw.length

def MAX_SOURCE_BYTES : Nat := 20 * 1024 * 1024

def COLUMN_NAME : String := "Ettevõte"
def COLUMN_LEGAL_FORM : String := "Vorm"
def COLUMN_NUMBER : String := "Number"
def COLUMN_STATUS : String := "Staatus"
def COLUMN_CITY : String := "Linn"
def COLUMN_COUNTY : String := "Maakond"
def COLUMN_COUNTRY : String := "Riik"
def COLUMN_WEBSITE : String := "www"
def COLUMN_EMPLOYEES : String := "Töötajate arv"
def COLUMN_REGISTRY_CODE : String := "Registrikood"
def COLUMN_START : String := "Algus kp."
def COLUMN_NACE_CODE : String := "Nace kood"
def COLUMN_NACE_LABEL : String := "Nace kirjeldus"

def REQUIRED_COLUMNS : List String := [COLUMN_NAME, COLUMN_STATUS, COLUMN_REGISTRY_CODE]

def DELIMITERS : List Char := ['\t', ';', ',']

def UNKNOWN : String := "unknown"

def STATUS_KEYS : List (String × String) :=
  [("koja liige", "regular"), ("peatatud liige", "suspended"), ("toetaja liige", "supporter")]

def STATUS_LABELS : List (String × String) :=
  [("regular", "Koja liige"), ("suspended", "Peatatud liige"), ("supporter", "Toetaja liige"),
    (UNKNOWN, "Teadmata")]

/-- One row of the roster, reduced to the columns that are stored. -/
structure RegisterRow where
  name : String
  legalForm : String
  memberNumber : String
  statusKey : String
  statusLabel : String
  registryCode : Option String
  county : String
  city : String
  country : String
  employees : Option Int
  membershipStart : Option Date
  naceCode : String
  naceLabel : String
  website : String
  deriving DecidableEq

/-- What one export said, and what was wrong with it. -/
structure RegisterReading where
  rows : List RegisterRow
  seenCodes : List String
  rowsRead : Nat
  duplicateCodes : Nat
  missingCodes : Nat
  unreadableStarts : Nat
  futureStarts : Nat
  unknownStatuses : Nat

namespace RegisterReading

def empty : RegisterReading := ⟨[], [], 0, 0, 0, 0, 0, 0⟩

/-- Counts and codes only, those that are not zero. -/
def diagnostics (reading : RegisterReading) : List JsonObject :=
  ([("duplicate_registry_code", reading.duplicateCodes),
    ("missing_registry_code", reading.missingCodes),
    ("unreadable_membership_start", reading.unreadableStarts),
    ("membership_start_after_snapshot", reading.futureStarts),
    ("unmapped_status", reading.unknownStatuses)].filter (·.2 ≠ 0)).map
    fun found => [("code", found.1), ("rows", toString found.2)]

end RegisterReading

/-- What a row says in each column; where the row is too short it says nothing. -/
abbrev Cells := Dict String (Option String)

section Read

variable (text : TextLibrary)

/-- By the byte-order mark; without one it is UTF-8. -/
def decode (raw : List UInt8) : Except RosterExn String :=
  if [0xff, 0xfe].isPrefixOf raw || [0xfe, 0xff].isPrefixOf raw then
    (text.decodeUtf16 raw).elim (.error (.other "UnicodeDecodeError")) .ok
  else if [0xef, 0xbb, 0xbf].isPrefixOf raw then
    (text.decodeUtf8Sig raw).elim (.error (.other "UnicodeDecodeError")) .ok
  else
    (text.decodeUtf8 raw).elim
      (.error
        (.importError "Lähtefaili kodeeringut ei õnnestunud tuvastada (oodati UTF-16 või UTF-8)."))
          .ok

/-- Where `splitlines` ends a line. -/
def endsLine (c : Char) : Bool :=
  let n := c.toNat
  (10 ≤ n && n ≤ 13) || (28 ≤ n && n ≤ 30) || n = 0x85 || n = 0x2028 || n = 0x2029

def firstLine (decoded : String) : List Char := decoded.toList.takeWhile fun c => !endsLine c

/-- The first of the separators that split the heading the most. -/
def pickDelimiter (header : List Char) : Except RosterExn Char :=
  let best := DELIMITERS.tail.foldl
    (fun best c => if header.count best < header.count c then c else best) '\t'
  if header.count best = 0 then
    .error
      (.importError
        "Lähtefaili esimesel real ei ole eraldajat (oodati tabulaatorit, semikoolonit või koma).")
  else .ok best

def clean (value : Option String) : String := PyText.strip (value.getD "")

def digitsOf (value : Option String) : String :=
  String.ofList ((value.getD "").toList.filter text.isDigit)

def asInt (value : Option String) : Except RosterExn (Option Int) :=
  let digits := digitsOf text value
  if digits = "" then .ok none
  else match PyInt.parse text.classes digits.toList with
    | none => .error (.other "ValueError")
    | some number => .ok (if number ≤ 100000 then some number else none)

/-! ### Dates -/

def oneOf (low high : Char) : Regex := .char fun c => decide (low ≤ c) && decide (c ≤ high)

/-- `%d` -/
def dayText : Regex :=
  .group (.anyOf [.seq (oneOf '3' '3') (oneOf '0' '1'), .seq (oneOf '1' '2') text.classes.digit,
    .seq (oneOf '0' '0') (oneOf '1' '9'), oneOf '1' '9', .seq (oneOf ' ' ' ') (oneOf '1' '9')])

/-- `%m` -/
def monthText : Regex :=
  .group
    (.anyOf [.seq (oneOf '1' '1') (oneOf '0' '2'), .seq (oneOf '0' '0') (oneOf '1' '9'),
      oneOf '1' '9'])

/-- `%Y` -/
def yearText : Regex := .group (text.classes.digits 4 4)

/-- What `strptime` reads for the directives of a format, where nothing is left over. -/
def strptime (format : Regex) (value : String) : Option (List Nat) :=
  match format.runs ⟨none, value.toList, []⟩ with
  | cursor :: _ => if cursor.rest = [] then some (cursor.groups.map text.classes.number) else none
  | [] => none

/-- `dd.mm.yyyy`, or else `yyyy-mm-dd`, or nothing. -/
def asDate (value : Option String) : Option Date :=
  let written := clean value
  if written = "" then none
  else
    let pointed :=
        match strptime text
            (.sequence [dayText text, oneOf '.' '.', monthText, oneOf '.' '.', yearText text])
              written with
      | some [day, month, year] => Date.ofNumbers? year month day
      | _ => none
    pointed.or
        (match strptime text
          (.sequence [yearText text, oneOf '-' '-', monthText, oneOf '-' '-', dayText text])
            written with
      | some [year, month, day] => Date.ofNumbers? year month day
      | _ => none)

def classifyStatus (raw : String) : String :=
  ((STATUS_KEYS.find? (·.1 = text.casefold (PyText.strip raw))).map (·.2)).getD UNKNOWN

/-! ### Rows -/

/-- `csv.DictReader`: fields beyond the headings are set aside, and those a short row lacks are
absent. -/
def rawRow (fieldnames row : List String) : Dict String (Option String) :=
  Dict.ofList (fieldnames.zip (row.map some) ++ (fieldnames.drop row.length).map fun name =>
    (name, none))

def cellsOf (fieldnames row : List String) : Cells :=
  Dict.ofList ((rawRow fieldnames row).entries.map fun entry => (PyText.strip entry.1, entry.2))

def cell (column : String) (cells : Cells) : Option String := (cells.get? column).join

/-- A row with a name or a code; others are blank lines. -/
def isMember (cells : Cells) : Bool :=
  clean (cell COLUMN_NAME cells) ≠ "" || clean (cell COLUMN_REGISTRY_CODE cells) ≠ ""

def codeOf (cells : Cells) : Option String :=
  let digits := digitsOf text (cell COLUMN_REGISTRY_CODE cells)
  if digits = "" then none else some digits

def unknownStatus (cells : Cells) : Bool :=
  let key := classifyStatus text (clean (cell COLUMN_STATUS cells))
  (STATUS_LABELS.all fun label => label.1 ≠ key) || key = "unknown"

def unreadableStart (cells : Cells) : Bool :=
  (asDate text (cell COLUMN_START cells)).isNone && clean (cell COLUMN_START cells) ≠ ""

def futureStart (snapshotDate : Date) (cells : Cells) : Bool :=
  (asDate text (cell COLUMN_START cells)).any (snapshotDate < ·)

/-- The row as it is stored, each text cut to its column. -/
def storedRow (cells : Cells) (employees : Option Int) : RegisterRow where
  name := PyText.take 200 (clean (cell COLUMN_NAME cells))
  legalForm := PyText.take 16 (clean (cell COLUMN_LEGAL_FORM cells))
  memberNumber := PyText.take 16 (clean (cell COLUMN_NUMBER cells))
  statusKey := classifyStatus text (clean (cell COLUMN_STATUS cells))
  statusLabel := PyText.take 32 (clean (cell COLUMN_STATUS cells))
  registryCode := (codeOf text cells).map (PyText.take 16)
  county := PyText.take 64 (clean (cell COLUMN_COUNTY cells))
  city := PyText.take 64 (clean (cell COLUMN_CITY cells))
  country := PyText.take 64 (clean (cell COLUMN_COUNTRY cells))
  employees
  membershipStart := asDate text (cell COLUMN_START cells)
  naceCode := PyText.take 8 (digitsOf text (cell COLUMN_NACE_CODE cells))
  naceLabel := PyText.take 160 (clean (cell COLUMN_NACE_LABEL cells))
  website := PyText.take 200 (clean (cell COLUMN_WEBSITE cells))

def readRow (snapshotDate : Date) (reading : RegisterReading) (cells : Cells) :
    Except RosterExn RegisterReading :=
  if isMember cells = false then .ok reading
  else
    let reading := { reading with rowsRead := reading.rowsRead + 1 }
    match codeOf text cells with
    | none => keep { reading with missingCodes := reading.missingCodes + 1 }
    | some code =>
      -- the first row of a code wins, and the repeat is reported
      if code ∈ reading.seenCodes then
        .ok { reading with duplicateCodes := reading.duplicateCodes + 1 }
      else keep { reading with seenCodes := reading.seenCodes ++ [code] }
where
  keep (reading : RegisterReading) : Except RosterExn RegisterReading := do
    let employees ← asInt text (cell COLUMN_EMPLOYEES cells)
    return { reading with
      rows := reading.rows ++ [storedRow text cells employees]
      unknownStatuses := reading.unknownStatuses + (unknownStatus text cells).toNat
      unreadableStarts := reading.unreadableStarts + (unreadableStart text cells).toNat
      futureStarts := reading.futureStarts + (futureStart text snapshotDate cells).toNat }

/-- The rows under the headings, as far as the reader gets, and the error it stops at. -/
structure RegisterTable where
  rows : List Cells
  error : Option Csv.CsvError

/-- The headings are the first record. -/
def fieldnamesOf : List (List String) × Option Csv.CsvError → Except RosterExn (List String)
  | (fieldnames :: _, _) => .ok fieldnames
  | ([], some _) => .error (.other "_csv.Error")
  | ([], none) => .ok []

/-- The text as a table, if it is this roster. -/
def tableOf (decoded : String) : Except RosterExn RegisterTable :=
  let header := firstLine decoded
  if header = [] then .error (.importError "Lähtefail on tühi.")
  else do
    let delimiter ← pickDelimiter header
    let records := Csv.records delimiter .fresh decoded.toList
    let fieldnames ← fieldnamesOf records
    let missing := REQUIRED_COLUMNS.filter fun column => column ∉ fieldnames.map PyText.strip
    if missing ≠ [] then
      .error (.importError ("Lähtefailis puuduvad veerud: " ++ PyText.join ", " missing))
    else return ⟨(records.1.tail.filter (· ≠ [])).map (cellsOf fieldnames), records.2⟩

def readRegister (raw : List UInt8) (snapshotDate : Date) : Except RosterExn RegisterReading :=
  if MAX_SOURCE_BYTES < raw.length then .error (.importError "Lähtefail on lubatust suurem.")
  else do
    let decoded ← decode text raw
    let table ← tableOf decoded
    let reading ← table.rows.foldlM (readRow text snapshotDate) .empty
    if table.error.isSome then .error (.other "_csv.Error")
    else if reading.rows = [] then .error (.importError "Lähtefailis ei ole ühtegi andmerida.")
    else return reading

end Read

/-! ## What becomes of the rows -/

section Accounts

variable {text : TextLibrary} {snapshotDate : Date} {rows : List Cells} {cells : Cells}
  {reading next : RegisterReading}

/-- The rows of members, without those whose code was there before. -/
def keptRows (text : TextLibrary) (rows : List Cells) : List Cells :=
  firsts (codeOf text) (rows.filter isMember)

def Stores (text : TextLibrary) (cells : Cells) (row : RegisterRow) : Prop :=
  ∃ employees, asInt text (cell COLUMN_EMPLOYEES cells) = .ok employees ∧
    row = storedRow text cells employees

/-- What the reading says of the rows it has been through. -/
structure Accounts (text : TextLibrary) (snapshotDate : Date) (rows : List Cells)
    (reading : RegisterReading) : Prop where
  stored : List.Forall₂ (Stores text) (keptRows text rows) reading.rows
  seenCodes : reading.seenCodes = (keptRows text rows).filterMap (codeOf text)
  rowsRead : reading.rowsRead = (rows.filter isMember).length
  duplicateCodes : reading.rowsRead = reading.rows.length + reading.duplicateCodes
  missingCodes : reading.missingCodes = (keptRows text rows).countP fun cells =>
    (codeOf text cells).isNone
  unreadableStarts : reading.unreadableStarts = (keptRows text rows).countP (unreadableStart text)
  futureStarts : reading.futureStarts = (keptRows text rows).countP (futureStart text snapshotDate)
  unknownStatuses : reading.unknownStatuses = (keptRows text rows).countP (unknownStatus text)

theorem accounts_empty : Accounts text snapshotDate [] .empty :=
  ⟨.nil, rfl, rfl, rfl, rfl, rfl, rfl, rfl⟩

theorem keptRows_concat_blank (h : isMember cells = false) :
    keptRows text (rows ++ [cells]) = keptRows text rows := by
  unfold keptRows
  rw [List.filter_append, List.filter_cons_of_neg (by rw [h]; exact Bool.false_ne_true),
    List.filter_nil, List.append_nil]

theorem filter_concat_member (h : isMember cells = true) :
    (rows ++ [cells]).filter isMember = rows.filter isMember ++ [cells] := by
  rw [List.filter_append, List.filter_cons_of_pos h, List.filter_nil]

/-- A row repeats a code exactly where the code was seen. -/
theorem Accounts.repeats_iff (h : Accounts text snapshotDate rows reading) :
    repeats (codeOf text) (rows.filter isMember) cells = true ↔
    ∃ code, codeOf text cells = some code ∧ code ∈ reading.seenCodes := by
  rw [Lib.repeats_iff, h.seenCodes]
  unfold keptRows
  simp only [mem_filterMap_firsts]

theorem keptRows_concat_member (h : isMember cells = true) : keptRows text (rows ++ [cells]) =
    if repeats (codeOf text) (rows.filter isMember) cells then keptRows text rows else
      keptRows text rows ++ [cells] := by
  unfold keptRows
  rw [filter_concat_member h, firsts_concat]

theorem countP_concat (p : Cells → Bool) (kept : List Cells) (cells : Cells) :
    (kept ++ [cells]).countP p = kept.countP p + (p cells).toNat := by
  rw [List.countP_append, List.countP_singleton]
  cases p cells <;> rfl

/-- What keeping a row adds to a reading. -/
theorem keep_eq_ok_iff : readRow.keep text snapshotDate cells reading = .ok next ↔
    ∃ employees, asInt text (cell COLUMN_EMPLOYEES cells) = .ok employees ∧ next = { reading with
      rows := reading.rows ++ [storedRow text cells employees]
      unknownStatuses := reading.unknownStatuses + (unknownStatus text cells).toNat
      unreadableStarts := reading.unreadableStarts + (unreadableStart text cells).toNat
      futureStarts := reading.futureStarts + (futureStart text snapshotDate cells).toNat } := by
  unfold readRow.keep
  rw [bind_eq_ok_iff]
  constructor
  · rintro ⟨employees, hread, hnext⟩
    exact ⟨employees, hread, (Except.ok.inj hnext).symm⟩
  · rintro ⟨employees, hread, rfl⟩
    exact ⟨employees, hread, rfl⟩

/-- A row that is kept, with its code or without one. -/
theorem Accounts.keep (h : Accounts text snapshotDate rows reading)
    (hmember : isMember cells = true)
    (hfresh : ¬ repeats (codeOf text) (rows.filter isMember) cells = true) {codes : List String}
    {missing : Nat} (hcodes : codes = reading.seenCodes ++ (codeOf text cells).toList)
    (hmissing : missing = reading.missingCodes + (codeOf text cells).isNone.toNat)
    (hkeep : readRow.keep text snapshotDate cells
      { reading with rowsRead := reading.rowsRead + 1, seenCodes := codes, missingCodes := missing }
        = .ok next) :
    Accounts text snapshotDate (rows ++ [cells]) next := by
  obtain ⟨employees, hread, rfl⟩ := keep_eq_ok_iff.mp hkeep
  have hkept : keptRows text (rows ++ [cells]) = keptRows text rows ++ [cells] := by
    rw [keptRows_concat_member hmember, if_neg hfresh]
  have hlength := h.duplicateCodes
  refine ⟨?_, ?_, ?_, ?_, ?_, ?_, ?_, ?_⟩
  · rw [hkept]
    exact List.rel_append h.stored (.cons ⟨employees, hread, rfl⟩ .nil)
  · rw [hkept, List.filterMap_append, ← h.seenCodes]
    have hlast : [cells].filterMap (codeOf text) = (codeOf text cells).toList := by
      cases hcode : codeOf text cells with
      | none => rw [List.filterMap_cons_none hcode]; rfl
      | some code => rw [List.filterMap_cons_some hcode]; rfl
    rw [hlast]
    exact hcodes
  · rw [filter_concat_member hmember, List.length_append, ← h.rowsRead]
    rfl
  · show reading.rowsRead + 1 = (reading.rows ++ [_]).length + reading.duplicateCodes
    rw [List.length_append, List.length_singleton]
    omega
  · rw [hkept, countP_concat, ← h.missingCodes]
    exact hmissing
  · rw [hkept, countP_concat, ← h.unreadableStarts]
  · rw [hkept, countP_concat, ← h.futureStarts]
  · rw [hkept, countP_concat, ← h.unknownStatuses]

theorem readRow_accounts (h : Accounts text snapshotDate rows reading)
    (hread : readRow text snapshotDate reading cells = .ok next) :
      Accounts text snapshotDate (rows ++ [cells]) next := by
  unfold readRow at hread
  cases hmember : isMember cells with
  | false =>
    rw [if_pos hmember] at hread
    cases hread
    have hkept : keptRows text (rows ++ [cells]) = keptRows text rows :=
      keptRows_concat_blank hmember
    have hfilter : (rows ++ [cells]).filter isMember = rows.filter isMember := by
      rw [List.filter_append, List.filter_cons_of_neg (by rw [hmember]; exact Bool.false_ne_true),
        List.filter_nil,
        List.append_nil]
    exact ⟨hkept ▸ h.stored, hkept ▸ h.seenCodes, hfilter ▸ h.rowsRead, h.duplicateCodes,
      hkept ▸ h.missingCodes,
      hkept ▸ h.unreadableStarts, hkept ▸ h.futureStarts, hkept ▸ h.unknownStatuses⟩
  | true =>
    rw [if_neg (by rw [hmember]; exact Bool.noConfusion)] at hread
    dsimp only at hread
    cases hcode : codeOf text cells with
    | none =>
      rw [hcode] at hread
      have hfresh : ¬ repeats (codeOf text) (rows.filter isMember) cells = true := by
        rw [h.repeats_iff, hcode]
        rintro ⟨code, hsome, -⟩
        cases hsome
      exact h.keep hmember hfresh (by rw [hcode]; exact (List.append_nil _).symm)
        (by rw [hcode]; rfl) hread
    | some code =>
      rw [hcode] at hread
      dsimp only at hread
      by_cases hseen : code ∈ reading.seenCodes
      · rw [if_pos hseen] at hread
        cases hread
        have hrepeats := h.repeats_iff.mpr ⟨code, hcode, hseen⟩
        have hkept : keptRows text (rows ++ [cells]) = keptRows text rows := by
          rw [keptRows_concat_member hmember, if_pos hrepeats]
        have hlength := h.duplicateCodes
        refine ⟨hkept ▸ h.stored, hkept ▸ h.seenCodes, ?_, ?_, hkept ▸ h.missingCodes,
          hkept ▸ h.unreadableStarts,
          hkept ▸ h.futureStarts, hkept ▸ h.unknownStatuses⟩
        · rw [filter_concat_member hmember, List.length_append, ← h.rowsRead]
          rfl
        · show reading.rowsRead + 1 = reading.rows.length + (reading.duplicateCodes + 1)
          omega
      · rw [if_neg hseen] at hread
        have hfresh : ¬ repeats (codeOf text) (rows.filter isMember) cells = true := by
          rw [h.repeats_iff, hcode]
          rintro ⟨_, hsome, hmem⟩
          cases hsome
          exact hseen hmem
        exact h.keep hmember hfresh (by rw [hcode]; rfl) (by rw [hcode]; rfl) hread

/-! ### What stops the reading -/

theorem readRow_error {error : RosterExn}
    (h : readRow text snapshotDate reading cells = .error error) :
    error = .other "ValueError" := by
  have hasInt {value : Option String} (hraised : asInt text value = .error error) :
      error = .other "ValueError" := by
    unfold asInt at hraised
    dsimp only at hraised
    split at hraised
    · cases hraised
    · split at hraised
      · exact (Except.error.inj hraised).symm
      · cases hraised
  have hkeep {reading : RegisterReading}
      (hraised : readRow.keep text snapshotDate cells reading = .error error) :
      error = .other "ValueError" := by
    unfold readRow.keep at hraised
    cases hread : asInt text (cell COLUMN_EMPLOYEES cells) with
    | error raised =>
      rw [hread] at hraised
      have hsame : (Except.error raised : Except RosterExn RegisterReading) =
        .error error := hraised
      exact hasInt (hread.trans (congrArg Except.error (Except.error.inj hsame)))
    | ok employees =>
      rw [hread] at hraised
      cases hraised
  unfold readRow at h
  dsimp only at h
  split at h
  · cases h
  · split at h
    · exact hkeep h
    · split at h
      · cases h
      · exact hkeep h

theorem readRows_error {error : RosterExn}
    (h : rows.foldlM (readRow text snapshotDate) reading = .error error) :
    error = .other "ValueError" := by
  induction rows generalizing reading with
  | nil => cases h
  | cons cells rows ih =>
    rw [List.foldlM_cons] at h
    cases hread : readRow text snapshotDate reading cells with
    | error raised =>
      rw [hread] at h
      exact readRow_error (hread.trans h)
    | ok next =>
      rw [hread] at h
      exact ih h

theorem readRows_accounts (h : rows.foldlM (readRow text snapshotDate) .empty = .ok reading) :
    Accounts text snapshotDate rows reading :=
  foldlM_recorded (fun _ _ _ _ hdone hread => readRow_accounts hdone hread) accounts_empty h

/-- A row is read unless it is kept and its headcount cannot be. -/
theorem exists_readRow_iff (h : Accounts text snapshotDate rows reading) :
    (∃ next, readRow text snapshotDate reading cells = .ok next) ↔
      (isMember cells = true → ¬ repeats (codeOf text) (rows.filter isMember) cells = true →
        ∃ employees, asInt text (cell COLUMN_EMPLOYEES cells) = .ok employees) := by
  have hkeep (reading : RegisterReading) :
      (∃ next, readRow.keep text snapshotDate cells reading = .ok next) ↔
      ∃ employees, asInt text (cell COLUMN_EMPLOYEES cells) = .ok employees := by
    simp only [keep_eq_ok_iff]
    exact ⟨fun ⟨_, employees, hread, _⟩ => ⟨employees, hread⟩, fun ⟨employees, hread⟩ =>
      ⟨_, employees, hread, rfl⟩⟩
  have hrepeats : repeats (codeOf text) (rows.filter isMember) cells = true ↔ _ := h.repeats_iff
  unfold readRow
  by_cases hmember : isMember cells = false
  · rw [if_pos hmember]
    exact iff_of_true ⟨reading, rfl⟩ fun htrue => by rw [hmember] at htrue; cases htrue
  · rw [if_neg hmember]
    dsimp only
    have hmember := Bool.eq_true_of_not_eq_false hmember
    cases hcode : codeOf text cells with
    | none =>
      have hfresh : ¬ repeats (codeOf text) (rows.filter isMember) cells = true := by
        rw [hrepeats, hcode]
        rintro ⟨_, hsome, -⟩
        cases hsome
      exact (hkeep _).trans ⟨fun hread _ _ => hread, fun hread => hread hmember hfresh⟩
    | some code =>
      dsimp only
      by_cases hseen : code ∈ reading.seenCodes
      · rw [if_pos hseen]
        exact iff_of_true ⟨_, rfl⟩ fun _ hfresh => absurd (hrepeats.mpr ⟨code, hcode, hseen⟩) hfresh
      · rw [if_neg hseen]
        have hfresh : ¬ repeats (codeOf text) (rows.filter isMember) cells = true := by
          rw [hrepeats, hcode]
          rintro ⟨_, hsome, hmem⟩
          cases hsome
          exact hseen hmem
        exact (hkeep _).trans ⟨fun hread _ _ => hread, fun hread => hread hmember hfresh⟩

/-- The rows are read exactly where the headcount of every kept row can be. -/
theorem exists_readRows_iff :
    (∃ reading, rows.foldlM (readRow text snapshotDate) .empty = .ok reading) ↔
    ∀ cells ∈ keptRows text rows, ∃ employees, asInt text (cell COLUMN_EMPLOYEES cells) =
      .ok employees := by
  induction rows using List.reverseRecOn with
  | nil => exact iff_of_true ⟨.empty, rfl⟩ fun _ hmem => (nomatch hmem)
  | append_singleton rows cells ih =>
    have hsplit :
        (∃ reading, (rows ++ [cells]).foldlM (readRow text snapshotDate) .empty = .ok reading) ↔
        ∃ reading, rows.foldlM (readRow text snapshotDate) .empty = .ok reading ∧
          ∃ next, readRow text snapshotDate reading cells = .ok next := by
      simp only [List.foldlM_append, List.foldlM_cons, List.foldlM_nil, bind_eq_ok_iff]
      exact ⟨fun ⟨_, reading, hread, next, hnext, _⟩ => ⟨reading, hread, next, hnext⟩,
        fun ⟨reading, hread, next, hnext⟩ => ⟨next, reading, hread, next, hnext, rfl⟩⟩
    rw [hsplit]
    cases hmember : isMember cells with
    | false =>
      rw [keptRows_concat_blank hmember, ← ih]
      refine ⟨fun ⟨reading, hread, _⟩ => ⟨reading, hread⟩, fun ⟨reading, hread⟩ =>
        ⟨reading, hread, ?_⟩⟩
      refine (exists_readRow_iff (readRows_accounts hread)).mpr fun htrue => ?_
      rw [hmember] at htrue
      cases htrue
    | true =>
      rw [keptRows_concat_member hmember]
      by_cases hrepeats : repeats (codeOf text) (rows.filter isMember) cells = true
      · rw [if_pos hrepeats, ← ih]
        refine ⟨fun ⟨reading, hread, _⟩ => ⟨reading, hread⟩, fun ⟨reading, hread⟩ =>
          ⟨reading, hread, ?_⟩⟩
        exact (exists_readRow_iff (readRows_accounts hread)).mpr fun _ hfresh =>
          absurd hrepeats hfresh
      · rw [if_neg hrepeats]
        constructor
        · rintro ⟨reading, hread, hnext⟩ other hother
          cases List.mem_append.mp hother with
          | inl hbefore => exact ih.mp ⟨reading, hread⟩ other hbefore
          | inr hlast =>
            rw [List.mem_singleton.mp hlast]
            exact (exists_readRow_iff (readRows_accounts hread)).mp hnext hmember hrepeats
        · intro hall
          obtain ⟨reading, hread⟩ := ih.mpr fun other hother =>
            hall other (List.mem_append_left _ hother)
          refine ⟨reading, hread, (exists_readRow_iff (readRows_accounts hread)).mpr fun _ _ => ?_⟩
          exact hall cells (List.mem_append_right _ List.mem_cons_self)

/-! ### What is stored -/

/-- A row within its columns, its status in the vocabulary. -/
structure RegisterRow.Fits (row : RegisterRow) : Prop where
  name : row.name.length ≤ 200
  legalForm : row.legalForm.length ≤ 16
  memberNumber : row.memberNumber.length ≤ 16
  statusKey : row.statusKey ∈ STATUS_LABELS.map (·.1)
  statusLabel : row.statusLabel.length ≤ 32
  registryCode : ∀ code ∈ row.registryCode, code ≠ "" ∧ code.length ≤ 16
  county : row.county.length ≤ 64
  city : row.city.length ≤ 64
  country : row.country.length ≤ 64
  employees : ∀ count ∈ row.employees, 0 ≤ count ∧ count ≤ 100000
  naceCode : row.naceCode.length ≤ 8
  naceLabel : row.naceLabel.length ≤ 160
  website : row.website.length ≤ 200

theorem length_take_le (n : Nat) (value : String) : (PyText.take n value).length ≤ n := by
  unfold PyText.take
  rw [String.length_ofList, List.length_take]
  exact Nat.min_le_left _ _

theorem classifyStatus_mem (raw : String) : classifyStatus text raw ∈ STATUS_LABELS.map (·.1) := by
  have hknown : ∀ label ∈ STATUS_KEYS, label.2 ∈ STATUS_LABELS.map (·.1) := by decide
  unfold classifyStatus
  cases hfind : STATUS_KEYS.find? (·.1 = text.casefold (PyText.strip raw)) with
  | none =>
    show UNKNOWN ∈ _
    decide
  | some label => exact hknown label (List.mem_of_find?_eq_some hfind)

theorem asInt_range {value : Option String} {count : Int}
    (h : asInt text value = .ok (some count)) :
    0 ≤ count ∧ count ≤ 100000 := by
  have hminus : '-' ∉ (digitsOf text value).toList := by
    unfold digitsOf
    rw [String.toList_ofList, List.mem_filter, text.minus_not_digit]
    exact fun hmem => Bool.false_ne_true hmem.2
  unfold asInt at h
  dsimp only at h
  split at h
  · cases h
  · split at h
    · cases h
    · rename_i number hparse
      have hsome := Except.ok.inj h
      by_cases hle : number ≤ 100000
      · rw [if_pos hle] at hsome
        rw [← Option.some.inj hsome]
        refine ⟨?_, hle⟩
        have hbody :
            '-' ∉ (((digitsOf text value).toList.dropWhile PyInt.isBlank).reverse.dropWhile
              PyInt.isBlank).reverse :=
          fun hmem => hminus ((List.dropWhile_sublist _).subset
            (List.mem_reverse.mp ((List.dropWhile_sublist _).subset (List.mem_reverse.mp hmem))))
        unfold PyInt.parse at hparse
        dsimp only at hparse
        split at hparse
        · rename_i rest heq
          exact absurd (heq ▸ List.mem_cons_self) hbody
        all_goals
          simp only [Option.map_eq_some_iff, Option.bind_eq_bind, Option.bind_eq_some_iff,
            Option.pure_def,
            Option.some.injEq] at hparse
          obtain ⟨_, ⟨natural, -, rfl⟩, rfl⟩ := hparse
          exact Int.natCast_nonneg natural
      · rw [if_neg hle] at hsome
        cases hsome

theorem codeOf_ne_empty {code : String} (h : codeOf text cells = some code) : code ≠ "" := by
  unfold codeOf at h
  dsimp only at h
  split at h
  · cases h
  · rename_i hne
    exact Option.some.inj h ▸ hne

theorem Stores.fits {row : RegisterRow} (h : Stores text cells row) : row.Fits := by
  obtain ⟨employees, hread, rfl⟩ := h
  refine ⟨length_take_le _ _, length_take_le _ _, length_take_le _ _, classifyStatus_mem _,
    length_take_le _ _, ?_,
    length_take_le _ _, length_take_le _ _, length_take_le _ _, fun count hcount =>
      ?_, length_take_le _ _,
    length_take_le _ _, length_take_le _ _⟩
  · intro code hcode
    obtain ⟨whole, hwhole, rfl⟩ := Option.map_eq_some_iff.mp hcode
    refine ⟨fun hempty => codeOf_ne_empty hwhole ?_, length_take_le _ _⟩
    have hlength := congrArg String.length hempty
    unfold PyText.take at hlength
    rw [String.length_ofList, List.length_take, String.length_toList,
      String.length_empty] at hlength
    exact String.length_eq_zero_iff.mp (by omega)
  · exact asInt_range (hread.trans (congrArg Except.ok (Option.mem_def.mp hcount)))

theorem Accounts.fits (h : Accounts text snapshotDate rows reading) :
    ∀ row ∈ reading.rows, row.Fits := by
  intro row hrow
  obtain ⟨cells, -, hstores⟩ := exists_of_mem_forall₂ h.stored hrow
  exact hstores.fits

/-- The stored codes are the codes of the kept rows, cut. -/
theorem Accounts.codes (h : Accounts text snapshotDate rows reading) :
    reading.rows.filterMap (·.registryCode) = reading.seenCodes.map (PyText.take 16) := by
  have hstored := h.stored
  rw [h.seenCodes, List.map_filterMap]
  generalize keptRows text rows = kept at hstored ⊢
  generalize reading.rows = stored at hstored ⊢
  induction hstored with
  | nil => rfl
  | cons hstores _ ih =>
    obtain ⟨employees, -, rfl⟩ := hstores
    rw [List.filterMap_cons, List.filterMap_cons, ih]
    rfl

theorem Accounts.nodup_seenCodes (h : Accounts text snapshotDate rows reading) :
    reading.seenCodes.Nodup := by
  rw [h.seenCodes]
  exact nodup_filterMap_firsts _

theorem Accounts.missing_eq (h : Accounts text snapshotDate rows reading) :
    reading.missingCodes = reading.rows.countP (·.registryCode.isNone) := by
  have hstored := h.stored
  rw [h.missingCodes]
  generalize keptRows text rows = kept at hstored ⊢
  generalize reading.rows = stored at hstored ⊢
  induction hstored with
  | nil => rfl
  | cons hstores _ ih =>
    obtain ⟨employees, -, rfl⟩ := hstores
    rw [List.countP_cons, List.countP_cons, ih]
    show _ + (if (codeOf text _).isNone then 1 else 0) = _ +
      if ((codeOf text _).map _).isNone then 1 else 0
    rw [Option.isNone_map]

theorem Accounts.rowsRead_le (h : Accounts text snapshotDate rows reading) :
    reading.rowsRead ≤ rows.length := by
  rw [h.rowsRead]
  exact List.length_filter_le _ _

/-- No more rows than characters. -/
theorem length_tableOf_le {decoded : String} {table : RegisterTable}
    (h : tableOf decoded = .ok table) :
    table.rows.length ≤ decoded.length := by
  unfold tableOf at h
  dsimp only at h
  split at h
  · cases h
  · obtain ⟨delimiter, -, h⟩ := bind_eq_ok_iff.mp h
    obtain ⟨fieldnames, -, h⟩ := bind_eq_ok_iff.mp h
    split at h
    · cases h
    · cases h
      have hrecords := Csv.length_records_le delimiter .fresh decoded.toList
      have hfilter := List.length_filter_le (· ≠ [])
        (Csv.records delimiter .fresh decoded.toList).1.tail
      rw [String.length_toList] at hrecords
      rw [List.length_tail] at hfilter
      show (List.map _ _).length ≤ _
      rw [List.length_map]
      omega

/-! ### What comes out of a file -/

theorem bind_eq_error_iff {α β : Type} {x : Except RosterExn α} {f : α → Except RosterExn β}
    {error : RosterExn} :
    x >>= f = .error error ↔ x = .error error ∨ ∃ a, x = .ok a ∧ f a = .error error := by
  cases x with
  | error raised => simp [bind, Except.bind]
  | ok a => simp [bind, Except.bind]

def Refusal (error : RosterExn) : Prop := ∃ message, error = .importError message

theorem not_refusal_other (typeName : String) : ¬ Refusal (.other typeName) :=
  fun ⟨_, heq⟩ => by cases heq

theorem decode_error {raw : List UInt8} {error : RosterExn} (h : decode text raw = .error error) :
    error = .other "UnicodeDecodeError" ∨ Refusal error := by
  have helim {decoded : Option String} {raised : RosterExn}
      (hraised : (decoded.elim (.error raised) .ok : Except RosterExn String) = .error error) :
        error = raised := by
    cases decoded with
    | none => exact (Except.error.inj hraised).symm
    | some _ => cases hraised
  unfold decode at h
  split at h
  · exact Or.inl (helim h)
  · split at h
    · exact Or.inl (helim h)
    · exact Or.inr ⟨_, helim h⟩

theorem pickDelimiter_error {header : List Char} {error : RosterExn}
    (h : pickDelimiter header = .error error) :
    Refusal error := by
  unfold pickDelimiter at h
  dsimp only at h
  split at h
  · exact ⟨_, (Except.error.inj h).symm⟩
  · cases h

theorem tableOf_error {decoded : String} {error : RosterExn} (h : tableOf decoded = .error error) :
    error = .other "_csv.Error" ∨ Refusal error := by
  unfold tableOf at h
  dsimp only at h
  split at h
  · exact Or.inr ⟨_, (Except.error.inj h).symm⟩
  · rcases bind_eq_error_iff.mp h with hdelimiter | ⟨delimiter, -, hrest⟩
    · exact Or.inr (pickDelimiter_error hdelimiter)
    · rcases bind_eq_error_iff.mp hrest with hfieldnames | ⟨fieldnames, -, hlast⟩
      · left
        unfold fieldnamesOf at hfieldnames
        split at hfieldnames
        · cases hfieldnames
        · exact (Except.error.inj hfieldnames).symm
        · cases hfieldnames
      · split at hlast
        · exact Or.inr ⟨_, (Except.error.inj hlast).symm⟩
        · cases hlast

/-- A call that fails with what is no refusal. -/
def Raises {α : Type} (x : Except RosterExn α) : Prop := ∃ error, x = .error error ∧ ¬ Refusal error

theorem raises_iff {α : Type} {x : Except RosterExn α} {typeName : String}
    (h : ∀ error, x = .error error → error = .other typeName ∨ Refusal error) : Raises x ↔
    x = .error (.other typeName) := by
  constructor
  · rintro ⟨error, heq, hnot⟩
    cases h error heq with
    | inl hother => exact hother ▸ heq
    | inr hrefusal => exact absurd hrefusal hnot
  · exact fun heq => ⟨_, heq, not_refusal_other _⟩

theorem raises_bind_iff {α β : Type} {x : Except RosterExn α} {f : α → Except RosterExn β} :
    Raises (x >>= f) ↔ Raises x ∨ ∃ a, x = .ok a ∧ Raises (f a) := by
  unfold Raises
  simp only [bind_eq_error_iff, or_and_right, exists_or]
  refine or_congr_right ⟨?_, ?_⟩
  · rintro ⟨error, ⟨a, hok, herror⟩, hnot⟩
    exact ⟨a, hok, error, herror, hnot⟩
  · rintro ⟨a, hok, error, herror, hnot⟩
    exact ⟨error, ⟨a, hok, herror⟩, hnot⟩

theorem raises_readRows_iff : Raises (rows.foldlM (readRow text snapshotDate) .empty) ↔
    ∃ cells ∈ keptRows text rows, ∀ employees,
      asInt text (cell COLUMN_EMPLOYEES cells) ≠ .ok employees := by
  have hfails : Raises (rows.foldlM (readRow text snapshotDate) .empty) ↔
      ¬ ∃ reading, rows.foldlM (readRow text snapshotDate) .empty = .ok reading := by
    cases hread : rows.foldlM (readRow text snapshotDate) .empty with
    | error error =>
      have hnot : ¬ Refusal error := by
        rw [readRows_error hread]
        exact not_refusal_other _
      exact iff_of_true ⟨error, rfl, hnot⟩ fun ⟨_, heq⟩ => (nomatch heq)
    | ok reading =>
      exact iff_of_false (fun ⟨_, heq, _⟩ => (nomatch heq)) (not_not.mpr ⟨reading, rfl⟩)
  rw [hfails, exists_readRows_iff]
  simp only [not_forall, not_exists, exists_prop]

/-- What the reader raises besides its refusals. -/
def Escapes (text : TextLibrary) (raw : List UInt8) : Prop :=
  raw.length ≤ MAX_SOURCE_BYTES ∧ (decode text raw = .error (.other "UnicodeDecodeError") ∨
    ∃ decoded, decode text raw = .ok decoded ∧ (tableOf decoded = .error (.other "_csv.Error") ∨
      ∃ table, tableOf decoded = .ok table ∧ (table.error.isSome = true ∨
        ∃ cells ∈ keptRows text table.rows, ∀ employees,
          asInt text (cell COLUMN_EMPLOYEES cells) ≠ .ok employees)))

/-- How the reader ends once the rows are read. -/
theorem raises_end_iff {table : RegisterTable} : Raises
    (if table.error.isSome then .error (.other "_csv.Error")
      else if reading.rows = [] then
        .error (.importError "Lähtefailis ei ole ühtegi andmerida.") else pure reading) ↔
    table.error.isSome = true := by
  by_cases herror : table.error.isSome = true
  · rw [if_pos herror]
    exact iff_of_true ⟨_, rfl, not_refusal_other _⟩ herror
  · rw [if_neg herror]
    refine iff_of_false ?_ herror
    rintro ⟨error, heq, hnot⟩
    split at heq
    · exact hnot ⟨_, (Except.error.inj heq).symm⟩
    · cases heq

theorem raises_readRegister_iff (text : TextLibrary) (raw : List UInt8) (snapshotDate : Date) :
    Raises (readRegister text raw snapshotDate) ↔ Escapes text raw := by
  unfold readRegister Escapes
  by_cases hsize : MAX_SOURCE_BYTES < raw.length
  · rw [if_pos hsize]
    refine iff_of_false ?_ fun hescapes => absurd hescapes.1 (Nat.not_le.mpr hsize)
    rintro ⟨error, heq, hnot⟩
    exact hnot ⟨_, (Except.error.inj heq).symm⟩
  · rw [if_neg hsize, and_iff_right (Nat.not_lt.mp hsize), raises_bind_iff, raises_iff fun _ =>
      decode_error]
    refine or_congr_right (exists_congr fun decoded => and_congr_right fun _ => ?_)
    rw [raises_bind_iff, raises_iff fun _ => tableOf_error]
    refine or_congr_right (exists_congr fun table => and_congr_right fun _ => ?_)
    rw [raises_bind_iff, ← @raises_readRows_iff text snapshotDate table.rows]
    refine (or_congr_right (exists_congr fun reading => and_congr_right fun _ =>
      raises_end_iff)).trans ?_
    constructor
    · rintro (hraises | ⟨reading, -, herror⟩)
      · exact Or.inr hraises
      · exact Or.inl herror
    · rintro (herror | hraises)
      · cases hread : table.rows.foldlM (readRow text snapshotDate) .empty with
        | error error =>
          refine Or.inl ⟨error, rfl, ?_⟩
          rw [readRows_error hread]
          exact not_refusal_other _
        | ok reading => exact Or.inr ⟨reading, rfl, herror⟩
      · exact Or.inl hraises

theorem readRegister_eq_ok {raw : List UInt8}
    (h : readRegister text raw snapshotDate = .ok reading) :
    ∃ decoded table, decode text raw = .ok decoded ∧ tableOf decoded = .ok table ∧
    table.error = none ∧
      table.rows.foldlM (readRow text snapshotDate) .empty = .ok reading ∧ reading.rows ≠ [] := by
  unfold readRegister at h
  by_cases hsize : MAX_SOURCE_BYTES < raw.length
  · rw [if_pos hsize] at h
    cases h
  · rw [if_neg hsize] at h
    obtain ⟨decoded, hdecoded, h⟩ := bind_eq_ok_iff.mp h
    obtain ⟨table, htable, h⟩ := bind_eq_ok_iff.mp h
    obtain ⟨read, hread, h⟩ := bind_eq_ok_iff.mp h
    by_cases herror : table.error.isSome = true
    · rw [if_pos herror] at h
      cases h
    · rw [if_neg herror] at h
      by_cases hrows : read.rows = []
      · rw [if_pos hrows] at h
        cases h
      · rw [if_neg hrows] at h
        cases h
        exact ⟨decoded, table, hdecoded, htable, Option.not_isSome_iff_eq_none.mp herror,
          hread, hrows⟩

/-- Every row of an export is accounted for, or the export is refused, or it is one that the reader
does not get through. -/
theorem readRegister_contract (text : TextLibrary) (raw : List UInt8) (snapshotDate : Date) :
    (∀ reading, readRegister text raw snapshotDate = .ok reading → ∃ decoded table,
      decode text raw = .ok decoded ∧ tableOf decoded = .ok table ∧ table.error = none ∧
      Accounts text snapshotDate table.rows reading ∧ reading.rows ≠ [] ∧ reading.seenCodes.Nodup ∧
      reading.missingCodes = reading.rows.countP (·.registryCode.isNone) ∧
      reading.rows.filterMap (·.registryCode) = reading.seenCodes.map (PyText.take 16) ∧
      ∀ row ∈ reading.rows, row.Fits) ∧
    (Raises (readRegister text raw snapshotDate) ↔ Escapes text raw) := by
  refine ⟨fun reading h => ?_, raises_readRegister_iff text raw snapshotDate⟩
  obtain ⟨decoded, table, hdecoded, htable, herror, hread, hrows⟩ := readRegister_eq_ok h
  have haccounts := readRows_accounts hread
  exact ⟨decoded, table, hdecoded, htable, herror, haccounts, hrows, haccounts.nodup_seenCodes,
    haccounts.missing_eq,
    haccounts.codes, haccounts.fits⟩

theorem decode_eq_ok {raw : List UInt8} {decoded : String} (h : decode text raw = .ok decoded) :
    decoded.length ≤ raw.length := by
  have helim {read : Option String} {error : RosterExn}
      (hread : (read.elim (.error error) .ok : Except RosterExn String) = .ok decoded) :
        read = some decoded := by
    cases read with
    | none => cases hread
    | some _ => exact congrArg some (Except.ok.inj hread)
  apply text.decoded_length
  unfold decode at h
  split at h
  · exact Or.inl (helim h)
  · split at h
    · exact Or.inr (Or.inl (helim h))
    · exact Or.inr (Or.inr (helim h))

/-- A register has no more rows than its file may have bytes. -/
theorem rowsRead_le {raw : List UInt8} (h : readRegister text raw snapshotDate = .ok reading) :
    reading.rowsRead ≤ MAX_SOURCE_BYTES := by
  obtain ⟨decoded, table, hdecoded, htable, -, hread, -⟩ := readRegister_eq_ok h
  have hrows := (readRows_accounts hread).rowsRead_le
  have htableRows := length_tableOf_le htable
  have hlength := decode_eq_ok hdecoded
  have hsize : raw.length ≤ MAX_SOURCE_BYTES := by
    by_contra hlarge
    unfold readRegister at h
    rw [if_pos (Nat.not_le.mp hlarge)] at h
    cases h
  omega

end Accounts

/-! ## Reading back an export -/

section Written

variable {text : TextLibrary} {delimiter : Char} {fieldnames : List String}
  {rows : List (List String)}

theorem separates_of_pickDelimiter {header : List Char} (h : pickDelimiter header = .ok delimiter) :
    Csv.Separates delimiter := by
  have hall : (DELIMITERS.all fun c => c ≠ '"' ∧ Csv.isNewline c = false) = true := by decide
  have hmem : delimiter ∈ DELIMITERS := by
    unfold pickDelimiter at h
    dsimp only at h
    split at h
    · cases h
    · have hbest (candidates : List Char) (best : Char) :
          candidates.foldl (fun best c => if header.count best < header.count c then c else best)
            best ∈ best :: candidates := by
        induction candidates generalizing best with
        | nil => exact List.mem_cons_self
        | cons c rest ih =>
          have hnext := ih (if header.count best < header.count c then c else best)
          rw [List.foldl_cons]
          by_cases hlt : header.count best < header.count c
          · rw [if_pos hlt] at hnext ⊢
            exact List.mem_cons_of_mem _ hnext
          · rw [if_neg hlt] at hnext ⊢
            cases List.mem_cons.mp hnext with
            | inl heq =>
              rw [heq]
              exact List.mem_cons_self
            | inr hrest => exact List.mem_cons_of_mem _ (List.mem_cons_of_mem _ hrest)
      exact Except.ok.inj h ▸ hbest DELIMITERS.tail '\t'
  obtain ⟨hquote, hnewline⟩ := of_decide_eq_true (List.all_eq_true.mp hall delimiter hmem)
  exact ⟨hquote, hnewline⟩

/-- An export with every cell quoted is the table it was written from. -/
theorem tableOf_written {decoded : String}
    (hwritten : decoded.toList = Csv.write delimiter (fieldnames :: rows))
    (hpick : pickDelimiter (firstLine decoded) = .ok delimiter)
    (hfits : ∀ row ∈ fieldnames :: rows, ∀ cell ∈ row, cell.length ≤ Csv.fieldLimit)
    (hcolumns : ∀ column ∈ REQUIRED_COLUMNS, column ∈ fieldnames.map PyText.strip) :
    tableOf decoded = .ok ⟨(rows.filter (· ≠ [])).map (cellsOf fieldnames), none⟩ := by
  have hheader : firstLine decoded ≠ [] := by
    intro hempty
    rw [hempty] at hpick
    cases hpick
  have hrecords : Csv.records delimiter .fresh decoded.toList = (fieldnames :: rows, none) := by
    rw [hwritten]
    exact Csv.records_write (separates_of_pickDelimiter hpick) hfits
  have hmissing :
      (REQUIRED_COLUMNS.filter fun column => column ∉ fieldnames.map PyText.strip) = [] := by
    rw [List.filter_eq_nil_iff]
    intro column hcolumn hnot
    exact of_decide_eq_true hnot (hcolumns column hcolumn)
  unfold tableOf
  dsimp only
  rw [if_neg hheader, hpick]
  show (fieldnamesOf (Csv.records delimiter .fresh decoded.toList) >>= _) = _
  rw [hrecords]
  show (if (REQUIRED_COLUMNS.filter fun column => column ∉ fieldnames.map PyText.strip) ≠ [] then
    _ else _) = _
  rw [if_neg (not_not.mpr hmissing)]
  rfl

theorem rawPairs_eq (fieldnames row : List String) :
    fieldnames.zip (row.map some) ++ (fieldnames.drop row.length).map (fun name => (name, none)) =
      fieldnames.mapIdx fun index name => (name, row[index]?) := by
  induction fieldnames generalizing row with
  | nil => rw [List.zip_nil_left, List.drop_nil]; rfl
  | cons name rest ih =>
    cases row with
    | nil =>
      have htail := ih []
      rw [List.map_nil, List.zip_nil_right, List.length_nil, List.drop_zero,
        List.nil_append] at htail ⊢
      rw [List.map_cons, List.mapIdx_cons, htail]
      rfl
    | cons value row =>
      rw [List.map_cons, List.zip_cons_cons, List.length_cons, List.drop_succ_cons,
        List.cons_append, ih row,
        List.mapIdx_cons]
      rfl

/-- Under headings that differ, a cell is the field that stands under its heading. -/
theorem cell_cellsOf (honce : (fieldnames.map PyText.strip).Nodup) {index : Nat} {name : String}
    (hname : fieldnames[index]? = some name) (row : List String) :
    cell (PyText.strip name) (cellsOf fieldnames row) = row[index]? := by
  have hnames (f : String → String) :
      (fieldnames.mapIdx fun index name => (f name, row[index]?)).map Prod.fst =
        fieldnames.map f := by
    refine List.ext_getElem? fun i => ?_
    rw [List.getElem?_map, List.getElem?_mapIdx, List.getElem?_map, Option.map_map]
    rfl
  have hraw : (rawRow fieldnames row).entries = fieldnames.mapIdx fun index name =>
      (name, row[index]?) := by
    unfold rawRow
    rw [rawPairs_eq]
    apply Dict.entries_ofList
    have hkeys : (fieldnames.mapIdx fun index name => (name, row[index]?)).map Prod.fst =
        fieldnames :=
      (hnames id).trans fieldnames.map_id
    rw [hkeys]
    exact honce.of_map _
  have hstripped : (fieldnames.mapIdx fun index name => (name, row[index]?)).map
      (fun entry => (PyText.strip entry.1, entry.2)) = fieldnames.mapIdx fun index name =>
        (PyText.strip name, row[index]?) := by
    refine List.ext_getElem? fun i => ?_
    rw [List.getElem?_map, List.getElem?_mapIdx, List.getElem?_mapIdx, Option.map_map]
    rfl
  have hcells : (cellsOf fieldnames row).entries = fieldnames.mapIdx fun index name =>
      (PyText.strip name, row[index]?) := by
    unfold cellsOf
    rw [hraw, hstripped]
    apply Dict.entries_ofList
    rw [hnames]
    exact honce
  have hmem : (fieldnames.mapIdx fun index name => (PyText.strip name, row[index]?))[index]? =
      some (PyText.strip name, row[index]?) := by
    rw [List.getElem?_mapIdx, hname]
    rfl
  have hget : (cellsOf fieldnames row).get? (PyText.strip name) = some row[index]? := by
    rw [Dict.get?_eq_some_iff, hcells]
    exact List.mem_of_getElem? hmem
  unfold cell
  rw [hget]
  rfl

/-- A register that was written with every cell quoted is read row by row, each cell under its
heading. -/
theorem register_reads_what_is_written {raw : List UInt8} {decoded : String} (snapshotDate : Date)
    (hsize : raw.length ≤ MAX_SOURCE_BYTES) (hdecoded : decode text raw = .ok decoded)
    (hwritten : decoded.toList = Csv.write delimiter (fieldnames :: rows))
    (hpick : pickDelimiter (firstLine decoded) = .ok delimiter)
    (hfits : ∀ row ∈ fieldnames :: rows, ∀ cell ∈ row, cell.length ≤ Csv.fieldLimit)
    (hcolumns : ∀ column ∈ REQUIRED_COLUMNS, column ∈ fieldnames.map PyText.strip)
    (honce : (fieldnames.map PyText.strip).Nodup)
    (hheadcounts : ∀ cells ∈ keptRows text ((rows.filter (· ≠ [])).map (cellsOf fieldnames)),
      ∃ employees, asInt text (cell COLUMN_EMPLOYEES cells) = .ok employees)
    (hkept : keptRows text ((rows.filter (· ≠ [])).map (cellsOf fieldnames)) ≠ []) :
    ∃ reading, readRegister text raw snapshotDate = .ok reading ∧
      Accounts text snapshotDate ((rows.filter (· ≠ [])).map (cellsOf fieldnames)) reading ∧
      ∀ (index : Nat) (name : String), fieldnames[index]? = some name → ∀ row : List String,
        cell (PyText.strip name) (cellsOf fieldnames row) = row[index]? := by
  obtain ⟨reading, hread⟩ := (@exists_readRows_iff text snapshotDate _).mpr hheadcounts
  have haccounts := readRows_accounts hread
  have hrows : reading.rows ≠ [] := by
    intro hempty
    have hlength := haccounts.stored.length_eq
    rw [hempty] at hlength
    exact hkept (List.length_eq_zero_iff.mp hlength)
  refine ⟨reading, ?_, haccounts, fun index name hname row => cell_cellsOf honce hname row⟩
  unfold readRegister
  rw [if_neg (Nat.not_lt.mpr hsize)]
  refine bind_eq_ok_iff.mpr
    ⟨decoded, hdecoded, bind_eq_ok_iff.mpr ⟨_, tableOf_written hwritten hpick hfits hcolumns,
    bind_eq_ok_iff.mpr ⟨reading, hread, ?_⟩⟩⟩
  rw [if_neg (fun hsome => (nomatch hsome)), if_neg hrows]
  rfl

/-! ### A small register -/

def sampleNames : List String := ["Ettevõte", "Staatus", "Registrikood"]

def sampleRows : List (List String) :=
  [["Alfa OÜ", "Koja liige", "10000001"], ["Beeta; \"B\"", "Koja liige", "10000002"],
    ["Alfa", "", "10000001"]]

def sampleText : String := String.ofList (Csv.write ';' (sampleNames :: sampleRows))

def sampleBytes : List UInt8 := sampleText.toList.flatMap String.utf8EncodeChar

def sampleDecode (raw : List UInt8) : Option String :=
  if raw = sampleBytes then some sampleText else none

theorem sampleDecode_sampleBytes : sampleDecode sampleBytes = some sampleText := by
  unfold sampleDecode
  simp only [if_true]

theorem isDigit_minus : Char.isDigit '-' = false := by decide

theorem length_sampleDecode {raw : List UInt8} {decoded : String}
    (h : sampleDecode raw = some decoded) :
    decoded.length ≤ raw.length := by
  have hbytes (written : List Char) :
      written.length ≤ (written.flatMap String.utf8EncodeChar).length := by
    induction written with
    | nil => exact Nat.le_refl _
    | cons c rest ih =>
      have hpos : 0 < (String.utf8EncodeChar c).length := by
        rw [String.length_utf8EncodeChar]
        exact Char.utf8Size_pos c
      rw [List.flatMap_cons, List.length_append, List.length_cons]
      omega
  unfold sampleDecode at h
  split at h
  · rename_i hraw
    rw [← Option.some.inj h, hraw, ← String.length_toList]
    exact hbytes sampleText.toList
  · cases h

def sampleLibrary : TextLibrary where
  classes := asciiClasses
  isDigit := Char.isDigit
  casefold := asciiClasses.lower
  decodeUtf16 _ := none
  decodeUtf8Sig _ := none
  decodeUtf8 := sampleDecode
  minus_not_digit := isDigit_minus
  decoded_length raw decoded hread := by
    rcases hread with hread | hread | hread
    · cases hread
    · cases hread
    · exact length_sampleDecode hread

theorem register_reads_what_is_written_sample :
    ∃ reading, readRegister sampleLibrary sampleBytes (.of 2026 7 1) = .ok reading ∧
      Accounts sampleLibrary (.of 2026 7 1)
        ((sampleRows.filter (· ≠ [])).map (cellsOf sampleNames)) reading ∧
      ∀ (index : Nat) (name : String), sampleNames[index]? = some name → ∀ row : List String,
        cell (PyText.strip name) (cellsOf sampleNames row) = row[index]? := by
  have htext : sampleText.toList = Csv.write ';' (sampleNames :: sampleRows) := String.toList_ofList
  have hbytes : sampleBytes = (Csv.write ';' (sampleNames :: sampleRows)).flatMap
      String.utf8EncodeChar := by
    unfold sampleBytes
    rw [htext]
  have hsize : sampleBytes.length ≤ MAX_SOURCE_BYTES := by
    rw [hbytes]
    decide +kernel
  have hdecoded : decode sampleLibrary sampleBytes = .ok sampleText := by
    have hmarks :
        ([0xff, 0xfe].isPrefixOf sampleBytes || [0xfe, 0xff].isPrefixOf sampleBytes) = false ∧
        [0xef, 0xbb, 0xbf].isPrefixOf sampleBytes = false := by
      rw [hbytes]
      decide +kernel
    have hread : sampleLibrary.decodeUtf8 = sampleDecode := rfl
    unfold decode
    rw [hmarks.1, hmarks.2, hread, sampleDecode_sampleBytes]
    rfl
  have hpick : pickDelimiter (firstLine sampleText) = .ok ';' := by
    unfold firstLine
    rw [htext]
    decide +kernel
  have hheadcounts :
      ∀ cells ∈ keptRows sampleLibrary ((sampleRows.filter (· ≠ [])).map (cellsOf sampleNames)),
      ∃ employees, asInt sampleLibrary (cell COLUMN_EMPLOYEES cells) = .ok employees := by
    have hempty :
        ((keptRows sampleLibrary ((sampleRows.filter (· ≠ [])).map (cellsOf sampleNames))).all
        fun cells => digitsOf sampleLibrary (cell COLUMN_EMPLOYEES cells) = "") = true := by
          decide +kernel
    intro cells hcells
    exact ⟨none, if_pos (of_decide_eq_true (List.all_eq_true.mp hempty cells hcells))⟩
  have hkept : keptRows sampleLibrary
      ((sampleRows.filter (· ≠ [])).map (cellsOf sampleNames)) ≠ [] := by
    have hlength :
        (keptRows sampleLibrary ((sampleRows.filter (· ≠ [])).map (cellsOf sampleNames))).length =
          2 := by
      decide +kernel
    intro hnil
    rw [hnil] at hlength
    cases hlength
  exact register_reads_what_is_written (.of 2026 7 1) hsize hdecoded htext hpick (by decide +kernel)
    (by decide +kernel)
    (by decide +kernel) hheadcounts hkept

end Written

end Dashkoda.Membership.MemberRegister
