import Dashkoda.Core.WorkbookCells
import Dashkoda.Lib.Dict
import Dashkoda.Lib.Ranking
import Mathlib.Data.String.Basic

/-!
# Reading the canonical legal-work workbook

The reader either returns a validated workbook or raises.  Every row is checked on its own and
against the rows before it, and the counts of the control sheet are checked at the end.
-/

open Lib

namespace Dashkoda.LegalWork

open Core

def DATASET_KEY : String := "oigusloome"

def SUPPORTED_SCHEMA_VERSIONS : List String := ["1.0", "1.1", "1.2"]

def CONTROL_SHEET : String := "CONTROL"

def OVERVIEW_SHEET : String := "OVERVIEW"

def DATA_SHEET : String := "DATA"

def WARNINGS_SHEET : String := "WARNINGS"

def REQUIRED_SHEETS : List String := [CONTROL_SHEET, OVERVIEW_SHEET, DATA_SHEET, WARNINGS_SHEET]

def DATA_TABLE_NAME : String := "tbl_oigusloome"

def DATA_COLUMNS : List String :=
  ["record_id", "source_year", "source_nr", "topic", "act_type", "received_date", "deadline_date",
    "sent_date", "sent_status", "recipient", "stage", "stage_key", "next_step", "is_open",
    "warning_codes", "source_row", "refreshed_at"]

/-- Added by schema 1.2, after the others. -/
def FEEDBACK_COLUMNS : List String := ["feedback_member_count", "feedback_requested_member_count"]

def DATA_COLUMNS_V12 : List String := DATA_COLUMNS ++ FEEDBACK_COLUMNS

def REQUIRED_CONTROL_KEYS : List String :=
  ["dataset_key", "schema_version", "source_file_name", "source_sheet", "source_modified_at",
    "source_sha256", "generated_at", "reporting_date", "total_record_count", "open_record_count",
    "sent_record_count", "not_sent_record_count", "warning_record_count", "refresh_status",
    "generator_version"]

def VALID_SENT_STATUSES : List String := ["pending", "sent", "not_sent", "invalid"]

def OPTIONAL_VALUE_CONTROL_KEYS : List String := ["source_modified_at"]

def MAX_TOPIC_LENGTH : Nat := 4000

def MAX_SHORT_TEXT_LENGTH : Nat := 300

structure WorkbookControl where
  datasetKey : String
  schemaVersion : String
  sourceSheet : String
  sourceModifiedAt : Option DateTime
  generatedAt : DateTime
  reportingDate : Date
  totalRecordCount : Int
  openRecordCount : Int
  sentRecordCount : Int
  notSentRecordCount : Int
  warningRecordCount : Int
  refreshStatus : String
  generatorVersion : String

structure WorkbookRow where
  recordId : String
  sourceYear : Int
  sourceNr : Option Int
  topic : String
  actType : String
  receivedDate : Option Date
  deadlineDate : Option Date
  sentDate : Option Date
  sentStatus : String
  recipient : String
  stage : String
  stageKey : String
  nextStep : String
  isOpen : Bool
  warningCodes : List String
  sourceRow : Int
  refreshedAt : Option DateTime
  feedbackMemberCount : Option Int
  feedbackRequestedMemberCount : Option Int

structure ParsedWorkbook where
  control : WorkbookControl
  rows : List WorkbookRow
  warnings : List (Dict String String)

namespace ParsedWorkbook

variable (parsed : ParsedWorkbook)

def openCount : Nat := parsed.rows.countP (·.isOpen)

def sentCount : Nat := parsed.rows.countP (·.sentStatus = "sent")

def notSentCount : Nat := parsed.rows.countP (·.sentStatus = "not_sent")

/-- Records with at least one code, not the rows of the warnings sheet. -/
def warningRecordCount : Nat := parsed.rows.countP (·.warningCodes ≠ [])

end ParsedWorkbook

/-! ## The control sheet -/

/-- A row without a key is skipped; a key keeps its row even where the value is empty. -/
def readControl (sheet : Sheet) : Dict String Cell :=
  (sheet.fittedFrom 1 2).foldl (fun values row =>
    match row.2 with
    | key :: value :: _ =>
      if key = .empty ∨ PyText.strip key.str = "" then values
      else values.set (PyText.strip key.str) value
    | _ => values) Dict.empty

/-- `", ".join(sorted(names))` -/
def joinSorted (names : List String) : String := PyText.join ", " (sortOn id names)

/-- `values[key]` of a key that is there. -/
def valueOf (values : Dict String Cell) (key : String) : Cell := (values.get? key).getD .empty

def controlCount (values : Dict String Cell) (key : String) : Except WorkbookExn Int :=
  match valueOf values key with
  | .int n =>
    if n < 0 then .error (.contract ("CONTROL väli '" ++ key ++ "' ei tohi olla negatiivne."))
    else .ok n
  | _ => .error (.contract ("CONTROL väli '" ++ key ++ "' peab olema täisarv."))

section Control

variable (readers : TextReaders) (values : Dict String Cell)

/-- The day of `reporting_date`, a timestamp in any of its forms. -/
def reportingDateOf : Except WorkbookExn Date :=
  match valueOf values "reporting_date" with
  | .datetime moment => .ok moment.date
  | .date day => .ok day
  | raw => do
    match ← parseTimestamp readers raw "reporting_date" with
    | some moment => .ok moment.date
    | none => .error (.contract "CONTROL väli 'reporting_date' on kohustuslik.")

def requireControl : Except WorkbookExn WorkbookControl := do
  let missing := REQUIRED_CONTROL_KEYS.filter fun key => key ∉ values.keys
  if missing ≠ [] then
    throw (.contract ("CONTROL lehel puuduvad väljad: " ++ joinSorted missing ++ "."))
  let blank := REQUIRED_CONTROL_KEYS.filter fun key =>
    key ∉ OPTIONAL_VALUE_CONTROL_KEYS && (valueOf values key).isBlank
  if blank ≠ [] then
    throw (.contract ("CONTROL lehe väljad on tühjad: " ++ joinSorted blank ++ "."))
  let datasetKey := cellText MAX_SHORT_TEXT_LENGTH (valueOf values "dataset_key")
  if datasetKey ≠ DATASET_KEY then
    throw (.contract ("Vale andmestik: oodati '" ++ DATASET_KEY ++ "', sain " ++
      readers.repr datasetKey ++ "."))
  let schemaVersion := cellText MAX_SHORT_TEXT_LENGTH (valueOf values "schema_version")
  if schemaVersion ∉ SUPPORTED_SCHEMA_VERSIONS then
    throw (.contract ("Toetamata skeemi versioon " ++ readers.repr schemaVersion ++
      ". Toetatud: " ++ PyText.join ", " SUPPORTED_SCHEMA_VERSIONS ++ "."))
  match ← parseTimestamp readers (valueOf values "generated_at") "generated_at" with
  | none => throw (.contract "CONTROL väli 'generated_at' on kohustuslik.")
  | some generatedAt =>
    let reportingDate ← reportingDateOf readers values
    let totalRecordCount ← controlCount values "total_record_count"
    let openRecordCount ← controlCount values "open_record_count"
    let sentRecordCount ← controlCount values "sent_record_count"
    let notSentRecordCount ← controlCount values "not_sent_record_count"
    let warningRecordCount ← controlCount values "warning_record_count"
    let sourceModifiedAt ← parseTimestamp readers (valueOf values "source_modified_at")
      "source_modified_at"
    return { datasetKey, schemaVersion,
             sourceSheet := cellText MAX_SHORT_TEXT_LENGTH (valueOf values "source_sheet"),
             sourceModifiedAt, generatedAt, reportingDate, totalRecordCount, openRecordCount,
             sentRecordCount, notSentRecordCount, warningRecordCount,
             refreshStatus := cellText MAX_SHORT_TEXT_LENGTH (valueOf values "refresh_status"),
             generatorVersion :=
               cellText MAX_SHORT_TEXT_LENGTH (valueOf values "generator_version") }

end Control

/-! ## The data sheet -/

def requireDataTable (sheet : Sheet) : Except WorkbookExn Unit :=
  let found := joinSorted (sheet.tables.map Prod.fst)
  if DATA_TABLE_NAME ∈ sheet.tables.map Prod.fst then .ok ()
  else .error (.contract ("DATA lehel puudub Exceli tabel '" ++ DATA_TABLE_NAME ++ "'. Leitud: " ++
    (if found = "" then "(ühtegi)" else found) ++ "."))

/-- The declared version decides which columns are required. -/
def requireHeader (sheet : Sheet) (schemaVersion : String) : Except WorkbookExn Unit :=
  let expected := if schemaVersion = "1.2" then DATA_COLUMNS_V12 else DATA_COLUMNS
  let header := ((sheet.row 1).take expected.length).map (cellText MAX_CELL_TEXT_LENGTH)
  if header = expected then .ok ()
  else .error (.contract ("DATA veerud ei vasta kokkuleppele.\nOodatud: " ++
    PyText.join ", " expected ++ "\nLeitud:  " ++ PyText.join ", " header))

/-- The first formula of the sheet, by its row and column. -/
def formulaAt? (sheet : Sheet) : Option (Nat × Nat) :=
  ((sheet.fittedFrom 2 DATA_COLUMNS_V12.length).flatMap fun row =>
    row.2.zipIdx.filterMap fun cell =>
      match cell.1 with
      | .text content => if content.toList.head? = some '=' then some (row.1, cell.2) else none
      | _ => none).head?

/-- A formula in the data means that the file is no deterministic export. -/
def rejectFormulas (formulas : Book) : Except WorkbookExn Unit := do
  let sheet ← sheetOf formulas DATA_SHEET
  match formulaAt? sheet with
  | none => return ()
  | some (row, column) =>
    throw (.contract ("DATA lahtris " ++ Sheet.coordinate column row ++
      " on valem. Kanoonilises tabelis peavad olema arvutatud väärtused."))

/-- `cells[name]` of a row; a column the row does not reach is `None`. -/
def cellOf (values : List Cell) (name : String) : Cell :=
  ((DATA_COLUMNS_V12.zip values).lookup name).getD .empty

/-- `cells["refreshed_at"]` where it is a time. -/
def momentOf : Cell → Option DateTime
  | .datetime moment => some moment
  | _ => none

section Rows

variable (readers : TextReaders)

def parseRow (values : List Cell) (rowNumber : Nat) : Except WorkbookExn WorkbookRow := do
  let cells := cellOf values
  let number := toString rowNumber
  let recordId := cellText 64 (cells "record_id")
  if recordId = "" then
    throw (.contract ("Reas " ++ number ++ " puudub 'record_id'."))
  let topic := cellText MAX_TOPIC_LENGTH (cells "topic")
  if topic = "" then
    throw (.contract ("Reas " ++ number ++ " puudub 'topic'."))
  let sentStatus := cellText 32 (cells "sent_status")
  if sentStatus ∉ VALID_SENT_STATUSES then
    throw (.contract ("Reas " ++ number ++ " on tundmatu 'sent_status' " ++
      readers.repr sentStatus ++ ". Lubatud: " ++ joinSorted VALID_SENT_STATUSES ++ "."))
  let sentDate ← asDate (cells "sent_date") "sent_date" rowNumber
  if sentStatus = "sent" ∧ sentDate = none then
    throw (.contract ("Reas " ++ number ++ " on olek 'sent', kuid 'sent_date' puudub."))
  if sentStatus ≠ "sent" ∧ sentDate ≠ none then
    throw (.contract ("Reas " ++ number ++ " on 'sent_date' olemas, kuid olek on " ++
      readers.repr sentStatus ++ "."))
  let sourceYear ← asInt (cells "source_year") "source_year" rowNumber
  let sourceNr ← asIntOrNone (cells "source_nr") "source_nr" rowNumber
  let receivedDate ← asDate (cells "received_date") "received_date" rowNumber
  let deadlineDate ← asDate (cells "deadline_date") "deadline_date" rowNumber
  let isOpen ← asBool (cells "is_open") "is_open" rowNumber
  let sourceRow ← asInt (cells "source_row") "source_row" rowNumber
  let feedbackMemberCount ← asIntOrNone (cells "feedback_member_count")
    "feedback_member_count" rowNumber
  let feedbackRequestedMemberCount ← asIntOrNone (cells "feedback_requested_member_count")
    "feedback_requested_member_count" rowNumber
  return { recordId, sourceYear, sourceNr, topic, actType := cellText 100 (cells "act_type"),
           receivedDate, deadlineDate, sentDate, sentStatus,
           recipient := cellText 200 (cells "recipient"), stage := cellText 200 (cells "stage"),
           stageKey := cellText 200 (cells "stage_key"), nextStep :=
             cellText 300 (cells "next_step"),
           isOpen, warningCodes := splitWarningCodes (cells "warning_codes"), sourceRow,
           refreshedAt := momentOf (cells "refreshed_at"), feedbackMemberCount,
           feedbackRequestedMemberCount }

def dataRows (sheet : Sheet) : List (Nat × List Cell) :=
  (sheet.fittedFrom 2 DATA_COLUMNS_V12.length).filter fun row => row.2.any (· ≠ .empty)

/-- The loop over the rows, with what was seen before them. -/
def parseRows : List (Nat × List Cell) → List String → List (Int × Int) →
    Except WorkbookExn (List WorkbookRow)
  | [], _, _ => .ok []
  | (offset, values) :: rest, seenRecords, seenSourceRows => do
    let row ← parseRow readers values offset
    if row.recordId ∈ seenRecords then
      throw (.contract ("Korduv 'record_id' " ++ readers.repr row.recordId ++ " real " ++
        toString offset ++ "."))
    let sourceKey := (row.sourceYear, row.sourceRow)
    if sourceKey ∈ seenSourceRows then
      throw (.contract ("Korduv aasta ja lähterea kombinatsioon (" ++
        toString row.sourceYear ++ ", " ++ toString row.sourceRow ++ ") real " ++
        toString offset ++ "."))
    let rows ← parseRows rest (row.recordId :: seenRecords) (sourceKey :: seenSourceRows)
    return row :: rows

end Rows

def readWarnings (sheet : Sheet) : List (Dict String String) :=
  let header := (sheet.row 1).map fun cell => if cell = .empty then "" else PyText.strip cell.str
  let wanted := ["record_id", "source_row", "field", "warning_code"]
  let indexes : Dict String Nat := Dict.ofList (header.zipIdx.filter fun name => name.1 ∈ wanted)
  ((sheet.numberedFrom 2).filter fun row => row.2.any (· ≠ .empty)).map fun row =>
    Dict.ofList (indexes.entries.map fun entry =>
      (entry.1, match row.2[entry.2]? with | some value => cellText 64 value | none => ""))

/-! ## The whole workbook -/

/-- The declared counts that differ from what the data holds. -/
def countMismatches (control : WorkbookControl) (parsed : ParsedWorkbook) : List String :=
  let checks : List (String × Int × Nat) :=
    [("total_record_count", control.totalRecordCount, parsed.rows.length),
      ("open_record_count", control.openRecordCount, parsed.openCount),
      ("sent_record_count", control.sentRecordCount, parsed.sentCount),
      ("not_sent_record_count", control.notSentRecordCount, parsed.notSentCount),
      ("warning_record_count", control.warningRecordCount, parsed.warningRecordCount)]
  (checks.filter fun check => check.2.1 ≠ check.2.2).map fun check =>
    check.1 ++ ": CONTROL " ++ toString check.2.1 ++ ", DATA " ++ toString check.2.2

def checkControlCounts (control : WorkbookControl) (parsed : ParsedWorkbook) :
    Except WorkbookExn Unit :=
  let mismatches := countMismatches control parsed
  if mismatches ≠ [] then
    .error
      (.contract ("CONTROL ei ole DATA lehega kooskõlas: " ++ PyText.join "; " mismatches ++ "."))
  else .ok ()

/-- Reads and validates a workbook, given with its formulas and with their values. -/
def parseWorkbook (readers : TextReaders) (formulas workbook : Book) :
    Except WorkbookExn ParsedWorkbook := do
  rejectFormulas formulas
  let missingSheets := REQUIRED_SHEETS.filter fun name => name ∉ workbook.sheetnames
  if missingSheets ≠ [] then
    throw (.contract ("Töövihikus puuduvad lehed: " ++ PyText.join ", " missingSheets ++ "."))
  let controlSheet ← sheetOf workbook CONTROL_SHEET
  let control ← requireControl readers (readControl controlSheet)
  let dataSheet ← sheetOf workbook DATA_SHEET
  requireDataTable dataSheet
  requireHeader dataSheet control.schemaVersion
  let rows ← parseRows readers (dataRows dataSheet) [] []
  let warningsSheet ← sheetOf workbook WARNINGS_SHEET
  let parsed : ParsedWorkbook := { control, rows, warnings := readWarnings warningsSheet }
  checkControlCounts control parsed
  return parsed

/-! ## What is accepted -/

/-- A row is marked sent exactly when it has a sent date. -/
theorem parseRow_sent {readers : TextReaders} {values : List Cell} {rowNumber : Nat}
    {row : WorkbookRow}
    (h : parseRow readers values rowNumber = .ok row) :
    row.sentStatus = "sent" ↔ row.sentDate ≠ none := by
  unfold parseRow at h
  obtain ⟨-, h⟩ := raiseIf_eq_ok_iff.mp h
  obtain ⟨-, h⟩ := raiseIf_eq_ok_iff.mp h
  obtain ⟨-, h⟩ := raiseIf_eq_ok_iff.mp h
  obtain ⟨sentDate, -, h⟩ := bind_eq_ok_iff.mp h
  obtain ⟨hsent, h⟩ := raiseIf_eq_ok_iff.mp h
  obtain ⟨hunsent, h⟩ := raiseIf_eq_ok_iff.mp h
  -- the cells that are left cannot change what was read
  obtain ⟨_, -, h⟩ := bind_eq_ok_iff.mp h
  obtain ⟨_, -, h⟩ := bind_eq_ok_iff.mp h
  obtain ⟨_, -, h⟩ := bind_eq_ok_iff.mp h
  obtain ⟨_, -, h⟩ := bind_eq_ok_iff.mp h
  obtain ⟨_, -, h⟩ := bind_eq_ok_iff.mp h
  obtain ⟨_, -, h⟩ := bind_eq_ok_iff.mp h
  obtain ⟨_, -, h⟩ := bind_eq_ok_iff.mp h
  obtain ⟨_, -, h⟩ := bind_eq_ok_iff.mp h
  cases h
  constructor
  · exact fun hstatus hdate => hsent ⟨hstatus, hdate⟩
  · intro hdate
    by_contra hstatus
    exact hunsent ⟨hstatus, hdate⟩

/-- What the loop returns is new to what was seen before, and new row by row. -/
theorem parseRows_fresh {readers : TextReaders} {numbered : List (Nat × List Cell)}
    {seenRecords : List String} {seenSourceRows : List (Int × Int)} {rows : List WorkbookRow}
    (h : parseRows readers numbered seenRecords seenSourceRows = .ok rows) :
    List.Forall₂ (fun line row => parseRow readers line.2 line.1 = .ok row) numbered rows ∧
    ((rows.map (·.recordId)).Nodup ∧ ∀ row ∈ rows, row.recordId ∉ seenRecords) ∧
    (rows.map fun row => (row.sourceYear, row.sourceRow)).Nodup ∧
      ∀ row ∈ rows, (row.sourceYear, row.sourceRow) ∉ seenSourceRows := by
  induction numbered generalizing seenRecords seenSourceRows rows with
  | nil =>
    cases h
    exact ⟨List.Forall₂.nil, ⟨List.nodup_nil, fun _ hrow => absurd hrow List.not_mem_nil⟩,
      List.nodup_nil, fun _ hrow => absurd hrow List.not_mem_nil⟩
  | cons line rest ih =>
    obtain ⟨row, hrow, h⟩ := bind_eq_ok_iff.mp h
    obtain ⟨hrecord, h⟩ := raiseIf_eq_ok_iff.mp h
    obtain ⟨hsource, h⟩ := raiseIf_eq_ok_iff.mp h
    obtain ⟨later, hlater, h⟩ := bind_eq_ok_iff.mp h
    obtain ⟨hparsed, ⟨hrecords, hnewRecords⟩, hsources, hnewSources⟩ := ih hlater
    cases h
    refine ⟨List.Forall₂.cons hrow hparsed, ⟨?_, ?_⟩, ?_, ?_⟩
    · rw [List.map_cons, List.nodup_cons]
      refine ⟨fun hmem => ?_, hrecords⟩
      obtain ⟨other, hother, hsame⟩ := List.mem_map.mp hmem
      exact hnewRecords other hother (hsame ▸ List.mem_cons_self)
    · intro other hother
      cases List.mem_cons.mp hother with
      | inl heq => exact heq ▸ hrecord
      | inr hmem => exact fun hseen => hnewRecords other hmem (List.mem_cons_of_mem _ hseen)
    · rw [List.map_cons, List.nodup_cons]
      refine ⟨fun hmem => ?_, hsources⟩
      obtain ⟨other, hother, hsame⟩ := List.mem_map.mp hmem
      exact hnewSources other hother (hsame ▸ List.mem_cons_self)
    · intro other hother
      cases List.mem_cons.mp hother with
      | inl heq => exact heq ▸ hsource
      | inr hmem => exact fun hseen => hnewSources other hmem (List.mem_cons_of_mem _ hseen)

structure CountsAgree (parsed : ParsedWorkbook) : Prop where
  total : parsed.control.totalRecordCount = parsed.rows.length
  opened : parsed.control.openRecordCount = parsed.openCount
  sent : parsed.control.sentRecordCount = parsed.sentCount
  notSent : parsed.control.notSentRecordCount = parsed.notSentCount
  warning : parsed.control.warningRecordCount = parsed.warningRecordCount

theorem countMismatches_eq_nil_iff {parsed : ParsedWorkbook} :
    countMismatches parsed.control parsed = [] ↔ CountsAgree parsed := by
  unfold countMismatches
  rw [List.map_eq_nil_iff, List.filter_eq_nil_iff]
  constructor
  · intro h
    simp only [List.forall_mem_cons, decide_eq_true_eq, not_not] at h
    exact ⟨h.1, h.2.1, h.2.2.1, h.2.2.2.1, h.2.2.2.2.1⟩
  · intro h
    simp [h.total, h.opened, h.sent, h.notSent, h.warning]

/-- What an accepted workbook keeps: its rows are the rows of the data sheet, identified twice over,
each with a date exactly when it is sent, and in the numbers the control sheet declares. -/
structure Accepted (readers : TextReaders) (workbook : Book) (parsed : ParsedWorkbook) : Prop where
  rows : ∃ sheet, workbook.sheet? DATA_SHEET = some sheet ∧
    List.Forall₂ (fun line row => parseRow readers line.2 line.1 = .ok row)
      (dataRows sheet) parsed.rows
  recordIds : (parsed.rows.map (·.recordId)).Nodup
  sourceRows : (parsed.rows.map fun row => (row.sourceYear, row.sourceRow)).Nodup
  sent : ∀ row ∈ parsed.rows, row.sentStatus = "sent" ↔ row.sentDate ≠ none
  counts : CountsAgree parsed

theorem sheetOf_eq_ok_iff {book : Book} {name : String} {sheet : Sheet} :
    sheetOf book name = .ok sheet ↔ book.sheet? name = some sheet := by
  unfold sheetOf
  cases book.sheet? name with
  | none => simp
  | some found => simp

theorem parseWorkbook_accepted (readers : TextReaders) (formulas workbook : Book)
    (parsed : ParsedWorkbook)
    (h : parseWorkbook readers formulas workbook = .ok parsed) :
      Accepted readers workbook parsed := by
  obtain ⟨_, -, h⟩ := bind_eq_ok_iff.mp h
  obtain ⟨-, h⟩ := raiseIf_eq_ok_iff.mp h
  obtain ⟨_, -, h⟩ := bind_eq_ok_iff.mp h
  obtain ⟨control, -, h⟩ := bind_eq_ok_iff.mp h
  obtain ⟨dataSheet, hsheet, h⟩ := bind_eq_ok_iff.mp h
  obtain ⟨_, -, h⟩ := bind_eq_ok_iff.mp h
  obtain ⟨_, -, h⟩ := bind_eq_ok_iff.mp h
  obtain ⟨rows, hrows, h⟩ := bind_eq_ok_iff.mp h
  obtain ⟨warningsSheet, -, h⟩ := bind_eq_ok_iff.mp h
  obtain ⟨_, hcounts, h⟩ := bind_eq_ok_iff.mp h
  cases h
  obtain ⟨hparsed, ⟨hrecords, -⟩, hsources, -⟩ := parseRows_fresh hrows
  have hagree : countMismatches control ⟨control, rows, readWarnings warningsSheet⟩ = [] := by
    by_contra hmismatch
    unfold checkControlCounts at hcounts
    rw [if_pos hmismatch] at hcounts
    cases hcounts
  exact {
    rows := ⟨dataSheet, sheetOf_eq_ok_iff.mp hsheet, hparsed⟩
    recordIds := hrecords
    sourceRows := hsources
    sent := fun row hrow =>
      have ⟨_, _, hline⟩ := exists_of_mem_forall₂ hparsed hrow
      parseRow_sent hline
    counts := countMismatches_eq_nil_iff.mp hagree }

/-! ### A workbook with one opinion sent and one in the works -/

def sampleReaders : TextReaders where
  repr text := "'" ++ text ++ "'"
  timestamp _ := none

def sampleDay : Date := .of 2026 3 2

def sampleMoment : DateTime := ⟨sampleDay, "2026-03-02 08:00:00"⟩

def sampleControl : List (List Cell) :=
  [[.text "dataset_key", .text "oigusloome"], [.text "schema_version", .text "1.1"],
    [.text "source_file_name", .text "a"], [.text "source_sheet", .text "2026"],
    [.text "source_modified_at", .empty], [.text "source_sha256", .text "b"],
    [.text "generated_at", .datetime sampleMoment], [.text "reporting_date", .date sampleDay],
    [.text "total_record_count", .int 2], [.text "open_record_count", .int 1],
    [.text "sent_record_count", .int 1], [.text "not_sent_record_count", .int 0],
    [.text "warning_record_count", .int 1], [.text "refresh_status", .text "ok"],
    [.text "generator_version", .text "1"]]

def sampleRow (recordId : String) (sentDate : Cell) (sentStatus : String) (isOpen : Bool)
    (warningCodes : Cell) (sourceRow : Int) : List Cell :=
  [.text recordId, .int 2026, .empty, .text "Act", .empty, .empty, .empty, sentDate,
    .text sentStatus,
    .empty, .empty, .empty, .empty, .bool isOpen, warningCodes, .int sourceRow, .empty]

def sampleData : List (List Cell) :=
  [DATA_COLUMNS.map .text, sampleRow "2026-1" (.date sampleDay) "sent" false .empty 4,
    List.replicate 17 .empty, sampleRow "2026-2" .empty "pending" true (.text "late, odd") 5]

def sampleWorkbook : Book where
  sheets := [("CONTROL", ⟨sampleControl, []⟩), ("OVERVIEW", ⟨[], []⟩),
    ("DATA", ⟨sampleData, [("tbl_oigusloome", "A1:Q4")]⟩), ("WARNINGS", ⟨[], []⟩)]

theorem parseWorkbook_accepted_sample : ∃ parsed,
    parseWorkbook sampleReaders sampleWorkbook sampleWorkbook = .ok parsed ∧
    parsed.rows.length = 2 ∧
      Accepted sampleReaders sampleWorkbook parsed := by
  have hok : (parseWorkbook sampleReaders sampleWorkbook sampleWorkbook).toOption.map
      (·.rows.length) =
      some 2 := by decide +kernel
  cases hparsed : parseWorkbook sampleReaders sampleWorkbook sampleWorkbook with
  | error e =>
    rw [hparsed] at hok
    cases hok
  | ok parsed =>
    rw [hparsed] at hok
    exact ⟨parsed, rfl, Option.some.inj hok,
      parseWorkbook_accepted sampleReaders sampleWorkbook sampleWorkbook parsed hparsed⟩

end Dashkoda.LegalWork
