import Dashkoda.Lib.Except
import Dashkoda.Lib.Spreadsheet

/-!
# Reading the cells of a canonical workbook

Both workbook readers type-check their cells in the same way: a value is parsed or refused, never
repaired.
-/

open Lib

namespace Dashkoda.Core

inductive WorkbookExn
  /-- `WorkbookContractError` -/
  | contract (message : String)
  /-- `KeyError` of a sheet that is not there. -/
  | keyError (name : String)
  deriving DecidableEq

/-- What the readers use of the language: `repr` of a text, and `datetime.fromisoformat`. -/
structure TextReaders where
  repr : String → String
  timestamp : String → Option DateTime

def MAX_CELL_TEXT_LENGTH : Nat := 200

/-- `_text(value, limit=limit)` -/
def cellText (limit : Nat) : Cell → String
  | .empty => ""
  | value => PyText.take limit (PyText.strip value.str)

/-- `_as_date` -/
def asDate (value : Cell) (column : String) (rowNumber : Nat) : Except WorkbookExn (Option Date) :=
  if value.isBlank then .ok none
  else
    match value with
    | .datetime moment => .ok (some moment.date)
    | .date day => .ok (some day)
    | value => .error (.contract ("Reas " ++ toString rowNumber ++ " ei ole veerg '" ++ column ++
        "' kuupäev vaid " ++ value.typeName ++ "."))

/-- What `_as_int` makes of a cell that is not blank. -/
def wholeNumber (value : Cell) (column : String) (rowNumber : Nat) : Except WorkbookExn Int :=
  match value with
  | .int n => .ok n
  | value => .error (.contract ("Reas " ++ toString rowNumber ++ " ei ole veerg '" ++ column ++
      "' täisarv vaid " ++ value.typeName ++ "."))

/-- `_as_int` -/
def asInt (value : Cell) (column : String) (rowNumber : Nat) : Except WorkbookExn Int :=
  if value.isBlank then
    .error
      (.contract ("Reas " ++ toString rowNumber ++ " puudub kohustuslik veerg '" ++ column ++ "'."))
  else wholeNumber value column rowNumber

/-- `_as_int(..., allow_none=True)` -/
def asIntOrNone (value : Cell) (column : String) (rowNumber : Nat) :
    Except WorkbookExn (Option Int) :=
  if value.isBlank then .ok none else (wholeNumber value column rowNumber).map some

/-- `_as_bool` -/
def asBool (value : Cell) (column : String) (rowNumber : Nat) : Except WorkbookExn Bool :=
  match value with
  | .bool b => .ok b
  | value => .error (.contract ("Reas " ++ toString rowNumber ++ " ei ole veerg '" ++ column ++
      "' tõeväärtus vaid " ++ value.typeName ++ "."))

/-- `_split_warning_codes`: codes between semicolons; a comma counts as one. -/
def splitWarningCodes : Cell → List String
  | .empty => []
  | value =>
    ((value.str.toList.splitOnP fun c => c = ';' || c = ',').map PyText.stripChars).filterMap
      fun part => if part = [] then none else some (String.ofList part)

/-- `_parse_timestamp` -/
def parseTimestamp (readers : TextReaders) (value : Cell) (key : String) :
    Except WorkbookExn (Option DateTime) :=
  if value.isBlank then .ok none
  else
    match value with
    | .datetime moment => .ok (some moment)
    | .text content =>
      match readers.timestamp (PyText.strip content) with
      | some moment => .ok (some moment)
      | none => .error (.contract ("CONTROL väli '" ++ key ++ "' ei ole kehtiv ajatempel."))
    | _ => .error (.contract ("CONTROL väli '" ++ key ++ "' ei ole ajatempel."))

/-- `workbook[name]` -/
def sheetOf (book : Book) (name : String) : Except WorkbookExn Sheet :=
  match book.sheet? name with
  | some sheet => .ok sheet
  | none => .error (.keyError name)

end Dashkoda.Core
