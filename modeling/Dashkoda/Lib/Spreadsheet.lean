import Dashkoda.Lib.IsoDate
import Dashkoda.Lib.PyText

/-!
# Workbooks as a reader library hands them over

A sheet is its rows of cell values, row 1 first, with the names and ranges of its tables.
-/

namespace Lib

/-- A date with a time, which its text determines. -/
structure DateTime where
  date : Date
  text : String
  deriving DecidableEq

/-- The value of a cell.  A float is given by its shortest text, any other object by its type and
its text. -/
inductive Cell
  | empty
  | text (content : String)
  | bool (b : Bool)
  | int (n : Int)
  | float (digits : String)
  | datetime (moment : DateTime)
  | date (day : Date)
  | other (typeName content : String)
  deriving DecidableEq

namespace Cell

/-- `str(value)` -/
def str : Cell → String
  | empty => "None"
  | text content => content
  | bool true => "True"
  | bool false => "False"
  | int n => toString n
  | float digits => digits
  | datetime moment => moment.text
  | date day => day.isoformat
  | other _ content => content

/-- `type(value).__name__` -/
def typeName : Cell → String
  | empty => "NoneType"
  | text _ => "str"
  | bool _ => "bool"
  | int _ => "int"
  | float _ => "float"
  | datetime _ => "datetime"
  | date _ => "date"
  | other typeName _ => typeName

def isBlank : Cell → Bool
  | empty => true
  | text content => PyText.strip content = ""
  | _ => false

end Cell

structure Sheet where
  rows : List (List Cell)
  /-- The ranges of the tables under their names. -/
  tables : List (String × String)

namespace Sheet

/-- A row cut or filled up to so many columns. -/
def fit (width : Nat) (row : List Cell) : List Cell :=
  (row ++ List.replicate width Cell.empty).take width

/-- `sheet.iter_rows(min_row=first, values_only=True)` with the numbers of the rows. -/
def numberedFrom (sheet : Sheet) (first : Nat) : List (Nat × List Cell) :=
  (sheet.rows.zipIdx 1).filterMap fun row => if first ≤ row.2 then some (row.2, row.1) else none

/-- `sheet.iter_rows(min_row=first, max_col=width, values_only=True)` with the numbers of the
rows. -/
def fittedFrom (sheet : Sheet) (first width : Nat) : List (Nat × List Cell) :=
  (sheet.numberedFrom first).map fun row => (row.1, fit width row.2)

/-- `sheet[number]` -/
def row (sheet : Sheet) (number : Nat) : List Cell := (sheet.rows[number - 1]?).getD []

/-- The letters of a column, counted from 0. -/
def columnLetters : Nat → Nat → List Char
  | 0, _ => []
  | fuel + 1, column =>
    let last := Char.ofNat (65 + column % 26)
    if column < 26 then [last] else columnLetters fuel (column / 26 - 1) ++ [last]

/-- `cell.coordinate`, the column counted from 0. -/
def coordinate (column number : Nat) : String :=
  String.ofList (columnLetters (column + 1) column) ++ toString number

end Sheet

/-- The sheets under their names. -/
structure Book where
  sheets : List (String × Sheet)

namespace Book

def sheetnames (book : Book) : List String := book.sheets.map Prod.fst

/-- `workbook[name]`; `none` is the `KeyError`. -/
def sheet? (book : Book) (name : String) : Option Sheet := book.sheets.lookup name

end Book

end Lib
