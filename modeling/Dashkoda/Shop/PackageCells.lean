import Dashkoda.Core.JsonValue
import Dashkoda.Lib.Contract
import Dashkoda.Lib.IsoDate
import Dashkoda.Lib.PyInt
import Dashkoda.Shop.Models

/-!
# The cells of the commerce package

Each cell is read by the kind of its column.  A text that passes the digit test is given to `int`,
which may still raise.
-/

open Lib

namespace Dashkoda.Shop.Package

open Core (Uncaught)

abbrev Reading (α : Type) := Lib.Reading Uncaught α

/-- The tables of Unicode: `\d` and `int`, `str.isdigit`, `str.upper`, and `repr` of a text. -/
structure TextTables where
  classes : CharClasses
  isdigit : Char → Bool
  upper : String → String
  repr : String → String

/-- `_text` -/
def text (value : Option String) : String := PyText.strip (value.getD "")

/-- `_required_text` -/
def requiredText (value : Option String) (column : String) : Reading String :=
  if text value = "" then Reading.refuse ("Veerg " ++ column ++ " on kohustuslik.") else
    .ok (text value)

section Cells

variable (tables : TextTables)

/-- `raw.lstrip("-").isdigit()` -/
def passesDigitTest (raw : String) : Bool :=
  let digits := raw.toList.dropWhile (· = '-')
  !digits.isEmpty && digits.all tables.isdigit

/-- `_optional_int` -/
def optionalInt (value : Option String) (column : String) : Reading (Option Int) :=
  if text value = "" then .ok none
  else if ¬ passesDigitTest tables (text value) then
    Reading.refuse ("Veerg " ++ column ++ " peab olema täisarv.")
  else match PyInt.parse tables.classes (text value).toList with
    | some n => .ok (some n)
    | none => Reading.escape .valueError

/-- `_required_int`, once the cell is read. -/
def given (column : String) : Option Int → Reading Int
  | some n => .ok n
  | none => Reading.refuse ("Veerg " ++ column ++ " on kohustuslik.")

def requiredInt (value : Option String) (column : String) : Reading Int := do
  given column (← optionalInt tables value column)

/-- The check of `_positive_id`. -/
def positive (column : String) (n : Int) : Reading Nat :=
  if n ≤ 0 then Reading.refuse ("Veerg " ++ column ++ " peab olema positiivne.") else .ok n.toNat

def positiveId (value : Option String) (column : String) : Reading Nat := do
  positive column (← requiredInt tables value column)

def digitsValue (digits : List Char) : Nat :=
  digits.foldl (fun number c => number * 10 + (tables.classes.digit? c).getD 0) 0

def isDecimalDigit (c : Char) : Bool := (tables.classes.digit? c).isSome

/-- `DECIMAL_PATTERN`, and the decimal of a text that matches it. -/
def readDecimal (raw : List Char) : Option SignedDecimal :=
  let negative := raw.head? = some '-'
  let body := if negative then raw.tail else raw
  let whole := body.takeWhile (isDecimalDigit tables)
  if whole = [] then none
  else match body.dropWhile (isDecimalDigit tables) with
    | [] => some ⟨negative, digitsValue tables whole, 0⟩
    | '.' :: fraction =>
      if fraction ≠ [] ∧ fraction.all (isDecimalDigit tables) = true then
        some ⟨negative, digitsValue tables (whole ++ fraction), -fraction.length⟩
      else none
    | _ => none

/-- `_optional_decimal` -/
def optionalDecimal (value : Option String) (column : String) : Reading (Option SignedDecimal) :=
  if text value = "" then .ok none
  else match readDecimal tables (text value).toList with
    | some decimal => .ok (some decimal)
    | none => Reading.refuse ("Veerg " ++ column ++ " peab olema kümnendarv ilma eksponendita: " ++
        tables.repr (PyText.take 20 (text value)) ++ ".")

/-- `_required_decimal` -/
def requiredDecimal (value : Option String) (column : String) : Reading SignedDecimal := do
  match ← optionalDecimal tables value column with
  | some decimal => return decimal
  | none => Reading.refuse ("Veerg " ++ column ++ " on kohustuslik.")

/-- `_not_negative` -/
def notNegative (column : String) (value : SignedDecimal) : Reading SignedDecimal :=
  if value.toRat < 0 then Reading.refuse
    ("Veerg " ++ column ++ " ei tohi olla negatiivne.") else .ok value

/-- `_not_negative(_required_decimal(…))` -/
def figure (value : Option String) (column : String) : Reading SignedDecimal := do
  notNegative column (← requiredDecimal tables value column)

def checkedPrice (column : String) : Option SignedDecimal → Reading Unit
  | none => .ok ()
  | some price => do
    let _ ← notNegative column price
    return ()

/-- `_optional_bool` -/
def optionalBool (value : Option String) (column : String) : Reading (Option Bool) :=
  let raw := tables.classes.lower (text value)
  if raw = "" then .ok none
  else if raw ∈ ["true", "1", "yes"] then .ok (some true)
  else if raw ∈ ["false", "0", "no"] then .ok (some false)
  else Reading.refuse ("Veerg " ++ column ++ " peab olema true, false või tühi.")

/-- `_required_date` -/
def requiredDate (value : Option String) (column : String) : Reading Date := do
  match Date.fromisoformat (← requiredText value column) with
  | some date => return date
  | none => Reading.refuse ("Veerg " ++ column ++ " peab olema kujul AAAA-KK-PP.")

end Cells

/-! ## Which cells let an exception escape -/

section Contracted

open Reading (Contracted)

variable {tables : TextTables} {value : Option String} {column : String}

/-- A cell that passes the digit test is a number to `int`: no second minus sign, no digit that is
not a decimal one, and not too many of them. -/
def ReadsAsInt (tables : TextTables) (value : Option String) : Prop :=
  passesDigitTest tables (text value) = true →
    (PyInt.parse tables.classes (text value).toList).isSome = true

@[simp] theorem contracted_requiredText : Contracted (requiredText value column) := by
  unfold requiredText
  split
  · exact Reading.contracted_refuse _
  · exact Reading.contracted_ok _

theorem contracted_optionalInt_iff : Contracted (optionalInt tables value column) ↔
    ReadsAsInt tables value := by
  unfold optionalInt ReadsAsInt
  by_cases hempty : text value = ""
  · rw [if_pos hempty, hempty]
    exact ⟨fun _ h => (by cases h), fun _ => Reading.contracted_ok _⟩
  · rw [if_neg hempty]
    by_cases hdigits : passesDigitTest tables (text value) = true
    · rw [if_neg (by rw [hdigits]; decide)]
      cases hparse : PyInt.parse tables.classes (text value).toList with
      | none =>
        exact ⟨fun h => absurd h (Reading.not_contracted_escape _), fun h => by cases h hdigits⟩
      | some n => exact ⟨fun _ _ => rfl, fun _ => Reading.contracted_ok _⟩
    · rw [if_pos hdigits]
      exact ⟨fun _ h => absurd h hdigits, fun _ => Reading.contracted_refuse _⟩

@[simp] theorem contracted_given (n : Option Int) : Contracted (given column n) := by
  cases n with
  | none => exact Reading.contracted_refuse _
  | some n => exact Reading.contracted_ok _

theorem contracted_requiredInt_iff : Contracted (requiredInt tables value column) ↔
    ReadsAsInt tables value := by
  unfold requiredInt
  rw [Reading.contracted_bind_of_forall fun n => contracted_given n, contracted_optionalInt_iff]

@[simp] theorem contracted_positive (n : Int) : Contracted (positive column n) := by
  unfold positive
  split
  · exact Reading.contracted_refuse _
  · exact Reading.contracted_ok _

theorem contracted_positiveId_iff : Contracted (positiveId tables value column) ↔
    ReadsAsInt tables value := by
  unfold positiveId
  rw [Reading.contracted_bind_of_forall fun n => contracted_positive n, contracted_requiredInt_iff]

@[simp] theorem contracted_optionalDecimal : Contracted (optionalDecimal tables value column) := by
  unfold optionalDecimal
  split
  · exact Reading.contracted_ok _
  · split
    · exact Reading.contracted_ok _
    · exact Reading.contracted_refuse _

@[simp] theorem contracted_requiredDecimal : Contracted (requiredDecimal tables value column) := by
  refine contracted_optionalDecimal.bind fun decimal _ => ?_
  cases decimal with
  | none => exact Reading.contracted_refuse _
  | some decimal => exact Reading.contracted_pure _

@[simp] theorem contracted_notNegative (decimal : SignedDecimal) :
    Contracted (notNegative column decimal) := by
  unfold notNegative
  split
  · exact Reading.contracted_refuse _
  · exact Reading.contracted_ok _

@[simp] theorem contracted_figure : Contracted (figure tables value column) :=
  contracted_requiredDecimal.bind fun decimal _ => contracted_notNegative decimal

@[simp] theorem contracted_checkedPrice (price : Option SignedDecimal) :
    Contracted (checkedPrice column price) := by
  cases price with
  | none => exact Reading.contracted_ok _
  | some price => exact (contracted_notNegative price).bind fun _ _ => Reading.contracted_pure ()

@[simp] theorem contracted_optionalBool : Contracted (optionalBool tables value column) := by
  unfold optionalBool
  dsimp only
  split
  · exact Reading.contracted_ok _
  · split
    · exact Reading.contracted_ok _
    · split
      · exact Reading.contracted_ok _
      · exact Reading.contracted_refuse _

@[simp] theorem contracted_requiredDate : Contracted (requiredDate value column) := by
  refine contracted_requiredText.bind fun raw _ => ?_
  cases Date.fromisoformat raw with
  | none => exact Reading.contracted_refuse _
  | some date => exact Reading.contracted_pure _

/-- A missing or empty cell of a required column is refused. -/
theorem requiredText_eq_ok_iff {parsed : String} :
    requiredText value column = .ok parsed ↔ text value ≠ "" ∧ parsed = text value := by
  unfold requiredText Reading.refuse
  split
  · rename_i h
    exact ⟨fun heq => (by cases heq), fun hne => absurd h hne.1⟩
  · rename_i h
    exact ⟨fun heq => ⟨h, (Except.ok.inj heq).symm⟩, fun heq => by rw [heq.2]⟩

end Contracted

end Dashkoda.Shop.Package
