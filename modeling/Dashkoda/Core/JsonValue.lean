import Dashkoda.Lib.PyText

/-!
# What `json.loads` returns

Any JSON value, with the questions the readers ask of it before they know what it is.
-/

open Lib

namespace Dashkoda.Core

/-- Exceptions that are not part of a reader's own contract. -/
inductive Uncaught
  | attributeError
  | typeError
  | valueError
  | recursionError
  | overflowError
  | dataError
  | integrityError
  | zipError
  | csvError
  deriving DecidableEq

/-- Of a number that is not an integer only its text and whether it is zero are read. -/
inductive JsonValue
  | null
  | bool (b : Bool)
  | int (n : Int)
  | float (text : String) (zero : Bool)
  | str (s : String)
  | list (items : List JsonValue)
  | dict (fields : List (String × JsonValue))

abbrev JsonDict := List (String × JsonValue)

/-- `json.loads` returns a value, or raises `JSONDecodeError` or something else. -/
inductive Loaded
  | value (value : JsonValue)
  | jsonDecodeError
  | raised (exn : Uncaught)

namespace JsonValue

/-- `bool(value)` -/
def truthy : JsonValue → Bool
  | null => false
  | bool b => b
  | int n => n ≠ 0
  | float _ zero => !zero
  | str s => s ≠ ""
  | list items => !items.isEmpty
  | dict fields => !fields.isEmpty

/-- `str(value)`; of a list or a dictionary it is a parameter. -/
def asText (repr : JsonValue → String) : JsonValue → String
  | null => "None"
  | bool true => "True"
  | bool false => "False"
  | int n => toString n
  | float text _ => text
  | str s => s
  | value => repr value

end JsonValue

/-- `fields.get(key)`, with what is there instead. -/
def JsonDict.getD (fields : JsonDict) (key : String) (default : JsonValue) : JsonValue :=
  (fields.lookup key).getD default

end Dashkoda.Core
