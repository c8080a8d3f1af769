import Dashkoda.Lib.Ranking
import Mathlib.Data.String.Basic

/-!
# Compact JSON text with sorted keys

The text of `json.dumps(value, sort_keys=True, separators=(",", ":"), ensure_ascii=False)`.
-/

namespace Lib

inductive Json
  | null
  | bool (b : Bool)
  | int (n : Int)
  | str (s : String)
  | arr (items : List Json)
  | obj (fields : List (String × Json))

namespace Json

def hexDigit (n : Nat) : Char := if n < 10 then Char.ofNat (48 + n) else Char.ofNat (87 + n)

/-- One character inside a JSON string. -/
def escapeChar (c : Char) : List Char :=
  if c = '"' then ['\\', '"']
  else if c = '\\' then ['\\', '\\']
  else if c.toNat = 10 then ['\\', 'n']
  else if c.toNat = 13 then ['\\', 'r']
  else if c.toNat = 9 then ['\\', 't']
  else if c.toNat = 12 then ['\\', 'f']
  else if c.toNat = 8 then ['\\', 'b']
  else if c.toNat < 32 then ['\\', 'u', '0', '0', hexDigit (c.toNat / 16), hexDigit (c.toNat % 16)]
  else [c]

def quote (s : String) : List Char := '"' :: s.toList.flatMap escapeChar ++ ['"']

mutual

def chars : Json → List Char
  | null => ['n', 'u', 'l', 'l']
  | bool true => ['t', 'r', 'u', 'e']
  | bool false => ['f', 'a', 'l', 's', 'e']
  | int n => (toString n).toList
  | str s => quote s
  | arr items => '[' :: [','].intercalate (itemsChars items) ++ [']']
  | obj fields =>
    '\x7b' :: [','].intercalate ((sortOn (·.1) (fieldsChars fields)).map fun field =>
      quote field.1 ++ ':' :: field.2) ++ ['\x7d']

def itemsChars : List Json → List (List Char)
  | [] => []
  | item :: items => chars item :: itemsChars items

def fieldsChars : List (String × Json) → List (String × List Char)
  | [] => []
  | (name, value) :: fields => (name, chars value) :: fieldsChars fields

end

/-- `None` as `null`. -/
def ofOption {α : Type} (f : α → Json) : Option α → Json
  | none => null
  | some x => f x

end Json

end Lib
