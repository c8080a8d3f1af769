import Dashkoda.Lib.PyText
import Mathlib.Data.Finset.Basic
import Mathlib.Data.String.Basic

/-!
# Folding text before it is compared

The typography of a text is folded, its words are found, and the words are cut into character
n-grams.  The tables of Unicode are a parameter.
-/

open Lib

namespace Dashkoda.Core

/-- `unicodedata.normalize("NFC", ·)`, `str.casefold`, and the letters and digits of `[^\W_]`. -/
structure UnicodeTables where
  nfc : String → String
  casefold : String → String
  isLetter : Char → Bool

/-- `PUNCTUATION_MAP` -/
def foldPunctuation (c : Char) : Char :=
  if c ∈ ['„', '“', '”', '«', '»'] then '"'
  else if c ∈ ['‘', '’', '′'] then Char.ofNat 39
  else if c ∈ ['–', '—', '−', '‐', '‑'] then '-'
  else if c = '…' ∨ c.toNat ∈ [0xa0, 0x202f, 0x2009] then ' '
  else c

/-- `value.translate(table)`, for a table of single characters. -/
def translate (table : Char → Char) (value : String) : String :=
  String.ofList (value.toList.map table)

section Fold

variable (tables : UnicodeTables)

def fold (value : String) : String :=
  if value = "" then ""
  else PyText.join " "
    (PyText.split (tables.casefold (translate foldPunctuation (tables.nfc value))))

def finishedToken (current : List Char) : List String :=
  if current = [] then [] else [String.ofList current.reverse]

/-- Reads the words from here on; `current` is the word being read, backwards.  A hyphen or a full
stop belongs to it where a letter follows. -/
def scanTokens (isLetter : Char → Bool) : List Char → List Char → List String
  | current, [] => finishedToken current
  | current, c :: rest =>
    if isLetter c ∨ (current ≠ [] ∧ (c = '-' ∨ c = '.') ∧ rest.head?.any isLetter) then
      scanTokens isLetter (c :: current) rest
    else finishedToken current ++ scanTokens isLetter [] rest

/-- `TOKEN_PATTERN.findall` -/
def findTokens (text : String) : List String := scanTokens tables.isLetter [] text.toList

end Fold

def characterNgrams (tokens : List String) (size : Nat) : Finset String :=
  let joined := (PyText.join " " tokens).toList
  if joined.length < size then if joined = [] then ∅ else {String.ofList joined}
  else ((List.range (joined.length - size + 1)).map fun index =>
    String.ofList ((joined.drop index).take size)).toFinset

/-- Lower-case texts of ASCII letters and digits. -/
def plainTables : UnicodeTables := ⟨id, id, fun c => c.isAlphanum⟩

example : findTokens plainTables "teadus- ja 1.2 b." = ["teadus", "ja", "1.2", "b"] := by
  decide +kernel

end Dashkoda.Core
