import Mathlib.Data.List.Basic

/-!
# Patterns as Python's `re` matches them

A pattern tries its alternatives in order and the first match counts.  Only single characters are
repeated, and `findAll` is for patterns that match no empty text.
-/

namespace Lib

/-- What the patterns need to know about characters beyond ASCII. -/
structure CharClasses where
  /-- The value of a decimal digit, `\d`. -/
  digit? : Char → Option Nat
  /-- `\w` -/
  isWord : Char → Bool
  /-- Whether two characters match each other under `re.IGNORECASE`. -/
  equalFold : Char → Char → Bool
  /-- `text.lower()` -/
  lower : String → String

inductive Regex where
  | eps
  | char (accepts : Char → Bool)
  | seq (first second : Regex)
  | alt (first second : Regex)
  | group (body : Regex)
  /-- Up to so many characters, as many or as few as possible first. -/
  | upTo (greedy : Bool) (count : Nat) (accepts : Char → Bool)
  /-- Any number of characters, as many as possible first. -/
  | star (accepts : Char → Bool)
  /-- `\b` -/
  | boundary (isWord : Char → Bool)

namespace Regex

/-- A place in the text: the character before it, what follows, and the groups captured so far. -/
structure Cursor where
  before : Option Char
  rest : List Char
  groups : List String

/-- One more character, where it is accepted. -/
def Cursor.step (accepts : Char → Bool) (cursor : Cursor) : List Cursor :=
  match cursor.rest with
  | [] => []
  | c :: rest => if accepts c then [{ cursor with before := some c, rest }] else []

def upToRuns (greedy : Bool) (accepts : Char → Bool) : Nat → Cursor → List Cursor
  | 0, cursor => [cursor]
  | count + 1, cursor =>
    let longer := (cursor.step accepts).flatMap (upToRuns greedy accepts count)
    if greedy then longer ++ [cursor] else cursor :: longer

def starRuns (accepts : Char → Bool) (groups : List String) : Option Char → List Char → List Cursor
  | before, [] => [⟨before, [], groups⟩]
  | before, c :: rest =>
    (if accepts c then starRuns accepts groups (some c) rest else []) ++
      [⟨before, c :: rest, groups⟩]

/-- What was read between two places. -/
def consumed (start stop : Cursor) : String :=
  String.ofList (start.rest.take (start.rest.length - stop.rest.length))

/-- The places a pattern can end in, the preferred one first. -/
def runs : Regex → Cursor → List Cursor
  | eps, cursor => [cursor]
  | char accepts, cursor => cursor.step accepts
  | seq first second, cursor => (first.runs cursor).flatMap second.runs
  | alt first second, cursor => first.runs cursor ++ second.runs cursor
  | group body, cursor => (body.runs cursor).map fun stop =>
    { stop with groups := stop.groups ++ [consumed cursor stop] }
  | upTo greedy count accepts, cursor => upToRuns greedy accepts count cursor
  | star accepts, cursor => starRuns accepts cursor.groups cursor.before cursor.rest
  | boundary isWord, cursor =>
    if cursor.before.any isWord = (cursor.rest.head?).any isWord then [] else [cursor]

/-- The groups of every match from left to right; `skip` characters still belong to the last one. -/
def findAllFrom (pattern : Regex) : Nat → Option Char → List Char → List (List String)
  | _, _, [] => []
  | skip + 1, _, c :: rest => findAllFrom pattern skip (some c) rest
  | 0, before, c :: rest =>
    match pattern.runs ⟨before, c :: rest, []⟩ with
    | [] => findAllFrom pattern 0 (some c) rest
    | stop :: _ => stop.groups :: findAllFrom pattern (rest.length - stop.rest.length) (some c) rest

/-- `pattern.findall(text)` -/
def findAll (pattern : Regex) (text : String) : List (List String) :=
  pattern.findAllFrom 0 none text.toList

/-- Whether the pattern matches here or later. -/
def searchFrom (pattern : Regex) : Option Char → List Char → Bool
  | before, [] => !(pattern.runs ⟨before, [], []⟩).isEmpty
  | before, c :: rest =>
    !(pattern.runs ⟨before, c :: rest, []⟩).isEmpty || pattern.searchFrom (some c) rest

/-- `pattern.search(text)`, as a condition -/
def search (pattern : Regex) (text : String) : Bool := pattern.searchFrom none text.toList

/-- `[chars]?` -/
def optional (accepts : Char → Bool) : Regex := upTo true 1 accepts

def sequence (parts : List Regex) : Regex := parts.foldr seq eps

/-- `first|second|…` -/
def anyOf : List Regex → Regex
  | [] => char fun _ => false
  | [only] => only
  | first :: rest => alt first (anyOf rest)

end Regex

namespace CharClasses

variable (classes : CharClasses)

/-- `\d` -/
def digit : Regex := .char fun c => (classes.digit? c).isSome

/-- `\d{low,high}` -/
def digits (low high : Nat) : Regex :=
  .seq (.sequence (List.replicate low classes.digit))
    (.upTo true (high - low) fun c => (classes.digit? c).isSome)

/-- A literal text under `re.IGNORECASE`. -/
def literal (text : String) : Regex :=
  .sequence (text.toList.map fun c => .char (classes.equalFold c))

/-- `int(text)` of a text of digits. -/
def number (text : String) : Nat :=
  text.toList.foldl (fun value c => value * 10 + (classes.digit? c).getD 0) 0

end CharClasses

/-- The classes of a text without characters beyond ASCII. -/
def asciiClasses : CharClasses where
  digit? c := if c.isDigit then some (c.toNat - '0'.toNat) else none
  isWord c := c.isAlphanum || c = '_'
  equalFold a b := a.toLower = b.toLower
  lower text := String.ofList (text.toList.map Char.toLower)

end Lib
