import Dashkoda.Core.TextFolding

/-!
# Making event names comparable

Loanword letters are relaxed and labels in front of a name are dropped, on both sides of a
comparison.
-/

open Lib

namespace Dashkoda.EventProgramme

open Core (UnicodeTables fold translate findTokens characterNgrams)

/-- `PUBLICATION_LABELS`, a set -/
def PUBLICATION_LABELS : List String := ["järelvaatamine", "jarelvaatamine"]

def STOP_TOKENS : List String :=
  ["ja", "ning", "või", "voi", "kui", "on", "ei", "the", "and", "for", "in", "of", "with"]

/-- `LOANWORD_MARKS` -/
def loanwordMark (c : Char) : Char := if c = 'š' then 's' else if c = 'ž' then 'z' else c

def relaxLoanwordMarks (value : String) : String := translate loanwordMark value

/-- The tables, and the order in which the set of labels is gone through. -/
structure NameTables where
  unicode : UnicodeTables
  labels : List String
  labels_perm : labels.Perm PUBLICATION_LABELS

section Normalise

variable (tables : NameTables)

/-- What `_LEADING_LABEL` leaves, if it matches: blanks, a word of at least three letters, a
colon. -/
def afterLabel (text : List Char) : Option (List Char) :=
  let body := text.dropWhile PyText.isSpace
  let word := body.takeWhile tables.unicode.isLetter
  if word.length < 3 then none
  else match (body.dropWhile tables.unicode.isLetter).dropWhile PyText.isSpace with
    | ':' :: rest => some (rest.dropWhile PyText.isSpace)
    | _ => none

/-- The loop of `strip_labels`: at most so many labels are dropped, and never the whole text. -/
def dropLabels : Nat → List Char → List Char
  | 0, text => text
  | n + 1, text =>
    match afterLabel tables text with
    | none => text
    | some rest => if PyText.stripChars rest = [] then text else dropLabels n rest

def stripLabels (value : String) : String :=
  PyText.strip (String.ofList (dropLabels tables 3 value.toList))

/-- `folded[len(label):].lstrip(": ").strip()`, where the text starts so. -/
def dropPublicationLabel (folded label : String) : String :=
  if label.toList.isPrefixOf folded.toList then
    PyText.strip
      (String.ofList ((folded.toList.drop label.length).dropWhile fun c => c = ':' || c = ' '))
  else folded

def normalise (value : String) : String :=
  stripLabels tables
    (tables.labels.foldl dropPublicationLabel (relaxLoanwordMarks (fold tables.unicode value)))

/-- The content tokens of a name, in order. -/
def tokens (value : String) : List String :=
  (findTokens tables.unicode (normalise tables value)).filter fun token =>
    decide (token ∉ STOP_TOKENS) && decide (1 < token.length)

def tokenSet (value : String) : Finset String := (tokens tables value).toFinset

def ngrams (value : String) : Finset String := characterNgrams (tokens tables value) 4

end Normalise

def plainNames : NameTables := ⟨Core.plainTables, PUBLICATION_LABELS, List.Perm.refl _⟩

example : tokens plainNames "jarelvaatamine: hommikuseminar: maksud ja palk" =
    ["maksud", "palk"] := by decide +kernel

end Dashkoda.EventProgramme
