import Dashkoda.Lib.PyText
import Mathlib.Data.Finset.Basic
import Mathlib.Data.Finset.Image
import Mathlib.Data.String.Basic

/-!
# Normalising legal and editorial text

Two texts are compared by their content tokens and by the character n-grams of these.  How a text is
folded and where its words, acronyms and identifiers lie is left to the tables of Unicode and to
the patterns that use them.
-/

open Lib

namespace Dashkoda.LegalWork

/-- `fold`, and what the patterns of tokens, acronyms and identifiers find in a text. -/
structure TextPatterns where
  fold : String → String
  findTokens : String → List String
  findAcronyms : String → List String
  findIdentifiers : String → List String

/-- Editorial scaffolding, removed as whole phrases. -/
def DOWN_WEIGHTED_PHRASES : List String :=
  ["mida arvad", "anna teada", "anna meile teada", "anna meile hiljemalt", "anna hiljemalt",
    "jaga oma motteid", "jaga motteid", "jaga mõtteid", "jaga oma mõtteid", "kas toetad",
    "plaanitavad muudatused", "plaanitavatest muudatustest", "eelnou kohta", "eelnõu kohta",
    "vasta veebikusitlusele", "vasta veebiküsitlusele", "anna oma tagasiside",
    "enda poolne tagasiside"]

/-- Words too common to tell two topics apart. -/
def STOP_TOKENS : List String :=
  ["ja", "ning", "või", "voi", "kui", "kas", "on", "ei", "ka", "et", "see", "selle", "seda",
    "need", "nende", "oma", "mis", "mida", "millega", "kes", "keda", "kelle", "kus", "millal",
    "mille", "kuidas", "juures", "veel", "nii", "siis", "kuid", "aga", "ainult", "üle", "ule",
    "alla", "kohta", "puhul", "jaoks", "poolt", "vastu", "kaudu", "koos", "pärast", "parast",
    "enne", "vahel", "ajal", "tuleks", "peab", "saab", "tuleb", "võib", "voib", "olema", "olla",
    "teatud", "muu", "muud", "hulgas", "sh", "nt", "arvad", "arvamus", "arvamust", "teada", "anna",
    "meile", "hiljemalt", "jaga", "motteid", "mõtteid", "tagasiside", "tagasisidet", "kommentaar",
    "plaanitav", "plaanitavad", "plaanitavate", "plaanitavatest", "muudatus", "muudatused",
    "muudatuste", "muudatustest", "muudatusi", "soovib", "koostanud", "valminud", "kehtestab",
    "algatanud", "arvamuse", "esitamine", "esitamise", "avaldamine", "avaldamiseks"]

/-- Words that are poor evidence on their own. -/
def GENERIC_TOKENS : List String :=
  ["seadus", "seaduse", "seadust", "seaduses", "seadusega", "eelnou", "eelnõu", "eelnoud",
    "eelnõud", "maarus", "määrus", "maaruse", "määruse", "maarust", "määrust", "muutmise",
    "muutmine", "muutmiseks", "ministeerium", "ministeeriumi", "ministeeriumis", "komisjon",
    "komisjoni", "euroopa", "liidu", "eesti", "riigi", "ettevotja", "ettevõtja", "ettevotjate",
    "ettevõtjate", "kord", "korra", "korras", "nouded", "nõuded", "nouete", "nõuete",
    "valjatootamiskavatsus", "väljatöötamiskavatsus", "direktiiv", "direktiivi"]

namespace TextPatterns

variable (patterns : TextPatterns)

def stripBoilerplate (value : String) : String :=
  let text := DOWN_WEIGHTED_PHRASES.foldl (fun text phrase =>
    let foldedPhrase := patterns.fold phrase
    if foldedPhrase = "" then text else PyText.replace text foldedPhrase " ") value
  PyText.join " " (PyText.split text)

def tokenize (value : String) : List String :=
  (patterns.findTokens (patterns.stripBoilerplate (patterns.fold value))).filter fun token =>
    decide (token ∉ STOP_TOKENS) && decide (1 < token.length)

def significantTokens (value : String) : Finset String :=
  (patterns.tokenize value).toFinset.filter (· ∉ GENERIC_TOKENS)

def acronyms (value : String) : Finset String := (patterns.findAcronyms value).toFinset

def identifiers (value : String) : Finset String := (patterns.findIdentifiers value).toFinset

/-- The n-grams of the tokens of a text, joined by spaces. -/
def characterNgrams (value : String) (size : Nat) : Finset String :=
  let joined := (PyText.join " " (patterns.tokenize value)).toList
  if joined.length < size then if joined = [] then ∅ else {String.ofList joined}
  else ((List.range (joined.length - size + 1)).map fun index =>
    String.ofList ((joined.drop index).take size)).toFinset

end TextPatterns

/-- Lower-case words without diacritics, acronyms and identifiers. -/
def plainPatterns : TextPatterns := ⟨id, PyText.split, fun _ => [], fun _ => []⟩

end Dashkoda.LegalWork
