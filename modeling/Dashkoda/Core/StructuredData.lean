import Dashkoda.Core.JsonValue
import Mathlib.Data.List.Infix

/-!
# The JSON-LD of a public page

A page describes itself in script blocks.  A block that is not JSON is skipped, and the entries of
the others are looked through in order.
-/

open Lib

namespace Dashkoda.Core

/-- What the module takes from the regular expressions and the `json` library: the contents of the
script blocks, the reading of one, and `str()` of a list or a dictionary. -/
structure LdLibrary where
  findall : String → List String
  loads : String → Loaded
  repr : JsonValue → String

section Entries

variable (library : LdLibrary)

/-- `json_ld_blocks`, on the contents of the script blocks. -/
def blocksOf : List String → Except Uncaught (List JsonValue)
  | [] => .ok []
  | raw :: rest =>
    match library.loads (PyText.strip raw) with
    | .value value => (blocksOf rest).map (value :: ·)
    | .jsonDecodeError => blocksOf rest
    | .raised exn => if exn = .valueError ∨ exn = .typeError then blocksOf rest else .error exn

def jsonLdBlocks (html : String) : Except Uncaught (List JsonValue) :=
  blocksOf library (library.findall html)

def dictsOf : List JsonValue → List JsonDict
  | [] => []
  | .dict fields :: rest => fields :: dictsOf rest
  | _ :: rest => dictsOf rest

/-- The entries of one block.  The items of a text are its characters, and nothing iterates over a
number. -/
def entriesOf (block : JsonValue) : Except Uncaught (List JsonDict) :=
  let entries := match block with
    | .dict fields => JsonDict.getD fields "@graph" (.list [])
    | other => other
  match entries with
  | .dict fields => .ok [fields]
  | .list items => .ok (dictsOf items)
  | .str _ => .ok []
  | other => if other.truthy then .error .typeError else .ok []

/-- `wanted in str(entry.get("@type", ""))` -/
def mentions (wanted : String) (entry : JsonDict) : Bool :=
  decide (wanted.toList <:+: ((entry.getD "@type" (.str "")).asText library.repr).toList)

/-- The loop of `find_by_type`; a block behind the first match is not iterated over. -/
def findAmong (wanted : String) : List JsonValue → Except Uncaught (Option JsonDict)
  | [] => .ok none
  | block :: rest => do
    let entries ← entriesOf block
    match entries.find? (mentions library wanted) with
    | some entry => return some entry
    | none => findAmong wanted rest

def findByType (html wanted : String) : Except Uncaught (Option JsonDict) := do
  findAmong library wanted (← jsonLdBlocks library html)

end Entries

end Dashkoda.Core
