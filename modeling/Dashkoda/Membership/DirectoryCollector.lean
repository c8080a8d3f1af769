import Dashkoda.Core.JsonValue
import Dashkoda.Lib.Contract
import Dashkoda.Lib.UrlSplit
import Dashkoda.Membership.Directory

/-!
# Reading the public member directory

One row for each identity, in the order of the identities, with the path of its first sighting.
Both are cut to the columns they go to.
-/

open Lib

namespace Dashkoda.Membership

open Core (JsonDict JsonValue Loaded Uncaught)

def KODA_ALLOWED_HOSTS : List String := ["www.koda.ee", "koda.ee"]

/-- `json.loads` and `str` of its values, `str.isdigit`, `str.lower`, and what `urlsplit` asks of a
location. -/
structure DirectoryLibraries where
  loads : String → Loaded
  repr : JsonValue → String
  isdigit : Char → Bool
  lower : String → String
  netlocCheck : NetlocCheck

/-! ## The path of a profile -/

/-- `parts.hostname or ""` -/
def hostname (lower : String → String) (netloc : List Char) : String :=
  let hostinfo := (netloc.reverse.takeWhile (· ≠ '@')).reverse
  let host :=
    if '[' ∈ hostinfo then ((hostinfo.dropWhile (· ≠ '[')).tail).takeWhile (· ≠ ']')
    else hostinfo.takeWhile (· ≠ ':')
  lower (String.ofList (host.takeWhile (· ≠ '%'))) ++ String.ofList (host.dropWhile (· ≠ '%'))

/-- The path of `urlparse`: what follows a semicolon of the last segment is not part of it. -/
def withoutParams (path : List Char) : List Char :=
  let last := (path.reverse.takeWhile (· ≠ '/')).reverse
  path.take (path.length - last.length) ++ last.takeWhile (· ≠ ';')

section Rows

variable (libraries : DirectoryLibraries)

/-- `_member_path` -/
def memberPath (value : String) : Option String :=
  if value = "" then none
  else if value.toList.head? = some '/' then some value
  else match Url.urlsplit libraries.netlocCheck value.toList with
    | none => none
    | some parts =>
      let host := libraries.lower (hostname libraries.lower parts.netloc)
      if String.ofList parts.scheme ∉ ["http", "https"] ∨ host ∉ KODA_ALLOWED_HOSTS then none
      else match withoutParams parts.path with
        | [] => none
        | path => some (String.ofList path)

/-- `str(row.get(key) or "").strip()` -/
def strippedField (fields : JsonDict) (key : String) : String :=
  let value := fields.getD key .null
  PyText.strip (if value.truthy then value.asText libraries.repr else "")

/-- The identity of a row and the path of its profile, where it has both. -/
def readRow : JsonValue → Option (String × String)
  | .dict fields =>
    let identity :=
      String.ofList ((strippedField libraries fields "crn").toList.filter libraries.isdigit)
    match memberPath libraries (strippedField libraries fields "url") with
    | none => none
    | some path => if identity = "" then none else some (identity, path)
  | _ => none

/-- What the loop of `normalise` has counted so far. -/
structure Sightings where
  found : Dict String String
  duplicates : Nat
  rejected : Nat

def sight (sightings : Sightings) (row : JsonValue) : Sightings :=
  match readRow libraries row with
  | none => { sightings with rejected := sightings.rejected + 1 }
  | some (identity, path) =>
    if identity ∈ sightings.found.keys then
      { sightings with duplicates := sightings.duplicates + 1 }
    else { sightings with found := sightings.found.set identity path }

/-- What `normalise` returns. -/
structure Normalised where
  rows : List DirectoryRow
  duplicates : Nat
  rejected : Nat
  deriving DecidableEq

def foundRows (found : Dict String String) : List DirectoryRow :=
  (sortOn (·.1) found.entries).map fun entry => DirectoryRow.cut entry.1 entry.2

/-- `normalise`, of the rows of the response. -/
def normaliseRows (payload : List JsonValue) : Reading Uncaught Normalised := do
  Reading.require (payload ≠ []) "Liikmete loend on tühi."
  let sightings := payload.foldl (sight libraries) ⟨Dict.empty, 0, 0⟩
  Reading.require (sightings.found.entries ≠ []) "Liikmete loendis ei olnud ühtegi kehtivat kirjet."
  Reading.require (¬ (sightings.rejected ≠ 0 ∧ payload.length / 2 < sightings.rejected))
    ("Liikmete loendis oli liiga palju vigaseid ridu: " ++ toString sightings.rejected ++ "/" ++
      toString payload.length ++ ".")
  return ⟨foundRows sightings.found, sightings.duplicates, sightings.rejected⟩

/-- `type(payload).__name__` -/
def typeName : JsonValue → String
  | .null => "NoneType"
  | .bool _ => "bool"
  | .int _ => "int"
  | .float _ _ => "float"
  | .str _ => "str"
  | .list _ => "list"
  | .dict _ => "dict"

/-- `normalise` -/
def normalise (content : List UInt8) : Reading Uncaught Normalised :=
  match String.fromUTF8? ⟨content.toArray⟩ with
  | none => Reading.refuse "Liikmete loend ei ole kehtiv JSON: UnicodeDecodeError."
  | some text =>
    match libraries.loads text with
    | .jsonDecodeError => Reading.refuse "Liikmete loend ei ole kehtiv JSON: JSONDecodeError."
    | .raised exn => Reading.escape exn
    | .value (.list payload) => normaliseRows libraries payload
    | .value payload => Reading.refuse
        ("Liikmete loendi ülemine tase peab olema massiiv, saadi " ++ typeName payload ++ ".")

end Rows

def canonicalRows (rows : List DirectoryRow) : Json :=
  .obj [("dataset", .str DIRECTORY_DATASET_KEY), ("schema_version", .str DIRECTORY_SCHEMA_VERSION),
    ("entries", .arr (rows.map fun row => .arr [.str row.registryCode, .str row.profilePath]))]

/-! ## What the loop finds -/

section Sightings

variable {libraries : DirectoryLibraries}

def validRows (libraries : DirectoryLibraries) (payload : List JsonValue) :
    List (String × String) :=
  payload.filterMap (readRow libraries)

def sightAll (libraries : DirectoryLibraries) (payload : List JsonValue) : Sightings :=
  payload.foldl (sight libraries) ⟨Dict.empty, 0, 0⟩

/-- What holds after every turn: the first sightings are found, and each row is counted once. -/
structure Sighted (libraries : DirectoryLibraries) (payload : List JsonValue)
    (sightings : Sightings) : Prop where
  first : ∀ identity, sightings.found.get? identity =
    ((validRows libraries payload).find? (·.1 = identity)).map Prod.snd
  rejected : sightings.rejected = payload.countP fun row => (readRow libraries row).isNone
  total : sightings.found.entries.length + sightings.duplicates + sightings.rejected =
    payload.length

theorem Sighted.step {payload : List JsonValue} {sightings : Sightings}
    (h : Sighted libraries payload sightings)
    (row : JsonValue) : Sighted libraries (payload ++ [row]) (sight libraries sightings row) := by
  have hvalid : validRows libraries (payload ++ [row]) =
      validRows libraries payload ++ (readRow libraries row).toList := by
    unfold validRows
    rw [List.filterMap_append]
    cases hread : readRow libraries row with
    | none => simp [hread]
    | some pair => simp [hread]
  have htotal := h.total
  unfold sight
  cases hread : readRow libraries row with
  | none =>
    refine ⟨fun identity => ?_, ?_, ?_⟩
    · rw [hvalid, hread, Option.toList_none, List.append_nil]
      exact h.first identity
    · show sightings.rejected + 1 = _
      rw [h.rejected, List.countP_append, List.countP_singleton, if_pos (by rw [hread]; rfl)]
    · show sightings.found.entries.length + sightings.duplicates + (sightings.rejected + 1) = _
      rw [List.length_append, List.length_singleton]
      omega
  | some pair =>
    obtain ⟨identity, path⟩ := pair
    have hrejected : (payload ++ [row]).countP (fun row => (readRow libraries row).isNone) =
        sightings.rejected := by
      rw [List.countP_append, List.countP_singleton,
        if_neg (by rw [hread]; exact Bool.false_ne_true), h.rejected, Nat.add_zero]
    dsimp only
    split
    · rename_i hknown
      refine ⟨fun other => ?_, hrejected.symm, ?_⟩
      · rw [hvalid, hread, List.find?_append, h.first]
        obtain ⟨known, hget⟩ := Dict.mem_keys_iff_get?.mp hknown
        rw [h.first] at hget
        cases hfind : (validRows libraries payload).find? (·.1 = other) with
        | some found => rfl
        | none =>
          have hne : identity ≠ other := by
            rintro rfl
            rw [hfind] at hget
            cases hget
          simp [hne]
      · show sightings.found.entries.length + (sightings.duplicates + 1) + sightings.rejected = _
        rw [List.length_append, List.length_singleton]
        omega
    · rename_i hnew
      have hset : (sightings.found.set identity path).entries =
          sightings.found.entries ++ [(identity, path)] :=
        Dict.setEntries_of_not_mem hnew
      refine ⟨fun other => ?_, hrejected.symm, ?_⟩
      · rw [hvalid, hread, List.find?_append]
        show (sightings.found.set identity path).get? other = _
        by_cases hother : other = identity
        · subst hother
          have hnone := Dict.get?_eq_none_of_not_mem_keys hnew
          rw [h.first, Option.map_eq_none_iff] at hnone
          rw [Dict.get?_set_self, hnone]
          simp
        · rw [Dict.get?_set_ne _ _ hother, h.first]
          cases hfind : (validRows libraries payload).find? (·.1 = other) with
          | some found => rfl
          | none => simp [Ne.symm hother]
      · show (sightings.found.set identity path).entries.length + sightings.duplicates +
          sightings.rejected = _
        rw [hset, List.length_append, List.length_append, List.length_singleton,
          List.length_singleton]
        omega

/-- The whole loop. -/
theorem sighted_sightAll (libraries : DirectoryLibraries) (payload : List JsonValue) :
    Sighted libraries payload (sightAll libraries payload) := by
  unfold sightAll
  induction payload using List.reverseRecOn with
  | nil => exact ⟨fun _ => rfl, rfl, rfl⟩
  | append_singleton payload row ih =>
    rw [List.foldl_append]
    exact ih.step row

end Sightings

/-! ## The digest of a response -/

section Digest

variable {libraries : DirectoryLibraries}

def sortedCodes (libraries : DirectoryLibraries) (payload : List JsonValue) : List String :=
  sortOn id (sightAll libraries payload).found.keys

def firstPath (libraries : DirectoryLibraries) (payload : List JsonValue)
    (identity : String) : String :=
  (((validRows libraries payload).find? (·.1 = identity)).map Prod.snd).getD ""

theorem mem_sortedCodes {payload : List JsonValue} {identity : String} :
    identity ∈ sortedCodes libraries payload ↔
    identity ∈ (validRows libraries payload).map Prod.fst := by
  unfold sortedCodes
  rw [mem_sortOn, Dict.mem_keys_iff_get?, List.mem_map]
  simp only [(sighted_sightAll libraries payload).first, Option.map_eq_some_iff]
  constructor
  · rintro ⟨path, pair, hfind, -⟩
    exact ⟨pair, List.mem_of_find?_eq_some hfind, by simpa using List.find?_some hfind⟩
  · rintro ⟨pair, hpair, rfl⟩
    have hsome : ((validRows libraries payload).find? (·.1 = pair.1)).isSome = true :=
      List.find?_isSome.mpr ⟨pair, hpair, decide_eq_true rfl⟩
    obtain ⟨found, hfound⟩ := Option.isSome_iff_exists.mp hsome
    exact ⟨found.2, found, hfound, rfl⟩

theorem nodup_sortedCodes (payload : List JsonValue) : (sortedCodes libraries payload).Nodup :=
  (perm_sortOn id _).nodup_iff.mpr (sightAll libraries payload).found.keys_nodup

/-- The path is that of a row with the identity. -/
theorem exists_firstPath {payload : List JsonValue} {identity : String}
    (h : identity ∈ sortedCodes libraries payload) :
    ∃ pair ∈ validRows libraries payload, pair.1 = identity ∧
    firstPath libraries payload identity = pair.2 := by
  obtain ⟨pair, hpair, rfl⟩ := List.mem_map.mp (mem_sortedCodes.mp h)
  have hsome : ((validRows libraries payload).find? (·.1 = pair.1)).isSome = true :=
    List.find?_isSome.mpr ⟨pair, hpair, decide_eq_true rfl⟩
  obtain ⟨found, hfound⟩ := Option.isSome_iff_exists.mp hsome
  refine ⟨found, List.mem_of_find?_eq_some hfound, by simpa using List.find?_some hfound, ?_⟩
  unfold firstPath
  rw [hfound]
  rfl

theorem cut_eq_cut {code path path' : String} (h : PyText.take 300 path = PyText.take 300 path') :
    DirectoryRow.cut code path = DirectoryRow.cut code path' := by
  unfold DirectoryRow.cut
  congr

/-- The rows, code by code. -/
theorem foundRows_eq (payload : List JsonValue) : foundRows (sightAll libraries payload).found =
    (sortedCodes libraries payload).map fun identity =>
      DirectoryRow.cut identity (firstPath libraries payload identity) := by
  have hfirst : ∀ entry ∈ (sightAll libraries payload).found.entries,
      entry.2 = firstPath libraries payload entry.1 := by
    intro entry hentry
    unfold firstPath
    rw [← (sighted_sightAll libraries payload).first, Dict.get?_eq_some_iff.mpr hentry]
    rfl
  have hcodes : sortedCodes libraries payload =
      (sortOn (·.1) (sightAll libraries payload).found.entries).map Prod.fst :=
    sortOn_map id Prod.fst _
  unfold foundRows
  rw [hcodes, List.map_map]
  apply List.map_congr_left
  intro entry hentry
  show DirectoryRow.cut entry.1 entry.2 = DirectoryRow.cut entry.1
    (firstPath libraries payload entry.1)
  rw [hfirst entry (mem_sortOn.mp hentry)]

theorem validRows_perm {payload payload' : List JsonValue} (h : payload.Perm payload') :
    (validRows libraries payload).Perm (validRows libraries payload') := h.filterMap _

/-- The codes do not depend on the order of the rows. -/
theorem sortedCodes_perm {payload payload' : List JsonValue} (h : payload.Perm payload') :
    sortedCodes libraries payload = sortedCodes libraries payload' := by
  have hcodes : (sortedCodes libraries payload).Perm (sortedCodes libraries payload') := by
    refine (List.perm_ext_iff_of_nodup (nodup_sortedCodes payload) (nodup_sortedCodes payload')).mpr
      fun identity => ?_
    rw [mem_sortedCodes, mem_sortedCodes, ((validRows_perm h).map Prod.fst).mem_iff]
  exact List.Perm.eq_of_pairwise (fun _ _ _ _ => le_antisymm) (pairwise_sortOn id _)
    (pairwise_sortOn id _) hcodes

/-- What is counted does not depend on the order of the rows. -/
theorem sightAll_perm {payload payload' : List JsonValue} (h : payload.Perm payload') :
    (sightAll libraries payload').found.entries.length =
      (sightAll libraries payload).found.entries.length ∧
      (sightAll libraries payload').rejected = (sightAll libraries payload).rejected ∧
      (sightAll libraries payload').duplicates = (sightAll libraries payload).duplicates := by
  have hs := sighted_sightAll libraries payload
  have hs' := sighted_sightAll libraries payload'
  have hrejected : (sightAll libraries payload').rejected =
      (sightAll libraries payload).rejected := by
    rw [hs.rejected, hs'.rejected, h.countP_eq]
  have hfound : ∀ payload, (sightAll libraries payload).found.entries.length =
      (sortedCodes libraries payload).length := by
    intro payload
    unfold sortedCodes Dict.keys
    rw [(perm_sortOn id _).length_eq, List.length_map]
  have hentries : (sightAll libraries payload').found.entries.length =
      (sightAll libraries payload).found.entries.length := by
    rw [hfound, hfound, sortedCodes_perm h]
  have htotal := hs.total
  have htotal' := hs'.total
  have hlength := h.length_eq
  exact ⟨hentries, hrejected, by omega⟩

/-- A response that is accepted, with what `normalise` returns for it. -/
structure AcceptedResponse (libraries : DirectoryLibraries) where
  payload : List JsonValue
  normalised : Normalised
  accepted : normaliseRows libraries payload = .ok normalised

theorem normaliseRows_eq_ok_iff {payload : List JsonValue} {normalised : Normalised} :
    normaliseRows libraries payload = .ok normalised ↔ payload ≠ [] ∧
      (sightAll libraries payload).found.entries ≠ [] ∧
      ¬ ((sightAll libraries payload).rejected ≠ 0 ∧
        payload.length / 2 < (sightAll libraries payload).rejected) ∧
      normalised =
        ⟨foundRows (sightAll libraries payload).found, (sightAll libraries payload).duplicates,
        (sightAll libraries payload).rejected⟩ := by
  unfold normaliseRows
  rw [bind_eq_ok_iff]
  simp only [Reading.require_eq_ok_iff]
  constructor
  · rintro ⟨_, hpayload, h⟩
    obtain ⟨_, hfound, h⟩ := bind_eq_ok_iff.mp h
    obtain ⟨_, hrejected, h⟩ := bind_eq_ok_iff.mp h
    cases h
    exact ⟨hpayload, Reading.require_eq_ok_iff.mp hfound,
      Reading.require_eq_ok_iff.mp hrejected, rfl⟩
  · rintro ⟨hpayload, hfound, hrejected, rfl⟩
    exact ⟨(), hpayload, bind_eq_ok_iff.mpr ⟨(), Reading.require_eq_ok_iff.mpr hfound,
      bind_eq_ok_iff.mpr ⟨(), Reading.require_eq_ok_iff.mpr hrejected, rfl⟩⟩⟩

namespace AcceptedResponse

/-- The rows and their digest are those of the set: the same for every order of the response's rows,
with distinct codes, and every row of the response is a row, a duplicate or rejected. -/
structure DescribesSet (checksum : Json → String)
    (response : AcceptedResponse libraries) : Prop where
  unordered : ∀ payload, response.payload.Perm payload → ∃ normalised,
    normaliseRows libraries payload = .ok normalised ∧ normalised.rows = response.normalised.rows ∧
      checksum (canonicalRows normalised.rows) = checksum (canonicalRows response.normalised.rows)
  distinct : (response.normalised.rows.map DirectoryRow.registryCode).Nodup
  complete : response.normalised.rows.length + response.normalised.duplicates +
    response.normalised.rejected =
    response.payload.length

/-- Rows of one identity have one path, and identities that differ do so where they are kept. -/
structure Unambiguous (response : AcceptedResponse libraries) : Prop where
  paths : ∀ a ∈ validRows libraries response.payload,
    ∀ b ∈ validRows libraries response.payload, a.1 = b.1 →
    PyText.take 300 a.2 = PyText.take 300 b.2
  codes : ∀ a ∈ validRows libraries response.payload, ∀ b ∈ validRows libraries response.payload,
    PyText.take 16 a.1 = PyText.take 16 b.1 → a.1 = b.1

variable (response : AcceptedResponse libraries)

theorem normalised_eq : response.normalised =
    ⟨foundRows (sightAll libraries response.payload).found,
    (sightAll libraries response.payload).duplicates,
    (sightAll libraries response.payload).rejected⟩ :=
  (normaliseRows_eq_ok_iff.mp response.accepted).2.2.2

/-- The response is accepted in every order of its rows. -/
theorem accepted_perm {payload : List JsonValue} (h : response.payload.Perm payload) :
    normaliseRows libraries payload = .ok ⟨foundRows (sightAll libraries payload).found,
      (sightAll libraries payload).duplicates, (sightAll libraries payload).rejected⟩ := by
  obtain ⟨hpayload, hfound, hrejected, -⟩ := normaliseRows_eq_ok_iff.mp response.accepted
  obtain ⟨hentries, hsame, -⟩ := @sightAll_perm libraries _ _ h
  refine normaliseRows_eq_ok_iff.mpr
    ⟨fun hempty => hpayload (List.perm_nil.mp (hempty ▸ h)), fun hempty => hfound ?_, ?_, rfl⟩
  · rw [hempty, List.length_nil] at hentries
    exact List.eq_nil_of_length_eq_zero hentries.symm
  · rw [hsame, ← h.length_eq]
    exact hrejected

theorem map_registryCode_foundRows (payload : List JsonValue) :
    (foundRows (sightAll libraries payload).found).map DirectoryRow.registryCode =
      (sortedCodes libraries payload).map (PyText.take 16) := by
  rw [foundRows_eq, List.map_map]
  rfl

/-- A row that is put first gives the path of its identity. -/
theorem exists_perm_firstPath {payload : List JsonValue} {pair : String × String}
    (h : pair ∈ validRows libraries payload) :
    ∃ payload', payload.Perm payload' ∧ firstPath libraries payload' pair.1 = pair.2 := by
  obtain ⟨row, hrow, hread⟩ := List.mem_filterMap.mp h
  obtain ⟨before, after, rfl⟩ := List.append_of_mem hrow
  refine ⟨row :: (before ++ after), List.perm_middle, ?_⟩
  simp [firstPath, validRows, hread]

end AcceptedResponse

/-- The digest describes the set of profiles exactly where rows of one identity have one path and no
two identities are cut to one code. -/
theorem describesSet_iff (libraries : DirectoryLibraries) (checksum : Json → String)
    (response : AcceptedResponse libraries) : response.DescribesSet checksum ↔
    response.Unambiguous := by
  have hnormalised := response.normalised_eq
  have hrows : response.normalised.rows = foundRows
    (sightAll libraries response.payload).found := by rw [hnormalised]
  constructor
  · intro h
    refine ⟨fun a ha b hb hsame => ?_, fun a ha b hb hcut => ?_⟩
    · -- with either row first, the rows are the same
      obtain ⟨payload, hperm, hfirst⟩ := AcceptedResponse.exists_perm_firstPath ha
      obtain ⟨payload', hperm', hfirst'⟩ := AcceptedResponse.exists_perm_firstPath hb
      have hpath : ∀ {payload}, response.payload.Perm payload →
          ∀ identity ∈ sortedCodes libraries response.payload,
          PyText.take 300 (firstPath libraries payload identity) =
            PyText.take 300 (firstPath libraries response.payload identity) := by
        intro payload hperm identity hidentity
        obtain ⟨normalised, hok, heq, -⟩ := h.unordered payload hperm
        rw [response.accepted_perm hperm] at hok
        cases hok
        rw [hrows, foundRows_eq, foundRows_eq, ← sortedCodes_perm hperm] at heq
        exact congrArg DirectoryRow.profilePath (List.map_inj_left.mp heq identity hidentity)
      have hcode : a.1 ∈ sortedCodes libraries response.payload :=
        mem_sortedCodes.mpr (List.mem_map_of_mem ha)
      have hleft := hpath hperm a.1 hcode
      have hright := hpath hperm' a.1 hcode
      rw [hfirst] at hleft
      rw [hsame, hfirst', ← hsame] at hright
      rw [hleft, hright]
    · have hnodup := h.distinct
      rw [hrows, AcceptedResponse.map_registryCode_foundRows] at hnodup
      exact List.inj_on_of_nodup_map hnodup (mem_sortedCodes.mpr (List.mem_map_of_mem ha))
        (mem_sortedCodes.mpr (List.mem_map_of_mem hb)) hcut
  · intro h
    refine ⟨fun payload hperm => ?_, ?_, ?_⟩
    · have hsame : foundRows (sightAll libraries payload).found = response.normalised.rows := by
        rw [hrows, foundRows_eq, foundRows_eq, sortedCodes_perm hperm]
        apply List.map_congr_left
        intro identity hidentity
        obtain ⟨pair, hpair, hidentity', hpath⟩ := exists_firstPath hidentity
        obtain ⟨pair', hpair', hidentity'', hpath'⟩ :=
          exists_firstPath (sortedCodes_perm hperm ▸ hidentity)
        apply cut_eq_cut
        rw [hpath, hpath']
        exact h.paths pair ((validRows_perm hperm).mem_iff.mpr hpair) pair' hpair'
          (hidentity'.trans hidentity''.symm)
      exact ⟨_, response.accepted_perm hperm, hsame,
        congrArg (fun rows => checksum (canonicalRows rows)) hsame⟩
    · rw [hrows, AcceptedResponse.map_registryCode_foundRows]
      refine (nodup_sortedCodes _).map_on fun a ha b hb hcut => ?_
      obtain ⟨pair, hpair, rfl⟩ := List.mem_map.mp (mem_sortedCodes.mp ha)
      obtain ⟨pair', hpair', rfl⟩ := List.mem_map.mp (mem_sortedCodes.mp hb)
      exact h.codes pair hpair pair' hpair' hcut
    · have htotal := (sighted_sightAll libraries response.payload).total
      rw [hnormalised]
      show (foundRows _).length + _ + _ = _
      unfold foundRows
      rw [List.length_map, (perm_sortOn _ _).length_eq]
      exact htotal

/-! ### A member with two pages -/

def plainLibraries : DirectoryLibraries where
  loads _ := .jsonDecodeError
  repr _ := ""
  isdigit := Char.isDigit
  lower s := String.ofList (s.toList.map Char.toLower)
  netlocCheck := ⟨fun _ => true, fun _ _ => rfl⟩

def profile (crn url : String) : JsonValue := .dict [("crn", .str crn), ("url", .str url)]

/-- One member published under two addresses. -/
def twoPages : AcceptedResponse plainLibraries where
  payload := [profile "10000018" "/et/liige-a", profile "10000018" "/et/liige-b"]
  normalised := ⟨[DirectoryRow.cut "10000018" "/et/liige-a"], 1, 0⟩
  accepted :=
    normaliseRows_eq_ok_iff.mpr ⟨by decide, by decide +kernel, by decide +kernel, by decide +kernel⟩

/-- The path that is kept is that of the row that comes first. -/
theorem twoPages_ordered : ¬∃ checksum : Json → String, twoPages.DescribesSet checksum := by
  rintro ⟨checksum, h⟩
  have hperm : twoPages.payload.Perm
      [profile "10000018" "/et/liige-b", profile "10000018" "/et/liige-a"] :=
    List.Perm.swap _ _ _
  obtain ⟨normalised, hok, hrows, -⟩ := h.unordered _ hperm
  rw [twoPages.accepted_perm hperm] at hok
  cases hok
  exact absurd hrows (by decide +kernel)

end Digest

end Dashkoda.Membership
