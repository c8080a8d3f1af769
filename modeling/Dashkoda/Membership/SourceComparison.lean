import Dashkoda.Lib.Ranking
import Dashkoda.Lib.SetOrder
import Dashkoda.Membership.DirectoryRegister
import Mathlib.Data.String.Basic

/-!
# The roster and the public directory

What each of the two sources knows, by registration code: what both know, what one of them knows
alone, and the roster rows without a code.
-/

open Lib

namespace Dashkoda.Membership

open Sources (Time)

def MAX_COMPARISON_ROWS : Nat := 200

def KODA_PUBLIC_BASE_URL : String := "https://www.koda.ee"

/-- `STATUS_LABELS.get(key, "")` -/
def statusLabel (key : String) : String :=
  match key with
  | "regular" => "Koja liige"
  | "suspended" => "Peatatud liige"
  | "supporter" => "Toetaja liige"
  | "unknown" => "Teadmata"
  | _ => ""

/-- The columns of a roster row that are compared. -/
structure RosterRow where
  snapshot : Nat
  registryCode : Option String
  name : String
  statusLabel : String
  statusKey : String

structure RosterSnapshot where
  pk : Nat
  snapshotDate : Date

/-- What the constraints promise: a code once in a snapshot, and once in a source. -/
structure ComparedTables where
  roster : List RosterRow
  directory : List MemberDirectoryEntry
  source : Nat
  one_code : (roster.filterMap fun row => row.registryCode.map fun code =>
    (row.snapshot, code)).Nodup
  one_entry : (directory.map fun entry => (entry.source, entry.registryCode)).Nodup

structure ComparisonEntry where
  registryCode : String
  name : String
  statusLabel : String
  profileUrl : String
  deriving DecidableEq

structure SourceComparison where
  rosterDate : Date
  rosterTotal : Nat
  directoryTotal : Nat
  directoryCheckedAt : Option Time
  matched : Nat
  onlyInRoster : List ComparisonEntry
  onlyInDirectory : List ComparisonEntry
  rosterWithoutCode : Nat
  truncated : Bool
  limit : Nat

namespace SourceComparison

def onlyInRosterCount (comparison : SourceComparison) : Nat := comparison.onlyInRoster.length

def onlyInDirectoryCount (comparison : SourceComparison) : Nat := comparison.onlyInDirectory.length

end SourceComparison

/-- `_profile_url` -/
def profileUrl (entry : Option MemberDirectoryEntry) : String :=
  match entry with
  | none => ""
  | some entry => if entry.profilePath = "" then "" else KODA_PUBLIC_BASE_URL ++ entry.profilePath

def RosterRow.code (row : RosterRow) : Option String := row.registryCode.filter (· ≠ "")

/-- The name and the label of a row. -/
def RosterRow.value (row : RosterRow) : String × String :=
  (row.name, if row.statusLabel = "" then Membership.statusLabel row.statusKey else row.statusLabel)

section Compare

variable (order : SetOrder String) (tables : ComparedTables) (snapshot : RosterSnapshot)

def rosterRows : List RosterRow := tables.roster.filter (·.snapshot = snapshot.pk)

def publishedEntries : List MemberDirectoryEntry :=
  tables.directory.filter fun entry => entry.source = tables.source ∧ entry.isPublished = true

def directoryCodes : Dict String MemberDirectoryEntry :=
  Dict.ofList ((publishedEntries tables).map fun entry => (entry.registryCode, entry))

def rosterCodes : Dict String (String × String) :=
  Dict.ofList ((rosterRows tables snapshot).filterMap fun row => row.code.map fun code =>
    (code, row.value))

def withoutCode : Nat := (rosterRows tables snapshot).countP fun row => row.code.isNone

/-- `roster_codes.keys() - directory_codes.keys()` -/
def rosterOnly : Finset String :=
  (rosterCodes tables snapshot).keys.toFinset \ (directoryCodes tables).keys.toFinset

/-- `directory_codes.keys() - roster_codes.keys()` -/
def directoryOnly : Finset String :=
  (directoryCodes tables).keys.toFinset \ (rosterCodes tables snapshot).keys.toFinset

def matchedCodes : Finset String :=
  (rosterCodes tables snapshot).keys.toFinset ∩ (directoryCodes tables).keys.toFinset

/-- `roster_codes[code]` -/
def rosterValue (code : String) : String × String :=
  ((rosterCodes tables snapshot).get? code).getD ("", "")

def missingFromDirectory : List String :=
  sortOn (fun code => (rosterValue tables snapshot code).1)
    (order.keys (rosterOnly tables snapshot))

def missingFromRoster : List String := sortOn id (order.keys (directoryOnly tables snapshot))

def rosterEntry (code : String) : ComparisonEntry :=
  ⟨code, (rosterValue tables snapshot code).1, (rosterValue tables snapshot code).2, ""⟩

def directoryEntry (code : String) : ComparisonEntry :=
  ⟨code, "", "", profileUrl ((directoryCodes tables).get? code)⟩

/-- `compare_sources`, of a snapshot that is there. -/
def compareSources : Option SourceComparison :=
  if (directoryCodes tables).entries = [] then none
  else some {
    rosterDate := snapshot.snapshotDate
    rosterTotal := (rosterCodes tables snapshot).entries.length + withoutCode tables snapshot
    directoryTotal := (directoryCodes tables).entries.length
    directoryCheckedAt := ((publishedEntries tables).map (·.lastSeenAt)).max?
    matched := (order.keys (matchedCodes tables snapshot)).length
    onlyInRoster := ((missingFromDirectory order tables snapshot).take MAX_COMPARISON_ROWS).map
      (rosterEntry tables snapshot)
    onlyInDirectory := ((missingFromRoster order tables snapshot).take MAX_COMPARISON_ROWS).map
      (directoryEntry tables)
    rosterWithoutCode := withoutCode tables snapshot
    truncated := MAX_COMPARISON_ROWS < (missingFromDirectory order tables snapshot).length ∨
      MAX_COMPARISON_ROWS < (missingFromRoster order tables snapshot).length
    limit := MAX_COMPARISON_ROWS }

end Compare

/-! ## What the codes are -/

section Codes

variable {tables tables' : ComparedTables} {snapshot : RosterSnapshot}

theorem mem_publishedEntries {entry : MemberDirectoryEntry} : entry ∈ publishedEntries tables ↔
    entry ∈ tables.directory ∧ entry.source = tables.source ∧ entry.isPublished = true := by
  simp [publishedEntries]

theorem mem_rosterRows {row : RosterRow} :
    row ∈ rosterRows tables snapshot ↔ row ∈ tables.roster ∧ row.snapshot = snapshot.pk := by
  simp [rosterRows]

theorem nodup_publishedCodes (tables : ComparedTables) :
    ((publishedEntries tables).map (·.registryCode)).Nodup := by
  have hpairs : (publishedEntries tables).Pairwise fun a b =>
      (a.source, a.registryCode) ≠ (b.source, b.registryCode) :=
    (List.pairwise_map.mp tables.one_entry).sublist List.filter_sublist
  refine List.pairwise_map.mpr (List.Pairwise.imp_of_mem (fun ha hb hne hcode => hne ?_) hpairs)
  rw [(mem_publishedEntries.mp ha).2.1, (mem_publishedEntries.mp hb).2.1, hcode]

theorem entries_directoryCodes (tables : ComparedTables) :
    (directoryCodes tables).entries = (publishedEntries tables).map fun entry =>
      (entry.registryCode, entry) :=
  Dict.entries_ofList (by rw [List.map_map]; exact nodup_publishedCodes tables)

def codedRows (tables : ComparedTables) (snapshot : RosterSnapshot) :
    List (String × (String × String)) :=
  (rosterRows tables snapshot).filterMap fun row => row.code.map fun code => (code, row.value)

theorem nodup_codedRows (tables : ComparedTables) (snapshot : RosterSnapshot) :
    ((codedRows tables snapshot).map Prod.fst).Nodup := by
  have hcodes : (codedRows tables snapshot).map Prod.fst =
      (rosterRows tables snapshot).filterMap RosterRow.code := by
    unfold codedRows
    rw [List.map_filterMap]
    congr 1
    funext row
    cases row.code with
    | none => rfl
    | some code => rfl
  rw [hcodes]
  have hpairs := List.pairwise_filterMap.mp tables.one_code
  refine List.pairwise_filterMap.mpr
    (List.Pairwise.imp_of_mem (fun ha hb hne code hcode code' hcode' heq => ?_)
    (hpairs.sublist List.filter_sublist))
  obtain ⟨hraw, -⟩ := Option.filter_eq_some_iff.mp hcode
  obtain ⟨hraw', -⟩ := Option.filter_eq_some_iff.mp hcode'
  refine hne _ (by rw [hraw]; rfl) _ (by rw [hraw']; rfl) ?_
  rw [(mem_rosterRows.mp ha).2, (mem_rosterRows.mp hb).2, heq]

theorem entries_rosterCodes (tables : ComparedTables) (snapshot : RosterSnapshot) :
    (rosterCodes tables snapshot).entries = codedRows tables snapshot :=
  Dict.entries_ofList (nodup_codedRows tables snapshot)

/-- Every row has a code or has none. -/
theorem length_codedRows (tables : ComparedTables) (snapshot : RosterSnapshot) :
    (codedRows tables snapshot).length + withoutCode tables snapshot =
      (rosterRows tables snapshot).length := by
  unfold codedRows withoutCode
  induction rosterRows tables snapshot with
  | nil => rfl
  | cons row rest ih =>
    cases hcode : row.code with
    | none =>
      rw [List.filterMap_cons_none (by rw [hcode]; rfl),
        List.countP_cons_of_pos (by rw [hcode]; rfl), List.length_cons]
      omega
    | some code =>
      rw [List.filterMap_cons_some (by rw [hcode]; rfl), List.length_cons, List.length_cons,
        List.countP_cons_of_neg (by rw [hcode]; exact Bool.false_ne_true)]
      omega

/-- The two tables in other orders. -/
structure SameStorage (tables tables' : ComparedTables) : Prop where
  roster : tables.roster.Perm tables'.roster
  directory : tables.directory.Perm tables'.directory
  source : tables.source = tables'.source

theorem SameStorage.refl (tables : ComparedTables) : SameStorage tables tables :=
  ⟨List.Perm.refl _, List.Perm.refl _, rfl⟩

theorem SameStorage.published (h : SameStorage tables tables') :
    (publishedEntries tables).Perm (publishedEntries tables') := by
  unfold publishedEntries
  rw [h.source]
  exact h.directory.filter _

theorem SameStorage.directoryCodes (h : SameStorage tables tables') (code : String) :
    (directoryCodes tables).get? code = (Membership.directoryCodes tables').get? code := by
  refine Dict.perm_entries_iff.mp ?_ code
  rw [entries_directoryCodes, entries_directoryCodes]
  exact h.published.map _

theorem SameStorage.rosterCodes (h : SameStorage tables tables') (code : String) :
    (rosterCodes tables snapshot).get? code =
      (Membership.rosterCodes tables' snapshot).get? code := by
  refine Dict.perm_entries_iff.mp ?_ code
  rw [entries_rosterCodes, entries_rosterCodes]
  exact (h.roster.filter _).filterMap _

theorem SameStorage.keys {α : Type} {d d' : Dict String α}
    (h : ∀ code, d.get? code = d'.get? code) :
    d.keys.toFinset = d'.keys.toFinset := by
  ext code
  rw [List.mem_toFinset, List.mem_toFinset, Dict.mem_keys_iff_get?, Dict.mem_keys_iff_get?, h]

theorem SameStorage.rosterOnly (h : SameStorage tables tables') :
    rosterOnly tables snapshot = Membership.rosterOnly tables' snapshot := by
  unfold Membership.rosterOnly
  rw [SameStorage.keys h.rosterCodes, SameStorage.keys h.directoryCodes]

theorem SameStorage.directoryOnly (h : SameStorage tables tables') :
    directoryOnly tables snapshot = Membership.directoryOnly tables' snapshot := by
  unfold Membership.directoryOnly
  rw [SameStorage.keys h.rosterCodes, SameStorage.keys h.directoryCodes]

theorem SameStorage.rosterEntry (h : SameStorage tables tables') :
    rosterEntry tables snapshot = Membership.rosterEntry tables' snapshot := by
  funext code
  unfold Membership.rosterEntry rosterValue
  rw [h.rosterCodes]

theorem SameStorage.directoryEntry (h : SameStorage tables tables') :
    directoryEntry tables = Membership.directoryEntry tables' := by
  funext code
  unfold Membership.directoryEntry
  rw [h.directoryCodes]

theorem card_keys {α : Type} (d : Dict String α) : d.keys.toFinset.card = d.entries.length :=
  (List.toFinset_card_of_nodup d.keys_nodup).trans (List.length_map _)

/-- The codes of the roster are those of both and those of the roster alone. -/
theorem card_matched_add_rosterOnly (tables : ComparedTables) (snapshot : RosterSnapshot) :
    (matchedCodes tables snapshot).card + (rosterOnly tables snapshot).card + withoutCode
      tables snapshot =
      (rosterRows tables snapshot).length := by
  unfold matchedCodes rosterOnly
  rw [Finset.card_inter_add_card_sdiff, card_keys, entries_rosterCodes, length_codedRows]

theorem card_matched_add_directoryOnly (tables : ComparedTables) (snapshot : RosterSnapshot) :
    (matchedCodes tables snapshot).card + (directoryOnly tables snapshot).card =
      (publishedEntries tables).length := by
  unfold matchedCodes directoryOnly
  rw [Finset.inter_comm, Finset.card_inter_add_card_sdiff, card_keys, entries_directoryCodes,
    List.length_map]

theorem directoryCodes_eq_nil_iff : (directoryCodes tables).entries = [] ↔
    publishedEntries tables = [] := by
  rw [entries_directoryCodes, List.map_eq_nil_iff]

end Codes

/-! ## Partitions of both sources -/

/-- What a list states of a set of codes: each once. -/
def Lists (entries : List ComparisonEntry) (codes : Finset String) : Prop :=
  (entries.map (·.registryCode)).Nodup ∧ ∀ code, code ∈ entries.map (·.registryCode) ↔ code ∈ codes

/-- The figures add up to the rows of both sources, and the listed rows are the front of all of them
in an order that depends neither on the order of storage nor on that of a set. -/
structure PartitionsBoth (tables : ComparedTables) (snapshot : RosterSnapshot) : Prop where
  roster : ∀ order comparison, compareSources order tables snapshot = some comparison →
    comparison.matched + comparison.onlyInRosterCount + comparison.rosterWithoutCode =
      (rosterRows tables snapshot).length
  directory : ∀ order comparison, compareSources order tables snapshot = some comparison →
    comparison.matched + comparison.onlyInDirectoryCount = (publishedEntries tables).length
  fixed : ∃ rosterList directoryList, Lists rosterList (rosterOnly tables snapshot) ∧
    Lists directoryList (directoryOnly tables snapshot) ∧
    ∀ order tables', SameStorage tables tables' →
    ∀ comparison, compareSources order tables' snapshot = some comparison →
      comparison.onlyInRoster <+: rosterList ∧ comparison.onlyInDirectory <+: directoryList

/-- Both mismatches fit the page, and no two members only the roster has share a name. -/
structure FitsPage (tables : ComparedTables) (snapshot : RosterSnapshot) : Prop where
  roster : (rosterOnly tables snapshot).card ≤ MAX_COMPARISON_ROWS
  directory : (directoryOnly tables snapshot).card ≤ MAX_COMPARISON_ROWS
  names : ∀ a ∈ rosterOnly tables snapshot, ∀ b ∈ rosterOnly tables snapshot,
    (rosterValue tables snapshot a).1 = (rosterValue tables snapshot b).1 → a = b

section Partitions

variable {order order' : SetOrder String} {tables tables' : ComparedTables}
  {snapshot : RosterSnapshot}

def rosterList (order : SetOrder String) (tables : ComparedTables) (snapshot : RosterSnapshot) :
    List ComparisonEntry :=
  (missingFromDirectory order tables snapshot).map (rosterEntry tables snapshot)

def directoryList (order : SetOrder String) (tables : ComparedTables) (snapshot : RosterSnapshot) :
    List ComparisonEntry :=
  (missingFromRoster order tables snapshot).map (directoryEntry tables)

theorem length_rosterList : (rosterList order tables snapshot).length =
    (rosterOnly tables snapshot).card := by
  unfold rosterList missingFromDirectory
  rw [List.length_map, (perm_sortOn _ _).length_eq, order.length_keys]

theorem length_directoryList : (directoryList order tables snapshot).length =
    (directoryOnly tables snapshot).card := by
  unfold directoryList missingFromRoster
  rw [List.length_map, (perm_sortOn _ _).length_eq, order.length_keys]

theorem lists_rosterList : Lists (rosterList order tables snapshot)
    (rosterOnly tables snapshot) := by
  have hcodes : (rosterList order tables snapshot).map (·.registryCode) =
      missingFromDirectory order tables snapshot := by
    unfold rosterList
    rw [List.map_map]
    exact List.map_id _
  unfold Lists
  rw [hcodes]
  refine ⟨(perm_sortOn _ _).nodup_iff.mpr (order.nodup _), fun code => ?_⟩
  unfold missingFromDirectory
  rw [mem_sortOn, order.mem_keys]

theorem lists_directoryList : Lists (directoryList order tables snapshot)
    (directoryOnly tables snapshot) := by
  have hcodes : (directoryList order tables snapshot).map (·.registryCode) =
      missingFromRoster order tables snapshot := by
    unfold directoryList
    rw [List.map_map]
    exact List.map_id _
  unfold Lists
  rw [hcodes]
  refine ⟨(perm_sortOn _ _).nodup_iff.mpr (order.nodup _), fun code => ?_⟩
  unfold missingFromRoster
  rw [mem_sortOn, order.mem_keys]

/-- What a comparison states. -/
theorem compareSources_eq_some {comparison : SourceComparison}
    (h : compareSources order tables snapshot = some comparison) : publishedEntries tables ≠ [] ∧
      comparison.matched = (matchedCodes tables snapshot).card ∧
      comparison.onlyInRoster = (rosterList order tables snapshot).take MAX_COMPARISON_ROWS ∧
      comparison.onlyInDirectory = (directoryList order tables snapshot).take MAX_COMPARISON_ROWS ∧
      comparison.rosterWithoutCode = withoutCode tables snapshot := by
  unfold compareSources at h
  split at h
  · cases h
  · rename_i hpublished
    cases h
    rw [directoryCodes_eq_nil_iff] at hpublished
    exact ⟨hpublished, order.length_keys _, List.map_take, List.map_take, rfl⟩

theorem exists_comparison (order : SetOrder String) (snapshot : RosterSnapshot)
    (h : publishedEntries tables ≠ []) :
    ∃ comparison, compareSources order tables snapshot = some comparison := by
  unfold compareSources
  rw [if_neg fun hnil => h (directoryCodes_eq_nil_iff.mp hnil)]
  exact ⟨_, rfl⟩

/-- Codes are in one order, whatever the order of storage. -/
theorem directoryList_eq (h : SameStorage tables tables') :
    directoryList order tables snapshot = directoryList order' tables' snapshot := by
  unfold directoryList missingFromRoster
  rw [← h.directoryOnly, h.directoryEntry]
  have hkeys := order.keys_perm order' (directoryOnly tables snapshot)
  rw [sortOn_eq_of_perm hkeys (by rw [List.map_id]; exact order.nodup _)]

/-- Members with different names are in one order. -/
theorem rosterList_eq (h : SameStorage tables tables') (hnames : ∀ a ∈ rosterOnly tables snapshot,
    ∀ b ∈ rosterOnly tables snapshot, (rosterValue tables snapshot a).1 =
      (rosterValue tables snapshot b).1 → a = b) :
    rosterList order tables snapshot = rosterList order' tables' snapshot := by
  have hvalue : rosterValue tables snapshot = rosterValue tables' snapshot := by
    funext code
    unfold rosterValue
    rw [h.rosterCodes]
  unfold rosterList missingFromDirectory
  rw [← h.rosterOnly, h.rosterEntry, ← hvalue]
  have hkeys := order.keys_perm order' (rosterOnly tables snapshot)
  rw [sortOn_eq_of_perm hkeys]
  refine (order.nodup _).map_on fun a ha b hb heq => ?_
  exact hnames a ((order.mem_keys _ _).mp ha) b ((order.mem_keys _ _).mp hb) heq

/-- Of members with one name, the one that the set gives first is listed first. -/
theorem head_of_first {α κ : Type} [DecidableEq α] [LinearOrder κ] (order : SetOrder α)
    (key : α → κ) {s : Finset α} {a b : α} (ha : a ∈ s)
    (hkey : key a = key b) :
    ((sortOn key ((order.first a).keys s)).filter fun x => x = a ∨ x = b).head? = some a := by
  have hfilter : ((a :: order.keys (s.erase a)).filter fun x => x = a ∨ x = b) =
      a :: (order.keys (s.erase a)).filter fun x => x = a ∨ x = b :=
        List.filter_cons_of_pos (by simp)
  rw [filter_sortOn, SetOrder.keys_first ha, hfilter, sortOn_eq_self]
  · rfl
  · -- all that is left has the same key
    have hsame : ∀ x ∈ a :: (order.keys (s.erase a)).filter (fun x => x = a ∨ x = b),
        key x = key a := by
      intro x hx
      cases List.mem_cons.mp hx with
      | inl heq => rw [heq]
      | inr hx =>
        have hx : x = a ∨ x = b := by simpa using (List.mem_filter.mp hx).2
        cases hx with
        | inl heq => rw [heq]
        | inr heq => rw [heq, hkey]
    exact List.Pairwise.imp_of_mem (R := fun _ _ => True)
      (fun hx hy _ => by rw [hsame _ hx, hsame _ hy])
      (List.pairwise_of_forall fun _ _ => trivial)

end Partitions

/-- More published entries than the roster and the page together can name are lost. -/
theorem not_partitionsBoth_of_many {tables : ComparedTables} {snapshot : RosterSnapshot}
    (hmany : (rosterRows tables snapshot).length + MAX_COMPARISON_ROWS <
      (publishedEntries tables).length) :
    ¬PartitionsBoth tables snapshot := by
  intro h
  have hne : publishedEntries tables ≠ [] := by
    intro hnil
    rw [hnil] at hmany
    exact absurd hmany (Nat.not_lt_zero _)
  obtain ⟨comparison, hcomparison⟩ := exists_comparison SetOrder.ascending snapshot hne
  obtain ⟨-, hmatched, -, honly, -⟩ := compareSources_eq_some hcomparison
  have hcount := h.directory _ _ hcomparison
  unfold SourceComparison.onlyInDirectoryCount at hcount
  rw [honly, List.length_take, hmatched] at hcount
  have hroster := card_matched_add_rosterOnly tables snapshot
  omega

/-- The comparison partitions both sources exactly where there is nothing to compare with, or both
mismatches fit the page and members only the roster has can be told apart by name. -/
theorem partitionsBoth_iff (tables : ComparedTables) (snapshot : RosterSnapshot) :
    PartitionsBoth tables snapshot ↔ publishedEntries tables = [] ∨ FitsPage tables snapshot := by
  have hroster := card_matched_add_rosterOnly tables snapshot
  have hdirectory := card_matched_add_directoryOnly tables snapshot
  constructor
  · intro h
    by_cases hpublished : publishedEntries tables = []
    · exact Or.inl hpublished
    · obtain ⟨comparison, hcomparison⟩ := exists_comparison SetOrder.ascending snapshot hpublished
      obtain ⟨-, hmatched, honly, honly', hwithout⟩ := compareSources_eq_some hcomparison
      have hcount := h.roster _ _ hcomparison
      have hcount' := h.directory _ _ hcomparison
      unfold SourceComparison.onlyInRosterCount at hcount
      unfold SourceComparison.onlyInDirectoryCount at hcount'
      rw [honly, List.length_take, length_rosterList, hmatched, hwithout] at hcount
      rw [honly', List.length_take, length_directoryList, hmatched] at hcount'
      have hfits : (rosterOnly tables snapshot).card ≤ MAX_COMPARISON_ROWS := by omega
      have hfits' : (directoryOnly tables snapshot).card ≤ MAX_COMPARISON_ROWS := by omega
      refine Or.inr ⟨hfits, hfits', fun a ha b hb hname => ?_⟩
      obtain ⟨rosterRows, directoryRows, hlists, -, hfront⟩ := h.fixed
      -- with either of them first in the set, the same whole list is shown
      have hwhole : ∀ order, rosterList order tables snapshot <+: rosterRows := by
        intro order
        obtain ⟨comparison, hcomparison⟩ := exists_comparison order snapshot hpublished
        have hlisted := (hfront order tables (.refl tables) comparison hcomparison).1
        rw [(compareSources_eq_some hcomparison).2.2.1,
          List.take_of_length_le (by rw [length_rosterList]; exact hfits)]
          at hlisted
        exact hlisted
      have hsame : rosterList (SetOrder.ascending.first a) tables snapshot =
          rosterList (SetOrder.ascending.first b) tables snapshot :=
        List.IsPrefix.eq_of_length (List.prefix_of_prefix_length_le (hwhole _) (hwhole _)
          (by rw [length_rosterList, length_rosterList]))
            (by rw [length_rosterList, length_rosterList])
      have hcodes := congrArg (List.map ComparisonEntry.registryCode) hsame
      unfold rosterList at hcodes
      rw [List.map_map, List.map_map] at hcodes
      have hid : (ComparisonEntry.registryCode ∘ rosterEntry tables snapshot) = id := rfl
      rw [hid, List.map_id, List.map_id] at hcodes
      have hfirst := head_of_first SetOrder.ascending
        (fun code => (rosterValue tables snapshot code).1) ha hname
      have hfirst' := head_of_first SetOrder.ascending
        (fun code => (rosterValue tables snapshot code).1) hb hname.symm
      unfold missingFromDirectory at hcodes
      have hswap : (fun x => decide (x = b ∨ x = a)) = fun x => decide (x = a ∨ x = b) := by
        funext x
        exact decide_eq_decide.mpr or_comm
      rw [hcodes, ← hswap, hfirst'] at hfirst
      exact (Option.some.inj hfirst).symm
  · rintro (hpublished | h)
    · have hnone : ∀ {order tables'}, SameStorage tables tables' →
          compareSources order tables' snapshot = none := by
        intro order tables' hstorage
        unfold compareSources
        rw [if_pos
          (directoryCodes_eq_nil_iff.mpr (List.perm_nil.mp (hpublished ▸ hstorage.published.symm)))]
      refine ⟨fun order comparison heq => ?_, fun order comparison heq =>
        ?_, rosterList SetOrder.ascending tables snapshot,
        directoryList SetOrder.ascending tables snapshot, lists_rosterList, lists_directoryList,
        fun order tables' hstorage comparison heq => ?_⟩
      · rw [hnone (.refl tables)] at heq
        cases heq
      · rw [hnone (.refl tables)] at heq
        cases heq
      · rw [hnone hstorage] at heq
        cases heq
    · refine ⟨fun order comparison heq => ?_, fun order comparison heq =>
        ?_, rosterList SetOrder.ascending tables snapshot,
        directoryList SetOrder.ascending tables snapshot, lists_rosterList, lists_directoryList,
        fun order tables' hstorage comparison heq => ?_⟩
      · obtain ⟨-, hmatched, honly, -, hwithout⟩ := compareSources_eq_some heq
        unfold SourceComparison.onlyInRosterCount
        rw [hmatched, honly, hwithout, List.length_take, length_rosterList,
          Nat.min_eq_right h.roster]
        exact hroster
      · obtain ⟨-, hmatched, -, honly, -⟩ := compareSources_eq_some heq
        unfold SourceComparison.onlyInDirectoryCount
        rw [hmatched, honly, List.length_take, length_directoryList, Nat.min_eq_right h.directory]
        exact hdirectory
      · obtain ⟨-, -, honly, honly', -⟩ := compareSources_eq_some heq
        rw [honly, honly', ← rosterList_eq hstorage h.names, ← directoryList_eq hstorage]
        exact ⟨List.take_prefix _ _, List.take_prefix _ _⟩

/-! ## More than a page of mismatches -/

/-- The code `10000000 + i`. -/
def pageCode (i : Nat) : String :=
  String.ofList ['1', '0', '0', '0', '0', Nat.digitChar (i / 100), Nat.digitChar (i / 10 % 10),
    Nat.digitChar (i % 10)]

theorem digitChar_inj : ∀ a < 10, ∀ b < 10, Nat.digitChar a = Nat.digitChar b → a = b := by decide

theorem pageCode_inj {i j : Nat} (hi : i < 1000) (hj : j < 1000)
    (h : pageCode i = pageCode j) : i = j := by
  have hchars := String.ofList_injective h
  simp only [List.cons.injEq, true_and, and_true] at hchars
  have hhundreds := digitChar_inj _ (by omega) _ (by omega) hchars.1
  have htens := digitChar_inj _ (by omega) _ (by omega) hchars.2.1
  have hones := digitChar_inj _ (by omega) _ (by omega) hchars.2.2
  omega

def pageSnapshot : RosterSnapshot := ⟨1, .of 2026 1 31⟩

def pageEntry (i : Nat) : MemberDirectoryEntry := ⟨i, 1, pageCode i, "", 0, 0, true, none⟩

/-- A roster of one member, and a directory of 202 others. -/
def pageTables : ComparedTables where
  roster := [⟨1, some "90000000", "Liige", "", "regular"⟩]
  directory := (List.range 202).map pageEntry
  source := 1
  one_code := List.nodup_singleton _
  one_entry := by
    rw [List.map_map]
    refine List.nodup_range.map_on fun i hi j hj heq => ?_
    have hi := List.mem_range.mp hi
    have hj := List.mem_range.mp hj
    exact pageCode_inj (by omega) (by omega) (Prod.mk.inj heq).2

/-- Of 202 entries the roster does not have, two hundred are counted. -/
theorem pageTables_lost : ¬PartitionsBoth pageTables pageSnapshot := by
  have hall : publishedEntries pageTables = (List.range 202).map pageEntry := by
    refine List.filter_eq_self.mpr fun entry hentry => ?_
    obtain ⟨i, -, rfl⟩ := List.mem_map.mp hentry
    rfl
  have hroster : (rosterRows pageTables pageSnapshot).length = 1 := rfl
  refine not_partitionsBoth_of_many ?_
  rw [hall, hroster, List.length_map, List.length_range]
  decide

end Dashkoda.Membership
