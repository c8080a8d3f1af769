import Dashkoda.Lib.CarryForward
import Dashkoda.Lib.Except
import Dashkoda.Membership.Directory

/-!
# What a reconciliation leaves

The rows of the directory are a register that is carried forward: a reconciliation is one look at
what is published, whatever the rows were.
-/

open Lib
open Lib.CarryForward (lasting look look_later lasting_look observe showing showing_observe)

namespace Dashkoda.Membership

open Core (FeedExn)
open Sources (Time)

/-! ## The loops -/

section Work

variable {now : Time} {existing : Dict String MemberDirectoryEntry} {observed : Dict String String}

theorem foldl_observeCode (items : List (String × String)) (work : DirectoryWork) :
    (items.foldl (observeCode now existing) work).created =
        work.created ++ items.filter (fun item => (existing.get? item.1).isNone) ∧
      (items.foldl (observeCode now existing) work).updated =
        work.updated ++ items.filterMap (fun item =>
          (existing.get? item.1).map fun entry => entry.refreshed item.2 now) := by
  induction items generalizing work with
  | nil => exact ⟨(List.append_nil _).symm, (List.append_nil _).symm⟩
  | cons item rest ih =>
    obtain ⟨hcreated, hupdated⟩ := ih (observeCode now existing work item)
    rw [List.foldl_cons, hcreated, hupdated]
    unfold observeCode
    cases hknown : existing.get? item.1 with
    | none => simp [hknown]
    | some entry => simp [hknown]

theorem foldl_retireCode (items : List (String × MemberDirectoryEntry)) (work : DirectoryWork) :
    (items.foldl (retireCode now observed) work).created = work.created ∧
      (items.foldl (retireCode now observed) work).updated =
        work.updated ++ (items.filter fun item =>
        ¬ (item.1 ∈ observed.keys ∨ item.2.isPublished = false)).map (·.2.retired now) := by
  induction items generalizing work with
  | nil => exact ⟨rfl, (List.append_nil _).symm⟩
  | cons item rest ih =>
    obtain ⟨hcreated, hupdated⟩ := ih (retireCode now observed work item)
    rw [List.foldl_cons, hcreated, hupdated]
    unfold retireCode
    by_cases hskip : item.1 ∈ observed.keys ∨ item.2.isPublished = false
    · rw [if_pos hskip, List.filter_cons, if_neg (mt of_decide_eq_true (not_not.mpr hskip))]
      exact ⟨rfl, rfl⟩
    · rw [if_neg hskip, List.filter_cons, if_pos (decide_eq_true hskip), List.map_cons]
      exact ⟨rfl, by rw [List.append_assoc, List.singleton_append]⟩

end Work

/-! ## The rows -/

/-- What the table keeps up: keys and codes are unique, a row has the moment it went exactly if it
is not published, and every text fits its column. -/
structure DirectorySound (entries : List MemberDirectoryEntry) : Prop where
  keys : Table.UniqueKeys entries
  codes : (entries.map fun entry => (entry.source, entry.registryCode)).Nodup
  flags : ∀ entry ∈ entries, entry.isPublished = entry.unpublishedAt.isNone
  fits : ∀ entry ∈ entries, storeEntry entry = .ok entry

/-- A known row after a look at what is shown for its code. -/
def MemberDirectoryEntry.carried (entry : MemberDirectoryEntry) (shown : Option String)
    (now : Time) :
    MemberDirectoryEntry :=
  match shown with
  | some path => entry.refreshed path now
  | none => if entry.isPublished then entry.retired now else entry

/-- Only the rows of the source are looked at. -/
def carryRow (source : Nat) (now : Time) (observed : Dict String String)
    (entry : MemberDirectoryEntry) : MemberDirectoryEntry :=
  if entry.source = source then entry.carried (observed.get? entry.registryCode) now else entry

/-- What a row says about its code. -/
def MemberDirectoryEntry.sighting (entry : MemberDirectoryEntry) : Sighting String Time :=
  ⟨entry.profilePath, entry.firstSeenAt, entry.lastSeenAt, entry.unpublishedAt⟩

/-- What the rows of a source say about each code. -/
def registerOf (source : Nat) (entries : List MemberDirectoryEntry) (code : String) :
    Option (Sighting String Time) :=
  (entries.find? fun entry => entry.source = source && entry.registryCode = code).map
    MemberDirectoryEntry.sighting

section Rows

variable {source : Nat} {now : Time} {observed : Dict String String} {entry : MemberDirectoryEntry}
  {entries : List MemberDirectoryEntry} {shown : Option String}

@[simp] theorem carried_identity : (entry.carried shown now).pk = entry.pk ∧
    (entry.carried shown now).source = entry.source ∧
    (entry.carried shown now).registryCode = entry.registryCode ∧
    (entry.carried shown now).firstSeenAt = entry.firstSeenAt := by
  unfold MemberDirectoryEntry.carried
  cases shown with
  | some path => exact ⟨rfl, rfl, rfl, rfl⟩
  | none =>
    dsimp only
    split
    · exact ⟨rfl, rfl, rfl, rfl⟩
    · exact ⟨rfl, rfl, rfl, rfl⟩

theorem carryRow_identity : (carryRow source now observed entry).pk = entry.pk ∧
    (carryRow source now observed entry).source = entry.source ∧
    (carryRow source now observed entry).registryCode = entry.registryCode ∧
    (carryRow source now observed entry).firstSeenAt = entry.firstSeenAt := by
  unfold carryRow
  split
  · exact carried_identity
  · exact ⟨rfl, rfl, rfl, rfl⟩

theorem carryRow_lastSeen (h : entry.lastSeenAt ≤ now) :
    entry.lastSeenAt ≤ (carryRow source now observed entry).lastSeenAt := by
  unfold carryRow MemberDirectoryEntry.carried
  split
  · split
    · exact h
    · split
      · exact le_refl _
      · exact le_refl _
  · exact le_refl _

/-- A carried row is its sighting after one more look. -/
theorem sighting_carried (hflags : entry.isPublished = entry.unpublishedAt.isNone) :
    some (entry.carried shown now).sighting = look now (some entry.sighting) shown := by
  unfold MemberDirectoryEntry.carried
  cases hgone : entry.unpublishedAt with
  | none =>
    rw [hgone, Option.isNone_none] at hflags
    cases shown <;> simp [hflags, look, MemberDirectoryEntry.sighting, hgone,
      MemberDirectoryEntry.refreshed, MemberDirectoryEntry.retired]
  | some moment =>
    rw [hgone, Option.isNone_some] at hflags
    cases shown <;> simp [hflags, look, MemberDirectoryEntry.sighting, hgone,
      MemberDirectoryEntry.refreshed]

theorem carried_flags (hflags : entry.isPublished = entry.unpublishedAt.isNone) :
    (entry.carried shown now).isPublished = (entry.carried shown now).unpublishedAt.isNone := by
  unfold MemberDirectoryEntry.carried
  cases hpublished : entry.isPublished with
  | true =>
    rw [hpublished] at hflags
    cases shown <;> simp [MemberDirectoryEntry.refreshed, MemberDirectoryEntry.retired, hpublished,
      ← hflags]
  | false =>
    rw [hpublished] at hflags
    cases shown <;> simp [MemberDirectoryEntry.refreshed, hpublished, ← hflags]

/-- The rows of the source, found by their code. -/
theorem get?_existingEntries (h : DirectorySound entries) {code : String} :
    (existingEntries source entries).get? code = some entry ↔
      entry ∈ entries ∧ entry.source = source ∧ entry.registryCode = code := by
  have hkeys : (((entries.filter (·.source = source)).map fun entry =>
      (entry.registryCode, entry)).map Prod.fst).Nodup := by
    rw [List.map_map]
    have hrows :=
      h.codes.sublist ((List.filter_sublist (p := (·.source = source)) (l := entries)).map
      fun entry => (entry.source, entry.registryCode))
    refine List.Nodup.of_map (fun code => (source, code)) ?_
    rw [List.map_map]
    convert hrows using 1
    apply List.map_congr_left
    intro entry hentry
    have hsource := of_decide_eq_true (List.mem_filter.mp hentry).2
    show (source, entry.registryCode) = (entry.source, entry.registryCode)
    rw [hsource]
  rw [Dict.get?_eq_some_iff, existingEntries, Dict.entries_ofList hkeys, List.mem_map]
  constructor
  · rintro ⟨other, hother, heq⟩
    cases heq
    obtain ⟨hin, hsource⟩ := List.mem_filter.mp hother
    exact ⟨hin, of_decide_eq_true hsource, rfl⟩
  · rintro ⟨hin, hsource, rfl⟩
    exact ⟨entry, List.mem_filter.mpr ⟨hin, decide_eq_true hsource⟩, rfl⟩

end Rows

/-! ## Texts that fit -/

theorem textColumn_eq_ok_iff {name : String} {max : Nat} {text stored : String}
    (h : text.length ≤ max) :
    textColumn name max text = .ok stored ↔ '\x00' ∉ text.toList ∧ stored = text := by
  unfold textColumn
  by_cases hnul : '\x00' ∈ text.toList
  · rw [show Column.varchar max text = .error .nul from if_pos hnul]
    exact ⟨fun hok => (by cases hok), fun hok => absurd hnul hok.1⟩
  · rw [Column.varchar_of_fits hnul h]
    exact ⟨fun hok => ⟨hnul, (Except.ok.inj hok).symm⟩, fun hok => congrArg Except.ok hok.2.symm⟩

/-- A row of texts that are short enough is stored as it is, unless one has the character NUL. -/
theorem storeEntry_eq_ok_iff {entry stored : MemberDirectoryEntry}
    (hcode : entry.registryCode.length ≤ 16)
    (hpath : entry.profilePath.length ≤ 300) : storeEntry entry = .ok stored ↔
      ('\x00' ∉ entry.registryCode.toList ∧ '\x00' ∉ entry.profilePath.toList) ∧
      stored = entry := by
  unfold storeEntry
  constructor
  · intro hok
    obtain ⟨code, hcode', hok⟩ := bind_eq_ok_iff.mp hok
    obtain ⟨path, hpath', hok⟩ := bind_eq_ok_iff.mp hok
    obtain ⟨hcodeNul, rfl⟩ := (textColumn_eq_ok_iff hcode).mp hcode'
    obtain ⟨hpathNul, rfl⟩ := (textColumn_eq_ok_iff hpath).mp hpath'
    exact ⟨⟨hcodeNul, hpathNul⟩, (Except.ok.inj hok).symm⟩
  · rintro ⟨⟨hcodeNul, hpathNul⟩, rfl⟩
    exact bind_eq_ok_iff.mpr ⟨_, (textColumn_eq_ok_iff hcode).mpr ⟨hcodeNul, rfl⟩,
      bind_eq_ok_iff.mpr ⟨_, (textColumn_eq_ok_iff hpath).mpr ⟨hpathNul, rfl⟩, rfl⟩⟩

/-- The texts of a row that is stored as it is. -/
theorem fits_of_storeEntry {entry : MemberDirectoryEntry} (h : storeEntry entry = .ok entry) :
    ('\x00' ∉ entry.registryCode.toList ∧ entry.registryCode.length ≤ 16) ∧
      '\x00' ∉ entry.profilePath.toList ∧ entry.profilePath.length ≤ 300 := by
  have hcolumn {name : String} {max : Nat} {text : String}
      (hok : textColumn name max text = .ok text) :
      '\x00' ∉ text.toList ∧ text.length ≤ max := by
    unfold textColumn Column.varchar at hok
    split at hok
    · rename_i stored hstored
      split at hstored
      · cases hstored
      · rename_i hnul
        split at hstored
        · rename_i hlength
          exact ⟨hnul, hlength⟩
        · split at hstored
          · -- what is cut off is not stored as it is
            cases hstored
            have hcut : PyText.take max text = text := Except.ok.inj hok
            exact ⟨hnul, hcut ▸ length_take_le max text⟩
          · cases hstored
    · cases hok
  unfold storeEntry at h
  obtain ⟨code, hcode, h⟩ := bind_eq_ok_iff.mp h
  obtain ⟨path, hpath, h⟩ := bind_eq_ok_iff.mp h
  have hentry := Except.ok.inj h
  have hcodeSame : code = entry.registryCode := congrArg MemberDirectoryEntry.registryCode hentry
  have hpathSame : path = entry.profilePath := congrArg MemberDirectoryEntry.profilePath hentry
  rw [hcodeSame] at hcode
  rw [hpathSame] at hpath
  exact ⟨hcolumn hcode, hcolumn hpath⟩

/-- Every path and code of the set can be stored. -/
def DirectoryCollection.Storable (collection : DirectoryCollection) : Prop :=
  ∀ row ∈ collection.rows, '\x00' ∉ row.registryCode.toList ∧ '\x00' ∉ row.profilePath.toList

/-- The observed texts come from the rows. -/
theorem exists_row_of_observedPaths {rows : List DirectoryRow} {code path : String}
    (h : (observedPaths rows).get? code = some path) :
    ∃ row ∈ rows, row.registryCode = code ∧ row.profilePath = path := by
  have hentry := Dict.get?_eq_some_iff.mp h
  unfold observedPaths at hentry
  obtain ⟨row, hrow, heq⟩ := List.mem_map.mp (Dict.mem_of_mem_ofList hentry)
  cases heq
  exact ⟨row, hrow, rfl, rfl⟩

/-! ## One reconciliation -/

/-- The rows are the old ones after a look at what is observed, and new ones for the other codes. -/
structure Reconciled (source : Nat) (now : Time) (observed : Dict String String)
    (entries news : List MemberDirectoryEntry) : Prop where
  stated : ∀ entry ∈ news, ∃ pk path, entry = newEntry source now pk (entry.registryCode, path) ∧
    observed.get? entry.registryCode = some path
  fresh : ∀ entry ∈ news, ∀ old ∈ entries,
    ¬ (old.source = source ∧ old.registryCode = entry.registryCode)
  covered : ∀ code path, observed.get? code = some path →
    (∃ old ∈ entries, old.source = source ∧ old.registryCode = code) ∨
      ∃ entry ∈ news, entry.registryCode = code

section Reconcile

variable {source : Nat} {now : Time} {rows : List DirectoryRow}
  {entries : List MemberDirectoryEntry}

/-- The rows for the codes that are not known yet. -/
def newEntries (source : Nat) (now : Time) (rows : List DirectoryRow)
    (entries : List MemberDirectoryEntry) : List MemberDirectoryEntry :=
  (reconcileWork source now rows entries).created.mapIdx fun i item =>
    newEntry source now (Table.nextPk entries + i) item

theorem created_eq : (reconcileWork source now rows entries).created =
    (observedPaths rows).entries.filter fun item =>
      ((existingEntries source entries).get? item.1).isNone := by
  unfold reconcileWork
  dsimp only
  rw [(foldl_retireCode _ _).1, (foldl_observeCode _ _).1, List.nil_append]

theorem mem_created {item : String × String} :
    item ∈ (reconcileWork source now rows entries).created ↔
      item ∈ (observedPaths rows).entries ∧
      (existingEntries source entries).get? item.1 = none := by
  rw [created_eq, List.mem_filter, Option.isNone_iff_eq_none]

theorem updated_eq : (reconcileWork source now rows entries).updated =
    (observedPaths rows).entries.filterMap (fun item =>
        ((existingEntries source entries).get? item.1).map fun entry =>
          entry.refreshed item.2 now) ++
      ((existingEntries source entries).entries.filter fun item =>
        ¬ (item.1 ∈ (observedPaths rows).keys ∨ item.2.isPublished = false)).map
          (·.2.retired now) := by
  unfold reconcileWork
  dsimp only
  rw [(foldl_retireCode _ _).2, (foldl_observeCode _ _).2, List.nil_append]

theorem mem_newEntries {entry : MemberDirectoryEntry}
    (h : entry ∈ newEntries source now rows entries) :
    ∃ pk path, entry = newEntry source now pk (entry.registryCode, path) ∧
      (observedPaths rows).get? entry.registryCode = some path ∧
      (existingEntries source entries).get? entry.registryCode = none := by
  unfold newEntries at h
  obtain ⟨i, hi, hentry⟩ := List.mem_mapIdx.mp h
  obtain ⟨hobserved, hnone⟩ := mem_created.mp (List.getElem_mem hi)
  generalize (reconcileWork source now rows entries).created[i] = item at hentry hobserved hnone
  subst hentry
  exact ⟨_, item.2, rfl, Dict.get?_eq_some_iff.mpr hobserved, hnone⟩

theorem newEntries_reconciled (h : DirectorySound entries) :
    Reconciled source now (observedPaths rows) entries (newEntries source now rows entries) := by
  refine ⟨fun entry hentry => ?_, fun entry hentry old hold hsame =>
    ?_, fun code path hobserved => ?_⟩
  · obtain ⟨pk, path, heq, hobserved, -⟩ := mem_newEntries hentry
    exact ⟨pk, path, heq, hobserved⟩
  · obtain ⟨_, _, -, -, hnone⟩ := mem_newEntries hentry
    rw [(get?_existingEntries h).mpr ⟨hold, hsame.1, hsame.2⟩] at hnone
    cases hnone
  · cases hknown : (existingEntries source entries).get? code with
    | some old =>
      obtain ⟨hin, hsource, hcode⟩ := (get?_existingEntries h).mp hknown
      exact Or.inl ⟨old, hin, hsource, hcode⟩
    | none =>
      right
      have hitem : (code, path) ∈ (reconcileWork source now rows entries).created :=
        mem_created.mpr ⟨Dict.get?_eq_some_iff.mp hobserved, hknown⟩
      obtain ⟨i, hi, heq⟩ := List.getElem_of_mem hitem
      refine ⟨newEntry source now (Table.nextPk entries + i) (code, path), ?_, rfl⟩
      exact List.mem_mapIdx.mpr ⟨i, hi, by rw [heq]⟩

theorem newEntries_keys (h : DirectorySound entries) :
    Table.UniqueKeys (entries ++ newEntries source now rows entries) :=
  Table.uniqueKeys_append_mapIdx h.keys _ (newEntry source now) (fun _ _ => rfl) fun _ hrow =>
    Table.pk_lt_nextPk hrow

/-- A new row is what a look at its code would make of it. -/
theorem carryRow_newEntry {entry : MemberDirectoryEntry}
    (hentry : entry ∈ newEntries source now rows entries) :
    carryRow source now (observedPaths rows) entry = entry := by
  obtain ⟨pk, path, heq, hobserved, -⟩ := mem_newEntries hentry
  unfold carryRow
  rw [if_pos (by rw [heq]; rfl), hobserved, heq]
  rfl

theorem updated_made (h : DirectorySound entries) {x : MemberDirectoryEntry}
    (hx : x ∈ (reconcileWork source now rows entries).updated) :
    ∃ entry ∈ entries, x = carryRow source now (observedPaths rows) entry := by
  rw [updated_eq] at hx
  cases List.mem_append.mp hx with
  | inl hobserved =>
    obtain ⟨item, hitem, hmap⟩ := List.mem_filterMap.mp hobserved
    obtain ⟨entry, hknown, rfl⟩ := Option.map_eq_some_iff.mp hmap
    obtain ⟨hin, hsource, hcode⟩ := (get?_existingEntries h).mp hknown
    refine ⟨entry, hin, ?_⟩
    unfold carryRow
    rw [if_pos hsource, hcode, Dict.get?_eq_some_iff.mpr hitem]
    rfl
  | inr hretired =>
    obtain ⟨item, hitem, rfl⟩ := List.mem_map.mp hretired
    obtain ⟨hexisting, hkept⟩ := List.mem_filter.mp hitem
    have hkept := of_decide_eq_true hkept
    rw [not_or] at hkept
    obtain ⟨hin, hsource, hcode⟩ :=
      (get?_existingEntries h).mp (Dict.get?_eq_some_iff.mpr hexisting)
    refine ⟨item.2, hin, ?_⟩
    unfold carryRow MemberDirectoryEntry.carried
    rw [if_pos hsource, hcode, Dict.get?_eq_none_of_not_mem_keys hkept.1,
      if_pos (Bool.eq_true_of_not_eq_false hkept.2)]

theorem updated_all (h : DirectorySound entries) {entry : MemberDirectoryEntry}
    (hentry : entry ∈ entries) :
    carryRow source now (observedPaths rows) entry ∈
      (reconcileWork source now rows entries).updated ∨
      carryRow source now (observedPaths rows) entry = entry := by
  unfold carryRow
  by_cases hsource : entry.source = source
  · rw [if_pos hsource, updated_eq]
    have hknown := (@get?_existingEntries source entry entries h entry.registryCode).mpr
      ⟨hentry, hsource, rfl⟩
    unfold MemberDirectoryEntry.carried
    cases hobserved : (observedPaths rows).get? entry.registryCode with
    | some path =>
      left
      apply List.mem_append_left
      refine List.mem_filterMap.mpr
        ⟨(entry.registryCode, path), Dict.get?_eq_some_iff.mp hobserved, ?_⟩
      rw [hknown]
      rfl
    | none =>
      dsimp only
      cases hpublished : entry.isPublished with
      | false => exact Or.inr (if_neg Bool.false_ne_true)
      | true =>
        left
        rw [if_pos rfl]
        apply List.mem_append_right
        refine List.mem_map.mpr ⟨(entry.registryCode, entry), List.mem_filter.mpr
          ⟨Dict.get?_eq_some_iff.mp hknown, decide_eq_true ?_⟩, rfl⟩
        rintro (hkey | hfalse)
        · obtain ⟨path, hpath⟩ := Dict.mem_keys.mp hkey
          rw [Dict.get?_eq_some_iff.mpr hpath] at hobserved
          cases hobserved
        · rw [hpublished] at hfalse
          cases hfalse
  · exact Or.inr (if_neg hsource)

/-- The texts of the rows to write are those of the set, or were stored before. -/
theorem carryRow_lengths (h : DirectorySound entries) {entry : MemberDirectoryEntry}
    (hentry : entry ∈ entries) :
    (carryRow source now (observedPaths rows) entry).registryCode.length ≤ 16 ∧
      (carryRow source now (observedPaths rows) entry).profilePath.length ≤ 300 := by
  have hfits := fits_of_storeEntry (h.fits entry hentry)
  refine ⟨?_, ?_⟩
  · rw [carryRow_identity.2.2.1]
    exact hfits.1.2
  · unfold carryRow MemberDirectoryEntry.carried
    split
    · split
      · rename_i path hpath
        obtain ⟨row, -, -, rfl⟩ := exists_row_of_observedPaths hpath
        exact row.path_length
      · split
        · exact hfits.2.2
        · exact hfits.2.2
    · exact hfits.2.2

theorem newEntries_lengths {entry : MemberDirectoryEntry}
    (hentry : entry ∈ newEntries source now rows entries) :
    entry.registryCode.length ≤ 16 ∧ entry.profilePath.length ≤ 300 := by
  obtain ⟨pk, path, heq, hobserved, -⟩ := mem_newEntries hentry
  obtain ⟨row, -, hcode, hpath⟩ := exists_row_of_observedPaths hobserved
  rw [heq, ← hcode]
  show row.registryCode.length ≤ 16 ∧ path.length ≤ 300
  rw [← hpath]
  exact ⟨row.code_length, row.path_length⟩

/-- No code is new and known at once, and none is new twice. -/
theorem newEntries_codes (h : DirectorySound entries) :
    ((entries ++ newEntries source now rows entries).map fun entry =>
      (entry.source, entry.registryCode)).Nodup := by
  have hnew : (newEntries source now rows entries).map
      (fun entry => (entry.source, entry.registryCode)) =
      (reconcileWork source now rows entries).created.map fun item => (source, item.1) :=
    Table.map_mapIdx fun _ _ => rfl
  have hcreated : ((reconcileWork source now rows entries).created.map Prod.fst).Nodup := by
    rw [created_eq]
    exact (observedPaths rows).keys_nodup.sublist (List.filter_sublist.map _)
  rw [List.map_append, List.nodup_append]
  refine ⟨h.codes, ?_, ?_⟩
  · have hmap := hcreated.map (f := Prod.mk source) fun _ _ heq => (Prod.mk.inj heq).2
    rw [List.map_map] at hmap
    rw [hnew]
    exact hmap
  · intro a ha b hb heq
    obtain ⟨old, hold, rfl⟩ := List.mem_map.mp ha
    obtain ⟨entry, hentry, rfl⟩ := List.mem_map.mp hb
    obtain ⟨pk, path, hform, -⟩ := mem_newEntries hentry
    have hsource : entry.source = source := by rw [hform]; rfl
    obtain ⟨hsame, hcode⟩ := Prod.mk.inj heq
    exact (newEntries_reconciled h).fresh entry hentry old hold ⟨hsame.trans hsource, hcode⟩

theorem map_carryRow {β : Type} {f : MemberDirectoryEntry → β}
    (hf : ∀ entry, f (carryRow source now (observedPaths rows) entry) = f entry) :
    (entries.map (carryRow source now (observedPaths rows))).map f = entries.map f := by
  rw [List.map_map]
  exact List.map_congr_left fun entry _ => hf entry

theorem carryRow_flags {entry : MemberDirectoryEntry}
    (h : entry.isPublished = entry.unpublishedAt.isNone) :
    (carryRow source now (observedPaths rows) entry).isPublished =
      (carryRow source now (observedPaths rows) entry).unpublishedAt.isNone := by
  unfold carryRow
  split
  · exact carried_flags h
  · exact h

/-- The rows a reconciliation leaves are sound where everything it writes can be stored. -/
theorem reconciled_sound (h : DirectorySound entries)
    (hnew : ∀ entry ∈ newEntries source now rows entries, storeEntry entry = .ok entry)
    (hupdated : ∀ entry ∈ (reconcileWork source now rows entries).updated, storeEntry entry =
      .ok entry) :
    DirectorySound (entries.map (carryRow source now (observedPaths rows)) ++
      newEntries source now rows entries) := by
  refine ⟨?_, ?_, fun entry hentry => ?_, fun entry hentry => ?_⟩
  · have hkeys := @newEntries_keys source now rows entries h
    unfold Table.UniqueKeys at hkeys ⊢
    rw [List.map_append] at hkeys ⊢
    rw [@map_carryRow source now rows entries _ Row.pk fun _ => carryRow_identity.1]
    exact hkeys
  · have hcodes := @newEntries_codes source now rows entries h
    rw [List.map_append] at hcodes ⊢
    rw [map_carryRow fun entry => by rw [carryRow_identity.2.1, carryRow_identity.2.2.1]]
    exact hcodes
  · cases List.mem_append.mp hentry with
    | inl hold =>
      obtain ⟨old, hin, rfl⟩ := List.mem_map.mp hold
      exact carryRow_flags (h.flags old hin)
    | inr hfresh =>
      obtain ⟨pk, path, heq, -⟩ := mem_newEntries hfresh
      rw [heq]
      rfl
  · cases List.mem_append.mp hentry with
    | inl hold =>
      obtain ⟨old, hin, rfl⟩ := List.mem_map.mp hold
      cases @updated_all source now rows entries h old hin with
      | inl hwritten => exact hupdated _ hwritten
      | inr hsame => rw [hsame]; exact h.fits old hin
    | inr hfresh => exact hnew entry hfresh

theorem store_newEntries {created : List MemberDirectoryEntry}
    (hok : (newEntries source now rows entries).mapM storeEntry = .ok created) :
    created = newEntries source now rows entries ∧
      ∀ entry ∈ newEntries source now rows entries, storeEntry entry = .ok entry := by
  have hstored (entry : MemberDirectoryEntry) (hentry : entry ∈ newEntries source now rows entries)
      (stored : MemberDirectoryEntry) (hstored : storeEntry entry = .ok stored) : stored = entry :=
    ((storeEntry_eq_ok_iff (newEntries_lengths hentry).1
      (newEntries_lengths hentry).2).mp hstored).2
  refine ⟨eq_of_mapM_eq_ok hstored hok, fun entry hentry => ?_⟩
  obtain ⟨stored, -, hok⟩ := exists_of_mem_forall₂_left (forall₂_of_mapM_eq_ok hok) hentry
  rw [hok, hstored entry hentry stored hok]

theorem store_updated (h : DirectorySound entries) {updated : List MemberDirectoryEntry}
    (hok : (reconcileWork source now rows entries).updated.mapM storeEntry = .ok updated) :
    updated = (reconcileWork source now rows entries).updated ∧
      ∀ entry ∈ (reconcileWork source now rows entries).updated, storeEntry entry = .ok entry := by
  have hstored (x : MemberDirectoryEntry) (hx : x ∈ (reconcileWork source now rows entries).updated)
      (stored : MemberDirectoryEntry) (hstored : storeEntry x = .ok stored) : stored = x := by
    obtain ⟨entry, hentry, rfl⟩ := updated_made h hx
    have hlengths := @carryRow_lengths source now rows entries h entry hentry
    exact ((storeEntry_eq_ok_iff hlengths.1 hlengths.2).mp hstored).2
  refine ⟨eq_of_mapM_eq_ok hstored hok, fun x hx => ?_⟩
  obtain ⟨stored, -, hok⟩ := exists_of_mem_forall₂_left (forall₂_of_mapM_eq_ok hok) hx
  rw [hok, hstored x hx stored hok]

/-- The versions the loops gathered are what a look at the codes makes of the rows. -/
theorem updateAll_eq (h : DirectorySound entries) :
    Table.updateAll (reconcileWork source now rows entries).updated
        (entries ++ newEntries source now rows entries) =
      entries.map (carryRow source now (observedPaths rows)) ++
        newEntries source now rows entries := by
  rw [Table.updateAll_eq_map (newEntries_keys h) (f := carryRow source now (observedPaths rows))
    fun _ => carryRow_identity.1, List.map_append]
  · congr 1
    refine (List.map_congr_left fun entry hentry => ?_).trans (List.map_id _)
    exact carryRow_newEntry hentry
  · intro x hx
    obtain ⟨entry, hentry, heq⟩ := updated_made h hx
    exact ⟨entry, List.mem_append_left _ hentry, heq⟩
  · intro entry hentry
    cases List.mem_append.mp hentry with
    | inl hold => exact updated_all h hold
    | inr hnew => exact Or.inr (carryRow_newEntry hnew)

/-- What a reconciliation leaves if it goes through. -/
theorem reconcileEntries_eq_ok {reconciled : List MemberDirectoryEntry × DirectoryReconciliation}
    (h : DirectorySound entries) (hok : reconcileEntries source now rows entries = .ok reconciled) :
    reconciled.1 = entries.map (carryRow source now (observedPaths rows)) ++
      newEntries source now rows entries ∧ DirectorySound reconciled.1 := by
  obtain ⟨written, hwrite, rfl⟩ := map_eq_ok_iff.mp hok
  unfold writeWork at hwrite
  obtain ⟨created, hcreated, hwrite⟩ := bind_eq_ok_iff.mp hwrite
  obtain ⟨rfl, hnew⟩ := store_newEntries hcreated
  rw [if_neg (not_not.mpr (newEntries_codes h))] at hwrite
  obtain ⟨updated, hupdated, hwrite⟩ := bind_eq_ok_iff.mp hwrite
  obtain ⟨rfl, hkept⟩ := store_updated h hupdated
  have hwritten := (Except.ok.inj hwrite).symm.trans (updateAll_eq h)
  exact ⟨hwritten, hwritten.symm ▸ reconciled_sound h hnew hkept⟩

/-- A set whose texts can be stored is reconciled. -/
theorem exists_reconcileEntries (h : DirectorySound entries)
    (hstorable : ∀ row ∈ rows, '\x00' ∉ row.registryCode.toList ∧ '\x00' ∉ row.profilePath.toList) :
    ∃ reconciled, reconcileEntries source now rows entries = .ok reconciled := by
  have hnew : ∀ entry ∈ newEntries source now rows entries, storeEntry entry = .ok entry := by
    intro entry hentry
    have hlengths := newEntries_lengths hentry
    refine (storeEntry_eq_ok_iff hlengths.1 hlengths.2).mpr ⟨?_, rfl⟩
    obtain ⟨pk, path, heq, hobserved, -⟩ := mem_newEntries hentry
    obtain ⟨row, hrow, hcode, rfl⟩ := exists_row_of_observedPaths hobserved
    rw [heq]
    exact ⟨hcode ▸ (hstorable row hrow).1, (hstorable row hrow).2⟩
  have hupdated : ∀ x ∈ (reconcileWork source now rows entries).updated, storeEntry x = .ok x := by
    intro x hx
    obtain ⟨entry, hentry, rfl⟩ := updated_made h hx
    have hlengths := @carryRow_lengths source now rows entries h entry hentry
    have hfits := fits_of_storeEntry (h.fits entry hentry)
    refine (storeEntry_eq_ok_iff hlengths.1 hlengths.2).mpr ⟨⟨?_, ?_⟩, rfl⟩
    · rw [carryRow_identity.2.2.1]
      exact hfits.1.1
    · unfold carryRow MemberDirectoryEntry.carried
      split
      · split
        · rename_i path hpath
          obtain ⟨row, hrow, -, rfl⟩ := exists_row_of_observedPaths hpath
          exact (hstorable row hrow).2
        · split
          · exact hfits.2.1
          · exact hfits.2.1
      · exact hfits.2.1
  obtain ⟨created, hcreated⟩ := exists_mapM_eq_ok fun entry hentry => ⟨entry, hnew entry hentry⟩
  obtain ⟨updated, hkept⟩ := exists_mapM_eq_ok fun x hx => ⟨x, hupdated x hx⟩
  obtain ⟨rfl, -⟩ := store_newEntries hcreated
  refine ⟨_, map_eq_ok_iff.mpr
    ⟨Table.updateAll updated (entries ++ newEntries source now rows entries), ?_, rfl⟩⟩
  unfold writeWork
  refine bind_eq_ok_iff.mpr ⟨_, hcreated, ?_⟩
  rw [if_neg (not_not.mpr (newEntries_codes h))]
  exact bind_eq_ok_iff.mpr ⟨updated, hkept, rfl⟩

/-! ## The register -/

theorem found_code {table : List MemberDirectoryEntry} {code : String}
    {entry : MemberDirectoryEntry}
    (h : (table.find? fun entry => entry.source = source && entry.registryCode = code) =
      some entry) :
    entry ∈ table ∧ entry.source = source ∧ entry.registryCode = code := by
  have hfound := List.find?_some h
  rw [Bool.and_eq_true] at hfound
  exact ⟨List.mem_of_find?_eq_some h, of_decide_eq_true hfound.1, of_decide_eq_true hfound.2⟩

theorem found_no_code {table : List MemberDirectoryEntry} {code : String} :
    (table.find? fun entry => entry.source = source && entry.registryCode = code) = none ↔
      ∀ entry ∈ table, ¬ (entry.source = source ∧ entry.registryCode = code) := by
  rw [List.find?_eq_none]
  refine forall_congr' fun entry => forall_congr' fun _ => not_congr ?_
  rw [Bool.and_eq_true, decide_eq_true_iff, decide_eq_true_iff]

/-- A reconciliation is one look at what is published. -/
theorem registerOf_reconciled (h : DirectorySound entries) (code : String) :
    registerOf source (entries.map (carryRow source now (observedPaths rows)) ++
        newEntries source now rows entries) code =
      observe now (observedPaths rows).get? (registerOf source entries) code := by
  have hnews := @newEntries_reconciled source now rows entries h
  have hsame (entry : MemberDirectoryEntry) :
      (decide ((carryRow source now (observedPaths rows) entry).source = source) &&
        decide ((carryRow source now (observedPaths rows) entry).registryCode = code)) =
      (decide (entry.source = source) && decide (entry.registryCode = code)) := by
    rw [carryRow_identity.2.1, carryRow_identity.2.2.1]
  unfold registerOf observe
  beta_reduce
  rw [List.find?_append, List.find?_map,
    show ((fun entry : MemberDirectoryEntry => decide (entry.source = source) &&
      decide (entry.registryCode = code)) ∘ carryRow source now (observedPaths rows)) = _ from
      funext hsame]
  cases hknown : entries.find? fun entry => entry.source = source && entry.registryCode = code with
  | some entry =>
    obtain ⟨hin, hsource, hcode⟩ := found_code hknown
    have hcarried : carryRow source now (observedPaths rows) entry =
        entry.carried ((observedPaths rows).get? code) now := by
      unfold carryRow
      rw [if_pos hsource, hcode]
    rw [Option.map_some, Option.some_or, Option.map_some, hcarried, Option.map_some]
    exact sighting_carried (h.flags entry hin)
  | none =>
    rw [Option.map_none, Option.none_or, Option.map_none]
    cases hobserved : (observedPaths rows).get? code with
    | some path =>
      obtain ⟨entry, hentry, hcode⟩ := (hnews.covered code path hobserved).resolve_left
        fun ⟨old, hold, hsame⟩ => found_no_code.mp hknown old hold hsame
      cases hfound : (newEntries source now rows entries).find? fun entry =>
          entry.source = source && entry.registryCode = code with
      | some entry =>
        obtain ⟨hin, -, hcode⟩ := found_code hfound
        obtain ⟨pk, path', heq, hstated⟩ := hnews.stated entry hin
        rw [hcode, hobserved] at hstated
        cases hstated
        rw [heq]
        rfl
      | none =>
        obtain ⟨pk, path', heq, -⟩ := hnews.stated entry hentry
        have hsource : entry.source = source := by
          rw [heq]
          rfl
        exact absurd ⟨hsource, hcode⟩ (found_no_code.mp hfound entry hentry)
    | none =>
      rw [found_no_code.mpr]
      · rfl
      · rintro entry hentry ⟨-, hcode⟩
        obtain ⟨pk, path', -, hstated⟩ := hnews.stated entry hentry
        rw [hcode, hobserved] at hstated
        cases hstated

end Reconcile

end Dashkoda.Membership
