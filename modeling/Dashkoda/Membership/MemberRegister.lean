import Dashkoda.Lib.Column
import Dashkoda.Membership.RegisterReading

/-!
# The member register

The importer of the register, in terms of what it shares with the other roster, and what it has
stored after any imports.
-/

open Lib

namespace Dashkoda.Membership.MemberRegister

open Roster (RosterReading RosterExn RosterImporter RosterHistory RosterAction)

def IMPORTER_NAME : String := "member_register_csv"

def SCHEMA_VERSION : String := "1.0"

/-- The texts of an entry, each with the length of its column. -/
def RegisterRow.texts (row : RegisterRow) : List (Nat × String) :=
  [(200, row.name), (16, row.legalForm), (16, row.memberNumber), (16, row.statusKey),
    (32, row.statusLabel)] ++
    (row.registryCode.map fun code => (16, code)).toList ++
    [(64, row.county), (64, row.city), (64, row.country), (8, row.naceCode), (160, row.naceLabel),
      (200, row.website)]

def takesEntry (row : RegisterRow) : Bool :=
  (row.texts.all fun column => (Column.varchar column.1 column.2).toBool) &&
    (Column.nullable Column.positiveInteger row.employees).toBool

/-- What the database raises about the entries.  Which of them it meets first is not told apart: the
importer reports them alike. -/
def entriesRefusal (rows : List RegisterRow) : Option RosterExn :=
  if rows.all takesEntry = false then some (.dataError "membership_memberregisterentry")
  else if (rows.filterMap (·.registryCode)).Nodup then none
  else some (.integrityError "memberregisterentry_unique_code_per_snapshot")

/-- What the import goes on with. -/
def RegisterReading.published (reading : RegisterReading) : RosterReading RegisterRow :=
  ⟨reading.rows, reading.rowsRead, reading.diagnostics⟩

def memberRegister (text : TextLibrary) (source : Nat) : RosterImporter RegisterRow where
  source
  importerName := IMPORTER_NAME
  schemaVersion := SCHEMA_VERSION
  names := ⟨by decide, by decide, by decide, by decide⟩
  read raw snapshotDate := (readRegister text raw snapshotDate).map RegisterReading.published
  refusal reading := entriesRefusal reading.rows
  rowsSkipped reading := reading.rowsRead - reading.rows.length
  failureCode := "register_import_failed"
  alreadyImported :=
    "Liikmete nimekiri on juba imporditud. Uue importimiseks kasuta --supersede-previous, mis " ++
    "märgib varasema asendatuks. Midagi ei kustutata."
  failed := "Liikmete nimekirja import ebaõnnestus."

/-! ## What the database takes -/

section Storable

variable {text : TextLibrary} {raw : List UInt8} {snapshotDate : Date} {reading : RegisterReading}
  {row : RegisterRow}

/-- No text has the character NUL, and no two codes are alike as far as they are kept. -/
structure Storable (reading : RegisterReading) : Prop where
  texts : ∀ row ∈ reading.rows, ∀ column ∈ row.texts, '\x00' ∉ column.2.toList
  codes : (reading.seenCodes.map (PyText.take 16)).Nodup

theorem varchar_toBool_iff {max : Nat} {value : String} (h : value.length ≤ max) :
    (Column.varchar max value).toBool = true ↔ '\x00' ∉ value.toList := by
  by_cases hnul : '\x00' ∈ value.toList
  · rw [show Column.varchar max value = .error .nul from if_pos hnul]
    exact iff_of_false Bool.false_ne_true (not_not.mpr hnul)
  · rw [Column.varchar_of_fits hnul h]
    exact iff_of_true rfl hnul

theorem RegisterRow.Fits.texts (h : row.Fits) : ∀ column ∈ row.texts,
    column.2.length ≤ column.1 := by
  have hkeys : (STATUS_LABELS.all fun label => label.1.length ≤ 16) = true := by decide
  have hstatus : row.statusKey.length ≤ 16 := by
    obtain ⟨label, hlabel, heq⟩ := List.mem_map.mp h.statusKey
    exact heq ▸ of_decide_eq_true (List.all_eq_true.mp hkeys label hlabel)
  have hcode : ∀ column ∈ (row.registryCode.map fun code => (16, code)).toList,
      column.2.length ≤ column.1 := by
    intro column hcolumn
    obtain ⟨code, hcode, rfl⟩ := Option.map_eq_some_iff.mp (Option.mem_toList.mp hcolumn)
    exact (h.registryCode code hcode).2
  unfold RegisterRow.texts
  simp only [List.forall_mem_append, List.forall_mem_cons]
  exact ⟨⟨⟨h.name, h.legalForm, h.memberNumber, hstatus, h.statusLabel, fun _ hmem =>
    (nomatch hmem)⟩, hcode⟩,
    h.county, h.city, h.country, h.naceCode, h.naceLabel, h.website, fun _ hmem => (nomatch hmem)⟩

theorem takesEntry_iff (h : row.Fits) : takesEntry row = true ↔
    ∀ column ∈ row.texts, '\x00' ∉ column.2.toList := by
  have hemployees : (Column.nullable Column.positiveInteger row.employees).toBool = true := by
    cases hcount : row.employees with
    | none => rfl
    | some count =>
      obtain ⟨hpositive, hle⟩ := h.employees count hcount
      have hfits : count ≤ Column.maxPositiveInteger := hle.trans (by decide)
      rw [show Column.nullable Column.positiveInteger (some count) =
        (Column.positiveInteger count).map some from rfl,
        Column.positiveInteger_eq_ok_iff.mpr ⟨⟨hpositive, hfits⟩, rfl⟩]
      rfl
  unfold takesEntry
  rw [hemployees, Bool.and_true, List.all_eq_true]
  exact forall₂_congr fun column hcolumn => varchar_toBool_iff (h.texts column hcolumn)

/-- A register that was read is taken exactly where it can be stored. -/
theorem entriesRefusal_eq_none_iff (h : readRegister text raw snapshotDate = .ok reading) :
    entriesRefusal reading.rows = none ↔ Storable reading := by
  obtain ⟨decoded, table, -, -, -, hread, -⟩ := readRegister_eq_ok h
  have haccounts := readRows_accounts hread
  have htexts : reading.rows.all takesEntry = true ↔
      ∀ row ∈ reading.rows, ∀ column ∈ row.texts, '\x00' ∉ column.2.toList := by
    rw [List.all_eq_true]
    exact forall₂_congr fun row hrow => takesEntry_iff (haccounts.fits row hrow)
  unfold entriesRefusal
  rw [haccounts.codes]
  by_cases htaken : reading.rows.all takesEntry = true
  · rw [if_neg (by rw [htaken]; exact Bool.noConfusion)]
    by_cases hcodes : (reading.seenCodes.map (PyText.take 16)).Nodup
    · rw [if_pos hcodes]
      exact iff_of_true rfl ⟨htexts.mp htaken, hcodes⟩
    · rw [if_neg hcodes]
      exact iff_of_false (fun hnone => (nomatch hnone)) fun hstorable => hcodes hstorable.codes
  · rw [if_pos (Bool.eq_false_of_not_eq_true htaken)]
    exact iff_of_false (fun hnone => (nomatch hnone)) fun hstorable =>
      htaken (htexts.mpr hstorable.texts)

end Storable

/-! ## What is stored after any imports -/

section History

variable {text : TextLibrary} {source : Nat} {digestBytes : List UInt8 → String}
  {content : List UInt8} {snapshotDate : Date}
  {supersedePrevious : Bool} {reading : RegisterReading} {db : Roster.RosterDb RegisterRow}

theorem read_eq_ok_iff {read : RosterReading RegisterRow} :
    (memberRegister text source).read content snapshotDate = .ok read ↔
    ∃ reading, readRegister text content snapshotDate = .ok reading ∧ read = reading.published := by
  show (readRegister text content snapshotDate).map RegisterReading.published = .ok read ↔ _
  cases readRegister text content snapshotDate with
  | error error => exact iff_of_false (fun heq => (nomatch heq)) fun ⟨_, heq, _⟩ => (nomatch heq)
  | ok reading =>
    constructor
    · exact fun heq => ⟨reading, rfl, (Except.ok.inj heq).symm⟩
    · rintro ⟨other, hother, rfl⟩
      rw [Except.ok.inj hother]
      rfl

theorem counts_fit (h : readRegister text content snapshotDate = .ok reading) :
    Core.CountsFit ⟨reading.rows.length + 1, reading.rowsRead - reading.rows.length, 0,
      reading.diagnostics⟩ := by
  obtain ⟨decoded, table, -, -, -, hread, -⟩ := readRegister_eq_ok h
  have hrows := (readRows_accounts hread).duplicateCodes
  have hsize := rowsRead_le h
  have hcolumn : MAX_SOURCE_BYTES + 1 ≤ Sources.ImportRun.maxPositiveInteger := by decide
  refine ⟨?_, ?_, Nat.zero_le _⟩
  · show reading.rows.length + 1 ≤ _
    omega
  · show reading.rowsRead - reading.rows.length ≤ _
    omega

theorem publishable_iff (h : readRegister text content snapshotDate = .ok reading) :
    Roster.Publishable (memberRegister text source) digestBytes content supersedePrevious
      reading.published db ↔
      Core.identityAccepted db.registry source ⟨digestBytes content, content.length⟩ = true ∧
        (db.snapshots.any (·.isCurrent) = true → supersedePrevious = true) ∧ Storable reading := by
  refine and_congr_right fun _ => ⟨fun hwritable => ?_, fun hstored => ?_⟩
  · exact ⟨hwritable.superseding, (entriesRefusal_eq_none_iff h).mp hwritable.accepted⟩
  · exact ⟨hstored.1, (entriesRefusal_eq_none_iff h).mpr hstored.2, counts_fit h⟩

/-- After any imports and dry runs, in any order, each snapshot holds what the reader made of a file
with its checksum, in rows that fit their columns and no code twice.  A file is put in force exactly
where it was not before, it can be registered and read, and the database takes its rows. -/
theorem register_history (text : TextLibrary) (source : Nat)
    (hdigest : ∀ bytes, Sources.isSha256Hex (digestBytes bytes) = true)
    (actions : List RosterAction) :
    let history : RosterHistory RegisterRow :=
      Roster.rosterAfter (memberRegister text source) digestBytes actions
    (∀ snapshot ∈ history.db.snapshots,
      (∃ content reading, digestBytes content = snapshot.sourceSha256 ∧
        readRegister text content snapshot.snapshotDate = .ok reading ∧ Storable reading ∧
        snapshot.rows = reading.rows ∧ snapshot.sourceRowCount = reading.rowsRead) ∧
      snapshot.rows ≠ [] ∧ (∀ row ∈ snapshot.rows, row.Fits) ∧
      (snapshot.rows.filterMap (·.registryCode)).Nodup) ∧
    ∀ content snapshotDate supersedePrevious,
      let ended := Roster.importRoster (memberRegister text source) digestBytes content snapshotDate
        false supersedePrevious
        history.db
      (∃ result, ended.1 = .ok result ∧ result.unchanged = false) ↔
        Roster.keyOf (memberRegister text source) digestBytes (digestBytes content) ∉
            history.importedKeys (memberRegister text source) digestBytes ∧
          ∃ reading, readRegister text content snapshotDate = .ok reading ∧
            Core.identityAccepted history.db.registry source
              ⟨digestBytes content, content.length⟩ = true ∧
            (history.db.snapshots.any (·.isCurrent) = true → supersedePrevious = true) ∧
            Storable reading := by
  have hkept : (Roster.rosterAfter (memberRegister text source) digestBytes actions).Kept
      (memberRegister text source)
      digestBytes := Roster.rosterAfter_keeps hdigest actions
  refine ⟨fun snapshot hmem => ?_, fun content snapshotDate supersedePrevious => ?_⟩
  · have hlog : Roster.stated snapshot ∈
        (Roster.rosterAfter (memberRegister text source) digestBytes actions).log := by
      rw [← hkept.stated]
      exact List.mem_map_of_mem hmem
    obtain ⟨content, read, hread, hrefusal, heq⟩ :=
      Roster.rosterAfter_reported hdigest actions _ hlog
    obtain ⟨reading, hreading, rfl⟩ := read_eq_ok_iff.mp hread
    have hsha256 : snapshot.sourceSha256 = digestBytes content :=
      congrArg Roster.RosterStatement.sha256 heq
    have hrows : snapshot.rows = reading.rows := congrArg Roster.RosterStatement.rows heq
    have hcount : snapshot.sourceRowCount = reading.rowsRead :=
      congrArg Roster.RosterStatement.rowsRead heq
    have hstorable := (entriesRefusal_eq_none_iff hreading).mp hrefusal
    obtain ⟨decoded, table, -, -, -, hrowsRead, hne⟩ := readRegister_eq_ok hreading
    have haccounts := readRows_accounts hrowsRead
    refine ⟨⟨content, reading, hsha256.symm, hreading, hstorable, hrows, hcount⟩, ?_⟩
    rw [hrows, haccounts.codes]
    exact ⟨hne, haccounts.fits, hstorable.codes⟩
  · refine (hkept.live hdigest content snapshotDate supersedePrevious).2.1.trans
      (and_congr_right fun _ => ⟨?_, ?_⟩)
    · rintro ⟨read, hread, hpublishable⟩
      obtain ⟨reading, hreading, rfl⟩ := read_eq_ok_iff.mp hread
      exact ⟨reading, hreading, (publishable_iff hreading).mp hpublishable⟩
    · rintro ⟨reading, hreading, hpublishable⟩
      exact ⟨reading.published, read_eq_ok_iff.mpr ⟨reading, hreading, rfl⟩,
        (publishable_iff hreading).mpr hpublishable⟩

theorem register_history_sample :
    let history := Roster.rosterAfter (memberRegister sampleLibrary 1) Roster.sampleDigest
      [.importFile sampleBytes (.of 2026 7 1) false false]
    history.db.snapshots.length = 1 ∧
      history.db.snapshots.all (fun snapshot => snapshot.rows ≠ []) = true ∧
      history.db.snapshots.all
        (fun snapshot => (snapshot.rows.filterMap (·.registryCode)).Nodup) = true := by
  obtain ⟨hsnapshots, -⟩ := register_history sampleLibrary 1 Roster.sampleDigest_hex
    [.importFile sampleBytes (.of 2026 7 1) false false]
  refine ⟨by decide +kernel, List.all_eq_true.mpr fun snapshot hmem => ?_,
    List.all_eq_true.mpr fun snapshot hmem => ?_⟩
  · exact decide_eq_true (hsnapshots snapshot hmem).2.1
  · exact decide_eq_true (hsnapshots snapshot hmem).2.2.2

end History

end Dashkoda.Membership.MemberRegister
