import Dashkoda.LegalWork.OpinionSources
import Dashkoda.Lib.Except

/-!
# What an inbox lists, and what it gives when it is read

An inbox that does not change gives the bytes it listed, unless the reader refuses the document.
-/

open Lib

namespace Dashkoda.LegalWork

variable {digestBytes : Bytes → String}

/-! ## The manifest over both sources -/

section Collect

theorem mem_addListed {entries : List ManifestEntry} {entry x : ManifestEntry}
    (hx : x ∈ addListed entries entry) :
    x ∈ entries ∨ x = { entry with order := entries.length } := by
  unfold addListed at hx
  split at hx
  · exact Or.inl hx
  · cases List.mem_append.mp hx with
    | inl hold => exact Or.inl hold
    | inr hnew => exact Or.inr (List.mem_singleton.mp hnew)

theorem nodup_addListed {entries : List ManifestEntry} (h : (entries.map (·.sha256)).Nodup)
    (entry : ManifestEntry) : ((addListed entries entry).map (·.sha256)).Nodup := by
  unfold addListed
  split
  · exact h
  · rename_i hnew
    rw [List.map_append, List.nodup_append]
    refine ⟨h, List.nodup_singleton _, fun a ha b hb heq => ?_⟩
    obtain ⟨old, hold, rfl⟩ := List.mem_map.mp ha
    rw [List.map_singleton, List.mem_singleton] at hb
    exact hnew (List.any_eq_true.mpr ⟨old, hold, decide_eq_true (heq.trans hb)⟩)

theorem length_addListed_le (entries : List ManifestEntry) (entry : ManifestEntry) :
    (addListed entries entry).length ≤ entries.length + 1 := by
  unfold addListed
  split
  · exact Nat.le_succ _
  · rw [List.length_append, List.length_singleton]

/-- A document is listed once, as some provider lists it. -/
structure CollectedFrom (found manifest : List ManifestEntry) : Prop where
  nodup : (manifest.map (·.sha256)).Nodup
  mem : ∀ entry ∈ manifest, ∃ listed ∈ found, ∃ order, entry = { listed with order }
  length : manifest.length ≤ found.length

theorem collectedFrom_foldl {entries found rest : List ManifestEntry}
    (h : CollectedFrom found entries) :
    CollectedFrom (found ++ rest) (rest.foldl addListed entries) := by
  induction rest generalizing entries found with
  | nil =>
    rw [List.append_nil]
    exact h
  | cons entry rest ih =>
    have hnext : CollectedFrom (found ++ [entry]) (addListed entries entry) := by
      refine ⟨nodup_addListed h.nodup entry, fun x hx => ?_, ?_⟩
      · cases mem_addListed hx with
        | inl hold =>
          obtain ⟨listed, hlisted, order⟩ := h.mem x hold
          exact ⟨listed, List.mem_append_left _ hlisted, order⟩
        | inr hnew =>
          exact ⟨entry, List.mem_append_right _ List.mem_cons_self, entries.length, hnew⟩
      · have hle := length_addListed_le entries entry
        have hlength := h.length
        rw [List.length_append, List.length_singleton]
        omega
    have hrest := ih hnext
    rw [List.append_assoc, List.singleton_append] at hrest
    exact hrest

theorem collectedFrom_collectManifest (lists : List (List ManifestEntry)) :
    CollectedFrom lists.flatten (collectManifest lists) := by
  have hempty : CollectedFrom [] [] := ⟨List.nodup_nil, fun _ h => (by cases h), le_rfl⟩
  exact collectedFrom_foldl hempty

end Collect

/-! ## What is read is what was listed -/

/-- The entry of some bytes. -/
structure ListedAs (digestBytes : Bytes → String) (entry : ManifestEntry)
    (payload : Bytes) : Prop where
  sha256 : digestBytes payload = entry.sha256
  byteSize : payload.length = entry.byteSize

theorem pathName_ne_empty {path : List Char} (h : pathSuffix path ≠ []) : pathName path ≠ "" := by
  intro hempty
  apply h
  unfold pathSuffix
  rw [hempty]
  decide

section Archive

/-- The members an archive lists as documents, once its check passed. -/
structure CheckedMember (infos : List ZipInfo) (info : ZipInfo) : Prop where
  mem : info ∈ infos
  name : checkEntryName info.filename = .ok ()
  size : info.fileSize ≤ LEGAL_OPINION_MAX_PDF_BYTES
  suffix : pathSuffix (posixName info.filename) ≠ []

theorem checkInfo_eq_ok {seen : List String} {info : ZipInfo} {kept : Bool}
    (h : checkInfo seen info = .ok kept) :
    info.filename ∉ seen ∧ (kept = true → CheckedMember [info] info) := by
  unfold checkInfo at h
  obtain ⟨_, hname, hrest⟩ := bind_eq_ok_iff.mp h
  split at hrest
  · cases hrest
  · rename_i hnew
    refine ⟨hnew, fun hkept => ?_⟩
    split at hrest
    · cases hrest
    · split at hrest
      · cases hrest
        cases hkept
      · dsimp only at hrest
        split at hrest
        · cases hrest
        · split at hrest
          · cases hrest
          · rename_i hsize
            split at hrest
            · cases hrest
            · rename_i hratio
              have hpdf : (pathSuffix (posixName info.filename) = ".pdf".toList &&
                  !isTemporary (pathName info.filename.toList)) = kept := Except.ok.inj hrest
              rw [hkept, Bool.and_eq_true, decide_eq_true_iff] at hpdf
              refine ⟨List.mem_singleton_self info, hname, Nat.le_of_not_lt hsize, ?_⟩
              rw [hpdf.1]
              decide

theorem checkInfos_eq_ok {seen : List String} {infos kept : List ZipInfo}
    (h : checkInfos seen infos = .ok kept) :
    (∀ info ∈ infos, info.filename ∉ seen) ∧ (infos.map (·.filename)).Nodup ∧
      (∀ info ∈ kept, CheckedMember infos info) ∧ kept.length ≤ infos.length := by
  induction infos generalizing seen kept with
  | nil =>
    cases h
    exact ⟨fun _ h => (by cases h), List.nodup_nil, fun _ h => (by cases h), le_rfl⟩
  | cons info rest ih =>
    unfold checkInfos at h
    obtain ⟨keep, hinfo, hrest⟩ := bind_eq_ok_iff.mp h
    obtain ⟨others, hothers, hkept⟩ := bind_eq_ok_iff.mp hrest
    obtain ⟨hnew, hmember⟩ := checkInfo_eq_ok hinfo
    obtain ⟨hunseen, hnodup, hmembers, hlength⟩ := ih hothers
    have hmembers' : ∀ member ∈ others, CheckedMember (info :: rest) member := fun member hmem =>
      { hmembers member hmem with mem := List.mem_cons_of_mem _ (hmembers member hmem).mem }
    refine ⟨?_, ?_, ?_, ?_⟩
    · intro member hmem
      cases List.mem_cons.mp hmem with
      | inl heq =>
        rw [heq]
        exact hnew
      | inr hold => exact fun hseen => hunseen member hold (List.mem_cons_of_mem _ hseen)
    · rw [List.map_cons, List.nodup_cons]
      refine ⟨fun hdup => ?_, hnodup⟩
      obtain ⟨member, hmem, heq⟩ := List.mem_map.mp hdup
      exact hunseen member hmem (heq ▸ List.mem_cons_self)
    · cases keep with
      | false =>
        cases hkept
        exact hmembers'
      | true =>
        cases hkept
        intro member hmem
        cases List.mem_cons.mp hmem with
        | inl heq =>
          rw [heq]
          exact { hmember rfl with mem := List.mem_cons_self }
        | inr hold => exact hmembers' member hold
    · cases keep with
      | false =>
        cases hkept
        exact Nat.le_succ_of_le hlength
      | true =>
        cases hkept
        exact Nat.succ_le_succ hlength

theorem find?_reverse_of_nodup {infos : List ZipInfo} (h : (infos.map (·.filename)).Nodup)
    {info : ZipInfo} (hinfo : info ∈ infos) :
    infos.reverse.find? (·.filename = info.filename) = some info := by
  cases hfind : infos.reverse.find? (·.filename = info.filename) with
  | none =>
    have hnone := List.find?_eq_none.mp hfind info (List.mem_reverse.mpr hinfo)
    exact absurd (decide_eq_true rfl) hnone
  | some found =>
    have hname := List.find?_some hfind
    rw [decide_eq_true_iff] at hname
    have hfound := List.mem_reverse.mp (List.mem_of_find?_eq_some hfind)
    rw [List.inj_on_of_nodup_map h hfound hinfo hname]

/-- The archive reads back what it listed. -/
theorem zipManifest_reads {archive : BootstrapZip} {found : List ManifestEntry}
    (h : zipManifest digestBytes archive = .ok found) :
    found.length ≤ LEGAL_OPINION_MAX_SOURCE_ENTRIES ∧
      ∀ entry ∈ found, entry.provider = .bootstrapZip ∧ entry.filename ≠ "" ∧
        ∃ payload, ListedAs digestBytes entry payload ∧
        zipRead archive entry.key = .ok (some payload) := by
  cases archive with
  | none => cases h
  | some infos =>
    obtain ⟨entries, hchecked, hlisted⟩ := bind_eq_ok_iff.mp h
    have hall := forall₂_of_mapM_eq_ok hlisted
    unfold checkedEntries at hchecked
    split at hchecked
    · cases hchecked
    · rename_i hcount
      obtain ⟨kept, hkept, rfl⟩ := map_eq_ok_iff.mp hchecked
      obtain ⟨-, hnodup, hmembers, hlength⟩ := checkInfos_eq_ok hkept
      have hsorted : (sortOn (fun info : ZipInfo => info.filename) kept).length = kept.length :=
        (perm_sortOn _ kept).length_eq
      refine ⟨?_, fun entry hentry => ?_⟩
      · have hsame := hall.length_eq
        rw [List.length_zipIdx, hsorted] at hsame
        omega
      · obtain ⟨⟨info, order⟩, hitem, hentryOf⟩ := exists_of_mem_forall₂ hall hentry
        have hinfo : info ∈ kept := mem_sortOn.mp (List.fst_mem_of_mem_zipIdx hitem)
        obtain ⟨hmem, hname, hsize, hsuffix⟩ := hmembers info hinfo
        obtain ⟨payload, hpayload, hrow⟩ := bind_eq_ok_iff.mp hentryOf
        cases hrow
        refine ⟨rfl, pathName_ne_empty hsuffix, payload, ⟨rfl, rfl⟩, ?_⟩
        unfold zipRead listed
        dsimp only
        refine bind_eq_ok_iff.mpr ⟨(), hname, ?_⟩
        rw [find?_reverse_of_nodup hnodup hmem]
        dsimp only
        rw [if_neg (Nat.not_lt.mpr hsize), hpayload]
        rfl

end Archive

section InboxDirectory

theorem find?_key {directory : Directory} {path : InboxPath} (hpath : path ∈ directory.paths) :
    directory.paths.find? (·.key = path.key) = some path := by
  cases hfind : directory.paths.find? (·.key = path.key) with
  | none =>
    have hnone := List.find?_eq_none.mp hfind path hpath
    exact absurd (decide_eq_true rfl) hnone
  | some found =>
    have hkey := List.find?_some hfind
    rw [decide_eq_true_iff] at hkey
    have hfound := List.mem_of_find?_eq_some hfind
    rw [List.inj_on_of_nodup_map directory.keys_nodup hfound hpath hkey]

theorem directoryRead_of_mem {directory : Directory} {path : InboxPath} {payload : Bytes}
    (hpath : path ∈ directory.paths) (hpayload : path.payload = .ok payload)
    (hname : checkEntryName path.key = .ok ())
    (hsize : payload.length ≤ LEGAL_OPINION_MAX_PDF_BYTES) :
    directoryRead (some directory) path.key = .ok (some payload) := by
  unfold directoryRead
  refine bind_eq_ok_iff.mpr ⟨(), hname, ?_⟩
  rw [Option.map_some, Option.getD_some, find?_key hpath]
  dsimp only
  unfold InboxPath.payload at hpayload ⊢
  split at hpayload
  · rename_i bytes stable hkind
    cases hpayload
    rw [hkind]
    change (if LEGAL_OPINION_MAX_PDF_BYTES < payload.length then _ else _) = _
    rw [if_neg (Nat.not_lt.mpr hsize)]
    rfl
  · cases hpayload

/-- A source root reads back what it listed, where the reader accepts it. -/
theorem directoryManifest_reads {directory : Option Directory} {found : List ManifestEntry}
    (h : directoryManifest digestBytes directory = .ok found) :
    found.length ≤ LEGAL_OPINION_MAX_SOURCE_ENTRIES ∧
      ∀ entry ∈ found, entry.provider = .directory ∧ entry.filename ≠ "" ∧
        ∃ payload, ListedAs digestBytes entry payload ∧
          (checkEntryName entry.key = .ok () → entry.byteSize ≤ LEGAL_OPINION_MAX_PDF_BYTES →
            directoryRead directory entry.key = .ok (some payload)) := by
  cases directory with
  | none =>
    cases h
    exact ⟨Nat.zero_le _, fun _ hentry => (by cases hentry)⟩
  | some directory =>
    have hall : List.Forall₂ _ _ found := forall₂_of_mapM_eq_ok h
    have hrow (path : InboxPath) (order : Nat) (entry : ManifestEntry)
        (hlisted : listPath digestBytes order path = .ok entry) :
        order < LEGAL_OPINION_MAX_SOURCE_ENTRIES ∧ ∃ payload, path.payload = .ok payload ∧
          entry = listed digestBytes .directory path.key path.name payload order := by
      unfold listPath at hlisted
      split at hlisted
      · cases hlisted
      · rename_i horder
        obtain ⟨payload, hpayload, hentry⟩ := bind_eq_ok_iff.mp hlisted
        cases hentry
        exact ⟨Nat.lt_of_not_le horder, payload, hpayload, rfl⟩
    refine ⟨?_, fun entry hentry => ?_⟩
    · by_contra hmany
      have hlength := hall.length_eq
      rw [List.length_zipIdx] at hlength
      have hlast : LEGAL_OPINION_MAX_SOURCE_ENTRIES < directory.candidates.length := by omega
      have hitem : (directory.candidates[LEGAL_OPINION_MAX_SOURCE_ENTRIES],
          LEGAL_OPINION_MAX_SOURCE_ENTRIES) ∈ directory.candidates.zipIdx :=
        List.mem_zipIdx_iff_getElem?.mpr (List.getElem?_eq_getElem hlast)
      obtain ⟨entry, -, hlisted⟩ := exists_of_mem_forall₂ hall.flip hitem
      exact absurd (hrow _ _ entry hlisted).1 (Nat.lt_irrefl _)
    · obtain ⟨⟨path, order⟩, hitem, hlisted⟩ := exists_of_mem_forall₂ hall hentry
      obtain ⟨-, payload, hpayload, rfl⟩ := hrow path order entry hlisted
      have hcandidate := List.fst_mem_of_mem_zipIdx hitem
      unfold Directory.candidates at hcandidate
      obtain ⟨hmem, hkept⟩ := List.mem_filter.mp hcandidate
      unfold InboxPath.isCandidate at hkept
      rw [Bool.and_eq_true, Bool.and_eq_true, decide_eq_true_iff] at hkept
      refine ⟨rfl, ?_, payload, ⟨rfl, rfl⟩, fun hname hsize =>
        directoryRead_of_mem (mem_sortOn.mp hmem) hpayload hname hsize⟩
      intro hempty
      have hsuffix := hkept.1.2
      rw [show path.name = "" from hempty] at hsuffix
      exact absurd hsuffix (by decide)

end InboxDirectory

/-! ## Both together -/

/-- What the inbox gives for a document it lists. -/
structure ReadsBack (digestBytes : Bytes → String) (inbox : Inbox)
    (entry : ManifestEntry) : Prop where
  filename : entry.filename ≠ ""
  read : ∃ payload, ListedAs digestBytes entry payload ∧
    ((entry.provider = .directory → checkEntryName entry.key = .ok () ∧
        entry.byteSize ≤ LEGAL_OPINION_MAX_PDF_BYTES) →
      inbox.read entry.provider entry.key = .ok (some payload))

/-- An inbox gives each document of its manifest as it was listed, where the reader of loose files
accepts its name and its size. -/
theorem Inbox.reads {inbox : Inbox} {lists : List (List ManifestEntry)}
    (h : inbox.manifests digestBytes = .ok lists) :
    (collectManifest lists).length ≤ 2 * LEGAL_OPINION_MAX_SOURCE_ENTRIES ∧
      ∀ entry ∈ collectManifest lists, ReadsBack digestBytes inbox entry := by
  have hcollected := collectedFrom_collectManifest lists
  suffices hfound : lists.flatten.length ≤ 2 * LEGAL_OPINION_MAX_SOURCE_ENTRIES ∧
      ∀ entry ∈ lists.flatten, ReadsBack digestBytes inbox entry by
    refine ⟨hcollected.length.trans hfound.1, fun entry hentry => ?_⟩
    obtain ⟨found, hmem, order, rfl⟩ := hcollected.mem entry hentry
    obtain ⟨hfilename, payload, hlisted, hread⟩ := hfound.2 found hmem
    exact ⟨hfilename, payload, ⟨hlisted.sha256, hlisted.byteSize⟩, hread⟩
  unfold Inbox.manifests at h
  have hloose (found : List ManifestEntry)
      (hfound : directoryManifest digestBytes inbox.directory = .ok found) :
      found.length ≤ LEGAL_OPINION_MAX_SOURCE_ENTRIES ∧
        ∀ entry ∈ found, ReadsBack digestBytes inbox entry := by
    obtain ⟨hlength, hentries⟩ := directoryManifest_reads hfound
    refine ⟨hlength, fun entry hentry => ?_⟩
    obtain ⟨hprovider, hfilename, payload, hlisted, hread⟩ := hentries entry hentry
    refine ⟨hfilename, payload, hlisted, fun haccepted => ?_⟩
    obtain ⟨hname, hsize⟩ := haccepted hprovider
    rw [hprovider]
    exact hread hname hsize
  cases harchive : inbox.archive with
  | none =>
    rw [harchive] at h
    obtain ⟨archived, harchived, hrest⟩ := bind_eq_ok_iff.mp h
    cases harchived
    obtain ⟨found, hfound, hlists⟩ := bind_eq_ok_iff.mp hrest
    cases hlists
    rw [List.nil_append, List.flatten_singleton]
    obtain ⟨hlength, hentries⟩ := hloose found hfound
    exact ⟨by omega, hentries⟩
  | some archive =>
    rw [harchive] at h
    obtain ⟨archived, harchived, hrest⟩ := bind_eq_ok_iff.mp h
    obtain ⟨members, hmembers, rfl⟩ := map_eq_ok_iff.mp harchived
    obtain ⟨found, hfound, hlists⟩ := bind_eq_ok_iff.mp hrest
    cases hlists
    obtain ⟨hlength, hentries⟩ := hloose found hfound
    obtain ⟨hmembersLength, hmembersRead⟩ := zipManifest_reads hmembers
    rw [List.singleton_append, List.flatten_cons, List.flatten_singleton]
    refine ⟨by rw [List.length_append]; omega, fun entry hentry => ?_⟩
    cases List.mem_append.mp hentry with
    | inr hfile => exact hentries entry hfile
    | inl hmember =>
      obtain ⟨hprovider, hfilename, payload, hlisted, hread⟩ := hmembersRead entry hmember
      refine ⟨hfilename, payload, hlisted, fun _ => ?_⟩
      rw [hprovider]
      unfold Inbox.read
      rw [harchive]
      exact hread

end Dashkoda.LegalWork
