import Dashkoda.LegalWork.OpinionCatalogueSync

/-!
# One slice of the catalogue build

What processing documents does to the blobs and the readings, and how the documents without a
terminal state get fewer.
-/

open Lib

namespace Dashkoda.LegalWork

/-! ## Recording a blob and a reading -/

structure Holdings.Sound (holdings : Holdings) : Prop where
  blobKeys : Table.UniqueKeys holdings.blobs
  digests : (holdings.blobs.map (·.sha256)).Nodup
  owners : ∀ extraction ∈ holdings.extractions, Table.HasKey holdings.blobs extraction.blob

/-- The files are none of its business. -/
theorem Holdings.Sound.of_same {holdings holdings' : Holdings} (h : holdings.Sound)
    (hblobs : holdings'.blobs = holdings.blobs)
    (hextractions : holdings'.extractions = holdings.extractions) : holdings'.Sound := by
  constructor
  · rw [hblobs]
    exact h.blobKeys
  · rw [hblobs]
    exact h.digests
  · rw [hblobs, hextractions]
    exact h.owners

section Records

variable {holdings : Holdings} {digest storageKey : String} {validation : ValidationResult}
  {readers : OpinionReaders} {blob : OpinionDocumentBlob} {payload : Bytes}

theorem wp_createBlob :
    (createBlob digest storageKey validation).wp
      (fun blob h => blob = blobRow (Table.nextPk holdings.blobs) digest storageKey validation ∧
        blob.violations holdings.blobs = [] ∧
        h = { holdings with blobs := holdings.blobs ++ [blob] })
      (fun _ h => h = holdings) holdings := by
  unfold createBlob
  apply Proc.wp_service
  · intro h blob hok
    dsimp only at hok
    split at hok
    · rename_i hviolations
      cases hok
      exact ⟨rfl, hviolations, rfl⟩
    · cases hok
    · cases hok
  · exact fun _ _ => rfl

theorem wp_createExtraction :
    (createExtraction readers blob payload).wp
      (fun extraction h =>
        extraction = extractionRow readers (Table.nextPk holdings.extractions) blob.pk payload ∧
        h = { holdings with extractions := holdings.extractions ++ [extraction] })
      (fun _ h => h = holdings) holdings := by
  unfold createExtraction
  apply Proc.wp_service
  · intro h extraction hok
    dsimp only at hok
    split at hok
    · cases hok
      exact ⟨rfl, rfl⟩
    · cases hok
    · cases hok
  · exact fun _ _ => rfl

theorem fresh_of_violations (h : blob.violations holdings.blobs = []) :
    ∀ row ∈ holdings.blobs, row.sha256 ≠ blob.sha256 := by
  intro row hrow heq
  have hany : (holdings.blobs.any (·.sha256 = blob.sha256)) = true :=
    List.any_eq_true.mpr ⟨row, hrow, decide_eq_true heq⟩
  unfold OpinionDocumentBlob.violations at h
  rw [if_pos hany] at h
  cases h

theorem Holdings.Sound.addBlob (h : holdings.Sound) (hpk : blob.pk = Table.nextPk holdings.blobs)
    (hviolations : blob.violations holdings.blobs = []) :
    Holdings.Sound { holdings with blobs := holdings.blobs ++ [blob] } := by
  constructor
  · exact Table.uniqueKeys_append h.blobKeys fun r hr heq =>
      Table.ne_nextPk hr (heq.trans hpk)
  · change ((holdings.blobs ++ [blob]).map (·.sha256)).Nodup
    rw [List.map_append, List.nodup_append]
    refine ⟨h.digests, List.nodup_singleton _, fun a ha b hb heq => ?_⟩
    obtain ⟨row, hrow, rfl⟩ := List.mem_map.mp ha
    rw [List.map_singleton, List.mem_singleton] at hb
    exact fresh_of_violations hviolations row hrow (heq.trans hb)
  · intro extraction hextraction
    obtain ⟨row, hrow, hrowPk⟩ := h.owners extraction hextraction
    exact ⟨row, List.mem_append_left _ hrow, hrowPk⟩

theorem Holdings.Sound.addExtraction (h : holdings.Sound) (hblob : blob ∈ holdings.blobs)
    {extraction : OpinionDocumentExtraction} (howner : extraction.blob = blob.pk) :
    Holdings.Sound { holdings with extractions := holdings.extractions ++ [extraction] } := by
  refine ⟨h.blobKeys, h.digests, fun x hx => ?_⟩
  cases List.mem_append.mp hx with
  | inl hold => exact h.owners x hold
  | inr hnew =>
    rw [List.mem_singleton.mp hnew]
    exact ⟨blob, hblob, howner.symm⟩

end Records

namespace OpinionCatalogue

/-! ## What a run knows -/

/-- The digest has a reading of this extractor's version. -/
def IsRead (holdings : Holdings) (digest : String) : Prop :=
  ∃ extraction ∈ holdings.extractions, extraction.extractorVersion = EXTRACTOR_VERSION ∧
    ∃ blob ∈ holdings.blobs, blob.pk = extraction.blob ∧ blob.sha256 = digest

/-- What the loop knows of the manifest's digests is what the tables hold. -/
structure BuildState.Sound (manifest : List ManifestEntry) (s : BuildState) : Prop where
  holdings : s.holdings.Sound
  blobs : ∀ entry ∈ manifest, ∀ blob, s.knownBlobs.get? entry.sha256 = some blob ↔
    blob ∈ s.holdings.blobs ∧ blob.sha256 = entry.sha256
  readings : ∀ entry ∈ manifest,
    entry.sha256 ∈ s.knownExtractions.keys ↔ IsRead s.holdings entry.sha256

section Known

variable {holdings : Holdings} {manifest : List ManifestEntry}

theorem get?_knownBlobsOf (h : holdings.Sound) {entry : ManifestEntry} (hentry : entry ∈ manifest)
    (blob : OpinionDocumentBlob) :
    (knownBlobsOf holdings manifest).get? entry.sha256 = some blob ↔
      blob ∈ holdings.blobs ∧ blob.sha256 = entry.sha256 := by
  have hkeys : (((holdings.blobs.filter fun blob => blob.sha256 ∈ manifest.map (·.sha256)).map
      fun blob => (blob.sha256, blob)).map Prod.fst).Nodup := by
    rw [List.map_map]
    exact h.digests.sublist (List.filter_sublist.map _)
  unfold knownBlobsOf
  rw [Dict.get?_eq_some_iff, Dict.entries_ofList hkeys, List.mem_map]
  constructor
  · rintro ⟨row, hrow, heq⟩
    rw [Prod.mk.injEq] at heq
    obtain ⟨hsha, rfl⟩ := heq
    exact ⟨(List.mem_filter.mp hrow).1, hsha⟩
  · rintro ⟨hrow, hsha⟩
    refine ⟨blob, List.mem_filter.mpr ⟨hrow, ?_⟩, by rw [hsha]⟩
    rw [decide_eq_true_iff, hsha]
    exact List.mem_map_of_mem hentry

theorem mem_keys_loadKnown (h : holdings.Sound) {entry : ManifestEntry}
    (hentry : entry ∈ manifest) :
    entry.sha256 ∈ (loadKnown holdings manifest).knownExtractions.keys ↔
      IsRead holdings entry.sha256 := by
  unfold loadKnown
  dsimp only
  rw [Dict.mem_keys_ofList, List.mem_map]
  constructor
  · rintro ⟨pair, hpair, hkey⟩
    obtain ⟨extraction, hextraction, hsome⟩ := List.mem_filterMap.mp hpair
    unfold extractionEntry at hsome
    split at hsome
    · rename_i hversion
      obtain ⟨blob, hblob, rfl⟩ := Option.map_eq_some_iff.mp hsome
      obtain ⟨hget, -⟩ := Option.filter_eq_some_iff.mp hblob
      exact ⟨extraction, hextraction, hversion, blob, Table.mem_of_get? hget, Table.pk_of_get? hget,
        hkey⟩
    · cases hsome
  · rintro ⟨extraction, hextraction, hversion, blob, hblob, hpk, hsha⟩
    refine ⟨(blob.sha256, extraction), List.mem_filterMap.mpr ⟨extraction, hextraction, ?_⟩, hsha⟩
    have hget : Table.get? holdings.blobs extraction.blob = some blob := by
      rw [← hpk]
      exact Table.get?_of_mem h.blobKeys hblob
    unfold extractionEntry
    rw [if_pos hversion, hget, Option.filter_some, hsha,
      if_pos (decide_eq_true (List.mem_map_of_mem hentry)), Option.map_some, hsha]

theorem loadKnown_sound (h : holdings.Sound) : (loadKnown holdings manifest).Sound manifest :=
  ⟨h, fun _ hentry blob => get?_knownBlobsOf h hentry blob, fun _ hentry =>
    mem_keys_loadKnown h hentry⟩

/-- What is pending is told by the tables alone. -/
theorem BuildState.Sound.isPending_eq {s t : BuildState} (hs : s.Sound manifest)
    (ht : t.Sound manifest) (hsame : s.holdings = t.holdings) {entry : ManifestEntry}
    (hentry : entry ∈ manifest) : s.isPending entry = t.isPending entry := by
  have hblobs : s.knownBlobs.get? entry.sha256 = t.knownBlobs.get? entry.sha256 := by
    apply Option.ext
    intro blob
    rw [hs.blobs entry hentry, ht.blobs entry hentry, hsame]
  have hreadings : entry.sha256 ∈ s.knownExtractions.keys ↔
      entry.sha256 ∈ t.knownExtractions.keys := by
    rw [hs.readings entry hentry, ht.readings entry hentry, hsame]
  unfold BuildState.isPending
  rw [hblobs]
  cases t.knownBlobs.get? entry.sha256 with
  | none => rfl
  | some blob =>
    dsimp only
    rw [decide_eq_decide.mpr (not_congr hreadings)]

end Known

/-! ## What processing a document keeps -/

/-- Blobs and readings are only added. -/
structure Extends (h h' : Holdings) : Prop where
  blobs : h.blobs <+: h'.blobs
  extractions : h.extractions <+: h'.extractions

theorem Extends.refl (h : Holdings) : Extends h h := ⟨List.prefix_refl _, List.prefix_refl _⟩

theorem Extends.trans {h h' h'' : Holdings} (hext : Extends h h') (hext' : Extends h' h'') :
    Extends h h'' :=
  ⟨hext.blobs.trans hext'.blobs, hext.extractions.trans hext'.extractions⟩

theorem IsRead.extend {h h' : Holdings} (hext : Extends h h') {digest : String}
    (hread : IsRead h digest) : IsRead h' digest := by
  obtain ⟨extraction, hextraction, hversion, blob, hblob, hjoin⟩ := hread
  exact ⟨extraction, hext.extractions.subset hextraction, hversion, blob, hext.blobs.subset hblob,
    hjoin⟩

/-- A blob recorded from a document that was read under the digest it was listed with. -/
structure BlobOf (readers : CatalogueReaders) (visit : SourceVisit) (slice : List ManifestEntry)
    (blob : OpinionDocumentBlob) : Prop where
  origin : ∃ entry ∈ slice, ∃ payload, visit.read .validate entry = .ok (some payload) ∧
    readers.digestBytes payload = entry.sha256 ∧ blob.sha256 = entry.sha256 ∧
    blob.isValid = (readers.validatePdf payload).isValid

/-- A reading recorded from the second read of a document, under the blob of its listed digest. -/
structure ReadingOf (readers : CatalogueReaders) (visit : SourceVisit) (slice : List ManifestEntry)
    (blobs : List OpinionDocumentBlob) (extraction : OpinionDocumentExtraction) : Prop where
  origin : ∃ entry ∈ slice, ∃ payload, visit.read .extract entry = .ok (some payload) ∧
    ∃ blob ∈ blobs, blob.sha256 = entry.sha256 ∧
      extraction = extractionRow readers.toOpinionReaders extraction.pk blob.pk payload

/-- The state after documents of a slice were processed, against the one before. -/
structure Processed (readers : CatalogueReaders) (visit : SourceVisit)
    (manifest slice : List ManifestEntry) (s t : BuildState) : Prop where
  sound : t.Sound manifest
  extend : Extends s.holdings t.holdings
  blobs : ∀ blob ∈ t.holdings.blobs, blob ∈ s.holdings.blobs ∨ BlobOf readers visit slice blob
  readings : ∀ extraction ∈ t.holdings.extractions, extraction ∈ s.holdings.extractions ∨
    ReadingOf readers visit slice t.holdings.blobs extraction

section Process

variable {readers : CatalogueReaders} {visit : SourceVisit} {manifest slice : List ManifestEntry}
  {entry : ManifestEntry} {dryRun : Bool} {s t : BuildState}

theorem ReadingOf.mono {blobs blobs' : List OpinionDocumentBlob} (hsub : blobs ⊆ blobs')
    {extraction : OpinionDocumentExtraction} (h : ReadingOf readers visit slice blobs extraction) :
    ReadingOf readers visit slice blobs' extraction := by
  obtain ⟨entry, hentry, payload, hread, blob, hblob, hrow⟩ := h.origin
  exact ⟨entry, hentry, payload, hread, blob, hsub hblob, hrow⟩

theorem Processed.refl (h : s.Sound manifest) : Processed readers visit manifest slice s s :=
  ⟨h, Extends.refl _, fun _ hblob => Or.inl hblob, fun _ hreading => Or.inl hreading⟩

theorem Processed.trans {u : BuildState} (h : Processed readers visit manifest slice s t)
    (h' : Processed readers visit manifest slice t u) :
      Processed readers visit manifest slice s u := by
  refine ⟨h'.sound, h.extend.trans h'.extend, fun blob hblob =>
    ?_, fun extraction hextraction => ?_⟩
  · cases h'.blobs blob hblob with
    | inl hold => exact h.blobs blob hold
    | inr hnew => exact Or.inr hnew
  · cases h'.readings extraction hextraction with
    | inl hold =>
      cases h.readings extraction hold with
      | inl hstart => exact Or.inl hstart
      | inr hnew => exact Or.inr (hnew.mono h'.extend.blobs.subset)
    | inr hnew => exact Or.inr hnew

/-- A document that had its terminal state keeps it while rows are only added. -/
theorem isPending_of_extends (hs : s.Sound manifest) (ht : t.Sound manifest)
    (hext : Extends s.holdings t.holdings) (hentry : entry ∈ manifest)
    (hpending : t.isPending entry = true) : s.isPending entry = true := by
  unfold BuildState.isPending at hpending ⊢
  cases hknown : s.knownBlobs.get? entry.sha256 with
  | none => rfl
  | some blob =>
    obtain ⟨hblob, hsha⟩ := (hs.blobs entry hentry blob).mp hknown
    rw [(ht.blobs entry hentry blob).mpr ⟨hext.blobs.subset hblob, hsha⟩] at hpending
    dsimp only at hpending ⊢
    rw [Bool.and_eq_true, decide_eq_true_iff] at hpending ⊢
    refine ⟨hpending.1, fun hread => hpending.2 ?_⟩
    rw [ht.readings entry hentry]
    exact ((hs.readings entry hentry).mp hread).extend hext

theorem Processed.isPending (h : Processed readers visit manifest slice s t) (hs : s.Sound manifest)
    (hentry : entry ∈ manifest) (hpending : t.isPending entry = true) : s.isPending entry = true :=
  isPending_of_extends hs h.sound h.extend hentry hpending

/-- The tables are the same, whatever happened to the files. -/
theorem BuildState.Sound.withFiles (h : s.Sound manifest) {holdings : Holdings}
    (hblobs : holdings.blobs = s.holdings.blobs)
    (hextractions : holdings.extractions = s.holdings.extractions) :
    Processed readers visit manifest slice s { s with holdings } := by
  refine ⟨⟨?_, ?_, ?_⟩, ⟨?_, ?_⟩, ?_, ?_⟩
  · exact h.holdings.of_same hblobs hextractions
  · intro e he blob
    rw [hblobs]
    exact h.blobs e he blob
  · intro e he
    unfold IsRead
    rw [hblobs, hextractions]
    exact h.readings e he
  · exact hblobs.symm ▸ List.prefix_refl _
  · exact hextractions.symm ▸ List.prefix_refl _
  · rw [hblobs]
    exact fun _ hblob => Or.inl hblob
  · rw [hextractions]
    exact fun _ hreading => Or.inl hreading

theorem wp_onFiles {α : Type} {call : Proc StorageExn Files α} {holdings : Holdings} :
    (onFiles call).wp
      (fun _ h => h.blobs = holdings.blobs ∧ h.extractions = holdings.extractions)
      (fun _ h => h.blobs = holdings.blobs ∧ h.extractions = holdings.extractions) holdings := by
  unfold onFiles
  rw [Proc.wp_onPart]
  exact Proc.wp_of_forall (fun _ _ => ⟨rfl, rfl⟩) fun _ _ => ⟨rfl, rfl⟩

theorem wp_keepBytes {machine : StoreMachine} {payload : Bytes} {digest : String}
    {validation : ValidationResult} {holdings : Holdings} :
    (keepBytes machine payload digest validation).wp
      (fun _ h => h.blobs = holdings.blobs ∧ h.extractions = holdings.extractions)
      (fun _ h => h.blobs = holdings.blobs ∧ h.extractions = holdings.extractions) holdings := by
  unfold keepBytes
  split
  · exact wp_onFiles
  · exact wp_onFiles

theorem wp_readSource {purpose : ReadPurpose} {vanished : String} {post : Bytes → BuildState → Prop}
    {raised : OpinionExn → BuildState → Prop}
    (hpost : ∀ payload, visit.read purpose entry = .ok (some payload) → post payload s)
    (hraised : ∀ e, raised e s) : (readSource visit purpose entry vanished).wp post raised s := by
  unfold readSource
  cases hread : visit.read purpose entry with
  | error e => exact hraised e
  | ok answer =>
    cases answer with
    | none => exact hraised _
    | some payload => exact hpost payload hread

/-- A new blob under the entry's digest, in the table and in what the run knows. -/
theorem BuildState.Sound.addBlob (h : s.Sound manifest) (blob : OpinionDocumentBlob)
    (hsha : blob.sha256 = entry.sha256) (hpk : blob.pk = Table.nextPk s.holdings.blobs)
    (hviolations : blob.violations s.holdings.blobs = [])
    (horigin : BlobOf readers visit slice blob) :
    Processed readers visit manifest slice s { s with
      holdings := { s.holdings with blobs := s.holdings.blobs ++ [blob] }
      knownBlobs := s.knownBlobs.set entry.sha256 blob } := by
  have hfresh := fresh_of_violations hviolations
  have hext : Extends s.holdings { s.holdings with blobs := s.holdings.blobs ++ [blob] } :=
    ⟨List.prefix_append _ _, List.prefix_refl _⟩
  refine ⟨⟨h.holdings.addBlob hpk hviolations, fun e he row => ?_, fun e he => ?_⟩, hext,
    fun row hrow => ?_, fun _ hreading => Or.inl hreading⟩
  · rw [Dict.get?_eq_some_iff, Dict.mem_set, ← Dict.get?_eq_some_iff, h.blobs e he row,
      Prod.mk.injEq, List.mem_append, List.mem_singleton]
    constructor
    · rintro (⟨heq, rfl⟩ | ⟨⟨hrow, hrowSha⟩, -⟩)
      · exact ⟨Or.inr rfl, hsha.trans heq.symm⟩
      · exact ⟨Or.inl hrow, hrowSha⟩
    · rintro ⟨hrow | rfl, hrowSha⟩
      · refine Or.inr ⟨⟨hrow, hrowSha⟩, fun heq => ?_⟩
        exact hfresh row hrow (hrowSha.trans (heq.trans hsha.symm))
      · exact Or.inl ⟨hrowSha.symm.trans hsha, rfl⟩
  · rw [h.readings e he]
    constructor
    · exact fun hread => hread.extend hext
    · rintro ⟨extraction, hextraction, hversion, row, hrow, hjoin, hrowSha⟩
      cases List.mem_append.mp hrow with
      | inl hold => exact ⟨extraction, hextraction, hversion, row, hold, hjoin, hrowSha⟩
      | inr hnew =>
        have hkey := (h.holdings.owners extraction hextraction).ne_nextPk
        rw [List.mem_singleton.mp hnew, hpk] at hjoin
        exact absurd hjoin.symm hkey
  · cases List.mem_append.mp hrow with
    | inl hold => exact Or.inl hold
    | inr hnew =>
      rw [List.mem_singleton.mp hnew]
      exact Or.inr horigin

/-- A new reading of a blob the run knows. -/
theorem BuildState.Sound.addReading (h : s.Sound manifest) (hslice : slice ⊆ manifest)
    (hentry : entry ∈ slice) {blob : OpinionDocumentBlob}
    (hknown : s.knownBlobs.get? entry.sha256 = some blob) {payload : Bytes}
    (hread : visit.read .extract entry = .ok (some payload))
    (extraction : OpinionDocumentExtraction)
    (hrow : extraction = extractionRow readers.toOpinionReaders extraction.pk blob.pk payload) :
    Processed readers visit manifest slice s { s with
      holdings := { s.holdings with extractions := s.holdings.extractions ++ [extraction] }
      knownExtractions := s.knownExtractions.set entry.sha256 extraction } := by
  obtain ⟨hblob, hsha⟩ := (h.blobs entry (hslice hentry) blob).mp hknown
  have hext : Extends s.holdings
      { s.holdings with extractions := s.holdings.extractions ++ [extraction] } :=
    ⟨List.prefix_refl _, List.prefix_append _ _⟩
  have howner : extraction.blob = blob.pk := by rw [hrow]; rfl
  have hversion : extraction.extractorVersion = EXTRACTOR_VERSION := by rw [hrow]; rfl
  refine ⟨⟨h.holdings.addExtraction hblob howner, h.blobs, fun e he => ?_⟩, hext,
    fun _ hold => Or.inl hold, fun x hx => ?_⟩
  case refine_2 =>
    cases List.mem_append.mp hx with
    | inl hold => exact Or.inl hold
    | inr hnew =>
      rw [List.mem_singleton.mp hnew]
      exact Or.inr ⟨entry, hentry, payload, hread, blob, hblob, hsha, hrow⟩
  rw [Dict.mem_keys_set, h.readings e he]
  constructor
  · rintro (heq | hread)
    · exact ⟨extraction, List.mem_append_right _ List.mem_cons_self, hversion, blob, hblob,
        howner.symm, hsha.trans heq.symm⟩
    · exact hread.extend hext
  · rintro ⟨x, hx, hxVersion, row, hrow, hjoin, hrowSha⟩
    cases List.mem_append.mp hx with
    | inl hold => exact Or.inr ⟨x, hold, hxVersion, row, hrow, hjoin, hrowSha⟩
    | inr hnew =>
      rw [List.mem_singleton.mp hnew, howner] at hjoin
      have hsame := Table.eq_of_pk_eq h.holdings.blobKeys hrow hblob hjoin
      exact Or.inl (hrowSha.symm.trans ((congrArg _ hsame).trans hsha))

/-- Reading a known document again. -/
theorem extractEntry_processes (h : s.Sound manifest) (hslice : slice ⊆ manifest)
    (hentry : entry ∈ slice) {blob : OpinionDocumentBlob}
    (hknown : s.knownBlobs.get? entry.sha256 = some blob) :
    (extractEntry readers visit entry blob dryRun).wp
      (fun _ t => Processed readers visit manifest slice s t ∧
        (dryRun = false → t.isPending entry = false))
      (fun _ t => Processed readers visit manifest slice s t) s := by
  unfold extractEntry
  rw [Proc.wp_bind, Proc.wp_get]
  dsimp only
  rw [Proc.wp_ite]
  constructor
  · intro hdone
    refine ⟨Processed.refl h, fun hlive => ?_⟩
    unfold BuildState.isPending
    rw [hknown]
    dsimp only
    rw [hlive, Bool.or_false, Bool.or_eq_true, decide_eq_true_iff] at hdone
    cases hdone with
    | inl hinvalid =>
      rw [Bool.not_eq_true'] at hinvalid
      rw [hinvalid, Bool.false_and]
    | inr hread => rw [decide_eq_false (not_not_intro hread), Bool.and_false]
  · intro _
    rw [Proc.wp_bind]
    apply wp_readSource
    · intro payload hread
      rw [Proc.wp_bind]
      unfold keeping
      rw [Proc.wp_onPart]
      apply Proc.wp_mono wp_createExtraction
      · rintro extraction holdings ⟨hrow, rfl⟩
        have hstep : Processed readers visit manifest slice s _ :=
          h.addReading hslice hentry hknown hread extraction (by rw [hrow]; rfl)
        refine ⟨hstep, fun _ => ?_⟩
        unfold BuildState.isPending
        dsimp only
        rw [hknown]
        dsimp only
        rw [decide_eq_false (not_not_intro (Dict.mem_keys_set.mpr (Or.inl rfl))), Bool.and_false]
      · rintro e holdings rfl
        exact Processed.refl h
    · exact fun e => Processed.refl h

theorem storeEntry_processes (h : s.Sound manifest) (hentry : entry ∈ slice) {payload : Bytes}
    (hread : visit.read .validate entry = .ok (some payload))
    (hdigest : readers.digestBytes payload = entry.sha256) :
    (storeEntry visit entry payload (readers.validatePdf payload)).wp
      (fun blob t => Processed readers visit manifest slice s t ∧
        t.knownBlobs.get? entry.sha256 = some blob)
      (fun _ t => Processed readers visit manifest slice s t) s := by
  unfold storeEntry keeping
  rw [Proc.wp_bind, Proc.wp_onPart]
  apply Proc.wp_mono wp_keepBytes
  · rintro storageKey holdings ⟨hblobs, hextractions⟩
    have hfiles : Processed readers visit manifest slice s { s with holdings } :=
      h.withFiles hblobs hextractions
    rw [Proc.wp_bind, Proc.wp_onPart]
    apply Proc.wp_mono wp_createBlob
    · rintro blob _ ⟨hrow, hviolations, rfl⟩
      have horigin : BlobOf readers visit slice blob :=
        ⟨entry, hentry, payload, hread, hdigest, by rw [hrow]; rfl, by rw [hrow]; rfl⟩
      have hstep := hfiles.sound.addBlob blob (by rw [hrow]; rfl) (by rw [hrow]; rfl) hviolations
        horigin
      refine ⟨hfiles.trans hstep, ?_⟩
      exact Dict.get?_eq_some_iff.mpr (Dict.mem_set.mpr (Or.inl rfl))
    · rintro e _ rfl
      exact hfiles
  · rintro e holdings ⟨hblobs, hextractions⟩
    exact h.withFiles hblobs hextractions

/-- One document: what it leaves, and that a live run leaves it in its terminal state. -/
theorem processEntry_processes (h : s.Sound manifest) (hslice : slice ⊆ manifest)
    (hentry : entry ∈ slice) :
    (processEntry readers visit dryRun entry).wp
      (fun _ t => Processed readers visit manifest slice s t ∧
        (dryRun = false → t.isPending entry = false))
      (fun _ t => Processed readers visit manifest slice s t) s := by
  unfold processEntry
  rw [Proc.wp_bind, Proc.wp_get]
  dsimp only
  cases hknown : s.knownBlobs.get? entry.sha256 with
  | some blob =>
    dsimp only
    rw [Proc.wp_bind]
    exact extractEntry_processes h hslice hentry hknown
  | none =>
    dsimp only
    unfold processNew
    rw [Proc.wp_bind]
    apply wp_readSource
    · intro payload hread
      rw [Proc.wp_ite]
      constructor
      · exact fun _ => Processed.refl h
      · intro hdigest
        rw [Proc.wp_ite]
        constructor
        · intro hdry
          exact ⟨Processed.refl h, fun hlive => by rw [hlive] at hdry; cases hdry⟩
        · intro _
          rw [Proc.wp_bind]
          apply Proc.wp_mono (storeEntry_processes h hentry hread (not_not.mp hdigest))
          · rintro blob t ⟨hstep, hget⟩
            rw [Proc.wp_bind]
            apply Proc.wp_mono (extractEntry_processes hstep.sound hslice hentry hget)
            · rintro _ u ⟨hstep', hdone⟩
              exact ⟨hstep.trans hstep', hdone⟩
            · exact fun _ u hstep' => hstep.trans hstep'
          · exact fun _ t hstep => hstep
    · exact fun e => Processed.refl h

end Process

/-! ## When a document goes through -/

def blobStorable (validation : ValidationResult) : Bool :=
  validation.byteSize ≠ 0 && validation.pageCount ≤ maxSmallInteger &&
    (!validation.isValid || (validation.pageCount ≠ 0 && !validation.hasActiveContent))

def readingStorable (result : ExtractionResult) : Bool :=
  !hasNul result.text && !hasNul result.firstPageText && result.pageCount ≤ maxSmallInteger &&
    (result.status ≠ .extracted || result.text ≠ "")

/-- A healthy store takes the bytes, and stays healthy. -/
def Takes (healthy : Files → Prop) (machine : StoreMachine) (payload : Bytes) (digest : String) :
    Prop :=
  ∀ files, healthy files →
    (∃ key files', machine.storeBlob payload digest files = (.ok key, files') ∧ healthy files') ∧
    ∀ reason, ∃ key files',
      machine.quarantineBlob payload digest reason files = (.ok key, files') ∧ healthy files'

/-- Both reads of the document give the bytes that were listed, and they can be kept and
recorded. -/
structure Handles (readers : CatalogueReaders) (healthy : Files → Prop) (visit : SourceVisit)
    (entry : ManifestEntry) : Prop where
  bytes : ∃ payload, (∀ purpose, visit.read purpose entry = .ok (some payload)) ∧
    readers.digestBytes payload = entry.sha256 ∧ Sources.isSha256Hex entry.sha256 = true ∧
    Takes healthy (visit.machine entry) payload entry.sha256 ∧
    blobStorable (readers.validatePdf payload) = true ∧
    ((readers.validatePdf payload).isValid = true →
      readingStorable (readers.extractText payload) = true)

section Succeeds

variable {readers : CatalogueReaders} {visit : SourceVisit} {manifest : List ManifestEntry}
  {entry : ManifestEntry} {s : BuildState} {holdings : Holdings} {payload : Bytes}
  {healthy : Files → Prop}

theorem createBlob_succeeds {digest storageKey : String} {validation : ValidationResult}
    (hhex : Sources.isSha256Hex digest = true) (hnew : ∀ row ∈ holdings.blobs, row.sha256 ≠ digest)
    (hstorable : blobStorable validation = true) :
    (createBlob digest storageKey validation).wp (fun _ _ => True) (fun _ _ => False) holdings := by
  set blob := blobRow (Table.nextPk holdings.blobs) digest storageKey validation with hblob
  unfold blobStorable at hstorable
  rw [Bool.and_eq_true, Bool.and_eq_true, decide_eq_true_iff, decide_eq_true_iff] at hstorable
  obtain ⟨⟨hsize, hpages⟩, hvalid⟩ := hstorable
  have hoverflows : blob.overflows = [] := if_neg (Nat.not_lt.mpr hpages)
  have hdup : (holdings.blobs.any (·.sha256 = blob.sha256)) = false := by
    rw [List.any_eq_false]
    intro row hrow heq
    exact hnew row hrow (of_decide_eq_true heq)
  have hviolations : blob.violations holdings.blobs = [] := by
    unfold OpinionDocumentBlob.violations
    rw [hdup, show blob.sha256 = digest from rfl, hhex,
      if_neg (show ¬ blob.byteSize = 0 from hsize)]
    have hsame : blob.isValid = validation.isValid := rfl
    have hpageCount : blob.pageCount = validation.pageCount := rfl
    have hactive : blob.hasActiveContent = validation.hasActiveContent := rfl
    rw [hsame, hpageCount, hactive]
    revert hvalid
    cases validation.isValid with
    | false => simp
    | true =>
      intro hvalid
      simpa using hvalid
  unfold createBlob
  refine Proc.wp_service_ok
    (?_ : _ = Except.ok ({ holdings with blobs := holdings.blobs ++ [blob] }, blob)) trivial
  dsimp only
  rw [← hblob, hoverflows, hviolations]

theorem createExtraction_succeeds {blob : OpinionDocumentBlob}
    (hnew : ∀ row ∈ holdings.extractions, row.blob = blob.pk →
      row.extractorVersion ≠ EXTRACTOR_VERSION)
    (hstorable : readingStorable (readers.extractText payload) = true) :
    (createExtraction readers.toOpinionReaders blob payload).wp (fun _ _ => True) (fun _ _ => False)
      holdings := by
  set row := extractionRow readers.toOpinionReaders (Table.nextPk holdings.extractions)
    blob.pk payload
    with hrow
  unfold readingStorable at hstorable
  rw [Bool.and_eq_true, Bool.and_eq_true, Bool.and_eq_true, decide_eq_true_iff] at hstorable
  obtain ⟨⟨⟨htext, hfirst⟩, hpages⟩, hstatus⟩ := hstorable
  have hoverflows : row.overflows = [] := by
    unfold OpinionDocumentExtraction.overflows
    rw [show row.text = (readers.extractText payload).text from rfl,
      show row.firstPageText = (readers.extractText payload).firstPageText from rfl,
      show row.pageCount = (readers.extractText payload).pageCount from rfl]
    rw [Bool.not_eq_true'] at htext hfirst
    rw [htext, hfirst, if_neg (by decide), if_neg (by omega)]
    rfl
  have hdup : (holdings.extractions.any fun x => x.blob = row.blob &&
      x.extractorVersion = row.extractorVersion) = false := by
    rw [List.any_eq_false]
    intro x hx heq
    rw [Bool.and_eq_true, decide_eq_true_iff, decide_eq_true_iff] at heq
    exact hnew x hx heq.1 heq.2
  have hviolations : row.violations holdings.extractions = [] := by
    unfold OpinionDocumentExtraction.violations
    rw [hdup]
    unfold OpinionDocumentExtraction.isUsable
    rw [show row.text = (readers.extractText payload).text from rfl,
      show row.status = (readers.extractText payload).status from rfl]
    revert hstatus
    by_cases hextracted : (readers.extractText payload).status = .extracted
    · simp [hextracted]
    · simp [hextracted]
  unfold createExtraction
  refine Proc.wp_service_ok
    (?_ : _ = Except.ok ({ holdings with extractions := holdings.extractions ++ [row] }, row))
      trivial
  dsimp only
  rw [← hrow, hoverflows, hviolations]

theorem keepBytes_succeeds {machine : StoreMachine} {digest : String}
    (htakes : Takes healthy machine payload digest) (hhealthy : healthy holdings.files)
    (validation : ValidationResult) :
    (keepBytes machine payload digest validation).wp (fun _ h => healthy h.files) (fun _ _ => False)
      holdings := by
  obtain ⟨⟨key, files, hstore, hkept⟩, hquarantine⟩ := htakes holdings.files hhealthy
  unfold keepBytes onFiles
  split
  · rw [Proc.wp_onPart]
    exact Proc.wp_of_eq hstore hkept
  · obtain ⟨key, files, hset, hkept⟩ := hquarantine validation.status.value
    rw [Proc.wp_onPart]
    exact Proc.wp_of_eq hset hkept

theorem extractEntry_succeeds (h : s.Sound manifest) (hentry : entry ∈ manifest)
    (hread : visit.read .extract entry = .ok (some payload)) {blob : OpinionDocumentBlob}
    (hknown : s.knownBlobs.get? entry.sha256 = some blob) (hhealthy : healthy s.holdings.files)
    (hstorable : blob.isValid = true → readingStorable (readers.extractText payload) = true) :
    (extractEntry readers visit entry blob false).wp (fun _ t => healthy t.holdings.files)
      (fun _ _ => False) s := by
  unfold extractEntry
  rw [Proc.wp_bind, Proc.wp_get]
  dsimp only
  rw [Proc.wp_ite]
  constructor
  · exact fun _ => hhealthy
  · intro hpending
    rw [Bool.or_false, Bool.or_eq_true, not_or, Bool.not_eq_true', Bool.not_eq_false,
      decide_eq_true_iff] at hpending
    obtain ⟨hvalid, hunread⟩ := hpending
    have hunread := (not_congr (h.readings entry hentry)).mp hunread
    obtain ⟨hblob, hsha⟩ := (h.blobs entry hentry blob).mp hknown
    unfold readSource
    rw [hread]
    dsimp only
    rw [Proc.wp_bind, Proc.wp_pure, Proc.wp_bind]
    unfold keeping
    rw [Proc.wp_onPart]
    apply Proc.wp_mono (Proc.wp_and (createExtraction_succeeds (fun row hrow hjoin hversion =>
      hunread ⟨row, hrow, hversion, blob, hblob, hjoin.symm, hsha⟩) (hstorable hvalid))
      wp_createExtraction)
    · rintro extraction _ ⟨-, -, rfl⟩
      exact hhealthy
    · exact fun _ _ hfalse => hfalse.1

/-- A stored document is as valid as its validation says. -/
theorem storeEntry_succeeds (h : s.Sound manifest) (hentry : entry ∈ manifest)
    (hhex : Sources.isSha256Hex entry.sha256 = true)
    (htakes : Takes healthy (visit.machine entry) payload entry.sha256)
    (hhealthy : healthy s.holdings.files) {validation : ValidationResult}
    (hnew : s.knownBlobs.get? entry.sha256 = none) (hstorable : blobStorable validation = true) :
    (storeEntry visit entry payload validation).wp
      (fun blob t => blob.isValid = validation.isValid ∧ healthy t.holdings.files)
      (fun _ _ => False) s := by
  unfold storeEntry keeping
  rw [Proc.wp_bind, Proc.wp_onPart]
  apply Proc.wp_mono (Proc.wp_and (keepBytes_succeeds htakes hhealthy validation) wp_keepBytes)
  · rintro storageKey holdings ⟨hkept, hblobs, -⟩
    have hfresh : ∀ row ∈ holdings.blobs, row.sha256 ≠ entry.sha256 := by
      intro row hrow heq
      rw [hblobs] at hrow
      rw [(h.blobs entry hentry row).mpr ⟨hrow, heq⟩] at hnew
      cases hnew
    rw [Proc.wp_bind, Proc.wp_onPart]
    apply Proc.wp_mono (Proc.wp_and (createBlob_succeeds hhex hfresh hstorable) wp_createBlob)
    · rintro blob _ ⟨-, hrow, -, rfl⟩
      refine ⟨?_, hkept⟩
      rw [hrow]
      rfl
    · exact fun _ _ hfalse => hfalse.1
  · exact fun _ _ hfalse => hfalse.1

theorem processEntry_succeeds (h : s.Sound manifest) (hentry : entry ∈ manifest)
    (hhandles : Handles readers healthy visit entry) (hhealthy : healthy s.holdings.files)
    (hvalid : ∀ blob, s.knownBlobs.get? entry.sha256 = some blob → blob.isValid = true →
      ∀ payload, readers.digestBytes payload = entry.sha256 →
        visit.read .extract entry = .ok (some payload) →
        readingStorable (readers.extractText payload) = true) :
    (processEntry readers visit false entry).wp (fun _ t => healthy t.holdings.files)
      (fun _ _ => False) s := by
  obtain ⟨payload, hread, hdigest, hhex, htakes, hstorable, hreading⟩ := hhandles.bytes
  unfold processEntry
  rw [Proc.wp_bind, Proc.wp_get]
  dsimp only
  cases hknown : s.knownBlobs.get? entry.sha256 with
  | some blob =>
    dsimp only
    rw [Proc.wp_bind]
    apply extractEntry_succeeds h hentry (hread .extract) hknown hhealthy
    exact fun hblob => hvalid blob hknown hblob payload hdigest (hread .extract)
  | none =>
    dsimp only
    unfold processNew readSource
    rw [hread .validate]
    dsimp only
    rw [Proc.wp_bind, Proc.wp_pure, Proc.wp_ite]
    constructor
    · exact fun hchanged => absurd hdigest hchanged
    · intro _
      rw [Proc.wp_ite]
      constructor
      · exact fun hdry => (by cases hdry)
      · intro _
        rw [Proc.wp_bind]
        apply Proc.wp_mono (Proc.wp_and (storeEntry_succeeds h hentry hhex htakes hhealthy hknown
          hstorable) (storeEntry_processes h hentry (hread .validate) hdigest))
        · rintro blob t ⟨⟨hsame, hkept⟩, hstep, hget⟩
          rw [Proc.wp_bind]
          apply extractEntry_succeeds hstep.sound hentry (hread .extract) hget hkept
          rw [hsame]
          exact hreading
        · exact fun _ _ hfalse => hfalse.1

end Succeeds

/-! ## A slice -/

/-- The documents with a terminal state after the first `n` pending ones got theirs. -/
theorem length_filter_le_sub {α : Type} {p q : α → Bool} {l : List α} {n : Nat}
    (hmono : ∀ x ∈ l, q x = true → p x = true)
    (hdone : ∀ x ∈ (l.filter p).take n, q x = false) :
    (l.filter q).length ≤ (l.filter p).length - n := by
  have hfilter : l.filter q = (l.filter p).filter q := by
    rw [List.filter_filter]
    apply List.filter_congr
    intro x hx
    cases hq : q x with
    | false => rfl
    | true => rw [hmono x hx hq, Bool.and_true]
  have htake : ((l.filter p).take n).filter q = [] := by
    apply List.filter_eq_nil_iff.mpr
    intro x hx
    rw [hdone x hx]
    exact Bool.false_ne_true
  rw [hfilter, ← List.take_append_drop n (l.filter p), List.filter_append, htake, List.nil_append,
    List.take_append_drop, ← List.length_drop]
  exact List.length_filter_le _ _

section Slice

variable {readers : CatalogueReaders} {visit : SourceVisit} {manifest slice : List ManifestEntry}
  {dryRun : Bool} {s t : BuildState} {db : OpinionDb} {healthy : Files → Prop}

/-- The counters are none of the tables' business. -/
theorem wp_countBlob {created : Bool} {post : Unit → BuildState → Prop}
    {raised : OpinionExn → BuildState → Prop}
    (h : ∀ unique reused, post () { s with uniqueBlobs := unique, reusedBlobs := reused }) :
    (countBlob dryRun created).wp post raised s := by
  unfold countBlob
  rw [Proc.wp_modify]
  dsimp only
  split
  · exact h s.uniqueBlobs s.reusedBlobs
  · split
    · exact h (s.uniqueBlobs + 1) s.reusedBlobs
    · exact h s.uniqueBlobs (s.reusedBlobs + 1)

theorem Processed.withCounts (h : Processed readers visit manifest slice s t)
    (unique reused : Nat) :
    Processed readers visit manifest slice s
    { t with uniqueBlobs := unique, reusedBlobs := reused } :=
  ⟨⟨h.sound.holdings, h.sound.blobs, h.sound.readings⟩, h.extend, h.blobs, h.readings⟩

theorem processSlice_processes (h : s.Sound manifest) (hslice : slice ⊆ manifest)
    {todo : List ManifestEntry} (htodo : todo ⊆ slice) :
    (processSlice readers visit dryRun todo).wp
      (fun _ t => Processed readers visit manifest slice s t ∧
        (dryRun = false → ∀ entry ∈ todo, t.isPending entry = false))
      (fun _ t => Processed readers visit manifest slice s t) s := by
  induction todo generalizing s with
  | nil => exact ⟨Processed.refl h, fun _ entry hentry => (by cases hentry)⟩
  | cons entry rest ih =>
    have hentry : entry ∈ slice := htodo List.mem_cons_self
    have hrest : rest ⊆ slice := fun e he => htodo (List.mem_cons_of_mem _ he)
    unfold processSlice
    rw [Proc.wp_bind]
    apply Proc.wp_mono (processEntry_processes h hslice hentry)
    · rintro created t ⟨hstep, hdone⟩
      rw [Proc.wp_bind]
      apply wp_countBlob
      intro unique reused
      have hcounted := hstep.withCounts unique reused
      apply Proc.wp_mono (ih hcounted.sound hrest)
      · rintro _ u ⟨hothers, hall⟩
        refine ⟨hcounted.trans hothers, fun hlive e he => ?_⟩
        cases List.mem_cons.mp he with
        | inr hmem => exact hall hlive e hmem
        | inl heq =>
          by_contra hpending
          rw [Bool.not_eq_false, heq] at hpending
          have hbefore := hothers.isPending hcounted.sound (hslice hentry) hpending
          have hterminal : t.isPending entry = false := hdone hlive
          change t.isPending entry = true at hbefore
          rw [hterminal] at hbefore
          cases hbefore
      · exact fun _ u hothers => hcounted.trans hothers
    · exact fun _ t hstep => hstep

/-- A dry run stores nothing. -/
theorem processSlice_dryRun {todo : List ManifestEntry} :
    (processSlice readers visit true todo).wp (fun _ t => t = s) (fun _ t => t = s) s := by
  have hextract (entry : ManifestEntry) (blob : OpinionDocumentBlob) :
      (extractEntry readers visit entry blob true).wp (fun _ t => t = s) (fun _ t => t = s) s := by
    unfold extractEntry
    rw [Proc.wp_bind, Proc.wp_get]
    dsimp only
    rw [Bool.or_true, if_pos rfl]
    exact rfl
  have hentry (entry : ManifestEntry) :
      (processEntry readers visit true entry).wp (fun _ t => t = s) (fun _ t => t = s) s := by
    unfold processEntry
    rw [Proc.wp_bind, Proc.wp_get]
    dsimp only
    cases s.knownBlobs.get? entry.sha256 with
    | some blob =>
      dsimp only
      rw [Proc.wp_bind]
      exact hextract entry blob
    | none =>
      dsimp only
      unfold processNew
      rw [Proc.wp_bind]
      apply wp_readSource
      · intro payload _
        rw [Proc.wp_ite]
        exact ⟨fun _ => rfl, fun _ => rfl⟩
      · exact fun _ => rfl
  induction todo with
  | nil => exact rfl
  | cons entry rest ih =>
    unfold processSlice
    rw [Proc.wp_bind]
    apply Proc.wp_mono (hentry entry)
    · rintro created _ rfl
      rw [Proc.wp_bind]
      exact ih
    · exact fun _ _ h => h

/-- The readings still to be made can be recorded. -/
def Readable (readers : CatalogueReaders) (visit : SourceVisit) (slice : List ManifestEntry)
    (holdings : Holdings) : Prop :=
  ∀ entry ∈ slice, ∀ blob ∈ holdings.blobs, blob.sha256 = entry.sha256 → blob.isValid = true →
    ∀ payload, visit.read .extract entry = .ok (some payload) →
      readingStorable (readers.extractText payload) = true

theorem Readable.processed (hreadable : Readable readers visit slice s.holdings)
    (hslice : slice ⊆ manifest) (hdigests : (manifest.map (·.sha256)).Nodup)
    (hhandles : ∀ entry ∈ slice, Handles readers healthy visit entry)
    (h : Processed readers visit manifest slice s t) : Readable readers visit slice t.holdings := by
  intro entry hentry blob hblob hsha hvalid payload hread
  cases h.blobs blob hblob with
  | inl hold => exact hreadable entry hentry blob hold hsha hvalid payload hread
  | inr hnew =>
    obtain ⟨other, hother, validated, hvalidated, -, hotherSha, hsame⟩ := hnew.origin
    have heq : entry = other :=
      List.inj_on_of_nodup_map hdigests (hslice hentry) (hslice hother) (hsha.symm.trans hotherSha)
    subst heq
    obtain ⟨bytes, hbytes, -, -, -, -, hreading⟩ := (hhandles entry hother).bytes
    rw [hbytes .extract] at hread
    rw [hbytes .validate] at hvalidated
    cases hread
    cases hvalidated
    exact hreading (hsame.symm.trans hvalid)

theorem processSlice_succeeds (h : s.Sound manifest) (hslice : slice ⊆ manifest)
    (hdigests : (manifest.map (·.sha256)).Nodup)
    (hhandles : ∀ entry ∈ slice, Handles readers healthy visit entry)
    (hreadable : Readable readers visit slice s.holdings) (hhealthy : healthy s.holdings.files)
    {todo : List ManifestEntry} (htodo : todo ⊆ slice) :
    (processSlice readers visit false todo).wp (fun _ t => healthy t.holdings.files)
      (fun _ _ => False) s := by
  induction todo generalizing s with
  | nil => exact hhealthy
  | cons entry rest ih =>
    have hentry : entry ∈ slice := htodo List.mem_cons_self
    have hrest : rest ⊆ slice := fun e he => htodo (List.mem_cons_of_mem _ he)
    unfold processSlice
    rw [Proc.wp_bind]
    apply Proc.wp_mono (Proc.wp_and
      (processEntry_succeeds h (hslice hentry) (hhandles entry hentry) hhealthy
        fun blob hknown hvalid payload _ hread =>
          hreadable entry hentry blob ((h.blobs entry (hslice hentry) blob).mp hknown).1
            ((h.blobs entry (hslice hentry) blob).mp hknown).2 hvalid payload hread)
      (processEntry_processes h hslice hentry))
    · rintro created t ⟨hkept, hstep, -⟩
      rw [Proc.wp_bind]
      apply wp_countBlob
      intro unique reused
      have hcounted := hstep.withCounts unique reused
      exact ih hcounted.sound (hreadable.processed hslice hdigests hhandles hcounted) hkept hrest
    · exact fun _ _ hfalse => hfalse.1

/-- How many documents of the manifest have no terminal state in the tables. -/
def pendingCount (manifest : List ManifestEntry) (holdings : Holdings) : Nat :=
  (outstanding manifest (loadKnown holdings manifest)).length

theorem BuildState.Sound.pendingCount (h : s.Sound manifest) :
    (outstanding manifest s).length = pendingCount manifest s.holdings := by
  unfold OpinionCatalogue.pendingCount outstanding
  congr 1
  apply List.filter_congr
  intro entry hentry
  exact h.isPending_eq (loadKnown_sound h.holdings) rfl hentry

def nextSlice (dryRun : Bool) (manifest : List ManifestEntry) (holdings : Holdings) (budget : Nat) :
    List ManifestEntry :=
  if dryRun then [] else (outstanding manifest (loadKnown holdings manifest)).take budget

theorem nextSlice_subset {holdings : Holdings} {budget : Nat} :
    nextSlice dryRun manifest holdings budget ⊆ manifest := by
  unfold nextSlice
  split
  · exact List.nil_subset manifest
  · exact fun _ he => (List.mem_filter.mp (List.mem_of_mem_take he)).1

theorem buildSlice_builds (h : db.holdings.Sound) (budget : Nat) :
    (buildSlice readers visit dryRun budget manifest).wp
      (fun s db' => db' = { db with holdings := s.holdings } ∧
        Processed readers visit manifest (nextSlice dryRun manifest db.holdings budget)
          (loadKnown db.holdings manifest) s ∧
        (dryRun = false →
          (outstanding manifest s).length ≤ pendingCount manifest db.holdings - budget))
      (fun _ db' => ∃ s, db' = { db with holdings := s.holdings } ∧
        Processed readers visit manifest (nextSlice dryRun manifest db.holdings budget)
          (loadKnown db.holdings manifest) s) db := by
  have hstart : (loadKnown db.holdings manifest).Sound manifest := loadKnown_sound h
  have hslice : (outstanding manifest (loadKnown db.holdings manifest)).take budget ⊆
      nextSlice false manifest db.holdings budget := List.Subset.refl _
  unfold buildSlice
  rw [Proc.wp_bind, Proc.wp_get]
  dsimp only
  rw [Proc.wp_onPart]
  beta_reduce
  rw [Proc.wp_bind]
  cases dryRun with
  | true =>
    apply Proc.wp_mono processSlice_dryRun
    · rintro _ s rfl
      exact ⟨rfl, Processed.refl hstart, fun hlive => (by cases hlive)⟩
    · rintro _ s rfl
      exact ⟨_, rfl, Processed.refl hstart⟩
  | false =>
    apply Proc.wp_mono (processSlice_processes hstart nextSlice_subset hslice)
    · rintro _ s ⟨hprocessed, hdone⟩
      rw [Proc.wp_get]
      refine ⟨rfl, hprocessed, fun hlive => ?_⟩
      exact length_filter_le_sub (fun e he hpending => hprocessed.isPending hstart he hpending)
        (hdone hlive)
    · exact fun _ s hprocessed => ⟨s, rfl, hprocessed⟩

/-- A slice whose documents are all handled is gone through to its end. -/
theorem buildSlice_succeeds (h : db.holdings.Sound) {budget : Nat}
    (hdigests : (manifest.map (·.sha256)).Nodup)
    (hhandles : ∀ entry ∈ nextSlice false manifest db.holdings budget,
      Handles readers healthy visit entry)
    (hreadable : Readable readers visit (nextSlice false manifest db.holdings budget) db.holdings)
    (hhealthy : healthy db.holdings.files) :
    (buildSlice readers visit false budget manifest).wp (fun _ db' => healthy db'.holdings.files)
      (fun _ _ => False) db := by
  have hstart : (loadKnown db.holdings manifest).Sound manifest := loadKnown_sound h
  unfold buildSlice
  rw [Proc.wp_bind, Proc.wp_get]
  dsimp only
  rw [Proc.wp_onPart]
  beta_reduce
  rw [Proc.wp_bind]
  apply Proc.wp_mono (processSlice_succeeds hstart nextSlice_subset hdigests hhandles hreadable
    hhealthy (List.Subset.refl _))
  · exact fun _ _ hkept => hkept
  · exact fun _ _ hfalse => hfalse

end Slice

end OpinionCatalogue

end Dashkoda.LegalWork
