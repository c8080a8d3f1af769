import Dashkoda.LegalWork.PublicOpinionCollect

/-!
# The corpus over runs

What a run writes, how the rows are read back, and what the published corpus keeps over any
sequence of runs.
-/

open Lib

namespace Dashkoda.LegalWork

open Currency (publish current?)
open Sources (Time)

namespace PublicOpinions

variable (readers : PublicReaders)

/-! ## What a run does to the three tables -/

structure SameCorpus (db db' : OpinionDb) : Prop where
  snapshots : db'.publicSnapshots = db.publicSnapshots
  pages : db'.publicPages = db.publicPages
  documents : db'.publicDocuments = db.publicDocuments

/-- One corpus was written under a new snapshot, which was made the current one. -/
structure CorpusWritten (source : Nat) (drafts : List PageDraft) (snapshot : PublicOpinionSnapshot)
    (db db' : OpinionDb) : Prop where
  pk : snapshot.pk = Table.nextPk db.publicSnapshots
  owner : snapshot.source = source
  storable : corpusViolations drafts = []
  snapshots : db'.publicSnapshots = publish (·.source = source) snapshot db.publicSnapshots
  pages : db'.publicPages = db.publicPages ++ pageRows db snapshot.pk drafts
  documents : db'.publicDocuments = db.publicDocuments ++ documentRows db snapshot.pk drafts

theorem SameCorpus.trans {db db' db'' : OpinionDb} (h : SameCorpus db db')
    (h' : SameCorpus db' db'') :
    SameCorpus db db'' :=
  ⟨h'.snapshots.trans h.snapshots, h'.pages.trans h.pages, h'.documents.trans h.documents⟩

/-- What was written depends on the corpus tables only. -/
theorem CorpusWritten.of_same {source : Nat} {drafts : List PageDraft}
    {snapshot : PublicOpinionSnapshot} {db db₁ db₂ db₃ : OpinionDb} (h : SameCorpus db db₁)
    (hwritten : CorpusWritten source drafts snapshot db₁ db₂) (h' : SameCorpus db₂ db₃) :
    CorpusWritten source drafts snapshot db db₃ := by
  obtain ⟨hpk, hsource, hstorable, hsnapshots, hpages, hdocuments⟩ := hwritten
  have hrows : pageRows db₁ snapshot.pk drafts = pageRows db snapshot.pk drafts := by
    unfold pageRows
    rw [h.pages]
  have hdocs : documentRows db₁ snapshot.pk drafts = documentRows db snapshot.pk drafts := by
    unfold documentRows
    rw [h.pages, h.documents]
  exact ⟨by rw [hpk, h.snapshots], hsource,
    hstorable, by rw [h'.snapshots, hsnapshots, h.snapshots],
    by rw [h'.pages, hpages, h.pages, hrows], by rw [h'.documents, hdocuments, h.documents, hdocs]⟩

section Writes

variable {readers : PublicReaders} {source : Nat} {visit : Visit} {drafts : List PageDraft}
  {report : PublicOpinionReport} {full dryRun : Bool} {db : OpinionDb}

theorem wp_onRegistry_same {α : Type} {x : Proc Sources.Exn Sources.Registry α} :
    (onRegistry x).wp (fun _ => SameCorpus db) (fun _ => SameCorpus db) db := by
  unfold onRegistry
  rw [Proc.wp_onPart]
  exact Proc.wp_of_forall (fun _ _ => ⟨rfl, rfl, rfl⟩) fun _ _ => ⟨rfl, rfl, rfl⟩

theorem writeCorpus_writes (artifact : Sources.SourceArtifact) (run : Sources.ImportRun)
    (checksum : String) :
    (writeCorpus source artifact run drafts checksum report full).wp
      (fun snapshot db' => snapshot.corpusChecksum = checksum ∧
        CorpusWritten source drafts snapshot db db')
      (fun _ _ => True) db := by
  unfold writeCorpus
  rw [Proc.wp_bind, Proc.wp_get]
  dsimp only
  rw [Proc.wp_bind]
  apply wp_raiseOverflows _ fun _ => trivial
  intro _
  rw [Proc.wp_bind]
  apply wp_raiseViolations _ fun _ => trivial
  intro hstorable
  rw [Proc.wp_bind, Proc.wp_modify, Proc.wp_bind]
  apply Proc.wp_mono wp_onRegistry_same
  · intro _ db' hsame
    simp only [Proc.wp_bind, Proc.wp_modify, Proc.wp_pure]
    exact ⟨trivial, CorpusWritten.of_same ⟨rfl, rfl, rfl⟩ ⟨rfl, rfl, hstorable, rfl, rfl, rfl⟩
      (hsame.trans ⟨rfl, rfl, rfl⟩)⟩
  · exact fun _ _ _ => trivial

theorem publishCorpus_writes (identity : Core.ContentIdentity) :
    (publishCorpus readers source drafts identity report full).wp
      (fun snapshot db' => snapshot.corpusChecksum = identity.sha256 ∧
        CorpusWritten source drafts snapshot db db')
      (fun _ => SameCorpus db) db := by
  unfold publishCorpus
  rw [Proc.wp_bind, Proc.wp_get]
  dsimp only
  rw [Proc.wp_bind]
  apply Proc.wp_mono wp_onRegistry_same
  · intro opened db₁ hsame
    rw [Proc.wp_bind, Proc.wp_onError, Proc.wp_atomically]
    apply Proc.wp_mono (writeCorpus_writes opened.1 opened.2 identity.sha256)
    · rintro snapshot db₂ ⟨hchecksum, hwritten⟩
      simp only [Proc.wp_bind, Proc.wp_modify, Proc.wp_pure]
      exact ⟨hchecksum, CorpusWritten.of_same hsame hwritten ⟨rfl, rfl, rfl⟩⟩
    · intro e _ _
      apply Proc.wp_mono wp_onRegistry_same
      · exact fun _ _ hcleaned => hsame.trans hcleaned
      · exact fun _ _ hcleaned => hsame.trans hcleaned
  · exact fun _ _ hsame => hsame

/-- A run leaves the tables alone or writes one corpus made of the drafts it collected. -/
theorem finishRun_writes (previous : Option PublicOpinionSnapshot) :
    (finishRun readers source previous drafts report dryRun full).wp
      (fun _ db' => SameCorpus db db' ∨ ∃ snapshot, CorpusWritten source drafts snapshot db db')
      (fun _ => SameCorpus db) db := by
  have hsame : SameCorpus db db := ⟨rfl, rfl, rfl⟩
  unfold finishRun
  rw [Proc.wp_bind, Proc.wp_get]
  dsimp only
  cases previous.filter
      (·.corpusChecksum = (corpusChecksum readers db.holdings.blobs drafts).sha256) with
  | some same =>
    cases dryRun with
    | true => exact Or.inl hsame
    | false => exact Or.inl ⟨rfl, rfl, rfl⟩
  | none =>
    dsimp only
    rw [Proc.wp_ite]
    constructor
    · exact fun _ => Or.inl hsame
    · intro _
      rw [Proc.wp_bind, Proc.wp_tryCatch, Proc.wp_map]
      apply Proc.wp_mono (publishCorpus_writes _)
      · rintro snapshot db' ⟨-, hwritten⟩
        exact Or.inr ⟨snapshot, hwritten⟩
      · intro e db' hkept
        exact Or.inl (hkept.trans ⟨rfl, rfl, rfl⟩)

theorem collectCorpus_collects (previous : Option PublicOpinionSnapshot)
    (hknown : KnownSound readers (loadPrevious db previous)) :
    (collectCorpus readers visit previous full dryRun).wp
      (fun corpus db' => SameCorpus db db' ∧
        Collected readers visit (loadPrevious db previous) full corpus.1)
      (fun _ => SameCorpus db) db := by
  unfold collectCorpus
  simp only [Proc.wp_bind, Proc.wp_get, Proc.wp_onPart, Proc.wp_pure]
  apply Proc.wp_mono (collect_collects hknown)
  · exact fun drafts s hcollected => ⟨⟨rfl, rfl, rfl⟩, hcollected⟩
  · exact fun _ _ _ => ⟨rfl, rfl, rfl⟩

/-- The same on the run as a whole. -/
theorem synchronize_writes
    (hknown : KnownSound readers (loadPrevious db (currentCorpus? db source))) :
    (synchronizePublicOpinions readers source visit dryRun full).wp
      (fun _ db' => SameCorpus db db' ∨ ∃ drafts snapshot,
        Collected readers visit (loadPrevious db (currentCorpus? db source)) full drafts ∧
        CorpusWritten source drafts snapshot db db')
      (fun _ => SameCorpus db) db := by
  unfold synchronizePublicOpinions
  rw [Proc.wp_bind, Proc.wp_modify, Proc.wp_bind, Proc.wp_get]
  dsimp only
  set db₁ : OpinionDb := { db with publicState := { db.publicState with
    toFeedState := db.publicState.toFeedState.touchChecked db.clock } }
  have hsame : SameCorpus db db₁ := ⟨rfl, rfl, rfl⟩
  rw [Proc.wp_ite]
  constructor
  · exact fun _ => Or.inl hsame
  · intro _
    rw [Proc.wp_bind, Proc.wp_tryCatch, Proc.wp_map]
    apply Proc.wp_mono (@collectCorpus_collects readers visit full dryRun db₁ _ hknown)
    · rintro corpus db₂ ⟨hsame₂, hcollected⟩
      apply Proc.wp_mono (finishRun_writes _)
      · rintro _ db₃ (hsame₃ | ⟨snapshot, hwritten⟩)
        · exact Or.inl (hsame.trans (hsame₂.trans hsame₃))
        · exact Or.inr ⟨corpus.1, snapshot, hcollected,
            CorpusWritten.of_same (hsame.trans hsame₂) hwritten ⟨rfl, rfl, rfl⟩⟩
      · exact fun _ _ hsame₃ => hsame.trans (hsame₂.trans hsame₃)
    · intro e db₂ hsame₂
      rw [Proc.wp_ite]
      constructor
      · exact fun _ => Or.inl (hsame.trans (hsame₂.trans ⟨rfl, rfl, rfl⟩))
      · exact fun _ => hsame.trans hsame₂

end Writes

/-! ## How a corpus reads back -/

/-- A draft as its rows say it. -/
def stored (draft : PageDraft) : PageDraft :=
  { draft with
    opinionEvidenceCodes := sortOn id draft.opinionEvidenceCodes
    documents := sortOn (·.sourceOrder) draft.documents }

/-- The rows of every corpus written so far. -/
structure CorpusSound (db : OpinionDb) : Prop where
  pageOwner : ∀ page ∈ db.publicPages, Table.HasKey db.publicSnapshots page.snapshot
  documentOwner : ∀ document ∈ db.publicDocuments, Table.HasKey db.publicPages document.page
  snapshotKeys : Table.UniqueKeys db.publicSnapshots
  pageKeys : ∀ snapshot,
    ((db.publicPages.filter (·.snapshot = snapshot)).map (·.contentKey)).Nodup
  address : ∀ page ∈ db.publicPages, readers.contentKeyFor page.canonicalUrl = page.contentKey
  evidence : ∀ page ∈ db.publicPages,
    sortOn id page.opinionEvidenceCodes = page.opinionEvidenceCodes
  documentUrls : ∀ page ∈ db.publicPages,
    ((db.publicDocuments.filter (·.page = page.pk)).map (·.pdfUrl)).Nodup

theorem corpusSound_empty (files : Files) : CorpusSound readers (OpinionDb.empty files) where
  pageOwner _ h := (by cases h)
  documentOwner _ h := (by cases h)
  snapshotKeys := List.nodup_nil
  pageKeys _ := List.nodup_nil
  address _ h := (by cases h)
  evidence _ h := (by cases h)
  documentUrls _ h := (by cases h)

theorem sortOn_sortOn {α κ : Type} [LinearOrder κ] (key : α → κ) (rows : List α) :
    sortOn key (sortOn key rows) = sortOn key rows :=
  List.Pairwise.insertionSort_eq (pairwise_sortOn key rows)

theorem map_sortOn {α β κ : Type} [LinearOrder κ] (key : β → κ) (f : α → β) (rows : List α) :
    (sortOn (key ∘ f) rows).map f = sortOn key (rows.map f) :=
  List.map_insertionSort _ _ f rows fun _ _ _ _ => Iff.rfl

section ReadBack

variable {readers : PublicReaders} {source : Nat} {drafts : List PageDraft}
  {snapshot : PublicOpinionSnapshot} {db db' : OpinionDb}

theorem CorpusWritten.fresh (h : CorpusWritten source drafts snapshot db db') :
    ∀ r ∈ db.publicSnapshots, r.pk < snapshot.pk := by
  intro r hr
  rw [h.pk]
  exact Table.pk_lt_nextPk hr

/-- The snapshot just written is the current one of its source. -/
theorem CorpusWritten.current (h : CorpusWritten source drafts snapshot db db') :
    currentCorpus? db' source = some { snapshot with isCurrent := true } := by
  unfold currentCorpus?
  rw [h.snapshots]
  exact Currency.current?_publish_scope h.fresh (fun _ _ => rfl) (decide_eq_true h.owner)

theorem CorpusWritten.hasKey_old (h : CorpusWritten source drafts snapshot db db') {pk : Nat}
    (hkey : Table.HasKey db.publicSnapshots pk) : Table.HasKey db'.publicSnapshots pk := by
  obtain ⟨r, hr, hpk⟩ := hkey
  rw [h.snapshots]
  refine ⟨_, (Currency.mem_publish h.fresh).mpr (Or.inr ⟨r, hr, rfl⟩), ?_⟩
  split
  · exact hpk
  · exact hpk

theorem CorpusWritten.hasKey_new (h : CorpusWritten source drafts snapshot db db') :
    Table.HasKey db'.publicSnapshots snapshot.pk := by
  rw [h.snapshots]
  exact ⟨_, (Currency.mem_publish h.fresh).mpr (Or.inl rfl), rfl⟩

theorem mem_pageRows {start snapshot : Nat} {page : PublicOpinionPage} :
    page ∈ drafts.mapIdx (fun i draft => pageRow (start + i) snapshot draft) ↔
      ∃ i draft, drafts[i]? = some draft ∧ pageRow (start + i) snapshot draft = page := by
  rw [List.mem_mapIdx]
  constructor
  · rintro ⟨i, hi, heq⟩
    exact ⟨i, drafts[i], List.getElem?_eq_getElem hi, heq⟩
  · rintro ⟨i, draft, hdraft, heq⟩
    obtain ⟨hi, hget⟩ := List.getElem?_eq_some_iff.mp hdraft
    exact ⟨i, hi, by rw [hget, heq]⟩

/-- The pages of the new snapshot are the ones just written. -/
theorem CorpusWritten.filter_pages (h : CorpusWritten source drafts snapshot db db')
    (hsound : CorpusSound readers db) :
    db'.publicPages.filter (·.snapshot = snapshot.pk) = pageRows db snapshot.pk drafts := by
  have hold : db.publicPages.filter (·.snapshot = snapshot.pk) = [] := by
    apply List.filter_eq_nil_iff.mpr
    intro page hpage heq
    apply (hsound.pageOwner page hpage).ne_nextPk
    rw [← h.pk]
    exact of_decide_eq_true heq
  have hnew : (pageRows db snapshot.pk drafts).filter (·.snapshot = snapshot.pk) =
      pageRows db snapshot.pk drafts := by
    apply List.filter_eq_self.mpr
    intro page hpage
    obtain ⟨i, draft, -, rfl⟩ := mem_pageRows.mp hpage
    exact decide_eq_true rfl
  rw [h.pages, List.filter_append, hold, hnew, List.nil_append]

/-- A snapshot written before keeps its pages. -/
theorem CorpusWritten.filter_pages_old (h : CorpusWritten source drafts snapshot db db') {pk : Nat}
    (hne : pk ≠ snapshot.pk) :
    db'.publicPages.filter (·.snapshot = pk) = db.publicPages.filter (·.snapshot = pk) := by
  have hnew : (pageRows db snapshot.pk drafts).filter (·.snapshot = pk) = [] := by
    apply List.filter_eq_nil_iff.mpr
    intro page hpage heq
    obtain ⟨i, draft, -, rfl⟩ := mem_pageRows.mp hpage
    exact hne (of_decide_eq_true heq).symm
  rw [h.pages, List.filter_append, hnew, List.append_nil]

/-- The attachments of one new page are those of its draft. -/
theorem CorpusWritten.filter_documents (h : CorpusWritten source drafts snapshot db db')
    (hsound : CorpusSound readers db) {i : Nat} {draft : PageDraft}
    (hdraft : drafts[i]? = some draft) :
    (db'.publicDocuments.filter (·.page = Table.nextPk db.publicPages + i)).map
      (·.toDocumentFields) =
      draft.documents := by
  have hold : db.publicDocuments.filter (·.page = Table.nextPk db.publicPages + i) = [] := by
    apply List.filter_eq_nil_iff.mpr
    intro document hdocument heq
    obtain ⟨page, hpage, hpk⟩ := hsound.documentOwner document hdocument
    have := Table.pk_lt_nextPk hpage
    have := of_decide_eq_true heq
    omega
  have hread : ((documentRows db snapshot.pk drafts).filter
      (·.page = Table.nextPk db.publicPages + i)).map (·.toDocumentFields) =
      ((Table.tagged (Table.nextPk db.publicPages) (drafts.map (·.documents))).filter
        (·.1 = Table.nextPk db.publicPages + i)).map Prod.snd :=
    Table.map_filter_mapIdx (fun _ _ => rfl) fun _ _ => rfl
  rw [h.documents, List.filter_append, hold, List.nil_append, hread, Table.filter_tagged,
    List.getElem?_map, hdraft]
  rfl

/-- A page written before keeps its attachments. -/
theorem CorpusWritten.filter_documents_old (h : CorpusWritten source drafts snapshot db db')
    {pk : Nat} (hold : pk < Table.nextPk db.publicPages) :
    db'.publicDocuments.filter (·.page = pk) = db.publicDocuments.filter (·.page = pk) := by
  have hnew : (documentRows db snapshot.pk drafts).filter (·.page = pk) = [] := by
    apply List.filter_eq_nil_iff.mpr
    intro document hdocument heq
    obtain ⟨j, hj, rfl⟩ := List.mem_mapIdx.mp hdocument
    have := Table.le_of_mem_tagged (List.getElem_mem hj)
    have hpage := of_decide_eq_true heq
    change _ = pk at hpage
    dsimp only [documentRow] at hpage
    omega
  rw [h.documents, List.filter_append, hnew, List.append_nil]

/-- Reading the rows of a draft back. -/
theorem CorpusWritten.restated (h : CorpusWritten source drafts snapshot db db')
    (hsound : CorpusSound readers db) {i : Nat} {draft : PageDraft}
    (hdraft : drafts[i]? = some draft) :
    (KnownPage.mk (pageRow (Table.nextPk db.publicPages + i) snapshot.pk draft)
      (sortOn (·.sourceOrder) (db'.publicDocuments.filter
        (·.page = Table.nextPk db.publicPages + i)))).restated = stored draft := by
  have hdocuments : (sortOn (·.sourceOrder) (db'.publicDocuments.filter
      (·.page = Table.nextPk db.publicPages + i))).map (·.toDocumentFields) =
      sortOn (·.sourceOrder) draft.documents := by
    rw [← h.filter_documents hsound hdraft, ← map_sortOn]
    rfl
  unfold KnownPage.restated
  rw [hdocuments]
  rfl

/-- The published corpus is the drafts, as their rows say them. -/
theorem CorpusWritten.mem_corpus (h : CorpusWritten source drafts snapshot db db')
    (hsound : CorpusSound readers db) {page : PageDraft} :
    page ∈ corpus db' source ↔ ∃ draft ∈ drafts, stored draft = page := by
  unfold corpus
  rw [h.current]
  dsimp only
  unfold pagesOf
  rw [h.filter_pages hsound, List.map_map, List.mem_map]
  constructor
  · rintro ⟨row, hrow, heq⟩
    obtain ⟨i, draft, hdraft, rfl⟩ := mem_pageRows.mp (mem_sortOn.mp hrow)
    exact ⟨draft, List.mem_of_getElem? hdraft, (h.restated hsound hdraft).symm.trans heq⟩
  · rintro ⟨draft, hmem, heq⟩
    obtain ⟨i, hdraft⟩ := List.mem_iff_getElem?.mp hmem
    exact ⟨_, mem_sortOn.mpr (mem_pageRows.mpr ⟨i, draft, hdraft, rfl⟩),
      (h.restated hsound hdraft).trans heq⟩

end ReadBack

section Sound

variable {readers : PublicReaders} {source : Nat} {drafts : List PageDraft}
  {snapshot : PublicOpinionSnapshot} {db db' : OpinionDb}

theorem SameCorpus.sound (h : SameCorpus db db') (hsound : CorpusSound readers db) :
    CorpusSound readers db' := by
  obtain ⟨hsnapshots, hpages, hdocuments⟩ := h
  obtain ⟨hpage, hdocument, hpks, hkeys, haddress, hevidence, hurls⟩ := hsound
  constructor
  · rwa [hpages, hsnapshots]
  · rwa [hdocuments, hpages]
  · rwa [hsnapshots]
  · rwa [hpages]
  · rwa [hpages]
  · rwa [hpages]
  · rwa [hpages, hdocuments]

theorem SameCorpus.corpus_eq (h : SameCorpus db db') (source : Nat) :
    corpus db' source = corpus db source := by
  unfold corpus currentCorpus? pagesOf
  rw [h.snapshots, h.pages, h.documents]

theorem nodup_of_corpusViolations (h : corpusViolations drafts = []) {draft : PageDraft}
    (hdraft : draft ∈ drafts) : (draft.documents.map (·.pdfUrl)).Nodup := by
  unfold corpusViolations at h
  dsimp only at h
  rw [List.append_eq_nil_iff, List.append_eq_nil_iff] at h
  have hall : ((drafts.flatMap (·.documents)).map (·.pdfUrl)).Nodup := by
    by_contra hnot
    have hurls := h.1.2
    rw [if_neg hnot] at hurls
    cases hurls
  obtain ⟨before, after, rfl⟩ := List.append_of_mem hdraft
  rw [List.flatMap_append, List.flatMap_cons, List.map_append, List.map_append] at hall
  exact (List.nodup_append.mp (List.nodup_append.mp hall).2.1).1

theorem CorpusWritten.mem_pages (h : CorpusWritten source drafts snapshot db db')
    {page : PublicOpinionPage} : page ∈ db'.publicPages ↔ page ∈ db.publicPages ∨
      ∃ i draft, drafts[i]? = some draft ∧
        pageRow (Table.nextPk db.publicPages + i) snapshot.pk draft = page := by
  rw [h.pages, List.mem_append, ← mem_pageRows]
  rfl

/-- Writing a corpus of addressed pages under distinct keys keeps the tables sound. -/
theorem CorpusWritten.sound (h : CorpusWritten source drafts snapshot db db')
    (hsound : CorpusSound readers db) (hkeys : (drafts.map (·.contentKey)).Nodup)
    (haddress : ∀ draft ∈ drafts, readers.contentKeyFor draft.canonicalUrl = draft.contentKey) :
    CorpusSound readers db' where
  pageOwner page hpage := by
    cases h.mem_pages.mp hpage with
    | inl hold => exact h.hasKey_old (hsound.pageOwner page hold)
    | inr hnew =>
      obtain ⟨i, draft, -, rfl⟩ := hnew
      exact h.hasKey_new
  documentOwner document hdocument := by
    rw [h.documents, List.mem_append] at hdocument
    cases hdocument with
    | inl hold =>
      obtain ⟨page, hpage, hpk⟩ := hsound.documentOwner document hold
      exact ⟨page, h.mem_pages.mpr (Or.inl hpage), hpk⟩
    | inr hnew =>
      obtain ⟨j, hj, rfl⟩ := List.mem_mapIdx.mp hnew
      obtain ⟨i, draft, hdraft, hpk⟩ := Table.exists_of_mem_tagged (List.getElem_mem hj)
      rw [List.getElem?_map, Option.map_eq_some_iff] at hdraft
      obtain ⟨page, hpage, -⟩ := hdraft
      exact ⟨_, h.mem_pages.mpr (Or.inr ⟨i, page, hpage, rfl⟩), hpk.symm⟩
  snapshotKeys := by
    rw [h.snapshots]
    exact Currency.uniqueKeys_publish hsound.snapshotKeys h.fresh
  pageKeys pk := by
    by_cases hpk : pk = snapshot.pk
    · have hread : ((pageRows db snapshot.pk drafts).filter (·.snapshot = snapshot.pk)).map
          (·.contentKey) = (drafts.filter fun _ => true).map (·.contentKey) :=
        Table.map_filter_mapIdx (fun _ _ => decide_eq_true rfl) fun _ _ => rfl
      have hown : ((db'.publicPages.filter (·.snapshot = snapshot.pk)).filter
          (·.snapshot = snapshot.pk)) = db'.publicPages.filter (·.snapshot = snapshot.pk) := by
        rw [List.filter_filter]
        simp only [Bool.and_self]
      rw [hpk, ← hown, h.filter_pages hsound, hread, List.filter_true]
      exact hkeys
    · rw [h.filter_pages_old hpk]
      exact hsound.pageKeys pk
  address page hpage := by
    cases h.mem_pages.mp hpage with
    | inl hold => exact hsound.address page hold
    | inr hnew =>
      obtain ⟨i, draft, hdraft, rfl⟩ := hnew
      exact haddress draft (List.mem_of_getElem? hdraft)
  evidence page hpage := by
    cases h.mem_pages.mp hpage with
    | inl hold => exact hsound.evidence page hold
    | inr hnew =>
      obtain ⟨i, draft, -, rfl⟩ := hnew
      exact sortOn_sortOn id draft.opinionEvidenceCodes
  documentUrls page hpage := by
    cases h.mem_pages.mp hpage with
    | inl hold =>
      have hkept : db'.publicDocuments.filter (·.page = page.pk) =
          db.publicDocuments.filter (·.page = page.pk) :=
        h.filter_documents_old (Table.pk_lt_nextPk hold)
      rw [hkept]
      exact hsound.documentUrls page hold
    | inr hnew =>
      obtain ⟨i, draft, hdraft, rfl⟩ := hnew
      have hdocuments := congrArg (List.map (·.pdfUrl)) (h.filter_documents hsound hdraft)
      rw [List.map_map] at hdocuments
      change ((db'.publicDocuments.filter (·.page = Table.nextPk db.publicPages + i)).map
        ((·.pdfUrl) ∘ (·.toDocumentFields))).Nodup
      rw [hdocuments]
      exact nodup_of_corpusViolations h.storable (List.mem_of_getElem? hdraft)

/-- A snapshot's pages under their keys. -/
theorem get?_loadPrevious (hsound : CorpusSound readers db) (previous : PublicOpinionSnapshot)
    {key : String} {known : KnownPage} :
    (loadPrevious db (some previous)).get? key = some known ↔
      known ∈ pagesOf db previous.pk ∧ known.page.contentKey = key := by
  have hkeys : (((pagesOf db previous.pk).map fun known =>
      (known.page.contentKey, known)).map Prod.fst).Nodup := by
    unfold pagesOf
    rw [List.map_map, List.map_map]
    have hperm := (perm_sortOn pageOrder (db.publicPages.filter (·.snapshot = previous.pk))).map
      (·.contentKey)
    exact hperm.nodup_iff.mpr (hsound.pageKeys previous.pk)
  unfold loadPrevious
  dsimp only
  rw [Dict.get?_eq_some_iff, Dict.entries_ofList hkeys, List.mem_map]
  constructor
  · rintro ⟨found, hfound, heq⟩
    cases heq
    exact ⟨hfound, rfl⟩
  · rintro ⟨hfound, rfl⟩
    exact ⟨known, hfound, rfl⟩

theorem mem_pagesOf {pk : Nat} {known : KnownPage} (h : known ∈ pagesOf db pk) :
    known.page ∈ db.publicPages ∧
      known.documents = sortOn (·.sourceOrder)
        (db.publicDocuments.filter (·.page = known.page.pk)) := by
  obtain ⟨page, hpage, rfl⟩ := List.mem_map.mp h
  exact ⟨(List.mem_filter.mp (mem_sortOn.mp hpage)).1, rfl⟩

/-- What a run knows at its start is sound. -/
theorem CorpusSound.known (hsound : CorpusSound readers db)
    (previous : Option PublicOpinionSnapshot) :
    KnownSound readers (loadPrevious db previous) := by
  intro key known hget
  cases previous with
  | none => cases hget
  | some previous =>
    obtain ⟨hmem, hkey⟩ := (get?_loadPrevious hsound previous).mp hget
    obtain ⟨hpage, hdocuments⟩ := mem_pagesOf hmem
    refine ⟨hkey, (hsound.address _ hpage).trans hkey, ?_⟩
    have hperm := (perm_sortOn (·.sourceOrder)
      (db.publicDocuments.filter (·.page = known.page.pk))).map (·.pdfUrl)
    rw [hdocuments]
    exact hperm.nodup_iff.mpr (hsound.documentUrls _ hpage)

/-- The pages of the current corpus are the ones the next run knows. -/
theorem CorpusSound.mem_corpus (hsound : CorpusSound readers db) {page : PageDraft} :
    page ∈ corpus db source ↔ ∃ known,
      (loadPrevious db (currentCorpus? db source)).get? page.contentKey = some known ∧
      known.restated = page := by
  unfold corpus
  cases currentCorpus? db source with
  | none =>
    constructor
    · exact fun h => by cases h
    · rintro ⟨known, hget, -⟩
      cases hget
  | some previous =>
    dsimp only
    rw [List.mem_map]
    constructor
    · rintro ⟨known, hmem, rfl⟩
      exact ⟨known, (get?_loadPrevious hsound previous).mpr ⟨hmem, rfl⟩, rfl⟩
    · rintro ⟨known, hget, heq⟩
      exact ⟨known, ((get?_loadPrevious hsound previous).mp hget).1, heq⟩

theorem CorpusSound.mem_corpus_evidence (hsound : CorpusSound readers db) {page : PageDraft}
    (h : page ∈ corpus db source) :
    sortOn id page.opinionEvidenceCodes = page.opinionEvidenceCodes := by
  obtain ⟨known, hget, rfl⟩ := hsound.mem_corpus.mp h
  cases hcurrent : currentCorpus? db source with
  | none =>
    rw [hcurrent] at hget
    cases hget
  | some previous =>
    rw [hcurrent] at hget
    exact hsound.evidence _ (mem_pagesOf ((get?_loadPrevious hsound previous).mp hget).1).1

end Sound

/-! ## The corpus only accumulates -/

/-- The attachment is still known, with the bytes it had. -/
structure DocumentKept (before after : DocumentFields) : Prop where
  pdfUrl : after.pdfUrl = before.pdfUrl
  firstSeenAt : after.firstSeenAt = before.firstSeenAt
  blob : before.blob.isSome → after.blob = before.blob ∧ after.extraction = before.extraction

/-- The page is still known, with all its attachments. -/
structure PageKept (before after : PageDraft) : Prop where
  contentKey : after.contentKey = before.contentKey
  firstSeenAt : after.firstSeenAt = before.firstSeenAt
  documents : ∀ x ∈ before.documents, ∃ y ∈ after.documents, DocumentKept x y

theorem DocumentKept.trans {x y z : DocumentFields} (h : DocumentKept x y) (h' : DocumentKept y z) :
    DocumentKept x z := by
  refine ⟨h'.pdfUrl.trans h.pdfUrl, h'.firstSeenAt.trans h.firstSeenAt, fun hblob => ?_⟩
  obtain ⟨hy, hyread⟩ := h.blob hblob
  obtain ⟨hz, hzread⟩ := h'.blob (by rw [hy]; exact hblob)
  exact ⟨hz.trans hy, hzread.trans hyread⟩

theorem PageKept.refl (page : PageDraft) : PageKept page page :=
  ⟨rfl, rfl, fun x hx => ⟨x, hx, rfl, rfl, fun _ => ⟨rfl, rfl⟩⟩⟩

theorem PageKept.trans {x y z : PageDraft} (h : PageKept x y) (h' : PageKept y z) :
    PageKept x z := by
  refine ⟨h'.contentKey.trans h.contentKey, h'.firstSeenAt.trans h.firstSeenAt, fun a ha => ?_⟩
  obtain ⟨b, hb, hab⟩ := h.documents a ha
  obtain ⟨c, hc, hbc⟩ := h'.documents b hb
  exact ⟨c, hc, hab.trans hbc⟩

theorem Continues.kept {before after : PageDraft} (h : Continues before after) :
    PageKept before after := by
  refine ⟨h.contentKey, h.firstSeenAt, fun x hx => ?_⟩
  obtain ⟨y, hy, hxy⟩ := h.documents x hx
  exact ⟨y, hy, hxy.pdfUrl, hxy.firstSeenAt, hxy.blob⟩

/-- The rows of a draft continue what the draft continues. -/
theorem continues_stored {before draft : PageDraft} (h : Continues before draft)
    (hevidence : sortOn id before.opinionEvidenceCodes = before.opinionEvidenceCodes) :
    Continues before (stored draft) := by
  refine ⟨h.contentKey, h.firstSeenAt, fun x hx => ?_, fun hgone => ?_⟩
  · obtain ⟨y, hy, hxy⟩ := h.documents x hx
    exact ⟨y, mem_sortOn.mpr hy, hxy⟩
  · obtain ⟨hfields, hdocuments⟩ := h.gone hgone
    constructor
    · have hcodes : draft.opinionEvidenceCodes = before.opinionEvidenceCodes := by
        rw [hfields]
      change { draft.toPageFields with
        opinionEvidenceCodes := sortOn id draft.opinionEvidenceCodes } = _
      rw [hcodes, hevidence, ← hcodes]
      exact hfields
    · exact ((perm_sortOn (·.sourceOrder) draft.documents).map carryDocument).trans hdocuments

def collected? (source : Nat) (visit : Visit) (dryRun full : Bool) (db : OpinionDb) :
    Option (List PageDraft) :=
  match (collectCorpus readers visit (currentCorpus? db source) full dryRun db).1 with
  | .ok corpus => some corpus.1
  | .error _ => none

/-- One corpus after another.  A page that was there is recorded as gone on a 404 only, and on a
full run always. -/
structure Accumulates (visit : Visit) (full : Bool) (before after : List PageDraft) : Prop where
  keys : (after.map (·.contentKey)).Nodup
  continues : ∀ page ∈ before, ∃ page' ∈ after, Continues page page'
  lost : ∀ page ∈ before, ∀ page' ∈ after, page'.contentKey = page.contentKey →
    page.isPresent = true → page'.isPresent = false →
    ∃ url, readers.contentKeyFor url = page.contentKey ∧ NotFound visit url
  gone : full = true → ∀ page ∈ before, AllNotFound readers visit page.contentKey →
    ∀ page' ∈ after, page'.contentKey = page.contentKey → page'.isPresent = false

section Accumulation

variable {readers : PublicReaders} {source : Nat} {visit : Visit} {full dryRun : Bool}
  {drafts : List PageDraft} {db db' : OpinionDb}

theorem Collected.accumulates (hsound : CorpusSound readers db)
    (h : Collected readers visit (loadPrevious db (currentCorpus? db source)) full drafts) :
    Accumulates readers visit full (corpus db source) drafts := by
  refine ⟨h.keys, fun page hpage => ?_, fun page hpage page' hpage' hkey hpresent hlost => ?_,
    fun hfull page hpage hall page' hpage' hkey => ?_⟩
  · obtain ⟨known, hget, rfl⟩ := hsound.mem_corpus.mp hpage
    obtain ⟨draft, hdraft, hkey⟩ := h.known _ known hget
    exact ⟨draft, hdraft, (h.each draft hdraft).continues known (by rw [hkey]; exact hget)⟩
  · obtain ⟨known, hget, rfl⟩ := hsound.mem_corpus.mp hpage
    rw [← hkey] at hget ⊢
    exact (h.each page' hpage').lost known hget hpresent hlost
  · obtain ⟨known, hget, rfl⟩ := hsound.mem_corpus.mp hpage
    exact h.gone hfull _ known hget hall page' hpage' hkey

theorem accumulates_collected (hsound : CorpusSound readers db)
    (h : collected? readers source visit dryRun full db = some drafts) :
    Accumulates readers visit full (corpus db source) drafts := by
  have hcollects : (collectCorpus readers visit (currentCorpus? db source) full dryRun).wp _ _ db :=
    collectCorpus_collects _ (hsound.known (currentCorpus? db source))
  unfold collected? at h
  unfold Proc.wp at hcollects
  revert hcollects h
  cases collectCorpus readers visit (currentCorpus? db source) full dryRun db with
  | mk answer after =>
    cases answer with
    | error e => exact fun h => by cases h
    | ok corpus =>
      intro h hcollects
      cases h
      exact Collected.accumulates hsound hcollects.2

/-- One run: the tables stay sound, and the published corpus continues the one before. -/
theorem publicStep_keeps (hsound : CorpusSound readers db) (act : PublicAction) :
    CorpusSound readers (publicStep readers source db act) ∧
      ∀ page ∈ corpus db source, ∃ page' ∈ corpus (publicStep readers source db act) source,
        Continues page page' := by
  have hsame {db' : OpinionDb} (h : SameCorpus db db') : CorpusSound readers db' ∧
      ∀ page ∈ corpus db source, ∃ page' ∈ corpus db' source, Continues page page' := by
    refine ⟨h.sound hsound, fun page hpage => ⟨page, ?_, Continues.refl page⟩⟩
    rw [h.corpus_eq source]
    exact hpage
  cases act with
  | wait elapsed => exact hsame ⟨rfl, rfl, rfl⟩
  | synchronize visit dryRun full =>
    have hwrites : (synchronizePublicOpinions readers source visit dryRun full).wp _ _ db :=
      synchronize_writes (hsound.known (currentCorpus? db source))
    unfold Proc.wp at hwrites
    unfold publicStep
    dsimp only
    revert hwrites
    cases synchronizePublicOpinions readers source visit dryRun full db with
    | mk answer after =>
      cases answer with
      | error e => exact hsame
      | ok report =>
        rintro (h | ⟨drafts, snapshot, hcollected, hwritten⟩)
        · exact hsame h
        · refine ⟨hwritten.sound hsound hcollected.keys fun draft hdraft =>
            (hcollected.each draft hdraft).address, fun page hpage => ?_⟩
          obtain ⟨draft, hdraft, hcontinues⟩ := (hcollected.accumulates hsound).continues page hpage
          exact ⟨stored draft, (hwritten.mem_corpus hsound).mpr ⟨draft, hdraft, rfl⟩,
            continues_stored hcontinues (hsound.mem_corpus_evidence hpage)⟩

theorem corpusSound_run (files : Files) (acts : List PublicAction) :
    CorpusSound readers (run (publicStep readers source) (OpinionDb.empty files) acts) := by
  have hstep (db : OpinionDb) (act : PublicAction) (h : CorpusSound readers db) :
      CorpusSound readers (publicStep readers source db act) := (publicStep_keeps h act).1
  exact run_keeps hstep acts (corpusSound_empty readers files)

/-- What was ever published is published still. -/
theorem pageKept_run (hsound : CorpusSound readers db) (acts : List PublicAction) {page : PageDraft}
    (hpage : page ∈ corpus db source) :
    ∃ page' ∈ corpus (run (publicStep readers source) db acts) source, PageKept page page' := by
  have hkept : CorpusSound readers (run (publicStep readers source) db acts) ∧
      ∃ page' ∈ corpus (run (publicStep readers source) db acts) source, PageKept page page' := by
    have hstep (db' : OpinionDb) (act : PublicAction)
        (h : CorpusSound readers db' ∧ ∃ page' ∈ corpus db' source, PageKept page page') :
        CorpusSound readers (publicStep readers source db' act) ∧
          ∃ page' ∈ corpus (publicStep readers source db' act) source, PageKept page page' := by
      obtain ⟨hsound', page', hpage', hkept⟩ := h
      obtain ⟨hafter, hcontinue⟩ := publicStep_keeps hsound' act
      obtain ⟨page'', hpage'', hcontinues⟩ := hcontinue page' hpage'
      exact ⟨hafter, page'', hpage'', hkept.trans hcontinues.kept⟩
    exact run_keeps hstep acts ⟨hsound, page, hpage, PageKept.refl page⟩
  exact hkept.2

end Accumulation

/-- Whatever the site answered on the runs so far, the next collection and the next published
corpus continue the current one, and later runs forget nothing of it. -/
theorem publicCorpus_accumulates (source : Nat) (files : Files) (history : List PublicAction) :
    let db := run (publicStep readers source) (OpinionDb.empty files) history
    (∀ visit dryRun full drafts, collected? readers source visit dryRun full db = some drafts →
      Accumulates readers visit full (corpus db source) drafts) ∧
    (∀ act, ∀ page ∈ corpus db source,
      ∃ page' ∈ corpus (publicStep readers source db act) source, Continues page page') ∧
    ∀ later, ∀ page ∈ corpus db source,
      ∃ page' ∈ corpus (run (publicStep readers source) db later) source, PageKept page page' := by
  intro db
  have hsound : CorpusSound readers db := corpusSound_run files history
  exact ⟨fun _ _ _ _ h => accumulates_collected hsound h,
    fun act => (publicStep_keeps hsound act).2, fun later _ hpage =>
      pageKept_run hsound later hpage⟩

/-! ## A page that disappears -/

/-- The digits of a number, lowest first. -/
def hexDigits : Nat → Nat → List Char
  | 0, _ => []
  | left + 1, n => Nat.digitChar (n % 16) :: hexDigits left (n / 16)

def sampleDigest (payload : Bytes) : String :=
  String.ofList (hexDigits 64 (payload.foldl (fun acc byte => acc * 263 + byte.toNat + 1) 7))

def sampleOpinionReaders : OpinionReaders where
  digestBytes := sampleDigest
  parseOpinionFilename name := ⟨name, none, "", "", []⟩
  classifyDocument _ _ := (.unknown, [])
  validatePdf payload := ⟨.valid, payload.length, 1, false, false, []⟩
  extractText _ := ⟨.extracted, "tekst", "tekst", 1, []⟩
  parseDocumentHeader _ := ⟨none, "", "", "", "", []⟩

/-- A site whose first listing names one article; the text of a page is its body. -/
def sampleReaders : PublicReaders where
  toOpinionReaders := sampleOpinionReaders
  urljoin _ url := url
  canonicalArticleUrl url := url
  isArticleUrl _ := true
  contentKeyFor url := sampleOpinionReaders.digestText url
  parseMeieArvamusListing html := if html = "" then [] else [⟨html, "", "", none⟩]
  parseNewsListing _ := []
  parseNewsDetail html _ := ⟨"Arvamus", none, html, []⟩
  attachmentFilename attachment := attachment.label
  attachmentFilenameDate _ := none
  hasOpinionVocabulary _ _ := false

def sampleArticle : String := "https://www.koda.ee/et/uudised/arvamus"

def sampleMachine : StoreMachine where
  ensureDirectories := pure ()
  storeBlob _ digest := pure digest
  quarantineBlob _ digest _ := pure digest

def sampleVisit (article : Except FetchError String) : Visit where
  html url :=
    if url = KODA_OPINIONS_MEIE_ARVAMUS_URL then .ok sampleArticle
    else if url = sampleArticle then article
    else .ok ""
  pdf _ _ := .error ⟨"", .notFound⟩
  machine := sampleMachine

def sampleHistory : List PublicAction :=
  [.wait 5, .synchronize (sampleVisit (.ok "Koja arvamus")) false true, .wait 5]

def sampleDb : OpinionDb :=
  run (publicStep sampleReaders 1) (OpinionDb.empty fun _ => none) sampleHistory

/-- The article answers 404 on the second full run. -/
def sampleLater : Option (List PageDraft) :=
  collected? sampleReaders 1 (sampleVisit (.error ⟨"", .notFound⟩)) false true sampleDb

def readState (page : PageDraft) : Bool × String := (page.isPresent, page.failureCode)

theorem sample_disappears : (corpus sampleDb 1).map readState = [(true, "")] ∧
    sampleLater.map (·.map readState) = some [(false, "http_404")] := by decide +kernel

theorem publicCorpus_accumulates_sample : ∃ page ∈ corpus sampleDb 1, ∃ drafts,
    sampleLater = some drafts ∧ ∃ page' ∈ drafts, Continues page page' := by
  obtain ⟨hbefore, hafter⟩ := sample_disappears
  obtain ⟨drafts, hdrafts, -⟩ := Option.map_eq_some_iff.mp hafter
  have hpage : (true, "") ∈ (corpus sampleDb 1).map readState := by
    rw [hbefore]
    exact List.mem_singleton_self _
  obtain ⟨page, hpage, -⟩ := List.mem_map.mp hpage
  have haccumulates := (publicCorpus_accumulates sampleReaders 1 (fun _ => none) sampleHistory).1
    _ _ _ drafts hdrafts
  exact ⟨page, hpage, drafts, hdrafts, haccumulates.continues page hpage⟩

/-- The page that disappeared carries the run's failure code beside its flag. -/
theorem disappearance_changes_failureCode : ∃ page ∈ corpus sampleDb 1, page.isPresent = true ∧
    ∃ drafts, sampleLater = some drafts ∧
      ∀ page' ∈ drafts, page'.isPresent = false ∧ page' ≠ { page with isPresent := false } := by
  obtain ⟨hbefore, hafter⟩ := sample_disappears
  obtain ⟨drafts, hdrafts, hread⟩ := Option.map_eq_some_iff.mp hafter
  have hpage : (true, "") ∈ (corpus sampleDb 1).map readState := by
    rw [hbefore]
    exact List.mem_singleton_self _
  obtain ⟨page, hpage, hstate⟩ := List.mem_map.mp hpage
  refine ⟨page, hpage, congrArg Prod.fst hstate, drafts, hdrafts, fun page' hpage' => ?_⟩
  have hstate' : readState page' ∈ [(false, "http_404")] := hread ▸ List.mem_map_of_mem hpage'
  rw [List.mem_singleton] at hstate'
  refine ⟨congrArg Prod.fst hstate', fun heq => ?_⟩
  have hcode : page'.failureCode = page.failureCode := by rw [heq]
  have hbeforeCode : page.failureCode = "" := congrArg Prod.snd hstate
  have hafterCode : page'.failureCode = "http_404" := congrArg Prod.snd hstate'
  rw [hbeforeCode, hafterCode] at hcode
  exact absurd hcode (by decide)

end PublicOpinions

end Dashkoda.LegalWork
