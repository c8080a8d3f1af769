import Dashkoda.LegalWork.PublicOpinionSync

/-!
# What a collection keeps

Whatever the site answers, a collection that ends keeps every known page and every known
attachment.
-/

open Lib

namespace Dashkoda.LegalWork

open Currency (publish current?)
open Sources (Time)

namespace PublicOpinions

variable (readers : PublicReaders)

/-! ## What a read keeps of a known document and a known page -/

structure DocumentContinues (before after : DocumentFields) : Prop where
  pdfUrl : after.pdfUrl = before.pdfUrl
  firstSeenAt : after.firstSeenAt = before.firstSeenAt
  blob : before.blob.isSome → after.blob = before.blob ∧ after.extraction = before.extraction
  gone : after.isPresent = false →
    after = { before with isPresent := false, fetchState := after.fetchState }

/-- The page is still there under its key.  A page that is gone says what it said before, but for
the fields that record how the run read it. -/
structure Continues (before after : PageDraft) : Prop where
  contentKey : after.contentKey = before.contentKey
  firstSeenAt : after.firstSeenAt = before.firstSeenAt
  documents : ∀ x ∈ before.documents, ∃ y ∈ after.documents, DocumentContinues x y
  gone : after.isPresent = false →
    after.toPageFields = { before.toPageFields with
      isPresent := false, fetchState := after.fetchState, failureCode := after.failureCode } ∧
    (after.documents.map carryDocument).Perm (before.documents.map carryDocument)

theorem DocumentContinues.refl (document : DocumentFields) : DocumentContinues document document :=
  ⟨rfl, rfl, fun _ => ⟨rfl, rfl⟩, fun hgone => by rw [← hgone]⟩

theorem Continues.refl (page : PageDraft) : Continues page page :=
  ⟨rfl, rfl, fun x hx => ⟨x, hx, DocumentContinues.refl x⟩, fun hgone =>
    ⟨by rw [← hgone], List.Perm.refl _⟩⟩

theorem documentContinues_carry (document : DocumentFields) :
    DocumentContinues document (carryDocument document) :=
  ⟨rfl, rfl, fun _ => ⟨rfl, rfl⟩, fun hgone => by
    have : document.isPresent = false := hgone
    rw [← this]
    rfl⟩

theorem documentContinues_vanished (document : DocumentFields) :
    DocumentContinues document { carryDocument document with isPresent := false } :=
  ⟨rfl, rfl, fun _ => ⟨rfl, rfl⟩, fun _ => rfl⟩

theorem documentContinues_present {before after : DocumentFields}
    (hurl : after.pdfUrl = before.pdfUrl) (hseen : after.firstSeenAt = before.firstSeenAt)
    (hpresent : after.isPresent = true)
    (hblob : before.blob.isSome → after.blob = before.blob ∧ after.extraction = before.extraction) :
    DocumentContinues before after := by
  refine ⟨hurl, hseen, hblob, fun hgone => ?_⟩
  rw [hpresent] at hgone
  cases hgone

/-- A carried page, whatever the run noted about it. -/
theorem continues_carried {page after : PageDraft}
    (hfields : after.toPageFields = { page.toPageFields with
      isPresent := after.isPresent, fetchState := after.fetchState, failureCode :=
        after.failureCode })
    (hdocuments : after.documents = page.documents.map carryDocument) : Continues page after := by
  refine ⟨?_, ?_, ?_, ?_⟩
  · rw [hfields]
  · rw [hfields]
  · intro x hx
    rw [hdocuments]
    exact ⟨carryDocument x, List.mem_map_of_mem hx, documentContinues_carry x⟩
  · intro hgone
    refine ⟨hgone ▸ hfields, ?_⟩
    rw [hdocuments, List.map_map]
    exact List.Perm.refl _

theorem continues_carryPage (page : PageDraft) : Continues page (carryPage page) :=
  continues_carried rfl rfl

theorem continues_failedPage (page : PageDraft) (code : String) :
    Continues page (failedPage page code) := continues_carried rfl rfl

section Reads

variable {readers : PublicReaders} {visit : Visit} {now : Time} {dryRun : Bool} {s : CollectState}

theorem wp_count {f : PublicOpinionReport → PublicOpinionReport} {post : Unit → CollectState → Prop}
    {raised : OpinionExn → CollectState → Prop} :
    (count f).wp post raised = fun s => post () { s with report := f s.report } := rfl

/-- Fetching a file fills in its reading and leaves its place on the page alone. -/
theorem fetchDocument_keeps (pageUrl : String) (draft : DocumentFields) (subject : String) :
    (fetchDocument readers visit pageUrl draft subject dryRun).wp
      (fun document _ => document.pdfUrl = draft.pdfUrl ∧
        document.firstSeenAt = draft.firstSeenAt ∧ document.isPresent = draft.isPresent)
      (fun _ _ => True) s := by
  unfold fetchDocument
  cases visit.pdf pageUrl draft.pdfUrl with
  | error error =>
    simp only [Proc.wp_bind, countInvalid, wp_count, Proc.wp_pure]
    exact ⟨rfl, rfl, rfl⟩
  | ok payload =>
    simp only [Proc.wp_bind, wp_count, Proc.wp_get]
    rw [Proc.wp_ite]
    constructor
    · intro _
      unfold previewDocument
      simp only [Proc.wp_bind, Proc.wp_pure]
      apply Proc.wp_of_forall
      · exact fun _ _ => ⟨rfl, rfl, rfl⟩
      · exact fun _ _ => trivial
    · intro _
      rw [Proc.wp_bind]
      apply Proc.wp_of_forall
      · intro blob s'
        rw [Proc.wp_ite]
        constructor
        · intro _
          simp only [Proc.wp_bind, countInvalid, wp_count, Proc.wp_pure]
          exact ⟨rfl, rfl, rfl⟩
        · intro _
          simp only [Proc.wp_bind, Proc.wp_pure]
          apply Proc.wp_of_forall
          · exact fun _ _ => ⟨rfl, rfl, rfl⟩
          · exact fun _ _ => trivial
      · exact fun _ _ => trivial

/-- One attachment: it keeps the address it was read under, and continues the document known
there. -/
theorem readDocument_continues (pageUrl : String) (known : Option DocumentFields)
    (attachment : PageAttachment) (order : Nat)
    (hurl : ∀ x ∈ known, x.pdfUrl = attachment.url) :
    (readDocument readers visit pageUrl known now dryRun attachment order).wp
      (fun document _ => document.pdfUrl = attachment.url ∧ document.isPresent = true ∧
        ∀ x ∈ known, DocumentContinues x document)
      (fun _ _ => True) s := by
  unfold readDocument
  dsimp only
  cases known with
  | none =>
    apply Proc.wp_mono (fetchDocument_keeps pageUrl _ _)
    · rintro document _ ⟨hpdf, -, hpresent⟩
      exact ⟨hpdf, hpresent, fun x hx => by cases hx⟩
    · exact fun _ _ _ => trivial
  | some x =>
    have hx : x.pdfUrl = attachment.url := hurl x rfl
    dsimp only
    rw [Proc.wp_ite]
    constructor
    · intro hblob
      simp only [Proc.wp_bind, wp_count, Proc.wp_pure]
      refine ⟨hx, trivial, fun y hy => ?_⟩
      cases hy
      exact documentContinues_present rfl rfl rfl fun _ => And.intro rfl rfl
    · intro hblob
      apply Proc.wp_mono (fetchDocument_keeps pageUrl _ _)
      · rintro document _ ⟨hpdf, hseen, hpresent⟩
        refine ⟨hpdf, hpresent, fun y hy => ?_⟩
        cases hy
        exact documentContinues_present (hpdf.trans hx.symm) hseen hpresent
          fun hsome => absurd hsome hblob
      · exact fun _ _ _ => trivial

/-- Every known document is on the page just read, or was carried as vanished. -/
theorem readDocuments_continue (url : String) (known : Option PageDraft) (detail : PageDetail)
    (hkeys : ∀ page ∈ known, (page.documents.map (·.pdfUrl)).Nodup) :
    (readDocuments readers visit url known detail now dryRun).wp
      (fun documents _ => ∀ page ∈ known, ∀ x ∈ page.documents,
        ∃ y ∈ documents, DocumentContinues x y)
      (fun _ _ => True) s := by
  let pairs := ((known.map (·.documents)).getD []).map fun document => (document.pdfUrl, document)
  have hpairs : (pairs.map Prod.fst).Nodup := by
    have hfst : pairs.map Prod.fst = ((known.map (·.documents)).getD []).map (·.pdfUrl) := by
      rw [List.map_map]
      rfl
    rw [hfst]
    cases known with
    | none => exact List.nodup_nil
    | some page => exact hkeys page rfl
  have hentries : (Dict.ofList pairs).entries = pairs := Dict.entries_ofList hpairs
  have hget (url : String) (x : DocumentFields) (hx : (Dict.ofList pairs).get? url = some x) :
      x.pdfUrl = url := by
    rw [Dict.get?_eq_some_iff, hentries] at hx
    obtain ⟨document, -, heq⟩ := List.mem_map.mp hx
    cases heq
    rfl
  unfold readDocuments
  dsimp only
  change Proc.wp (do
    let read ← detail.attachments.zipIdx.mapM fun item => readDocument readers visit url
      ((Dict.ofList pairs).get? item.1.url) now dryRun item.1 item.2
    return read ++ ((Dict.ofList pairs).values.filter fun document =>
      document.pdfUrl ∉ detail.attachments.map (·.url)).map fun document =>
        { carryDocument document with isPresent := false }) _ _ s
  rw [Proc.wp_bind]
  apply Proc.wp_mono (Proc.wp_mapM (fun _ => True)
    (fun item document => ∀ x ∈ (Dict.ofList pairs).get? item.1.url, DocumentContinues x document)
    detail.attachments.zipIdx (fun item _ s' _ => ?_) trivial)
  · rintro documents s' ⟨-, hdocuments⟩ page hpage x hx
    cases hpage
    have hmem : (x.pdfUrl, x) ∈ (Dict.ofList pairs).entries := by
      rw [hentries]
      exact List.mem_map_of_mem hx
    by_cases hseen : x.pdfUrl ∈ detail.attachments.map (·.url)
    · obtain ⟨attachment, hattachment, hurl⟩ := List.mem_map.mp hseen
      rw [← List.zipIdx_map_fst 0 detail.attachments] at hattachment
      obtain ⟨item, hitem, heq⟩ := List.mem_map.mp hattachment
      obtain ⟨y, hy, hcontinues⟩ := hdocuments item hitem
      refine ⟨y, List.mem_append_left _ hy, hcontinues x ?_⟩
      rw [heq, hurl]
      exact Dict.get?_eq_some_iff.mpr hmem
    · refine ⟨{ carryDocument x with isPresent := false }, ?_, documentContinues_vanished x⟩
      apply List.mem_append_right
      apply List.mem_map_of_mem
      rw [List.mem_filter]
      exact ⟨Dict.mem_values.mpr ⟨_, hmem⟩, by simpa using hseen⟩
  · exact fun _ _ _ => trivial
  · apply Proc.wp_mono
      (readDocument_continues url ((Dict.ofList pairs).get? item.1.url) item.1 item.2
      fun x hx => hget _ x hx)
    · exact fun document _ hdocument => ⟨trivial, hdocument.2.2⟩
    · exact fun _ _ _ => trivial

end Reads

/-- The site answers 404 for the address. -/
def NotFound (visit : Visit) (url : String) : Prop :=
  ∃ message, visit.html url = .error ⟨message, .notFound⟩

theorem failureCode_eq_notFound_iff (error : FetchError) :
    failureCode error = FAILURE_NOT_FOUND ↔ error.failure = .notFound := by
  unfold failureCode
  cases error.failure <;> decide

/-- A draft made by reading an address, for the page known under its key. -/
structure PageRead (visit : Visit) (url key : String) (known : Option PageDraft)
    (draft : PageDraft) : Prop where
  contentKey : draft.contentKey = key
  address : readers.contentKeyFor draft.canonicalUrl = key
  continues : ∀ page ∈ known, Continues page draft
  lost : draft.isPresent = false → (∀ page ∈ known, page.isPresent = true) → NotFound visit url
  notFound : NotFound visit url → draft.isPresent = false

section Reads

variable {readers : PublicReaders} {visit : Visit} {url key : String} {known : Option PageDraft}

theorem pageRead_failed {page : PageDraft} (hkey : page.contentKey = key)
    (haddress : readers.contentKeyFor page.canonicalUrl = key) {code : String}
    (hcode : code = FAILURE_NOT_FOUND ↔ NotFound visit url) :
    PageRead readers visit url key (some page) (failedPage page code) := by
  refine ⟨hkey, haddress, fun x hx => ?_, fun hlost hpresent => ?_, fun hgone => ?_⟩
  · cases hx
    exact continues_failedPage page code
  · by_cases hnotFound : code = FAILURE_NOT_FOUND
    · exact hcode.mp hnotFound
    · change (if code = FAILURE_NOT_FOUND then false else page.isPresent) = false at hlost
      rw [if_neg hnotFound, hpresent page rfl] at hlost
      cases hlost
  · exact if_pos (hcode.mpr hgone)

/-- Reading an address gives a page that continues the one known under its key, if it gives one;
a known page is never left out. -/
theorem readPage_reads (hurl : readers.contentKeyFor url = key)
    (hknown : ∀ page ∈ known, page.contentKey = key ∧
      readers.contentKeyFor page.canonicalUrl = key ∧ (page.documents.map (·.pdfUrl)).Nodup)
    (found : Found) (now : Time) (dryRun : Bool) (s : CollectState) :
    (readPage readers visit url key known found now dryRun).wp
      (fun out _ => (∀ draft ∈ out, PageRead readers visit url key known draft) ∧
        (known.isSome → out.isSome))
      (fun _ _ => True) s := by
  unfold readPage
  cases hhtml : visit.html url with
  | error error =>
    cases known with
    | none => trivial
    | some page =>
      obtain ⟨hkey, haddress, -⟩ := hknown page rfl
      have hcode : failureCode error = FAILURE_NOT_FOUND ↔ NotFound visit url := by
        rw [failureCode_eq_notFound_iff]
        constructor
        · intro hfailure
          exact ⟨error.message, by rw [hhtml, ← hfailure]⟩
        · rintro ⟨message, hmessage⟩
          rw [hhtml] at hmessage
          cases hmessage
          rfl
      refine ⟨fun draft hdraft => ?_, fun _ => rfl⟩
      cases hdraft
      exact pageRead_failed hkey haddress hcode
  | ok html =>
    have hanswered : ¬ NotFound visit url := by
      rintro ⟨message, hmessage⟩
      rw [hhtml] at hmessage
      cases hmessage
    simp only [Proc.wp_bind, wp_count]
    rw [Proc.wp_ite]
    constructor
    · intro _
      cases known with
      | none => trivial
      | some page =>
        obtain ⟨hkey, haddress, -⟩ := hknown page rfl
        have hcode : FAILURE_UNPARSABLE = FAILURE_NOT_FOUND ↔ NotFound visit url :=
          iff_of_false (by decide) hanswered
        refine ⟨fun draft hdraft => ?_, fun _ => rfl⟩
        cases hdraft
        exact pageRead_failed hkey haddress hcode
    · intro _
      have hread (evidence : List String) (s : CollectState) : Proc.wp (do
          let documents ← readDocuments readers visit url known (readers.parseNewsDetail html url)
            now dryRun
          return some { readFields readers url key known found (readers.parseNewsDetail html url)
            evidence now with documents })
          (fun out _ => (∀ draft ∈ out, PageRead readers visit url key known draft) ∧
            (known.isSome → out.isSome)) (fun _ _ => True) s := by
        rw [Proc.wp_bind]
        apply Proc.wp_mono (readDocuments_continue url known _ fun page hpage =>
          (hknown page hpage).2.2)
        · intro documents _ hdocuments
          refine ⟨fun draft hdraft => ?_, fun _ => rfl⟩
          cases hdraft
          refine ⟨rfl, hurl, fun page hpage => ?_, fun hlost => (by cases hlost),
            fun hgone => absurd hgone hanswered⟩
          have hseen : (known.map (·.firstSeenAt)).getD now = page.firstSeenAt := by
            rw [Option.mem_def.mp hpage]
            rfl
          exact ⟨(hknown page hpage).1.symm, hseen, hdocuments page hpage,
            fun hgone => by cases hgone⟩
        · exact fun _ _ _ => trivial
      have hnone : known.isNone = true → ¬ known.isSome = true := by
        cases known <;> simp
      rw [Proc.wp_ite]
      constructor
      · intro hold
        rw [Bool.and_eq_true] at hold
        exact ⟨fun draft hdraft => (by cases hdraft), fun hsome => absurd hsome (hnone hold.1)⟩
      · intro _
        rw [Proc.wp_ite]
        constructor
        · intro hordinary
          rw [Bool.and_eq_true] at hordinary
          exact ⟨fun draft hdraft => (by cases hdraft), fun hsome =>
            absurd hsome (hnone hordinary.1)⟩
        · exact fun _ => hread _ _

end Reads

/-! ## What a collection keeps -/

/-- The known pages as their dictionary holds them. -/
def KnownSound (knownPages : Dict String KnownPage) : Prop :=
  ∀ key known, knownPages.get? key = some known → known.page.contentKey = key ∧
    readers.contentKeyFor known.page.canonicalUrl = key ∧
    (known.documents.map (·.pdfUrl)).Nodup

/-- Nothing under the key is there any more. -/
def AllNotFound (visit : Visit) (key : String) : Prop :=
  ∀ url, readers.contentKeyFor url = key → NotFound visit url

/-- A draft of the next corpus, against what is known under its key. -/
structure DraftOf (visit : Visit) (knownPages : Dict String KnownPage) (key : String)
    (draft : PageDraft) : Prop where
  contentKey : draft.contentKey = key
  address : readers.contentKeyFor draft.canonicalUrl = key
  continues : ∀ known, knownPages.get? key = some known → Continues known.restated draft
  lost : ∀ known, knownPages.get? key = some known → known.page.isPresent = true →
    draft.isPresent = false → ∃ url, readers.contentKeyFor url = key ∧ NotFound visit url

structure Collected (visit : Visit) (knownPages : Dict String KnownPage) (full : Bool)
    (drafts : List PageDraft) : Prop where
  keys : (drafts.map (·.contentKey)).Nodup
  each : ∀ draft ∈ drafts, DraftOf readers visit knownPages draft.contentKey draft
  known : ∀ key known, knownPages.get? key = some known → ∃ draft ∈ drafts, draft.contentKey = key
  gone : full = true → ∀ key known, knownPages.get? key = some known →
    AllNotFound readers visit key → ∀ draft ∈ drafts, draft.contentKey = key →
    draft.isPresent = false

section Collects

variable {readers : PublicReaders} {visit : Visit} {knownPages : Dict String KnownPage}
  {full dryRun : Bool} {now : Time} {s : CollectState}

/-- A full walk has an address to read for every known page. -/
theorem candidatesOf_known (hknown : KnownSound readers knownPages) (hfull : full = true)
    (urls : List String) (cards : List ListingCard) {key : String} {known : KnownPage}
    (hget : knownPages.get? key = some known) :
    ∃ url ∈ (candidatesOf readers knownPages full urls cards).keys,
      readers.contentKeyFor url = key := by
  obtain ⟨hkey, haddress, -⟩ := hknown key known hget
  have hfold (pages : List KnownPage) (candidates : Dict String Found) {url : String}
      (h : url ∈ candidates.keys ∨ ∃ page ∈ pages, page.page.canonicalUrl = url) :
      url ∈ (pages.foldl (fun found known =>
        found.setDefault known.page.canonicalUrl ⟨known.page.listingSummary, false⟩)
            candidates).keys := by
    induction pages generalizing candidates with
    | nil =>
      cases h with
      | inl hmem => exact hmem
      | inr hpage =>
        obtain ⟨page, hpage, -⟩ := hpage
        cases hpage
    | cons page rest ih =>
      rw [List.foldl_cons]
      apply ih
      rw [Dict.mem_keys_setDefault]
      rcases h with hmem | ⟨other, hother, heq⟩
      · exact Or.inl (Or.inr hmem)
      · cases List.mem_cons.mp hother with
        | inl hsame => exact Or.inl (Or.inl (hsame ▸ heq.symm))
        | inr hrest => exact Or.inr ⟨other, hrest, heq⟩
  unfold candidatesOf
  dsimp only
  rw [if_pos hfull]
  set listed := cards.foldl (addCard readers)
    (urls.foldl (fun found url => found.setDefault url ⟨"", true⟩) Dict.empty)
  by_cases hlisted : key ∈ listed.keys.map readers.contentKeyFor
  · obtain ⟨url, hurl, heq⟩ := List.mem_map.mp hlisted
    exact ⟨url, hfold _ _ (Or.inl hurl), heq⟩
  · refine ⟨known.page.canonicalUrl, hfold _ _ (Or.inr ⟨known, ?_, rfl⟩), haddress⟩
    rw [List.mem_filter]
    refine ⟨Dict.mem_values.mpr ⟨key, Dict.get?_eq_some_iff.mp hget⟩, ?_⟩
    rw [hkey]
    simpa using hlisted

theorem KnownSound.restated (hknown : KnownSound readers knownPages) (key : String) :
    ∀ page ∈ (knownPages.get? key).map (·.restated), page.contentKey = key ∧
      readers.contentKeyFor page.canonicalUrl = key ∧ (page.documents.map (·.pdfUrl)).Nodup := by
  intro page hpage
  obtain ⟨known, hget, rfl⟩ := Option.map_eq_some_iff.mp hpage
  obtain ⟨hkey, haddress, hurls⟩ := hknown key known hget
  refine ⟨hkey, haddress, ?_⟩
  change ((known.documents.map (·.toDocumentFields)).map (·.pdfUrl)).Nodup
  rw [List.map_map]
  exact hurls

/-- What the read drafts are while the candidates are gone through. -/
def ReadSoFar (readers : PublicReaders) (visit : Visit) (knownPages : Dict String KnownPage)
    (full : Bool) (gone : List (String × Found))
    (drafts : Dict String PageDraft) : Prop :=
  (∀ entry ∈ drafts.entries, DraftOf readers visit knownPages entry.1 entry.2 ∧
    (AllNotFound readers visit entry.1 → entry.2.isPresent = false)) ∧
  (full = true → ∀ candidate ∈ gone,
    (knownPages.get? (readers.contentKeyFor candidate.1)).isSome →
    readers.contentKeyFor candidate.1 ∈ drafts.keys)

/-- One candidate: the drafts read so far stay what they are. -/
theorem readCandidate_keeps (hknown : KnownSound readers knownPages) (boundary : Option Nat)
    {gone : List (String × Found)} {drafts : Dict String PageDraft} (candidate : String × Found)
    (h : ReadSoFar readers visit knownPages full gone drafts) :
    (readCandidate readers visit knownPages full boundary now dryRun drafts candidate).wp
      (fun drafts _ => ReadSoFar readers visit knownPages full (gone ++ [candidate]) drafts)
      (fun _ _ => True) s := by
  set key := readers.contentKeyFor candidate.1 with hkey
  have hkept {drafts' : Dict String PageDraft} (hmono : ∀ k ∈ drafts.keys, k ∈ drafts'.keys)
      (hhere : full = true → (knownPages.get? key).isSome → key ∈ drafts'.keys) :
      full = true → ∀ c ∈ gone ++ [candidate],
        (knownPages.get? (readers.contentKeyFor c.1)).isSome →
        readers.contentKeyFor c.1 ∈ drafts'.keys := by
    intro hfull c hc hsome
    cases List.mem_append.mp hc with
    | inl hold => exact hmono _ (h.2 hfull c hold hsome)
    | inr hnew =>
      have hsame := List.mem_singleton.mp hnew
      rw [hsame] at hsome ⊢
      exact hhere hfull hsome
  unfold readCandidate
  dsimp only
  rw [← hkey, Proc.wp_ite]
  constructor
  · intro _
    rw [Proc.wp_bind]
    apply Proc.wp_mono (readPage_reads hkey.symm (hknown.restated key) candidate.2 now dryRun s)
    · rintro out s' ⟨hread, hsome⟩
      cases out with
      | none =>
        refine ⟨h.1, hkept (fun k hk => hk) fun _ hpage => ?_⟩
        have hcontra := hsome (by rw [Option.isSome_map]; exact hpage)
        cases hcontra
      | some draft =>
        obtain ⟨hcontent, haddress, hcontinues, hlost, hgone⟩ := hread draft rfl
        refine ⟨fun entry hentry => ?_, hkept (fun k hk => Dict.mem_keys_set.mpr (Or.inr hk))
          fun _ _ => Dict.mem_keys_set.mpr (Or.inl rfl)⟩
        cases Dict.mem_set.mp hentry with
        | inl heq =>
          rw [heq]
          refine ⟨⟨hcontent, haddress, fun known hget => ?_, fun known hget hpresent habsent => ?_⟩,
            fun hall => hgone (hall candidate.1 hkey.symm)⟩
          · exact hcontinues known.restated (by rw [hget]; rfl)
          · refine ⟨candidate.1, hkey.symm, hlost habsent fun page hpage => ?_⟩
            rw [hget] at hpage
            cases hpage
            exact hpresent
        | inr hold => exact h.1 entry hold.1
    · exact fun _ _ _ => trivial
  · intro hskip
    refine ⟨h.1, hkept (fun k hk => hk) fun hfull hsome => ?_⟩
    exfalso
    apply hskip
    unfold mustFetch
    cases hget : knownPages.get? key with
    | none => rfl
    | some known =>
      dsimp only
      rw [hfull, Bool.true_or, Bool.true_or]

/-- What the drafts are while the known pages are gone through once more. -/
def CarriedSoFar (readers : PublicReaders) (visit : Visit) (knownPages : Dict String KnownPage)
    (read : Dict String PageDraft) (gone : List (String × KnownPage))
    (drafts : Dict String PageDraft) : Prop :=
  (∀ entry ∈ drafts.entries, DraftOf readers visit knownPages entry.1 entry.2) ∧
  (∀ known ∈ gone, known.1 ∈ drafts.keys) ∧
  (∀ entry ∈ drafts.entries, entry.1 ∈ read.keys → entry ∈ read.entries) ∧
  (∀ key ∈ read.keys, key ∈ drafts.keys)

theorem carryUnread_keeps (hknown : KnownSound readers knownPages)
    {read drafts : Dict String PageDraft} {gone : List (String × KnownPage)}
    {known : String × KnownPage} (hmem : known ∈ knownPages.entries)
    (h : CarriedSoFar readers visit knownPages read gone drafts) :
    (carryUnread drafts known).wp
      (fun drafts _ => CarriedSoFar readers visit knownPages read (gone ++ [known]) drafts)
      (fun _ _ => True) s := by
  obtain ⟨heach, hgone, hread, hkeys⟩ := h
  unfold carryUnread
  rw [Proc.wp_ite]
  constructor
  · intro hthere
    refine ⟨heach, fun entry hentry => ?_, hread, hkeys⟩
    cases List.mem_append.mp hentry with
    | inl hold => exact hgone entry hold
    | inr hnew => exact (List.mem_singleton.mp hnew) ▸ hthere
  · intro hnew
    have hget : knownPages.get? known.1 = some known.2 := Dict.get?_eq_some_iff.mpr hmem
    obtain ⟨hkey, haddress, -⟩ := hknown known.1 known.2 hget
    simp only [Proc.wp_bind, wp_count, Proc.wp_pure]
    refine ⟨fun entry hentry => ?_, fun entry hentry => ?_, fun entry hentry hin =>
        ?_, fun key hin =>
      Dict.mem_keys_set.mpr (Or.inr (hkeys key hin))⟩
    · cases Dict.mem_set.mp hentry with
      | inl heq =>
        rw [heq]
        refine ⟨hkey, haddress, fun page hpage => ?_, fun page hpage hpresent habsent => ?_⟩
        · rw [hget] at hpage
          cases hpage
          exact continues_carryPage known.2.restated
        · rw [hget] at hpage
          cases hpage
          change known.2.page.isPresent = false at habsent
          rw [hpresent] at habsent
          cases habsent
      | inr hold => exact heach entry hold.1
    · rw [Dict.mem_keys_set]
      cases List.mem_append.mp hentry with
      | inl hold => exact Or.inr (hgone entry hold)
      | inr hlast => exact Or.inl (congrArg Prod.fst (List.mem_singleton.mp hlast))
    · cases Dict.mem_set.mp hentry with
      | inl heq =>
        rw [heq] at hin
        exact absurd (hkeys known.1 hin) hnew
      | inr hold => exact hread entry hold.1 hin

theorem collect_collects (hknown : KnownSound readers knownPages) :
    (collect readers visit knownPages full dryRun now).wp
      (fun drafts _ => Collected readers visit knownPages full drafts) (fun _ _ => True) s := by
  unfold collect
  rw [Proc.wp_bind]
  apply Proc.wp_of_forall _ fun _ _ => trivial
  intro listings s₁
  rw [Proc.wp_bind]
  apply Proc.wp_of_forall _ fun _ _ => trivial
  intro boundary s₂
  rw [Proc.wp_bind]
  let candidates := candidatesOf readers knownPages full listings.1 listings.2
  have hstart : ReadSoFar readers visit knownPages full [] Dict.empty :=
    ⟨fun entry hentry => (by cases hentry), fun _ candidate hmem => (by cases hmem)⟩
  apply Proc.wp_mono (Proc.wp_foldlM (fun gone drafts _ =>
      ReadSoFar readers visit knownPages full gone drafts) candidates.entries
    (fun gone candidate drafts s' _ h => readCandidate_keeps hknown boundary candidate h) hstart)
  · intro read s₃ hread
    rw [List.nil_append] at hread
    rw [Proc.wp_bind]
    have hcarry : CarriedSoFar readers visit knownPages read [] read :=
      ⟨fun entry hentry => (hread.1 entry hentry).1, fun known hmem => (by cases hmem),
        fun entry hentry _ => hentry, fun key hkey => hkey⟩
    apply Proc.wp_mono (Proc.wp_foldlM (fun gone drafts _ =>
        CarriedSoFar readers visit knownPages read gone drafts) knownPages.entries
      (fun gone known drafts s' hmem h => carryUnread_keeps hknown hmem h) hcarry)
    · rintro drafts s₄ ⟨heach, hall, hkept, -⟩
      rw [List.nil_append] at hall
      rw [Proc.wp_pure]
      have hmem (draft : PageDraft) : draft ∈ sortOn draftOrder drafts.values ↔
          (draft.contentKey, draft) ∈ drafts.entries := by
        rw [mem_sortOn, Dict.mem_values]
        constructor
        · rintro ⟨key, hentry⟩
          rw [(heach _ hentry).contentKey]
          exact hentry
        · exact fun hentry => ⟨_, hentry⟩
      refine ⟨?_, fun draft hdraft => heach _ ((hmem draft).mp hdraft), fun key known hget => ?_,
        fun hfull key known hget hnot draft hdraft hkey => ?_⟩
      · have hperm := (perm_sortOn draftOrder drafts.values).map (·.contentKey)
        rw [hperm.nodup_iff]
        have hkeys : drafts.values.map (·.contentKey) = drafts.keys := by
          unfold Dict.values Dict.keys
          rw [List.map_map]
          apply List.map_congr_left
          exact fun entry hentry => (heach entry hentry).contentKey
        rw [hkeys]
        exact drafts.keys_nodup
      · obtain ⟨draft, hentry⟩ := Dict.mem_keys.mp (hall _ (Dict.get?_eq_some_iff.mp hget))
        have hcontent := (heach _ hentry).contentKey
        refine ⟨draft, (hmem draft).mpr ?_, hcontent⟩
        rw [hcontent]
        exact hentry
      · have hentry := (hmem draft).mp hdraft
        rw [hkey] at hentry
        obtain ⟨url, hurl, hurlKey⟩ := candidatesOf_known hknown hfull listings.1 listings.2 hget
        obtain ⟨found, hcandidate⟩ := Dict.mem_keys.mp hurl
        have hin : key ∈ read.keys := by
          have := hread.2 hfull (url, found) hcandidate
          rw [hurlKey, hget] at this
          exact this rfl
        exact (hread.1 _ (hkept _ hentry hin)).2 hnot
    · exact fun _ _ _ => trivial
  · exact fun _ _ _ => trivial

end Collects

end PublicOpinions

end Dashkoda.LegalWork
