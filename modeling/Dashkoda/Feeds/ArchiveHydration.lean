import Dashkoda.Feeds.ArchivedTopicSync
import Dashkoda.LegalWork.Models
import Dashkoda.LegalWork.TextNormalisation
import Dashkoda.Lib.Dict
import Mathlib.Data.Finset.Card

/-!
# Hydrating the archive within a budget

Each run reads a bounded number of detail pages.  The pages that a link may depend on come first,
whatever their age; what is left of the budget goes to the recent entries, newest first, until the
window closes.  The count of what is left walks the same way and decides what is complete.
-/

open Lib

namespace Dashkoda.Feeds.ArchivedTopics

open LegalWork (TextPatterns LegalWorkItem)

/-! ## Entries and details -/

structure ArchiveListingEntry where
  contentKey : String
  canonicalUrl : String
  title : String
  listingSummary : String
  sourcePage : Nat
  sourceOrder : Nat
  deriving DecidableEq

structure ArchiveDetail where
  canonicalUrl : String
  status : DetailStatus
  detailTitle : String
  bodyText : String
  publishedDate : Option Date
  feedbackDeadline : Option Date
  namedOrganization : String
  contentHash : String
  failureCode : String
  deriving DecidableEq

inductive PageReading where
  | failed (failureCode : String)
  | read (detailTitle bodyText : String) (publishedDate feedbackDeadline : Option Date)
      (namedOrganization contentHash : String)

/-- `hydrate_detail`: a failure is recorded, not raised. -/
def hydrateDetail (url : String) : PageReading → ArchiveDetail
  | .failed failureCode => ⟨url, .failed, "", "", none, none, "", "", failureCode⟩
  | .read detailTitle bodyText publishedDate feedbackDeadline namedOrganization contentHash =>
    ⟨url, .hydrated, detailTitle, bodyText, publishedDate, feedbackDeadline, namedOrganization,
      contentHash, ""⟩

def previousItems (previous : Option ArchiveContent) : Dict String ArchivedTopicFields :=
  match previous with
  | none => Dict.empty
  | some content => Dict.ofList (content.items.map fun item => (item.canonicalUrl, item))

def detailOf (url : String) (item : ArchivedTopicFields) : ArchiveDetail where
  canonicalUrl := url
  status := item.detailStatus
  detailTitle := item.detailTitle
  bodyText := item.bodyText
  publishedDate := item.publishedDate
  feedbackDeadline := item.feedbackDeadline
  namedOrganization := item.namedOrganization
  contentHash := item.detailContentHash
  failureCode := item.detailFailureCode

/-- `_carry_forward_details` -/
def carryForwardDetails (entries : List ArchiveListingEntry)
    (previous : Dict String ArchivedTopicFields) :
    Dict String ArchiveDetail :=
  entries.foldl (fun carried entry =>
    match previous.get? entry.canonicalUrl with
    | none => carried
    | some item =>
      if item.detailStatus = .pending then carried
      else carried.set entry.canonicalUrl (detailOf entry.canonicalUrl item)) Dict.empty

/-! ## The shortlist -/

section Shortlist

variable (patterns : TextPatterns)

def MAX_SHORTLIST_PER_RECORD : Nat := 12

def MIN_SHARED_SIGNIFICANT_TOKENS : Nat := 1

def entryTokens (entry : ArchiveListingEntry) : Finset String :=
  patterns.significantTokens (entry.title ++ " " ++ entry.listingSummary)

/-- The entries that share words with a record, the strongest overlap first. -/
def shortlistFor (entries : List ArchiveListingEntry) (recordTokens : Finset String) :
    List (Nat × ArchiveListingEntry) :=
  let scored :=
    (entries.map fun entry => ((recordTokens ∩ entryTokens patterns entry).card, entry)).filter
    fun pair => MIN_SHARED_SIGNIFICANT_TOKENS ≤ pair.1
  (sortOn (fun pair => toLex (-(pair.1 : Int), toLex (pair.2.sourceOrder, pair.2.canonicalUrl)))
    scored).take
    MAX_SHORTLIST_PER_RECORD

/-- Keeps the strongest overlap of an address. -/
def strengthen (wanted : Dict String Nat) (pair : Nat × ArchiveListingEntry) : Dict String Nat :=
  if (wanted.get? pair.2.canonicalUrl).getD 0 < pair.1 then
    wanted.set pair.2.canonicalUrl pair.1 else wanted

/-- `shortlist_archive_urls` -/
def shortlistArchiveUrls (entries : List ArchiveListingEntry) (records : List LegalWorkItem) :
    Dict String Nat :=
  records.foldl (fun wanted item =>
    let recordTokens := patterns.significantTokens (item.topic ++ " " ++ item.actType)
    if recordTokens = ∅ then wanted
    else (shortlistFor patterns entries recordTokens).foldl strengthen wanted) Dict.empty

end Shortlist

/-- Addresses of the index that a link may depend on, with the strength of each. -/
structure PriorityUrls (entries : List ArchiveListingEntry) where
  strengths : Dict String Nat
  indexed : ∀ url ∈ strengths.keys, url ∈ entries.map (·.canonicalUrl)

/-! ## Spending the budget -/

/-- Where the pass stands: the details known, and the addresses requested so far. -/
structure Hydration where
  details : Dict String ArchiveDetail
  requests : List String
  /-- The exception a request raised. -/
  error : Option String

section Pass

/- What the website answers to the n-th request of the run, the run's budget, and the window: its
cutoff, and how many older entries in a row close it. -/
variable (pages : Nat → String → Except String PageReading) (budget : Nat) (cutoff : Date)
  (stopAfterOlder : Nat)

def hasStatus (details : Dict String ArchiveDetail) (status : DetailStatus) (url : String) : Bool :=
  (details.get? url).any (·.status = status)

def Hydration.request (s : Hydration) (url : String) : Hydration :=
  match pages s.requests.length url with
  | .ok page =>
    { s with
      details := s.details.set url (hydrateDetail url page)
      requests := s.requests ++ [url] }
  | .error error => { s with requests := s.requests ++ [url], error := some error }

def priorityPass : List String → Hydration → Hydration
  | [], s => s
  | url :: rest, s =>
    if s.error ≠ none ∨ budget ≤ s.requests.length then s
    else if hasStatus s.details .hydrated url then priorityPass rest s
    else priorityPass rest (s.request pages url)

/-- The older entries in a row after this one; `none` is the window closing. -/
def windowAfter (olderRun : Nat) (detail : ArchiveDetail) : Option Nat :=
  if detail.publishedDate.any (· < cutoff) then
    if stopAfterOlder ≤ olderRun + 1 then none else some (olderRun + 1)
  else some 0

/-- One entry of the second pass, and how the walk goes on. -/
def backgroundStep (entry : ArchiveListingEntry) (olderRun : Nat) (s : Hydration) :
    Hydration × Option Nat :=
  let url := entry.canonicalUrl
  let readNow :=
    let next := s.request pages url
    if next.error ≠ none then (next, none)
    else (next, (next.details.get? url).bind (windowAfter cutoff stopAfterOlder olderRun))
  match s.details.get? url with
  | none => readNow
  | some existing =>
    match existing.status with
    | .hydrated => (s, windowAfter cutoff stopAfterOlder olderRun existing)
    | .failed => (s, some olderRun)
    | .pending => readNow

/-- The second pass, over the entries in the archive's order. -/
def backgroundPass : List ArchiveListingEntry → Nat → Hydration → Hydration
  | [], _, s => s
  | entry :: rest, olderRun, s =>
    if budget ≤ s.requests.length then s
    else
      match backgroundStep pages cutoff stopAfterOlder entry olderRun s with
      | (next, none) => next
      | (next, some older) => backgroundPass rest older next

/-- Never read before failed, then the strongest overlap, then the archive's order. -/
def orderedPriority {entries : List ArchiveListingEntry} (priority : PriorityUrls entries)
    (details : Dict String ArchiveDetail) : List String :=
  let byUrl := Dict.ofList (entries.map fun entry => (entry.canonicalUrl, entry))
  let rank (url : String) : Nat ×ₗ Int ×ₗ Nat :=
    toLex (if hasStatus details .failed url then 1 else 0,
      toLex (-((priority.strengths.get? url).getD 0 : Int),
        ((byUrl.get? url).map (·.sourceOrder)).getD 0))
  sortOn rank (priority.strengths.keys.filter (· ∈ byUrl.keys))

/-- `_hydrate_within_budget` -/
def hydrateWithinBudget (entries : List ArchiveListingEntry) (details : Dict String ArchiveDetail)
    (dryRun : Bool) (priority : PriorityUrls entries) : Hydration :=
  let start : Hydration := ⟨details, [], none⟩
  if dryRun ∨ budget = 0 then start
  else
    let first := priorityPass pages budget (orderedPriority priority details) start
    if first.error ≠ none ∨ budget ≤ first.requests.length then first
    else backgroundPass pages budget cutoff stopAfterOlder (sortOn (·.sourceOrder) entries) 0 first

/-! ## What is left -/

/-- The walk of `_recent_window_pending`. -/
def pendingFrom (details : Dict String ArchiveDetail) : List ArchiveListingEntry → Nat → Nat → Nat
  | [], pending, _ => pending
  | entry :: rest, pending, olderRun =>
    match details.get? entry.canonicalUrl with
    | none => pendingFrom details rest (pending + 1) olderRun
    | some detail =>
      if detail.status = .failed then pendingFrom details rest pending olderRun
      else
        match windowAfter cutoff stopAfterOlder olderRun detail with
        | none => pending
        | some older => pendingFrom details rest pending older

/-- `_recent_window_pending` -/
def recentWindowPending (entries : List ArchiveListingEntry)
    (details : Dict String ArchiveDetail) : Nat :=
  pendingFrom cutoff stopAfterOlder details (sortOn (·.sourceOrder) entries) 0 0

end Pass

/-- `_counts` -/
structure ArchiveCounts where
  hydrated : Nat
  failed : Nat
  pending : Nat
  priorityHydrated : Nat
  priorityFailed : Nat
  priorityPending : Nat
  recentHydrated : Nat
  recentPending : Nat
  deriving DecidableEq, Repr

def archiveCounts (cutoff : Date) (stopAfterOlder : Nat) (entries : List ArchiveListingEntry)
    (details : Dict String ArchiveDetail) (priority : PriorityUrls entries) : ArchiveCounts :=
  let isPriority (entry : ArchiveListingEntry) : Bool :=
    entry.canonicalUrl ∈ priority.strengths.keys
  let hydrated := entries.countP fun entry => hasStatus details .hydrated entry.canonicalUrl
  let failed := entries.countP fun entry => hasStatus details .failed entry.canonicalUrl
  let priorityHydrated := entries.countP fun entry =>
    hasStatus details .hydrated entry.canonicalUrl && isPriority entry
  let priorityFailed := entries.countP fun entry =>
    hasStatus details .failed entry.canonicalUrl && isPriority entry
  { hydrated
    failed
    pending := entries.length - hydrated - failed
    priorityHydrated
    priorityFailed
    priorityPending := priority.strengths.keys.length - priorityHydrated - priorityFailed
    recentHydrated := hydrated - priorityHydrated
    recentPending := recentWindowPending cutoff stopAfterOlder entries details }


/-! ## The reading of a run -/

/-- `_row`, as far as it is stored. -/
def itemOf (details : Dict String ArchiveDetail) (entry : ArchiveListingEntry) :
    ArchivedTopicFields :=
  let detail := (details.get? entry.canonicalUrl).getD
    ⟨entry.canonicalUrl, .pending, "", "", none, none, "", "", ""⟩
  { contentKey := entry.contentKey
    canonicalUrl := entry.canonicalUrl
    title := entry.title
    listingSummary := entry.listingSummary
    sourcePage := entry.sourcePage
    sourceOrder := entry.sourceOrder
    detailStatus := detail.status
    detailTitle := detail.detailTitle
    bodyText := detail.bodyText
    publishedDate := detail.publishedDate
    feedbackDeadline := detail.feedbackDeadline
    namedOrganization := detail.namedOrganization
    detailContentHash := detail.contentHash
    detailFailureCode := detail.failureCode }

/-- What a run publishes from its walk and its pass; `cutoff` is the one of the counting. -/
def readingOf (cutoff : Date) (stopAfterOlder : Nat) (entries : List ArchiveListingEntry)
    (previous : Option ArchiveContent) (pagesFetched : Nat) (reachedEnd : Bool)
    (priority : PriorityUrls entries)
    (s : Hydration) : ArchiveReading :=
  let counts := archiveCounts cutoff stopAfterOlder entries s.details priority
  { items := entries.map (itemOf s.details)
    pagesFetched
    detailRequests := s.requests.length
    newItems := entries.countP fun entry => entry.canonicalUrl ∉ (previousItems previous).keys
    priorityCandidateCount := priority.strengths.keys.length
    priorityDetailedCount := counts.priorityHydrated
    priorityPendingCount := counts.priorityPending
    recentPendingCount := counts.recentPending
    reachedEnd }

/-! ## What a sequence of requests does -/

section Requests

variable {pages : Nat → String → Except String PageReading} {s s₁ s₂ : Hydration}
  {url other : String}
  {more more₁ more₂ : List String}

/-- Read, or refused for good. -/
def settled (details : Dict String ArchiveDetail) (url : String) : Bool :=
  hasStatus details .hydrated url || hasStatus details .failed url

/-- A request raises, or stores a detail that is hydrated or failed. -/
theorem request_cases (s : Hydration) (url : String) :
    ((s.request pages url).error ≠ none ∧ (s.request pages url).details = s.details) ∨
    ((s.request pages url).error = s.error ∧ ∃ page,
      (s.request pages url).details = s.details.set url (hydrateDetail url page)) := by
  unfold Hydration.request
  cases pages s.requests.length url with
  | error error => exact Or.inl ⟨Option.some_ne_none error, rfl⟩
  | ok page => exact Or.inr ⟨rfl, page, rfl⟩

theorem request_requests (s : Hydration) (url : String) :
    (s.request pages url).requests = s.requests ++ [url] := by
  unfold Hydration.request
  cases pages s.requests.length url with
  | error error => rfl
  | ok page => rfl

theorem request_get?_ne (s : Hydration) (hne : other ≠ url) :
    (s.request pages url).details.get? other = s.details.get? other := by
  cases @request_cases pages s url with
  | inl hraised => rw [hraised.2]
  | inr hread =>
    obtain ⟨-, page, hdetails⟩ := hread
    rw [hdetails, Dict.get?_set_ne _ _ hne]

theorem request_settled (s : Hydration) (url : String)
    (herror : (s.request pages url).error = none) :
    ∃ page, (s.request pages url).details.get? url = some (hydrateDetail url page) := by
  cases @request_cases pages s url with
  | inl hraised => exact absurd herror hraised.1
  | inr hread =>
    obtain ⟨-, page, hdetails⟩ := hread
    exact ⟨page, by rw [hdetails, Dict.get?_set_self]⟩

theorem settled_of_get? {details : Dict String ArchiveDetail} {page : PageReading}
    (h : details.get? url = some (hydrateDetail url page)) : settled details url = true := by
  unfold settled hasStatus
  rw [h]
  cases page with
  | failed failureCode => rfl
  | read detailTitle bodyText publishedDate feedbackDeadline namedOrganization contentHash => rfl

/-- What is settled stays settled. -/
theorem settled_request (h : settled s.details other = true) :
    settled (s.request pages url).details other = true := by
  by_cases hsame : other = url
  · cases @request_cases pages s url with
    | inl hraised => rw [hraised.2, h]
    | inr hread =>
      obtain ⟨-, page, hdetails⟩ := hread
      rw [hsame]
      exact @settled_of_get? url _ page (by rw [hdetails, Dict.get?_set_self])
  · unfold settled hasStatus at h ⊢
    rw [request_get?_ne s hsame, h]

/-- Requests one after the other, each for a page that is not hydrated yet. -/
inductive Reads (pages : Nat → String → Except String PageReading) : Hydration → List String →
    Hydration → Prop
  | nil (s : Hydration) : Reads pages s [] s
  | cons {s s' : Hydration} {url : String} {more : List String}
      (hnew : hasStatus s.details .hydrated url = false)
      (hrest : Reads pages (s.request pages url) more s') : Reads pages s (url :: more) s'

theorem Reads.requests (h : Reads pages s more s₁) : s₁.requests = s.requests ++ more := by
  induction h with
  | nil s => rw [List.append_nil]
  | cons hnew hrest ih => rw [ih, request_requests, List.append_assoc, List.singleton_append]

theorem Reads.trans (h : Reads pages s more₁ s₁) (h' : Reads pages s₁ more₂ s₂) :
    Reads pages s (more₁ ++ more₂) s₂ := by
  induction h with
  | nil s => exact h'
  | cons hnew hrest ih => exact .cons hnew (ih h')

/-- What is not requested stays as it is. -/
theorem Reads.get?_of_not_mem (h : Reads pages s more s₁) (hnot : other ∉ more) :
    s₁.details.get? other = s.details.get? other := by
  induction h with
  | nil s => rfl
  | cons hnew hrest ih =>
    rw [List.mem_cons, not_or] at hnot
    rw [ih hnot.2, request_get?_ne _ hnot.1]

/-- A hydrated page is not requested. -/
theorem Reads.not_mem_of_hydrated (h : Reads pages s more s₁)
    (hdone : hasStatus s.details .hydrated other = true) :
    other ∉ more := by
  induction h with
  | nil s => exact List.not_mem_nil
  | @cons s s' url more hnew hrest ih =>
    have hne : other ≠ url := by
      intro heq
      rw [heq, hnew] at hdone
      cases hdone
    rw [List.mem_cons, not_or]
    refine ⟨hne, ih ?_⟩
    unfold hasStatus at hdone ⊢
    rw [request_get?_ne s hne, hdone]

theorem Reads.stays_settled (h : Reads pages s more s₁) (hdone : settled s.details other = true) :
    settled s₁.details other = true := by
  induction h with
  | nil s => exact hdone
  | cons hnew hrest ih => exact ih (settled_request hdone)

/-- An exception is not forgotten. -/
theorem Reads.error (h : Reads pages s more s₁) (hraised : s.error ≠ none) : s₁.error ≠ none := by
  induction h with
  | nil s => exact hraised
  | @cons s s' url more hnew hrest ih =>
    cases @request_cases pages s url with
    | inl hcase => exact ih hcase.1
    | inr hcase => exact ih (hcase.1 ▸ hraised)

/-- Without an exception every page requested is settled. -/
theorem Reads.settled_of_mem (h : Reads pages s more s₁) (herror : s₁.error = none)
    (hmem : other ∈ more) :
    settled s₁.details other = true := by
  induction h with
  | nil s => cases hmem
  | @cons s s' url more hnew hrest ih =>
    cases List.mem_cons.mp hmem with
    | inl heq =>
      have hread : (s.request pages url).error = none := by
        by_contra hraised
        exact hrest.error hraised herror
      obtain ⟨page, hpage⟩ := request_settled s url hread
      rw [heq]
      exact hrest.stays_settled (settled_of_get? hpage)
    | inr hin => exact ih herror hin

end Requests

/-! ## The first pass -/

section Priority

variable {pages : Nat → String → Except String PageReading} {budget : Nat}

structure PriorityPassed (pages : Nat → String → Except String PageReading) (budget : Nat)
    (urls : List String) (s s' : Hydration) (more : List String) : Prop where
  reads : Reads pages s more s'
  sublist : more.Sublist urls
  within : s'.requests.length ≤ budget
  complete : s'.error = none → s'.requests.length < budget →
    ∀ url ∈ urls, hasStatus s.details .hydrated url = true ∨ url ∈ more

theorem priorityPass_passed (urls : List String) (hnodup : urls.Nodup) (s : Hydration)
    (hbudget : s.requests.length ≤ budget) :
    ∃ more, PriorityPassed pages budget urls s (priorityPass pages budget urls s) more := by
  induction urls generalizing s with
  | nil =>
    exact ⟨[], .nil s, List.Sublist.refl _, hbudget, fun _ _ url hurl => (by cases hurl)⟩
  | cons url rest ih =>
    obtain ⟨hfresh, hrest⟩ := List.nodup_cons.mp hnodup
    unfold priorityPass
    by_cases hstop : s.error ≠ none ∨ budget ≤ s.requests.length
    · rw [if_pos hstop]
      refine ⟨[], .nil s, List.nil_sublist _, hbudget, fun herror hunspent => ?_⟩
      cases hstop with
      | inl hraised => exact absurd herror hraised
      | inr hspent => omega
    · rw [if_neg hstop]
      rw [not_or, not_not] at hstop
      cases hdone : hasStatus s.details .hydrated url with
      | true =>
        rw [if_pos rfl]
        obtain ⟨more, hmore⟩ := ih hrest s hbudget
        refine ⟨more, hmore.reads, hmore.sublist.cons _, hmore.within,
          fun herror hunspent other hother => ?_⟩
        cases List.mem_cons.mp hother with
        | inl heq => exact Or.inl (heq ▸ hdone)
        | inr hin => exact hmore.complete herror hunspent other hin
      | false =>
        rw [if_neg Bool.false_ne_true]
        have hlength : (s.request pages url).requests.length ≤ budget := by
          rw [request_requests, List.length_append, List.length_singleton]
          omega
        obtain ⟨more, hmore⟩ := ih hrest (s.request pages url) hlength
        refine ⟨url :: more, .cons hdone hmore.reads, hmore.sublist.cons_cons _, hmore.within,
          fun herror hunspent other hother => ?_⟩
        cases List.mem_cons.mp hother with
        | inl heq => exact Or.inr (heq ▸ List.mem_cons_self)
        | inr hin =>
          have hne : other ≠ url := fun heq => hfresh (heq ▸ hin)
          cases hmore.complete herror hunspent other hin with
          | inl hhydrated =>
            left
            unfold hasStatus at hhydrated ⊢
            rwa [request_get?_ne s hne] at hhydrated
          | inr hmem => exact Or.inr (List.mem_cons_of_mem _ hmem)

end Priority

/-! ## The second pass -/

section Background

variable {pages : Nat → String → Except String PageReading}
  {budget stopAfterOlder olderRun olderCount : Nat}
  {cutoff laterCutoff : Date} {s : Hydration} {entry : ArchiveListingEntry}

/-- What one entry of the second pass comes to. -/
inductive BackgroundStepped (pages : Nat → String → Except String PageReading) (cutoff : Date)
    (stopAfterOlder olderRun : Nat) (s : Hydration) (url : String) : Hydration → Option Nat → Prop
  | hydrated {detail : ArchiveDetail} (hdetail : s.details.get? url = some detail)
      (hstatus : detail.status = .hydrated) :
      BackgroundStepped pages cutoff stopAfterOlder olderRun s url s
        (windowAfter cutoff stopAfterOlder olderRun detail)
  | failed {detail : ArchiveDetail} (hdetail : s.details.get? url = some detail)
      (hstatus : detail.status = .failed) :
      BackgroundStepped pages cutoff stopAfterOlder olderRun s url s (some olderRun)
  | raised (hnew : settled s.details url = false) (hraised : (s.request pages url).error ≠ none) :
      BackgroundStepped pages cutoff stopAfterOlder olderRun s url (s.request pages url) none
  | read {page : PageReading} (hnew : settled s.details url = false)
      (herror : (s.request pages url).error = none)
      (hdetail : (s.request pages url).details.get? url = some (hydrateDetail url page)) :
      BackgroundStepped pages cutoff stopAfterOlder olderRun s url (s.request pages url)
        (windowAfter cutoff stopAfterOlder olderRun (hydrateDetail url page))

theorem backgroundStep_stepped (entry : ArchiveListingEntry) (olderRun : Nat) (s : Hydration) :
    BackgroundStepped pages cutoff stopAfterOlder olderRun s entry.canonicalUrl
      (backgroundStep pages cutoff stopAfterOlder entry olderRun s).1
      (backgroundStep pages cutoff stopAfterOlder entry olderRun s).2 := by
  have hread (hnew : settled s.details entry.canonicalUrl = false)
      (hstep : backgroundStep pages cutoff stopAfterOlder entry olderRun s =
        let next := s.request pages entry.canonicalUrl
        if next.error ≠ none then (next, none)
        else (next, (next.details.get? entry.canonicalUrl).bind
          (windowAfter cutoff stopAfterOlder olderRun))) :
      BackgroundStepped pages cutoff stopAfterOlder olderRun s entry.canonicalUrl
        (backgroundStep pages cutoff stopAfterOlder entry olderRun s).1
        (backgroundStep pages cutoff stopAfterOlder entry olderRun s).2 := by
    rw [hstep]
    dsimp only
    by_cases hraised : (s.request pages entry.canonicalUrl).error ≠ none
    · rw [if_pos hraised]
      exact .raised hnew hraised
    · rw [if_neg hraised]
      obtain ⟨page, hpage⟩ := request_settled s entry.canonicalUrl (not_not.mp hraised)
      rw [hpage]
      exact .read hnew (not_not.mp hraised) hpage
  cases hdetail : s.details.get? entry.canonicalUrl with
  | none =>
    refine hread (by unfold settled hasStatus; rw [hdetail]; rfl) ?_
    unfold backgroundStep
    dsimp only
    rw [hdetail]
  | some detail =>
    cases hstatus : detail.status with
    | hydrated =>
      have hstep : backgroundStep pages cutoff stopAfterOlder entry olderRun s =
          (s, windowAfter cutoff stopAfterOlder olderRun detail) := by
        unfold backgroundStep
        dsimp only
        rw [hdetail]
        dsimp only
        rw [hstatus]
      rw [hstep]
      exact .hydrated hdetail hstatus
    | failed =>
      have hstep : backgroundStep pages cutoff stopAfterOlder entry olderRun s =
          (s, some olderRun) := by
        unfold backgroundStep
        dsimp only
        rw [hdetail]
        dsimp only
        rw [hstatus]
      rw [hstep]
      exact .failed hdetail hstatus
    | pending =>
      refine hread (by unfold settled hasStatus; rw [hdetail]; simp [hstatus]) ?_
      unfold backgroundStep
      dsimp only
      rw [hdetail]
      dsimp only
      rw [hstatus]

theorem backgroundPass_cons (entry : ArchiveListingEntry) (rest : List ArchiveListingEntry)
    (olderRun : Nat) (s : Hydration)
    (hunspent : s.requests.length < budget) :
    backgroundPass pages budget cutoff stopAfterOlder (entry :: rest) olderRun s =
      match (backgroundStep pages cutoff stopAfterOlder entry olderRun s).2 with
      | none => (backgroundStep pages cutoff stopAfterOlder entry olderRun s).1
      | some older => backgroundPass pages budget cutoff stopAfterOlder rest older
          (backgroundStep pages cutoff stopAfterOlder entry olderRun s).1 := by
  rw [backgroundPass, if_neg (by omega)]
  rcases backgroundStep pages cutoff stopAfterOlder entry olderRun s with ⟨next, goes⟩
  cases goes with
  | none => rfl
  | some older => rfl

structure BackgroundPassed (pages : Nat → String → Except String PageReading) (budget : Nat)
    (s s' : Hydration) (more : List String) : Prop where
  reads : Reads pages s more s'
  nodup : more.Nodup
  new : ∀ url ∈ more, settled s.details url = false
  within : s'.requests.length ≤ budget

theorem BackgroundPassed.nil (hbudget : s.requests.length ≤ budget) :
    BackgroundPassed pages budget s s [] :=
  ⟨.nil s, List.nodup_nil, fun url hurl => (by cases hurl), hbudget⟩

theorem not_hydrated_of_not_settled {details : Dict String ArchiveDetail} {url : String}
    (h : settled details url = false) : hasStatus details .hydrated url = false :=
  (Bool.or_eq_false_iff.mp h).1

/-- One request, and what the rest of the pass does. -/
theorem BackgroundPassed.cons {s' : Hydration} {url : String} {more : List String}
    (hnew : settled s.details url = false) (hread : (s.request pages url).error = .none)
    (h : BackgroundPassed pages budget (s.request pages url) s' more) :
    BackgroundPassed pages budget s s' (url :: more) := by
  obtain ⟨page, hpage⟩ := request_settled s url hread
  have hdone := settled_of_get? hpage
  have hfresh : url ∉ more := by
    intro hmem
    rw [h.new url hmem] at hdone
    cases hdone
  refine ⟨.cons (not_hydrated_of_not_settled hnew) h.reads, List.nodup_cons.mpr ⟨hfresh, h.nodup⟩,
    fun other hother => ?_, h.within⟩
  cases List.mem_cons.mp hother with
  | inl heq => rw [heq, hnew]
  | inr hin =>
    rw [← Bool.not_eq_true]
    intro hsettled
    have hstill : settled (s.request pages url).details other = true := settled_request hsettled
    rw [h.new other hin] at hstill
    cases hstill

theorem backgroundPass_passed (entries : List ArchiveListingEntry) (olderRun : Nat) (s : Hydration)
    (hbudget : s.requests.length ≤ budget) :
    ∃ more, BackgroundPassed pages budget s
      (backgroundPass pages budget cutoff stopAfterOlder entries olderRun s) more := by
  induction entries generalizing olderRun s with
  | nil => exact ⟨[], .nil hbudget⟩
  | cons entry rest ih =>
    by_cases hspent : budget ≤ s.requests.length
    · rw [backgroundPass, if_pos hspent]
      exact ⟨[], .nil hbudget⟩
    · rw [backgroundPass_cons entry rest olderRun s (by omega)]
      have hlength : (s.request pages entry.canonicalUrl).requests.length ≤ budget := by
        rw [request_requests, List.length_append, List.length_singleton]
        omega
      have hstepped := @backgroundStep_stepped pages stopAfterOlder cutoff entry olderRun s
      generalize (backgroundStep pages cutoff stopAfterOlder entry olderRun s).1 =
        next at hstepped ⊢
      generalize (backgroundStep pages cutoff stopAfterOlder entry olderRun s).2 =
        goes at hstepped ⊢
      cases hstepped with
      | @hydrated detail hdetail hstatus =>
        cases windowAfter cutoff stopAfterOlder olderRun detail with
        | none => exact ⟨[], .nil hbudget⟩
        | some older => exact ih older s hbudget
      | failed hdetail hstatus => exact ih olderRun s hbudget
      | raised hnew hraised =>
        refine ⟨[entry.canonicalUrl], .cons (not_hydrated_of_not_settled hnew) (.nil _),
          List.nodup_singleton _, fun url hurl => ?_, hlength⟩
        rw [List.mem_singleton.mp hurl, hnew]
      | @read page hnew hread hdetail =>
        cases windowAfter cutoff stopAfterOlder olderRun
            (hydrateDetail entry.canonicalUrl page) with
        | none => exact ⟨[entry.canonicalUrl], (BackgroundPassed.nil hlength).cons hnew hread⟩
        | some older =>
          obtain ⟨more, hmore⟩ := ih older (s.request pages entry.canonicalUrl) hlength
          exact ⟨entry.canonicalUrl :: more, hmore.cons hnew hread⟩

/-- What is settled before the second pass is the same after it. -/
theorem BackgroundPassed.get?_eq {s' : Hydration} {more : List String} {url : String}
    (h : BackgroundPassed pages budget s s' more) (hdone : settled s.details url = true) :
    s'.details.get? url = s.details.get? url := by
  refine h.reads.get?_of_not_mem fun hmem => ?_
  rw [h.new url hmem] at hdone
  cases hdone

/-! ## The count agrees with the pass -/

/-- A later cutoff and more older entries before close the window no later. -/
theorem windowAfter_mono (hcutoff : cutoff ≤ laterCutoff) (hcount : olderRun ≤ olderCount)
    (detail : ArchiveDetail) : windowAfter laterCutoff stopAfterOlder olderCount detail = none ∨
      ∃ older olderLater, windowAfter cutoff stopAfterOlder olderRun detail = some older ∧
        windowAfter laterCutoff stopAfterOlder olderCount detail = some olderLater ∧
        older ≤ olderLater := by
  unfold windowAfter
  cases hdate : detail.publishedDate with
  | none => exact Or.inr ⟨0, 0, rfl, rfl, Nat.le_refl 0⟩
  | some date =>
    rw [Option.any_some, Option.any_some]
    by_cases hlater : date < laterCutoff
    · rw [if_pos (decide_eq_true hlater)]
      by_cases hclosed : stopAfterOlder ≤ olderCount + 1
      · exact Or.inl (if_pos hclosed)
      · right
        rw [if_neg hclosed]
        by_cases hearlier : date < cutoff
        · rw [if_pos (decide_eq_true hearlier), if_neg (by omega)]
          exact ⟨olderRun + 1, olderCount + 1, rfl, rfl, by omega⟩
        · rw [if_neg (mt of_decide_eq_true hearlier)]
          exact ⟨0, olderCount + 1, rfl, rfl, Nat.zero_le _⟩
    · have hearlier : ¬ date < cutoff := fun hlt => hlater (lt_of_lt_of_le hlt hcutoff)
      rw [if_neg (mt of_decide_eq_true hlater), if_neg (mt of_decide_eq_true hearlier)]
      exact Or.inr ⟨0, 0, rfl, rfl, Nat.le_refl 0⟩

theorem pendingFrom_settled {details : Dict String ArchiveDetail} {detail : ArchiveDetail}
    (hdetail : details.get? entry.canonicalUrl = some detail) (rest : List ArchiveListingEntry)
    (pending : Nat) :
    pendingFrom cutoff stopAfterOlder details (entry :: rest) pending olderCount =
      if detail.status = .failed then
        pendingFrom cutoff stopAfterOlder details rest pending olderCount
      else
        match windowAfter cutoff stopAfterOlder olderCount detail with
        | none => pending
        | some older => pendingFrom cutoff stopAfterOlder details rest pending older := by
  rw [pendingFrom, hdetail]

/-- Where the pass read what it met with budget left over, the count finds nothing pending: by
induction on the entries, the count having met at least as many older entries in a row. -/
theorem pendingFrom_backgroundPass (hcutoff : cutoff ≤ laterCutoff)
    (entries : List ArchiveListingEntry) (olderRun olderCount pending : Nat)
    (hcount : olderRun ≤ olderCount) (s : Hydration)
    (herror : (backgroundPass pages budget cutoff stopAfterOlder entries olderRun s).error = none)
    (hunspent :
      (backgroundPass pages budget cutoff stopAfterOlder entries olderRun
        s).requests.length < budget) :
    pendingFrom laterCutoff stopAfterOlder
      (backgroundPass pages budget cutoff stopAfterOlder entries olderRun s).details entries pending
        olderCount =
        pending := by
  induction entries generalizing olderRun olderCount s with
  | nil => rfl
  | cons entry rest ih =>
    by_cases hspent : budget ≤ s.requests.length
    · rw [backgroundPass, if_pos hspent] at hunspent
      omega
    · obtain ⟨more, hpassed⟩ :=
        @backgroundPass_passed pages budget stopAfterOlder cutoff (entry :: rest) olderRun s
        (by omega)
      have hkept {url : String} (hdone : settled s.details url = true) := hpassed.get?_eq hdone
      rw [backgroundPass_cons entry rest olderRun s (by omega)] at herror hunspent hkept ⊢
      have hstepped := @backgroundStep_stepped pages stopAfterOlder cutoff entry olderRun s
      generalize (backgroundStep pages cutoff stopAfterOlder entry olderRun s).1 =
        next at hstepped herror hunspent hkept ⊢
      generalize (backgroundStep pages cutoff stopAfterOlder entry olderRun s).2 =
        goes at hstepped herror hunspent hkept ⊢
      cases hstepped with
      | @hydrated detail hdetail hstatus =>
        have hdone : settled s.details entry.canonicalUrl = true := by
          unfold settled hasStatus
          rw [hdetail, Option.any_some, Option.any_some, hstatus]
          rfl
        rw [pendingFrom_settled ((hkept hdone).trans hdetail), if_neg (by rw [hstatus]; decide)]
        cases @windowAfter_mono stopAfterOlder olderRun olderCount cutoff laterCutoff hcutoff
            hcount detail with
        | inl hclosed => rw [hclosed]
        | inr hopen =>
          obtain ⟨older, olderLater, hpass, hlater, hle⟩ := hopen
          rw [hpass] at herror hunspent ⊢
          rw [hlater]
          exact ih older olderLater hle s herror hunspent
      | @failed detail hdetail hstatus =>
        have hdone : settled s.details entry.canonicalUrl = true := by
          unfold settled hasStatus
          rw [hdetail, Option.any_some, Option.any_some, hstatus]
          rfl
        rw [pendingFrom_settled ((hkept hdone).trans hdetail), if_pos hstatus]
        exact ih olderRun olderCount hcount s herror hunspent
      | raised hnew hraised => exact absurd herror hraised
      | @read page hnew hread hdetail =>
        have hlength : (s.request pages entry.canonicalUrl).requests.length ≤ budget := by
          rw [request_requests, List.length_append, List.length_singleton]
          omega
        have hstays (older : Nat) : (backgroundPass pages budget cutoff stopAfterOlder rest older
            (s.request pages entry.canonicalUrl)).details.get? entry.canonicalUrl =
              some (hydrateDetail entry.canonicalUrl page) := by
          obtain ⟨later, hlater⟩ :=
            @backgroundPass_passed pages budget stopAfterOlder cutoff rest older
            (s.request pages entry.canonicalUrl) hlength
          exact (hlater.get?_eq (settled_of_get? hdetail)).trans hdetail
        cases page with
        | failed failureCode =>
          -- the pass counts anew after a failure, the count does not
          have hwindow : windowAfter cutoff stopAfterOlder olderRun
            (hydrateDetail entry.canonicalUrl (.failed failureCode)) = some 0 := rfl
          rw [hwindow] at herror hunspent ⊢
          rw [pendingFrom_settled (hstays 0),
            if_pos (show (hydrateDetail entry.canonicalUrl (.failed failureCode)).status =
              .failed from rfl)]
          exact ih 0 olderCount (Nat.zero_le _) (s.request pages entry.canonicalUrl) herror hunspent
        | read detailTitle bodyText publishedDate feedbackDeadline namedOrganization contentHash =>
          generalize hpage : hydrateDetail entry.canonicalUrl
            (.read detailTitle bodyText publishedDate
            feedbackDeadline namedOrganization contentHash) =
              detail at hdetail hstays herror hunspent ⊢
          have hstatus : detail.status ≠ .failed := by
            rw [← hpage]
            exact fun h => (by cases h)
          cases @windowAfter_mono stopAfterOlder olderRun olderCount cutoff laterCutoff hcutoff
              hcount detail with
          | inl hclosed =>
            cases windowAfter cutoff stopAfterOlder olderRun detail with
            | none =>
              show pendingFrom _ _ (s.request pages entry.canonicalUrl).details _ _ _ = pending
              rw [pendingFrom_settled hdetail, if_neg hstatus, hclosed]
            | some older =>
              show pendingFrom _ _ (backgroundPass pages budget cutoff stopAfterOlder rest older
                (s.request pages entry.canonicalUrl)).details _ _ _ = pending
              rw [pendingFrom_settled (hstays older), if_neg hstatus, hclosed]
          | inr hopen =>
            obtain ⟨older, olderLater, hpass, hlater, hle⟩ := hopen
            rw [hpass] at herror hunspent ⊢
            rw [pendingFrom_settled (hstays older), if_neg hstatus, hlater]
            exact ih older olderLater hle (s.request pages entry.canonicalUrl) herror hunspent

end Background

/-! ## The counts -/

section Counts

variable {α : Type} {p q : α → Bool}

theorem countP_add_le_length (hapart : ∀ x, p x = true → q x = false) (items : List α) :
    items.countP p + items.countP q ≤ items.length := by
  induction items with
  | nil => exact Nat.le_refl 0
  | cons x rest ih =>
    rw [List.countP_cons, List.countP_cons, List.length_cons]
    cases hp : p x with
    | true => rw [hapart x hp, if_pos rfl, if_neg Bool.false_ne_true]; omega
    | false =>
      rw [if_neg Bool.false_ne_true]
      split <;> omega

theorem countP_or_le (items : List α) :
    items.countP (fun x => p x || q x) ≤ items.countP p + items.countP q := by
  induction items with
  | nil => exact Nat.le_refl 0
  | cons x rest ih =>
    rw [List.countP_cons, List.countP_cons, List.countP_cons]
    cases p x with
    | true => rw [Bool.true_or, if_pos rfl]; omega
    | false => rw [Bool.false_or, if_neg Bool.false_ne_true]; omega

theorem not_failed_of_hydrated {details : Dict String ArchiveDetail} {url : String}
    (h : hasStatus details .hydrated url = true) : hasStatus details .failed url = false := by
  unfold hasStatus at h ⊢
  cases hdetail : details.get? url with
  | none => rfl
  | some detail =>
    rw [hdetail, Option.any_some] at h
    rw [Option.any_some, of_decide_eq_true h]
    rfl

variable {cutoff : Date} {stopAfterOlder : Nat} {entries : List ArchiveListingEntry}
  {details : Dict String ArchiveDetail} {priority : PriorityUrls entries}

theorem archiveCounts_total (cutoff : Date) (stopAfterOlder : Nat)
    (entries : List ArchiveListingEntry) (details : Dict String ArchiveDetail)
    (priority : PriorityUrls entries) :
    let counts := archiveCounts cutoff stopAfterOlder entries details priority
    counts.hydrated + counts.failed + counts.pending = entries.length := by
  have hle := @countP_add_le_length ArchiveListingEntry
    (fun entry => hasStatus details .hydrated entry.canonicalUrl)
    (fun entry => hasStatus details .failed entry.canonicalUrl)
      (fun _ => not_failed_of_hydrated) entries
  intro counts
  show entries.countP _ + entries.countP _ +
    (entries.length - entries.countP _ - entries.countP _) = _
  omega

/-- No priority entry is pending once every one is settled. -/
theorem priorityPending_eq_zero
    (h : ∀ url ∈ priority.strengths.keys, settled details url = true) :
    (archiveCounts cutoff stopAfterOlder entries details priority).priorityPending = 0 := by
  let isPriority (entry : ArchiveListingEntry) : Bool :=
    entry.canonicalUrl ∈ priority.strengths.keys
  let wanted := entries.filter fun entry =>
    (hasStatus details .hydrated entry.canonicalUrl && isPriority entry) ||
      (hasStatus details .failed entry.canonicalUrl && isPriority entry)
  have hsubset : priority.strengths.keys ⊆ wanted.map (·.canonicalUrl) := by
    intro url hurl
    obtain ⟨entry, hentry, heq⟩ := List.mem_map.mp (priority.indexed url hurl)
    have hpriority : isPriority entry = true := decide_eq_true (heq ▸ hurl)
    have hdone := h url hurl
    unfold settled at hdone
    refine List.mem_map.mpr ⟨entry, List.mem_filter.mpr ⟨hentry, ?_⟩, heq⟩
    rw [hpriority, Bool.and_true, Bool.and_true, heq, hdone]
  have hlength : priority.strengths.keys.length ≤ wanted.length := by
    have hle := (List.subperm_of_subset priority.strengths.keys_nodup hsubset).length_le
    exact Nat.le_trans hle (Nat.le_of_eq (List.length_map _))
  have hcount := @countP_or_le ArchiveListingEntry
    (fun entry => hasStatus details .hydrated entry.canonicalUrl && isPriority entry)
    (fun entry => hasStatus details .failed entry.canonicalUrl && isPriority entry) entries
  rw [List.countP_eq_length_filter] at hcount
  show priority.strengths.keys.length - entries.countP _ - entries.countP _ = 0
  have htotal := Nat.le_trans hlength hcount
  rw [Nat.sub_sub]
  exact Nat.sub_eq_zero_of_le htotal

end Counts


/-! ## The shortlist names entries of the index -/

section Shortlist

variable {patterns : TextPatterns} {entries : List ArchiveListingEntry}

def Indexed (entries : List ArchiveListingEntry) (wanted : Dict String Nat) : Prop :=
  ∀ url ∈ wanted.keys, url ∈ entries.map (·.canonicalUrl)

theorem strengthen_indexed {wanted : Dict String Nat} (h : Indexed entries wanted)
    {pair : Nat × ArchiveListingEntry} (hpair : pair.2 ∈ entries) :
      Indexed entries (strengthen wanted pair) := by
  unfold strengthen
  split
  · intro url hurl
    cases Dict.mem_keys_set.mp hurl with
    | inl heq => exact heq ▸ List.mem_map_of_mem hpair
    | inr hold => exact h url hold
  · exact h

theorem mem_of_mem_shortlistFor {recordTokens : Finset String} {pair : Nat × ArchiveListingEntry}
    (h : pair ∈ shortlistFor patterns entries recordTokens) : pair.2 ∈ entries := by
  have hscored := (List.mem_filter.mp (mem_sortOn.mp (List.mem_of_mem_take h))).1
  obtain ⟨entry, hentry, rfl⟩ := List.mem_map.mp hscored
  exact hentry

theorem shortlistArchiveUrls_indexed (records : List LegalWorkItem) :
    Indexed entries (shortlistArchiveUrls patterns entries records) := by
  have hpairs (pairs : List (Nat × ArchiveListingEntry)) (hall : ∀ pair ∈ pairs, pair.2 ∈ entries)
      (wanted : Dict String Nat) (h : Indexed entries wanted) :
        Indexed entries (pairs.foldl strengthen wanted) := by
    induction pairs generalizing wanted with
    | nil => exact h
    | cons pair rest ih =>
      exact ih (fun pair' hpair' => hall pair' (List.mem_cons_of_mem _ hpair')) _
        (strengthen_indexed h (hall pair List.mem_cons_self))
  suffices hfold : ∀ (records : List LegalWorkItem) (wanted : Dict String Nat),
      Indexed entries wanted →
      Indexed entries (records.foldl (fun wanted item =>
        let recordTokens := patterns.significantTokens (item.topic ++ " " ++ item.actType)
        if recordTokens = ∅ then wanted
        else (shortlistFor patterns entries recordTokens).foldl strengthen wanted) wanted) by
    exact hfold records Dict.empty fun url hurl => (by cases hurl)
  intro records
  induction records with
  | nil => exact fun _ h => h
  | cons item rest ih =>
    intro wanted h
    refine ih _ ?_
    dsimp only
    split
    · exact h
    · exact hpairs _ (fun pair => mem_of_mem_shortlistFor) wanted h

/-- `_priority_candidate_urls`, over the records that still need a link. -/
def priorityCandidateUrls (patterns : TextPatterns) (entries : List ArchiveListingEntry)
    (records : List LegalWorkItem) : PriorityUrls entries where
  strengths := shortlistArchiveUrls patterns entries records
  indexed := shortlistArchiveUrls_indexed records

end Shortlist

/-! ## The law of the pass -/

section Law

variable {pages : Nat → String → Except String PageReading} {budget stopAfterOlder : Nat}
  {cutoff laterCutoff : Date} {entries : List ArchiveListingEntry}
  {details : Dict String ArchiveDetail}
  {priority : PriorityUrls entries} {dryRun : Bool}

theorem orderedPriority_nodup : (orderedPriority priority details).Nodup :=
  (perm_sortOn _ _).nodup_iff.mpr (priority.strengths.keys_nodup.filter _)

theorem mem_orderedPriority {url : String} :
    url ∈ orderedPriority priority details ↔ url ∈ priority.strengths.keys := by
  unfold orderedPriority
  dsimp only
  rw [mem_sortOn, List.mem_filter]
  constructor
  · exact fun h => h.1
  · intro hurl
    refine ⟨hurl, decide_eq_true (Dict.mem_keys_ofList.mpr ?_)⟩
    obtain ⟨entry, hentry, heq⟩ := List.mem_map.mp (priority.indexed url hurl)
    exact List.mem_map.mpr ⟨(entry.canonicalUrl, entry), List.mem_map.mpr ⟨entry, hentry, rfl⟩, heq⟩

/-- What the two passes do together. -/
structure BothPassed (pages : Nat → String → Except String PageReading) (budget : Nat)
    (laterCutoff : Date) (stopAfterOlder : Nat) (entries : List ArchiveListingEntry)
    (details : Dict String ArchiveDetail) (dryRun : Bool) (priority : PriorityUrls entries)
    (s : Hydration)
    (first rest : List String) : Prop where
  reads : Reads pages ⟨details, [], none⟩ (first ++ rest) s
  within : s.requests.length ≤ budget
  firstNodup : first.Nodup
  restNodup : rest.Nodup
  first_mem : ∀ url ∈ first, url ∈ priority.strengths.keys
  rest_not_mem : ∀ url ∈ rest, url ∉ priority.strengths.keys
  served : rest ≠ [] → ∀ url ∈ priority.strengths.keys, hasStatus details .hydrated url =
    true ∨ url ∈ first
  prioritySettled : dryRun = false → s.error = none → s.requests.length < budget →
    ∀ url ∈ priority.strengths.keys, settled s.details url = true
  noneRecent : dryRun = false → s.error = none → s.requests.length < budget →
    recentWindowPending laterCutoff stopAfterOlder entries s.details = 0

theorem hydrateWithinBudget_passed (hcutoff : cutoff ≤ laterCutoff) : ∃ first rest,
    BothPassed pages budget laterCutoff stopAfterOlder entries details dryRun priority
      (hydrateWithinBudget pages budget cutoff stopAfterOlder entries details dryRun priority)
        first rest := by
  let start : Hydration := ⟨details, [], none⟩
  unfold hydrateWithinBudget
  dsimp only
  by_cases hidle : dryRun = true ∨ budget = 0
  · rw [if_pos hidle]
    have hspent : dryRun = false → ¬ (0 < budget) := by
      intro hlive
      cases hidle with
      | inl hdry => rw [hlive] at hdry; cases hdry
      | inr hzero => omega
    exact ⟨[], [], .nil start, Nat.zero_le _, List.nodup_nil, List.nodup_nil, fun url h =>
      (by cases h),
      fun url h => (by cases h), fun h => absurd rfl h,
      fun hlive _ hunspent => absurd hunspent (hspent hlive),
      fun hlive _ hunspent => absurd hunspent (hspent hlive)⟩
  · rw [if_neg hidle]
    obtain ⟨first, hfirst⟩ := @priorityPass_passed pages budget (orderedPriority priority details)
      orderedPriority_nodup start (Nat.zero_le _)
    have hfirstNodup := hfirst.sublist.nodup orderedPriority_nodup
    have hfirstMem (url : String) (h : url ∈ first) : url ∈ priority.strengths.keys :=
      mem_orderedPriority.mp (hfirst.sublist.subset h)
    by_cases hstop :
        (priorityPass pages budget (orderedPriority priority details) start).error ≠ none ∨
        budget ≤
          (priorityPass pages budget (orderedPriority priority details) start).requests.length
    · rw [if_pos hstop]
      have hnot
          (herror :
            (priorityPass pages budget (orderedPriority priority details) start).error = none) :
          ¬ (priorityPass pages budget (orderedPriority priority details) start).requests.length <
            budget := by
        cases hstop with
        | inl hraised => exact absurd herror hraised
        | inr hspent => omega
      refine ⟨first, [], ?_, hfirst.within, hfirstNodup, List.nodup_nil, hfirstMem, fun url h =>
        (by cases h),
        fun h => absurd rfl h, fun _ herror hunspent => absurd hunspent (hnot herror),
        fun _ herror hunspent => absurd hunspent (hnot herror)⟩
      rw [List.append_nil]
      exact hfirst.reads
    · rw [if_neg hstop]
      rw [not_or, not_not] at hstop
      obtain ⟨herror, hspent⟩ := hstop
      have hcomplete := hfirst.complete herror (by omega)
      -- every priority page is settled before the second pass starts
      have hsettled (url : String) (hurl : url ∈ priority.strengths.keys) :
          settled (priorityPass pages budget (orderedPriority priority details) start).details
            url = true := by
        cases hcomplete url (mem_orderedPriority.mpr hurl) with
        | inl hhydrated =>
          refine hfirst.reads.stays_settled ?_
          unfold settled
          rw [hhydrated, Bool.true_or]
        | inr hmem => exact hfirst.reads.settled_of_mem herror hmem
      obtain ⟨rest, hrest⟩ := @backgroundPass_passed pages budget stopAfterOlder cutoff
        (sortOn (·.sourceOrder) entries) 0 _ hfirst.within
      refine ⟨first, rest, hfirst.reads.trans hrest.reads, hrest.within, hfirstNodup,
        hrest.nodup, hfirstMem,
        fun url hurl hpriority => ?_, fun _ url hurl =>
          hcomplete url (mem_orderedPriority.mpr hurl),
        fun _ _ _ url hurl => hrest.reads.stays_settled (hsettled url hurl),
        fun _ herror' hunspent => ?_⟩
      · have hnew := hrest.new url hurl
        rw [hsettled url hpriority] at hnew
        cases hnew
      · exact pendingFrom_backgroundPass hcutoff _ 0 0 0 (Nat.le_refl 0) _ herror' hunspent

/-- Every hydrated detail of the previous snapshot is carried forward. -/
theorem carryForwardDetails_get? {previous : Dict String ArchivedTopicFields}
    {entry : ArchiveListingEntry} {item : ArchivedTopicFields} (hentry : entry ∈ entries)
    (hitem : previous.get? entry.canonicalUrl = some item) (hread : item.detailStatus ≠ .pending) :
    (carryForwardDetails entries previous).get? entry.canonicalUrl =
      some (detailOf entry.canonicalUrl item) := by
  suffices hfold : ∀ (entries : List ArchiveListingEntry) (carried : Dict String ArchiveDetail),
      (entry ∈ entries ∨ carried.get? entry.canonicalUrl =
        some (detailOf entry.canonicalUrl item)) →
      (entries.foldl (fun carried entry =>
        match previous.get? entry.canonicalUrl with
        | none => carried
        | some item =>
          if item.detailStatus = .pending then carried
          else carried.set entry.canonicalUrl (detailOf entry.canonicalUrl item)) carried).get?
        entry.canonicalUrl = some (detailOf entry.canonicalUrl item) by
    exact hfold entries Dict.empty (Or.inl hentry)
  intro entries
  induction entries with
  | nil =>
    intro carried h
    exact h.resolve_left List.not_mem_nil
  | cons other rest ih =>
    intro carried h
    rw [List.foldl_cons]
    refine ih _ ?_
    by_cases hsame : other.canonicalUrl = entry.canonicalUrl
    · right
      rw [hsame, hitem]
      dsimp only
      rw [if_neg hread, Dict.get?_set_self]
    · cases h with
      | inl hmem =>
        cases List.mem_cons.mp hmem with
        | inl heq => exact absurd (congrArg ArchiveListingEntry.canonicalUrl heq.symm) hsame
        | inr hin => exact Or.inl hin
      | inr hold =>
        right
        cases previous.get? other.canonicalUrl with
        | none => exact hold
        | some otherItem =>
          dsimp only
          split
          · exact hold
          · rw [Dict.get?_set_ne _ _ (Ne.symm hsame), hold]

/-- What a run's hydration does to the budget, the details and the counts. -/
structure HydrationLaw (budget : Nat) (laterCutoff : Date) (stopAfterOlder : Nat)
    (entries : List ArchiveListingEntry) (previous : Option ArchiveContent) (dryRun : Bool)
    (priority : PriorityUrls entries) (s : Hydration) : Prop where
  withinBudget : s.requests.length ≤ budget
  once : s.requests.Nodup
  /-- What was hydrated before is neither requested nor lost. -/
  kept : ∀ entry ∈ entries, ∀ item, (previousItems previous).get? entry.canonicalUrl = some item →
    item.detailStatus = .hydrated → entry.canonicalUrl ∉ s.requests ∧
      s.details.get? entry.canonicalUrl = some (detailOf entry.canonicalUrl item)
  /-- Background requests come after the priority ones, once every priority page is read or was
  asked for. -/
  priorityFirst : ∃ first rest, s.requests = first ++ rest ∧
    (∀ url ∈ first, url ∈ priority.strengths.keys) ∧
    (∀ url ∈ rest, url ∉ priority.strengths.keys) ∧
    (rest ≠ [] → ∀ url ∈ priority.strengths.keys,
      hasStatus (carryForwardDetails entries (previousItems previous)) .hydrated url = true ∨
      url ∈ first)
  counted : let counts := archiveCounts laterCutoff stopAfterOlder entries s.details priority
    counts.hydrated + counts.failed + counts.pending = entries.length
  /-- With budget left over, nothing is left for the completeness test to count. -/
  completed : dryRun = false → s.error = none → s.requests.length < budget →
    ∀ pagesFetched reachedEnd,
      let reading := readingOf laterCutoff stopAfterOlder entries previous pagesFetched
        reachedEnd priority s
      reading.priorityPendingCount = 0 ∧ reading.recentPendingCount = 0 ∧
        complete previous reading = indexComplete previous reading

/-- **The budget is kept, and what it leaves over leaves nothing pending.** -/
theorem hydration_law (pages : Nat → String → Except String PageReading)
    (budget stopAfterOlder : Nat) (cutoff laterCutoff : Date) (entries : List ArchiveListingEntry)
    (previous : Option ArchiveContent) (dryRun : Bool) (priority : PriorityUrls entries)
    (hcutoff : cutoff ≤ laterCutoff) :
    HydrationLaw budget laterCutoff stopAfterOlder entries previous dryRun priority
      (hydrateWithinBudget pages budget cutoff stopAfterOlder entries
        (carryForwardDetails entries (previousItems previous)) dryRun priority) := by
  obtain ⟨first, rest, h⟩ :=
    @hydrateWithinBudget_passed pages budget stopAfterOlder cutoff laterCutoff entries
    (carryForwardDetails entries (previousItems previous)) priority dryRun hcutoff
  have hrequests := h.reads.requests
  rw [List.nil_append] at hrequests
  constructor
  · exact h.within
  · rw [hrequests]
    refine List.nodup_append.mpr ⟨h.firstNodup, h.restNodup, fun url hfirst other hrest heq => ?_⟩
    exact h.rest_not_mem other hrest (heq ▸ h.first_mem url hfirst)
  · intro entry hentry item hitem hstatus
    have hcarried := carryForwardDetails_get? hentry hitem (by rw [hstatus]; decide)
    have hhydrated : hasStatus (carryForwardDetails entries (previousItems previous)) .hydrated
        entry.canonicalUrl = true := by
      unfold hasStatus
      rw [hcarried]
      exact decide_eq_true hstatus
    have hnot := h.reads.not_mem_of_hydrated hhydrated
    refine ⟨hrequests ▸ hnot, ?_⟩
    rw [h.reads.get?_of_not_mem hnot]
    exact hcarried
  · exact ⟨first, rest, hrequests, h.first_mem, h.rest_not_mem, h.served⟩
  · exact archiveCounts_total _ _ _ _ _
  · intro hlive herror hunspent pagesFetched reachedEnd
    have hpriority := @priorityPending_eq_zero laterCutoff stopAfterOlder entries _ priority
      (h.prioritySettled hlive herror hunspent)
    have hrecent := h.noneRecent hlive herror hunspent
    refine ⟨hpriority, hrecent, ?_⟩
    unfold complete
    rw [show (readingOf laterCutoff stopAfterOlder entries previous pagesFetched reachedEnd priority
      _).priorityPendingCount
      = 0 from hpriority,
      show (readingOf laterCutoff stopAfterOlder entries previous pagesFetched reachedEnd priority
      _).recentPendingCount = 0 from hrecent]
    simp

def readTopic : ArchivedTopicFields where
  contentKey := "k"
  canonicalUrl := "https://koda.ee/k"
  title := "Maksud"
  listingSummary := ""
  sourcePage := 1
  sourceOrder := 0
  detailStatus := .hydrated
  detailTitle := "Maksud"
  bodyText := "Sisu"
  publishedDate := none
  feedbackDeadline := none
  namedOrganization := ""
  detailContentHash := "h"
  detailFailureCode := ""

def threeEntries : List ArchiveListingEntry :=
  [⟨"k", "https://koda.ee/k", "Maksud", "", 1, 0⟩, ⟨"b", "https://koda.ee/b", "Keskkond", "", 1, 1⟩,
    ⟨"p", "https://koda.ee/p", "Tööõigus", "", 1, 2⟩]

/-- Of a page read before, one of the shortlist and one of the background, the last two are
requested, and the shortlist's first. -/
theorem hydration_law_threePages :
    let cutoff : Date := .of 2024 1 1
    let previous : ArchiveContent := ⟨[readTopic], 1, 0, 0, 0, true, false⟩
    let priority : PriorityUrls threeEntries := ⟨Dict.ofList [("https://koda.ee/p", 2)], by decide⟩
    let pages (_ : Nat) (url : String) : Except String PageReading :=
      .ok (if url = "https://koda.ee/p" then .read "Tööõigus" "Sisu" none none "" "t"
        else .failed "http_404")
    let s := hydrateWithinBudget pages 3 cutoff 3 threeEntries
      (carryForwardDetails threeEntries (previousItems (some previous))) false priority
    cutoff ≤ cutoff ∧ s.requests = ["https://koda.ee/p", "https://koda.ee/b"] ∧
      HydrationLaw 3 cutoff 3 threeEntries (some previous) false priority s := by
  intro cutoff previous priority pages s
  have hcutoff : cutoff ≤ cutoff := le_refl cutoff
  have hrequests : s.requests = ["https://koda.ee/p", "https://koda.ee/b"] := by decide +kernel
  exact ⟨hcutoff, hrequests, hydration_law pages 3 3 cutoff cutoff threeEntries
    (some previous) false
    priority hcutoff⟩

end Law

end Dashkoda.Feeds.ArchivedTopics
