import Dashkoda.LegalWork.OpinionDecision
import Dashkoda.Lib.Contention
import Dashkoda.Lib.Counting
import Dashkoda.Lib.Grouping
import Dashkoda.Lib.SetOrder
import Mathlib

/-!
# Competing claims on one document

Each record is decided on its own, so several may claim one document.  The claims on a document are
ranked by their date agreement and their score; only a claim strictly ahead of all others stays, and
the tallies follow the demotions.  Pages without a document are then attached to what stayed without
one, under the same rule.
-/

open Lib

namespace Dashkoda.LegalWork

namespace Opinion

def CONTRADICTION_COMPETING_CLAIM : String := "competing-primary-claim"

/-- What the matcher reads of a record of the register. -/
structure LegalItem where
  topic : String
  sentDate : Date
  receivedDate : Option Date
  recipient : String
  deriving DecidableEq

/-- A decision, with the documents it would publish: the primary one first. -/
structure Considered where
  legalItem : LegalItem
  decision : MatchDecision
  score : ℚ
  contradictionCodes : List String
  plan : List Scored
  deriving DecidableEq

/-- The aggregates of a run that follow the decisions. -/
structure MatchReport where
  consideredRecords : Nat
  matched : Int
  ambiguous : Int
  unmatched : Int
  deriving DecidableEq

/-- `_count` -/
def MatchReport.count (report : MatchReport) : MatchDecision → MatchReport
  | .matched => { report with matched := report.matched + 1 }
  | .ambiguous => { report with ambiguous := report.ambiguous + 1 }
  | .unmatched => { report with unmatched := report.unmatched + 1 }

def reportOf (entries : List Considered) : MatchReport :=
  entries.foldl (fun report entry => report.count entry.decision) ⟨entries.length, 0, 0, 0⟩

/-! ## The claims -/

/-- `-(gap if gap is not None else 10**6)`, then the score: the closer date first. -/
def strengthOf (gap : Option Nat) (score : ℚ) : ℤ ×ₗ ℚ :=
  toLex (-((gap.getD (10 ^ 6) : Nat) : ℤ), score)

def claimOf (entry : Considered) : Option Int :=
  if entry.decision = .matched then entry.plan.head?.map (·.candidate.blobId) else none

/-- The strength of the claim at an index, where there is one. -/
def strength (entries : List Considered) (index : Nat) : WithBot (ℤ ×ₗ ℚ) :=
  match entries[index]? with
  | none => ⊥
  | some entry =>
    match entry.plan with
    | [] => ⊥
    | best :: _ =>
      (strengthOf (dateAgreement entry.legalItem.sentDate best.candidate).2.1 entry.score : ℤ ×ₗ ℚ)

def claimsOf (entries : List Considered) : Dict Int (List Nat) :=
  Dict.groupBy ((indexed claimOf entries).map Prod.swap)

/-- A claim that lost: the decision is ambiguous and publishes no document. -/
def demote (entry : Considered) : Considered :=
  { entry with
    decision := .ambiguous
    contradictionCodes :=
      sortOn id (CONTRADICTION_COMPETING_CLAIM :: entry.contradictionCodes).dedup
    plan := [] }

def demoteAt (state : List Considered × MatchReport) (index : Nat) :
    List Considered × MatchReport :=
  (state.1.modify index demote,
    { state.2 with matched := state.2.matched - 1, ambiguous := state.2.ambiguous + 1 })

def resolveGroup (state : List Considered × MatchReport) (indexes : List Nat) :
    List Considered × MatchReport :=
  (losers (strength state.1) indexes).foldl demoteAt state

/-- `_resolve_competing_primaries` -/
def resolveCompetingPrimaries (entries : List Considered) (report : MatchReport) :
    List Considered × MatchReport :=
  (claimsOf entries).values.foldl resolveGroup (entries, report)

/-! ## The pages -/

section Pages

variable (patterns : TextPatterns) (order : SetOrder String) (rarity : Nat → Nat → ℚ)
  (pages : List Candidate)

/-- `build_rarity`: the rarity of a token in so many of so many texts stands for its share of the
logarithm. -/
def buildRarity (corpus : List String) : Dict String Binary64 :=
  let tokens := corpus.flatMap fun document => order.keys (patterns.significantTokens document)
  Dict.ofList ((countBy id tokens).map fun token =>
    (token.1, if 1 < corpus.length then .ofRat (rarity corpus.length token.2) else 1))

def pageClaim (entry : Considered) : Option (Option Nat × Scored) :=
  if entry.decision = .matched then none
  else
    let idf := buildRarity patterns order rarity (pages.map (·.filenameSubject))
    let scored := pages.map fun candidate =>
      scoreCandidate patterns order entry.legalItem.topic entry.legalItem.recipient candidate idf
        entry.legalItem.sentDate entry.legalItem.receivedDate
    match sortOn (fun entry => -entry.score) (scored.filter (!·.blocked)) with
    | [] => none
    | best :: rest =>
      let runnerUp := (rest.head?.map (·.score)).getD 0
      if best.score < THRESHOLD_MATCH ∨ best.score - runnerUp < MIN_MARGIN then none
      else if EVIDENCE_DATE_EXACT ∉ best.evidence ∧ EVIDENCE_DATE_NEAR ∉ best.evidence then none
      else some (best.candidate.pageId, best)

def pageClaims (entries : List Considered) : Dict (Option Nat) (List (Nat × Scored)) :=
  Dict.groupBy ((indexed (pageClaim patterns order rarity pages) entries).map fun claim =>
    (claim.2.1, (claim.1, claim.2.2)))

def pageStrength (entries : List Considered) (claimant : Nat × Scored) : WithBot (ℤ ×ₗ ℚ) :=
  match entries[claimant.1]? with
  | none => ⊥
  | some entry =>
    (strengthOf (dateAgreement entry.legalItem.sentDate claimant.2.candidate).2.1
      claimant.2.score : ℤ ×ₗ ℚ)

/-- `_planned_page_relations` -/
def plannedPageRelations (entries : List Considered) : Dict Nat (List Scored) :=
  if pages = [] then Dict.empty
  else Dict.groupBy ((pageClaims patterns order rarity pages entries).values.filterMap
    (winner? (pageStrength entries)))

end Pages

/-! ## What the resolution leaves -/

/-- The decision at an index is a match that leads with a document. -/
def Leads (entries : List Considered) (index : Nat) (blob : Int) : Prop :=
  ∃ entry, entries[index]? = some entry ∧ claimOf entry = some blob

/-- The claims on a document come down to the one that is strictly ahead. -/
structure ClaimsResolved (entries resolved : List Considered) : Prop where
  length : resolved.length = entries.length
  /-- A document leads at most one match. -/
  leads_one : ∀ i j blob, Leads resolved i blob → Leads resolved j blob → i = j
  /-- A claim survives where it is strictly stronger than every other on its document. -/
  survives : ∀ i blob, Leads entries i blob →
    (Leads resolved i blob ↔ ∀ j, Leads entries j blob → j ≠ i →
      strength entries j < strength entries i)
  /-- What survives was claimed before, and nothing of the decision has changed. -/
  kept : ∀ i blob, Leads resolved i blob → Leads entries i blob ∧ resolved[i]? = entries[i]?
  demoted : ∀ i blob, Leads entries i blob → ¬ Leads resolved i blob →
    resolved[i]? = entries[i]?.map demote
  /-- A decision whose document nobody else claims, or that claims none, is as it was. -/
  others : ∀ i, (∀ blob, Leads entries i blob → ∀ j, Leads entries j blob → j = i) →
    resolved[i]? = entries[i]?

structure Tallied (entries : List Considered) (report : MatchReport) : Prop where
  considered : report.consideredRecords = entries.length
  matched : report.matched = entries.countP (·.decision = .matched)
  ambiguous : report.ambiguous = entries.countP (·.decision = .ambiguous)
  unmatched : report.unmatched = entries.countP (·.decision = .unmatched)
  sum : report.matched + report.ambiguous + report.unmatched = report.consideredRecords

/-- The pages go to records without a document, one each. -/
structure PagesAttached (entries : List Considered) (attached : Dict Nat (List Scored)) : Prop where
  unanswered : ∀ i pages, attached.get? i = some pages → ∃ entry, entries[i]? = some entry ∧
    entry.decision ≠ .matched
  one_page : ∀ i pages, attached.get? i = some pages → ∃ page, pages = [page]
  one_decision : ∀ i j page page', attached.get? i = some [page] → attached.get? j = some [page'] →
    page.candidate.pageId = page'.candidate.pageId → i = j

/-! ## The groups of claims -/

section Claims

variable {entries : List Considered} {i j : Nat} {blob : Int} {group : List Nat}

theorem mem_claims : (blob, i) ∈ (indexed claimOf entries).map Prod.swap ↔
    Leads entries i blob := by
  rw [List.mem_map]
  constructor
  · rintro ⟨claim, hclaim, heq⟩
    cases heq
    exact mem_indexed.mp hclaim
  · intro h
    exact ⟨(i, blob), mem_indexed.mpr h, rfl⟩

theorem nodup_claims (entries : List Considered) :
    (((indexed claimOf entries).map Prod.swap).map Prod.snd).Nodup := by
  rw [List.map_map]
  exact nodup_indexed claimOf entries

theorem nodup_claimants (entries : List Considered) : (claimsOf entries).values.flatten.Nodup :=
  (Dict.perm_flatten_groupBy (nodup_claims entries)).nodup_iff.mpr (nodup_claims entries)

/-- A group of the claims is all claims on one document. -/
theorem mem_group (h : group ∈ (claimsOf entries).values) : ∃ blob, ∀ index, index ∈ group ↔
    Leads entries index blob := by
  obtain ⟨blob, -, heq⟩ := Dict.mem_values_groupBy.mp h
  refine ⟨blob, fun index => ?_⟩
  rw [heq, List.mem_map, ← mem_claims]
  constructor
  · rintro ⟨claim, hclaim, hindex⟩
    have hkey := of_decide_eq_true (List.mem_filter.mp hclaim).2
    have hpair : claim = (blob, index) := Prod.ext hkey hindex
    exact hpair ▸ (List.mem_filter.mp hclaim).1
  · intro hclaim
    exact ⟨(blob, index), List.mem_filter.mpr ⟨hclaim, decide_eq_true rfl⟩, rfl⟩

theorem exists_group (h : Leads entries i blob) :
    ∃ group ∈ (claimsOf entries).values, ∀ index, index ∈ group ↔ Leads entries index blob := by
  have hclaim := mem_claims.mpr h
  refine ⟨_, Dict.mem_values_groupBy.mpr ⟨blob, List.mem_map_of_mem hclaim, rfl⟩, fun index => ?_⟩
  rw [List.mem_map, ← mem_claims]
  constructor
  · rintro ⟨claim, hin, hindex⟩
    have hpair : claim = (blob, index) :=
      Prod.ext (of_decide_eq_true (List.mem_filter.mp hin).2) hindex
    exact hpair ▸ (List.mem_filter.mp hin).1
  · intro hin
    exact ⟨(blob, index), List.mem_filter.mpr ⟨hin, decide_eq_true rfl⟩, rfl⟩

/-- Those that lose their document, by the strengths before any demotion. -/
def demotions (entries : List Considered) : List Nat :=
  (claimsOf entries).values.flatMap (losers (strength entries))

theorem leads_unique {blob' : Int} (h : Leads entries i blob) (h' : Leads entries i blob') :
    blob = blob' := by
  obtain ⟨entry, hentry, hclaim⟩ := h
  obtain ⟨entry', hentry', hclaim'⟩ := h'
  rw [hentry] at hentry'
  cases hentry'
  exact Option.some.inj (hclaim.symm.trans hclaim')

/-- A claim is demoted exactly where another one on its document is as strong. -/
theorem mem_demotions (h : Leads entries i blob) :
    i ∈ demotions entries ↔ ¬ ∀ j, Leads entries j blob → j ≠ i →
    strength entries j < strength entries i := by
  unfold demotions
  rw [List.mem_flatMap]
  have hgroups := (List.nodup_flatten.mp (nodup_claimants entries)).1
  constructor
  · rintro ⟨group, hgroup, hloser⟩ hahead
    obtain ⟨hin, hbehind⟩ := (mem_losers_iff (hgroups group hgroup)).mp hloser
    obtain ⟨found, hmem⟩ := mem_group hgroup
    have hfound : found = blob := leads_unique ((hmem i).mp hin) h
    exact hbehind fun other hother hne => hahead other (hfound ▸ (hmem other).mp hother) hne
  · intro hbehind
    obtain ⟨group, hgroup, hmem⟩ := exists_group h
    refine ⟨group, hgroup, (mem_losers_iff (hgroups group hgroup)).mpr
      ⟨(hmem i).mpr h, fun hahead => hbehind ?_⟩⟩
    exact fun j hj hne => hahead j ((hmem j).mpr hj) hne

theorem leads_of_mem_demotions (h : i ∈ demotions entries) : ∃ blob, Leads entries i blob := by
  obtain ⟨group, hgroup, hloser⟩ := List.mem_flatMap.mp h
  obtain ⟨blob, hmem⟩ := mem_group hgroup
  exact ⟨blob, (hmem i).mp (mem_of_mem_losers hloser)⟩

theorem nodup_demotions (entries : List Considered) : (demotions entries).Nodup := by
  have hflat := List.nodup_flatten.mp (nodup_claimants entries)
  unfold demotions
  rw [List.nodup_flatMap]
  refine ⟨fun group hgroup => nodup_losers (hflat.1 group hgroup), hflat.2.imp fun hdisjoint => ?_⟩
  exact fun x hx hy => hdisjoint (mem_of_mem_losers hx) (mem_of_mem_losers hy)

end Claims

/-! ## The demotions -/

section Demotions

variable {state : List Considered × MatchReport} {indexes : List Nat} {i : Nat}

/-- An index that is not demoted keeps its decision, and one that is gets the demoted one. -/
theorem getElem?_demotions (hnodup : indexes.Nodup) (i : Nat) :
    (indexes.foldl demoteAt state).1[i]? = if i ∈ indexes then state.1[i]?.map demote else
      state.1[i]? := by
  induction indexes generalizing state with
  | nil => rfl
  | cons index rest ih =>
    obtain ⟨hfresh, hrest⟩ := List.nodup_cons.mp hnodup
    rw [List.foldl_cons, ih hrest]
    unfold demoteAt
    dsimp only
    by_cases heq : i = index
    · rw [if_neg (heq ▸ hfresh), if_pos (List.mem_cons.mpr (Or.inl heq)), heq,
        List.getElem?_modify_eq]
      rfl
    · rw [List.getElem?_modify_ne _ _ (Ne.symm heq)]
      by_cases hin : i ∈ rest
      · rw [if_pos hin, if_pos (List.mem_cons_of_mem _ hin)]
      · rw [if_neg hin, if_neg fun h => (List.mem_cons.mp h).elim heq hin]

theorem length_demotions (indexes : List Nat) : (indexes.foldl demoteAt state).1.length =
    state.1.length := by
  induction indexes generalizing state with
  | nil => rfl
  | cons index rest ih =>
    rw [List.foldl_cons, ih]
    exact List.length_modify _ _ _

/-- A group is resolved by the strengths before any demotion: no demotion touches another group's
claims. -/
theorem foldl_resolveGroup {groups : List (List Nat)} (hnodup : groups.flatten.Nodup) :
    groups.foldl resolveGroup state = (groups.flatMap (losers (strength state.1))).foldl
      demoteAt state := by
  induction groups generalizing state with
  | nil => rfl
  | cons group rest ih =>
    rw [List.flatten_cons, List.nodup_append'] at hnodup
    obtain ⟨hgroup, hrest, hapart⟩ := hnodup
    rw [List.foldl_cons, ih hrest, List.flatMap_cons, List.foldl_append]
    have hstrength : rest.flatMap (losers (strength (resolveGroup state group).1)) =
        rest.flatMap (losers (strength state.1)) := by
      refine List.flatMap_congr fun other hother => losers_congr fun index hindex => ?_
      have hkept : (resolveGroup state group).1[index]? = state.1[index]? := by
        unfold resolveGroup
        rw [getElem?_demotions (nodup_losers hgroup), if_neg]
        exact fun hloser => hapart (mem_of_mem_losers hloser)
          (List.mem_flatten.mpr ⟨other, hother, hindex⟩)
      unfold strength
      rw [hkept]
    rw [hstrength]
    rfl

theorem resolveCompetingPrimaries_eq (entries : List Considered) (report : MatchReport) :
    resolveCompetingPrimaries entries report = (demotions entries).foldl demoteAt
      (entries, report) :=
  foldl_resolveGroup (nodup_claimants entries)

end Demotions

/-! ## The tallies -/

section Tallies

variable {entries : List Considered} {report : MatchReport}

def Counts (entries : List Considered) (report : MatchReport) : Prop :=
  report.matched = entries.countP (·.decision = .matched) ∧
    report.ambiguous = entries.countP (·.decision = .ambiguous) ∧
      report.unmatched = entries.countP (·.decision = .unmatched)

theorem counts_foldl (entries : List Considered) (report : MatchReport) :
    (entries.foldl (fun report entry => report.count entry.decision) report).matched =
        report.matched + entries.countP (·.decision = .matched) ∧
      (entries.foldl (fun report entry => report.count entry.decision) report).ambiguous =
        report.ambiguous + entries.countP (·.decision = .ambiguous) ∧
      (entries.foldl (fun report entry => report.count entry.decision) report).unmatched =
        report.unmatched + entries.countP (·.decision = .unmatched) ∧
      (entries.foldl (fun report entry => report.count entry.decision) report).consideredRecords =
        report.consideredRecords := by
  induction entries generalizing report with
  | nil => simp
  | cons entry rest ih =>
    obtain ⟨hmatched, hambiguous, hunmatched, hconsidered⟩ := ih (report.count entry.decision)
    rw [List.foldl_cons, hmatched, hambiguous, hunmatched, hconsidered, List.countP_cons,
      List.countP_cons, List.countP_cons]
    cases entry.decision with
    | matched => simp [MatchReport.count]; omega
    | ambiguous => simp [MatchReport.count]; omega
    | unmatched => simp [MatchReport.count]; omega

theorem counts_reportOf (entries : List Considered) :
    Counts entries (reportOf entries) ∧ (reportOf entries).consideredRecords = entries.length := by
  obtain ⟨hmatched, hambiguous, hunmatched, hconsidered⟩ :=
    counts_foldl entries ⟨entries.length, 0, 0, 0⟩
  unfold Counts reportOf
  rw [hmatched, hambiguous, hunmatched, hconsidered]
  simp

/-- One demotion moves one decision from one tally to the other. -/
theorem counts_demoteAt {index : Nat} {entry : Considered} (hentry : entries[index]? = some entry)
    (hmatched : entry.decision = .matched) (h : Counts entries report) :
    Counts (demoteAt (entries, report) index).1 (demoteAt (entries, report) index).2 := by
  obtain ⟨hm, ha, hu⟩ := h
  have hcount (decision : MatchDecision) := countP_modify demote
    (fun entry : Considered => entry.decision = decision) hentry
  have hm' := hcount .matched
  have ha' := hcount .ambiguous
  have hu' := hcount .unmatched
  have hdemoted : (demote entry).decision = .ambiguous := rfl
  rw [hmatched, hdemoted] at hm' ha' hu'
  unfold Counts demoteAt
  dsimp only
  simp only [decide_true, reduceCtorEq, decide_false, if_true, if_false,
    Bool.false_eq_true] at hm' ha' hu'
  omega

theorem counts_demotions {indexes : List Nat} (state : List Considered × MatchReport)
    (hnodup : indexes.Nodup)
    (hmatched : ∀ index ∈ indexes, ∃ entry, state.1[index]? = some entry ∧
      entry.decision = .matched)
    (h : Counts state.1 state.2) :
    Counts (indexes.foldl demoteAt state).1 (indexes.foldl demoteAt state).2 ∧
      (indexes.foldl demoteAt state).2.consideredRecords = state.2.consideredRecords := by
  induction indexes generalizing state with
  | nil => exact ⟨h, rfl⟩
  | cons index rest ih =>
    obtain ⟨hfresh, hrest⟩ := List.nodup_cons.mp hnodup
    obtain ⟨entry, hentry, hdecision⟩ := hmatched index List.mem_cons_self
    refine ih _ hrest (fun other hother => ?_) (counts_demoteAt hentry hdecision h)
    obtain ⟨entry', hentry', hdecision'⟩ := hmatched other (List.mem_cons_of_mem _ hother)
    refine ⟨entry', ?_, hdecision'⟩
    unfold demoteAt
    dsimp only
    rw [List.getElem?_modify_ne _ _ fun heq : index = other => hfresh (heq ▸ hother)]
    exact hentry'

/-- Every decision is one of three. -/
theorem length_eq_counts (entries : List Considered) :
    entries.countP (·.decision = .matched) + entries.countP (·.decision = .ambiguous) +
      entries.countP (·.decision = .unmatched) = entries.length := by
  induction entries with
  | nil => rfl
  | cons entry rest ih =>
    rw [List.countP_cons, List.countP_cons, List.countP_cons, List.length_cons, ← ih]
    cases entry.decision with
    | matched => simp; omega
    | ambiguous => simp; omega
    | unmatched => simp; omega

end Tallies

/-! ## The resolution -/

section Resolution

variable {entries : List Considered} {i : Nat} {blob : Int}

theorem getElem?_resolved (entries : List Considered) (report : MatchReport) (i : Nat) :
    (resolveCompetingPrimaries entries report).1[i]? =
      if i ∈ demotions entries then entries[i]?.map demote else entries[i]? := by
  rw [resolveCompetingPrimaries_eq]
  exact getElem?_demotions (nodup_demotions entries) i

/-- A decision that is demoted leads with nothing, and any other leads with what it did. -/
theorem leads_resolved_iff (entries : List Considered) (report : MatchReport) :
    Leads (resolveCompetingPrimaries entries report).1 i blob ↔ i ∉ demotions entries ∧
    Leads entries i blob := by
  unfold Leads
  rw [getElem?_resolved]
  by_cases hin : i ∈ demotions entries
  · rw [if_pos hin]
    refine iff_of_false ?_ fun h => h.1 hin
    rintro ⟨entry, hentry, hclaim⟩
    obtain ⟨before, -, hdemoted⟩ := Option.map_eq_some_iff.mp hentry
    rw [← hdemoted] at hclaim
    cases hclaim
  · rw [if_neg hin]
    exact (and_iff_right hin).symm

theorem claims_resolved (entries : List Considered) (report : MatchReport) :
    ClaimsResolved entries (resolveCompetingPrimaries entries report).1 where
  length := by
    rw [resolveCompetingPrimaries_eq]
    exact length_demotions _
  leads_one i j blob hi hj := by
    rw [leads_resolved_iff] at hi hj
    have hahead := not_not.mp (mt (mem_demotions hi.2).mpr hi.1)
    have hahead' := not_not.mp (mt (mem_demotions hj.2).mpr hj.1)
    by_contra hne
    exact lt_asymm (hahead j hj.2 (Ne.symm hne)) (hahead' i hi.2 hne)
  survives i blob h := by
    rw [leads_resolved_iff, and_iff_left h, mem_demotions h, not_not]
  kept i blob h := by
    obtain ⟨hkept, hleads⟩ := (leads_resolved_iff entries report).mp h
    refine ⟨hleads, ?_⟩
    rw [getElem?_resolved, if_neg hkept]
  demoted i blob h hlost := by
    rw [leads_resolved_iff, and_iff_left h, not_not] at hlost
    rw [getElem?_resolved, if_pos hlost]
  others i h := by
    rw [getElem?_resolved, if_neg]
    intro hin
    obtain ⟨blob, hleads⟩ := leads_of_mem_demotions hin
    exact (mem_demotions hleads).mp hin fun j hj hne => absurd (h blob hleads j hj) hne

theorem tallied_resolved (entries : List Considered) :
    Tallied (resolveCompetingPrimaries entries (reportOf entries)).1
      (resolveCompetingPrimaries entries (reportOf entries)).2 := by
  have hlength := (claims_resolved entries (reportOf entries)).length
  have hsum := length_eq_counts (resolveCompetingPrimaries entries (reportOf entries)).1
  obtain ⟨hcounts, hconsidered⟩ := counts_reportOf entries
  have hmatched : ∀ index ∈ demotions entries, ∃ entry, entries[index]? = some entry ∧
      entry.decision = .matched := by
    intro index hindex
    obtain ⟨blob, entry, hentry, hclaim⟩ := leads_of_mem_demotions hindex
    unfold claimOf at hclaim
    by_cases hdecision : entry.decision = .matched
    · exact ⟨entry, hentry, hdecision⟩
    · rw [if_neg hdecision] at hclaim
      cases hclaim
  have hfinal := counts_demotions (entries, reportOf entries)
    (nodup_demotions entries) hmatched hcounts
  rw [← resolveCompetingPrimaries_eq] at hfinal
  obtain ⟨⟨hm, ha, hu⟩, hkept⟩ := hfinal
  dsimp only at hkept
  exact ⟨by omega, hm, ha, hu, by omega⟩

end Resolution

/-! ## The pages of what stayed without a document -/

section Attachment

variable (patterns : TextPatterns) (order : SetOrder String) (rarity : Nat → Nat → ℚ)
  (pages : List Candidate)
  (entries : List Considered)

def pageClaimants : List (Option Nat × (Nat × Scored)) :=
  (indexed (pageClaim patterns order rarity pages) entries).map fun claim =>
    (claim.2.1, (claim.1, claim.2.2))

variable {patterns order rarity pages entries} {claimant : Nat × Scored} {page : Option Nat}

theorem mem_pageClaimants
    (h : (page, claimant) ∈ pageClaimants patterns order rarity pages entries) :
    page = claimant.2.candidate.pageId ∧
      ∃ entry, entries[claimant.1]? = some entry ∧ entry.decision ≠ .matched := by
  obtain ⟨claim, hclaim, heq⟩ := List.mem_map.mp h
  obtain ⟨entry, hentry, hread⟩ := mem_indexed.mp hclaim
  cases heq
  unfold pageClaim at hread
  by_cases hmatched : entry.decision = .matched
  · rw [if_pos hmatched] at hread
    cases hread
  · rw [if_neg hmatched] at hread
    refine ⟨?_, entry, hentry, hmatched⟩
    dsimp only at hread
    split at hread
    · cases hread
    · split at hread
      · cases hread
      · split at hread
        · cases hread
        · exact (congrArg Prod.fst (Option.some.inj hread)).symm.trans
            (congrArg (fun found : Option Nat × Scored => found.2.candidate.pageId)
              (Option.some.inj hread))

theorem nodup_pageClaimants :
    (((pageClaimants patterns order rarity pages entries).map Prod.snd).map Prod.fst).Nodup := by
  unfold pageClaimants
  rw [List.map_map, List.map_map]
  exact nodup_indexed _ entries

def pageWinners (patterns : TextPatterns) (order : SetOrder String) (rarity : Nat → Nat → ℚ)
    (pages : List Candidate) (entries : List Considered) : List (Nat × Scored) :=
  (pageClaims patterns order rarity pages entries).values.filterMap (winner? (pageStrength entries))

theorem nodup_pageWinners :
    ((pageWinners patterns order rarity pages entries).map Prod.fst).Nodup := by
  have hclaimants := @nodup_pageClaimants patterns order rarity pages entries
  have hperm := Dict.perm_flatten_groupBy hclaimants.of_map
  have hflat :
      ((pageClaims patterns order rarity pages entries).values.flatten.map Prod.fst).Nodup :=
    (hperm.map Prod.fst).nodup_iff.mpr hclaimants
  exact hflat.sublist ((filterMap_sublist_flatten (fun _ _ h => winner?_mem h) _).map Prod.fst)

theorem mem_pageWinners (h : claimant ∈ pageWinners patterns order rarity pages entries) :
    ∃ group ∈ (pageClaims patterns order rarity pages entries).values, claimant ∈ group ∧
      winner? (pageStrength entries) group = some claimant := by
  obtain ⟨group, hgroup, hwinner⟩ := List.mem_filterMap.mp h
  exact ⟨group, hgroup, winner?_mem hwinner, hwinner⟩

theorem pageGroup_eq {group : List (Nat × Scored)}
    (hgroup : group ∈ (pageClaims patterns order rarity pages entries).values)
    (hin : claimant ∈ group) :
    group = ((pageClaimants patterns order rarity pages entries).filter
      (·.1 = claimant.2.candidate.pageId)).map Prod.snd ∧
      ∃ entry, entries[claimant.1]? = some entry ∧ entry.decision ≠ .matched := by
  obtain ⟨key, -, heq⟩ := Dict.mem_values_groupBy.mp hgroup
  obtain ⟨claim, hclaim, hsnd⟩ := List.mem_map.mp (heq ▸ hin)
  have hkey := of_decide_eq_true (List.mem_filter.mp hclaim).2
  have hpair : claim = (key, claimant) := Prod.ext hkey hsnd
  obtain ⟨hpage, hentry⟩ := mem_pageClaimants (hpair ▸ (List.mem_filter.mp hclaim).1)
  exact ⟨hpage ▸ heq, hentry⟩

/-- What is attached to a record is one page that it won. -/
theorem get?_plannedPageRelations {i : Nat} {attached : List Scored}
    (h : (plannedPageRelations patterns order rarity pages entries).get? i = some attached) :
    ∃ page, attached = [page] ∧ (i, page) ∈ pageWinners patterns order rarity pages entries := by
  unfold plannedPageRelations at h
  split at h
  · cases h
  · have hitems := Dict.get?_groupBy (pageWinners patterns order rarity pages entries) i
    have hget : (Dict.groupBy (pageWinners patterns order rarity pages entries)).get? i =
      some attached := h
    rw [hget, Option.getD_some] at hitems
    have hkey := Dict.mem_keys_groupBy.mp (Dict.mem_keys_iff_get?.mpr ⟨attached, hget⟩)
    obtain ⟨claimant, hclaimant, hindex⟩ := List.mem_map.mp hkey
    have honly : (pageWinners patterns order rarity pages entries).filter (·.1 = i) =
        [claimant] := by
      have hfind := filter_key_of_mem Prod.fst nodup_pageWinners hclaimant
      rw [hindex] at hfind
      exact hfind
    refine ⟨claimant.2, ?_, ?_⟩
    · rw [hitems, honly]
      rfl
    · rw [← hindex]
      exact hclaimant

theorem pages_attached : PagesAttached entries
    (plannedPageRelations patterns order rarity pages entries) where
  unanswered i attached h := by
    obtain ⟨page, -, hwinner⟩ := get?_plannedPageRelations h
    obtain ⟨group, hgroup, hin, -⟩ := mem_pageWinners hwinner
    exact (pageGroup_eq hgroup hin).2
  one_page i attached h := by
    obtain ⟨page, hpage, -⟩ := get?_plannedPageRelations h
    exact ⟨page, hpage⟩
  one_decision i j page page' hi hj hsame := by
    obtain ⟨_, hpage, hwinner⟩ := get?_plannedPageRelations hi
    obtain ⟨_, hpage', hwinner'⟩ := get?_plannedPageRelations hj
    cases hpage
    cases hpage'
    obtain ⟨group, hgroup, hin, hwon⟩ := mem_pageWinners hwinner
    obtain ⟨group', hgroup', hin', hwon'⟩ := mem_pageWinners hwinner'
    -- both are in the group of one page, which has one winner
    have hgroups : group = group' := by
      rw [(pageGroup_eq hgroup hin).1, (pageGroup_eq hgroup' hin').1]
      dsimp only
      rw [hsame]
    rw [hgroups, hwon'] at hwon
    exact (congrArg Prod.fst (Option.some.inj hwon)).symm

end Attachment

/-- **Competing claims resolve.**  A document leads one match at most, the one strictly ahead of the
other claims; the tallies are those of what is left, and the pages go to records without a document,
one page and one record each. -/
theorem competing_claims_resolve (patterns : TextPatterns) (order : SetOrder String)
    (rarity : Nat → Nat → ℚ) (pages : List Candidate)
    (entries : List Considered) :
    ClaimsResolved entries (resolveCompetingPrimaries entries (reportOf entries)).1 ∧
      Tallied (resolveCompetingPrimaries entries (reportOf entries)).1
        (resolveCompetingPrimaries entries (reportOf entries)).2 ∧
        (resolveCompetingPrimaries entries (reportOf entries)).2.consideredRecords =
          entries.length ∧
          PagesAttached (resolveCompetingPrimaries entries (reportOf entries)).1
            (plannedPageRelations patterns order rarity pages
              (resolveCompetingPrimaries entries (reportOf entries)).1) := by
  have hclaims := claims_resolved entries (reportOf entries)
  have htallied := tallied_resolved entries
  exact ⟨hclaims, htallied, htallied.considered.trans hclaims.length, pages_attached⟩

end Opinion

end Dashkoda.LegalWork
