import Dashkoda.LegalWork.TopicMatching
import Mathlib.Tactic.Linarith

/-!
# What the topic matchers decide

A record is matched with the one unblocked candidate that is ahead of all others, whatever order the
candidates and the catalogue come in.
-/

open Lib

namespace Dashkoda.LegalWork

/-- No candidate below the plausible score can spoil the margin of a match. -/
structure MatcherRules.Ordered (rules : MatcherRules) : Prop where
  margin_pos : 0 < rules.minimumMargin
  margin_le : rules.minimumMargin ≤ rules.autoMatchScore
  plausible_le : rules.plausibleScore + rules.minimumMargin ≤ rules.autoMatchScore

theorem currentRules_ordered : currentRules.Ordered := by
  refine ⟨?_, ?_, ?_⟩ <;> norm_num [currentRules]

theorem archiveRules_ordered : archiveRules.Ordered := by
  refine ⟨?_, ?_, ?_⟩ <;> norm_num [archiveRules]

/-- The entry is unblocked, its score suffices for a match, and it is ahead of every other unblocked
candidate by the margin. -/
structure Wins (rules : MatcherRules) (scored : List ScoredCandidate)
    (entry : ScoredCandidate) : Prop where
  mem : entry ∈ scored
  unblocked : entry.isBlocked rules = false
  score : rules.autoMatchScore ≤ entry.score
  ahead : ∀ other ∈ scored, other.profile.contentKey ≠ entry.profile.contentKey →
    other.isBlocked rules = false → rules.minimumMargin ≤ entry.score - other.score

def contentKeys (scored : List ScoredCandidate) : List String := scored.map (·.profile.contentKey)

section Ranking

variable {rules : MatcherRules} {legal : LegalProfile} {scored scored' extra : List ScoredCandidate}
  {best other : ScoredCandidate} {rest : List ScoredCandidate}

theorem rankKeys_nodup (h : (contentKeys scored).Nodup) : (scored.map rankKey).Nodup := by
  refine List.Nodup.of_map (fun key => (ofLex key).2) ?_
  rw [List.map_map]
  exact h

theorem score_le_of_rankKey (h : rankKey best ≤ rankKey other) : other.score ≤ best.score := by
  have hfirst := Prod.Lex.toLex_le_toLex.mp h
  rcases hfirst with hlt | ⟨heq, -⟩
  · exact (neg_lt_neg_iff.mp hlt).le
  · exact (neg_inj.mp heq).ge

def plausibleField (rules : MatcherRules) (scored : List ScoredCandidate) : List ScoredCandidate :=
  (sortOn rankKey scored).filter (·.isPlausible rules)

theorem mem_plausibleField {entry : ScoredCandidate} : entry ∈ plausibleField rules scored ↔
    entry ∈ scored ∧ rules.plausibleScore ≤ entry.score ∧ entry.isBlocked rules = false := by
  unfold plausibleField
  rw [List.mem_filter, mem_sortOn]
  unfold ScoredCandidate.isPlausible
  rw [Bool.and_eq_true, decide_eq_true_iff, Bool.not_eq_true']

theorem plausibleField_sorted :
    (plausibleField rules scored).Pairwise fun a b => rankKey a ≤ rankKey b :=
  (pairwise_sortOn rankKey scored).sublist List.filter_sublist

theorem plausibleField_ranked (hfield : plausibleField rules scored = best :: rest)
    {other : ScoredCandidate}
    (hother : other ∈ rest) : other.score ≤ best.score := by
  have hsorted := @plausibleField_sorted rules scored
  rw [hfield] at hsorted
  exact score_le_of_rankKey ((List.pairwise_cons.mp hsorted).1 other hother)

def runnerUpScore (rest : List ScoredCandidate) : ℚ := (rest.head?.map (·.score)).getD 0

/-- Where some candidate is acceptable, the decision is between the acceptable ones. -/
theorem decideBy_acceptable (hfield : plausibleField rules scored = best :: rest) :
    (decideBy rules legal scored).bestCandidateId = some best.profile.itemId ∧
      (decideBy rules legal scored).decision =
        fieldDecision rules true best.score (best.score - runnerUpScore rest) := by
  unfold plausibleField at hfield
  unfold decideBy
  dsimp only
  rw [hfield, if_neg (List.cons_ne_nil _ _)]
  exact ⟨rfl, rfl⟩

/-- Where none is, nothing is matched. -/
theorem decideBy_noneAcceptable (hfield : plausibleField rules scored = []) :
    (decideBy rules legal scored).decision = .unmatched := by
  unfold plausibleField at hfield
  unfold decideBy
  dsimp only
  rw [hfield, if_pos rfl]
  split
  · rfl
  · rfl

/-- Where none is, the outcome is of the one that is ranked first. -/
theorem decideBy_frontRunner (hsome : scored ≠ [])
    (hnone : ∀ entry ∈ scored, entry.isPlausible rules = false) :
    ∃ best ∈ scored, (∀ other ∈ scored, rankKey best ≤ rankKey other) ∧
      (decideBy rules legal scored).bestCandidateId = some best.profile.itemId := by
  have hempty : (sortOn rankKey scored).filter (·.isPlausible rules) = [] :=
    List.filter_eq_nil_iff.mpr fun entry hentry => by
      rw [hnone entry (mem_sortOn.mp hentry)]
      exact Bool.false_ne_true
  cases hranked : sortOn rankKey scored with
  | nil =>
    have hperm := perm_sortOn rankKey scored
    rw [hranked] at hperm
    exact absurd hperm.nil_eq.symm hsome
  | cons best rest =>
    have hsorted := pairwise_sortOn rankKey scored
    rw [hranked] at hsorted
    refine ⟨best, mem_sortOn.mp (hranked ▸ List.mem_cons_self), fun other hother => ?_, ?_⟩
    · have hin : other ∈ best :: rest := hranked ▸ mem_sortOn.mpr hother
      cases List.mem_cons.mp hin with
      | inl heq => rw [heq]
      | inr hrest => exact (List.pairwise_cons.mp hsorted).1 other hrest
    · unfold decideBy
      dsimp only
      rw [hempty, if_pos rfl, hranked]

theorem fieldDecision_matched_iff {score margin : ℚ} :
    fieldDecision rules true score margin = .matched ↔
    rules.autoMatchScore ≤ score ∧ rules.minimumMargin ≤ margin := by
  unfold fieldDecision
  rw [Bool.not_true, if_neg Bool.false_ne_true]
  split
  · rename_i h
    exact ⟨fun _ => h, fun _ => rfl⟩
  · rename_i h
    exact ⟨fun heq => (by cases heq), fun h' => absurd h' h⟩

/-! ## The law -/

/-- The first of the acceptable candidates that meets the margin wins. -/
theorem wins_of_margin (hrules : rules.Ordered)
    (hfield : plausibleField rules scored = best :: rest)
    (hauto : rules.autoMatchScore ≤ best.score)
    (hmargin : rules.minimumMargin ≤ best.score - runnerUpScore rest) : Wins rules scored best := by
  obtain ⟨hbest, hacceptable, hopen⟩ := mem_plausibleField.mp (hfield ▸ List.mem_cons_self)
  refine ⟨hbest, hopen, hauto, fun other hother hkey hfree => ?_⟩
  by_cases hlow : rules.plausibleScore ≤ other.score
  · -- an acceptable one is no better than the runner-up
    have hin : other ∈ best :: rest := hfield ▸ mem_plausibleField.mpr ⟨hother, hlow, hfree⟩
    cases List.mem_cons.mp hin with
    | inl heq => exact absurd (heq ▸ rfl) hkey
    | inr hrest =>
      cases rest with
      | nil => cases hrest
      | cons second others =>
        have hsecond : other.score ≤ second.score := by
          cases List.mem_cons.mp hrest with
          | inl heq => exact heq ▸ le_refl _
          | inr hothers =>
            have hsorted := @plausibleField_sorted rules scored
            rw [hfield] at hsorted
            exact score_le_of_rankKey
              ((List.pairwise_cons.mp (List.pairwise_cons.mp hsorted).2).1 other hothers)
        have hrunner : runnerUpScore (second :: others) = second.score := rfl
        rw [hrunner] at hmargin
        linarith
  · have hgap := hrules.plausible_le
    rw [not_le] at hlow
    linarith

/-- The winner comes first among the acceptable candidates, by the margin. -/
theorem margin_of_wins (hrules : rules.Ordered) (hkeys : (contentKeys scored).Nodup)
    (hwins : Wins rules scored best) : ∃ rest, plausibleField rules scored = best :: rest ∧
      rules.minimumMargin ≤ best.score - runnerUpScore rest := by
  have hacceptable : rules.plausibleScore ≤ best.score := by
    have hgap := hrules.plausible_le
    have hpos := hrules.margin_pos
    have hauto := hwins.score
    linarith
  have hin : best ∈ plausibleField rules scored :=
    mem_plausibleField.mpr ⟨hwins.mem, hacceptable, hwins.unblocked⟩
  have hsame {a b : ScoredCandidate} (ha : a ∈ scored) (hb : b ∈ scored)
      (hkey : a.profile.contentKey = b.profile.contentKey) : a = b :=
    List.inj_on_of_nodup_map hkeys ha hb hkey
  cases hfield : plausibleField rules scored with
  | nil =>
    rw [hfield] at hin
    cases hin
  | cons first rest =>
    obtain ⟨hfirst, -, hfree⟩ := mem_plausibleField.mp (hfield ▸ List.mem_cons_self)
    have hahead : first = best := by
      by_contra hne
      have hlead := hwins.ahead first hfirst (fun hkey => hne (hsame hfirst hwins.mem hkey)) hfree
      have hpos := hrules.margin_pos
      rw [hfield] at hin
      cases List.mem_cons.mp hin with
      | inl heq => exact hne heq.symm
      | inr hrest =>
        have hle := plausibleField_ranked hfield hrest
        linarith
    subst hahead
    refine ⟨rest, rfl, ?_⟩
    cases rest with
    | nil =>
      have hauto := hwins.score
      have hle := hrules.margin_le
      have hnone : runnerUpScore [] = 0 := rfl
      rw [hnone]
      linarith
    | cons second others =>
      have hsecond := mem_plausibleField.mp
        (show second ∈ plausibleField rules scored from hfield ▸ List.mem_cons_of_mem _
          List.mem_cons_self)
      refine hwins.ahead second hsecond.1 (fun hkey => ?_) hsecond.2.2
      -- the ranking has no entry twice
      have heq := hsame hsecond.1 hwins.mem hkey
      have hnodup : (plausibleField rules scored).Nodup :=
        (((perm_sortOn rankKey scored).nodup_iff.mpr (List.Nodup.of_map _ hkeys))).filter _
      rw [hfield, heq] at hnodup
      exact (List.nodup_cons.mp hnodup).1 List.mem_cons_self

theorem decideBy_matched_iff (hrules : rules.Ordered) (hkeys : (contentKeys scored).Nodup)
    (item : Nat) :
    (decideBy rules legal scored).decision = .matched ∧
        (decideBy rules legal scored).bestCandidateId = some item ↔
      ∃ entry, Wins rules scored entry ∧ entry.profile.itemId = item := by
  cases hfield : plausibleField rules scored with
  | nil =>
    constructor
    · rintro ⟨hmatched, -⟩
      rw [decideBy_noneAcceptable hfield] at hmatched
      cases hmatched
    · rintro ⟨entry, hwins, -⟩
      obtain ⟨rest, hcons, -⟩ := margin_of_wins hrules hkeys hwins
      rw [hfield] at hcons
      cases hcons
  | cons best rest =>
    obtain ⟨hid, hdecision⟩ := @decideBy_acceptable rules legal scored best rest hfield
    rw [hid, hdecision, fieldDecision_matched_iff]
    constructor
    · rintro ⟨⟨hauto, hmargin⟩, hitem⟩
      exact ⟨best, wins_of_margin hrules hfield hauto hmargin, Option.some.inj hitem⟩
    · rintro ⟨entry, hwins, hitem⟩
      obtain ⟨rest', hcons, hmargin⟩ := margin_of_wins hrules hkeys hwins
      rw [hfield] at hcons
      obtain ⟨rfl, rfl⟩ := List.cons.inj hcons
      exact ⟨⟨hwins.score, hmargin⟩, congrArg some hitem⟩

/-! ## Other candidates, other orders -/

/-- Candidates that are not acceptable do not change the acceptable field. -/
theorem plausibleField_append (hkeys : (contentKeys (scored ++ extra)).Nodup)
    (hextra : ∀ entry ∈ extra, entry.isPlausible rules = false) :
    plausibleField rules (scored ++ extra) = plausibleField rules scored := by
  have hranks := rankKeys_nodup hkeys
  have hperm : (plausibleField rules (scored ++ extra)).Perm (plausibleField rules scored) := by
    have hnone : extra.filter (·.isPlausible rules) = [] :=
      List.filter_eq_nil_iff.mpr fun entry hentry => by
        rw [hextra entry hentry]; exact Bool.false_ne_true
    refine ((perm_sortOn rankKey _).filter _).trans
      (.trans ?_ ((perm_sortOn rankKey _).filter _).symm)
    rw [List.filter_append, hnone, List.append_nil]
  refine hperm.eq_of_pairwise (fun a b ha hb hab hba => ?_) plausibleField_sorted
    plausibleField_sorted
  refine List.inj_on_of_nodup_map hranks (mem_plausibleField.mp ha).1 ?_ (le_antisymm hab hba)
  exact List.mem_append_left _ (mem_plausibleField.mp hb).1

theorem decideBy_append (hkeys : (contentKeys (scored ++ extra)).Nodup)
    (hextra : ∀ entry ∈ extra, entry.isPlausible rules = false) :
    (decideBy rules legal (scored ++ extra)).decision = (decideBy rules legal scored).decision ∧
      ((∃ entry ∈ scored, entry.isPlausible rules = true) →
        (decideBy rules legal (scored ++ extra)).bestCandidateId =
          (decideBy rules legal scored).bestCandidateId) := by
  have hsame := plausibleField_append hkeys hextra
  cases hfield : plausibleField rules scored with
  | nil =>
    refine ⟨(decideBy_noneAcceptable (hsame.trans hfield)).trans
      (decideBy_noneAcceptable hfield).symm, ?_⟩
    rintro ⟨entry, hentry, hacceptable⟩
    have hin : entry ∈ plausibleField rules scored :=
      List.mem_filter.mpr ⟨mem_sortOn.mpr hentry, hacceptable⟩
    rw [hfield] at hin
    cases hin
  | cons best rest =>
    have hmore := @decideBy_acceptable rules legal _ best rest (hsame.trans hfield)
    have hfew := @decideBy_acceptable rules legal _ best rest hfield
    exact ⟨hmore.2.trans hfew.2.symm, fun _ => hmore.1.trans hfew.1.symm⟩

theorem decideBy_perm (hkeys : (contentKeys scored).Nodup) (hperm : scored.Perm scored') :
    decideBy rules legal scored = decideBy rules legal scored' := by
  unfold decideBy
  rw [sortOn_eq_of_perm hperm (rankKeys_nodup hkeys)]

end Ranking

/-! ## The catalogue in another order -/

section Catalogue

variable {patterns : TextPatterns} {rarity : Nat → Nat → ℚ}
  {profiles profiles' : List CandidateProfile}

theorem inverseDocumentFrequency_perm (h : profiles.Perm profiles') :
    inverseDocumentFrequency rarity profiles = inverseDocumentFrequency rarity profiles' := by
  have : LeftCommutative fun (profile : CandidateProfile) (tokens : Finset String) =>
      profile.tokens ∪ tokens := ⟨fun _ _ _ => Finset.union_left_comm _ _ _⟩
  unfold inverseDocumentFrequency frequency
  rw [h.foldr_eq, h.length_eq]
  congr 1
  funext token
  rw [h.countP_eq]

theorem frequency_perm (tokens : CandidateProfile → Finset String) (h : profiles.Perm profiles') :
    frequency tokens profiles = frequency tokens profiles' := by
  funext token
  exact h.countP_eq _

/-- The decision for one record does not depend on the order of the candidates. -/
theorem decideBy_candidates {rules : MatcherRules} {legal : LegalProfile}
    (score : LegalProfile → CandidateProfile → InverseFrequency → (String → Nat) → ScoredCandidate)
    (hprofile : ∀ legal candidate idf owners,
      (score legal candidate idf owners).profile = candidate)
    (hkeys : (profiles.map (·.contentKey)).Nodup) (h : profiles.Perm profiles') :
    decideBy rules legal (profiles.map fun candidate => score legal candidate
        (inverseDocumentFrequency rarity profiles) (frequency (·.significant) profiles)) =
      decideBy rules legal (profiles'.map fun candidate => score legal candidate
        (inverseDocumentFrequency rarity profiles') (frequency (·.significant) profiles')) := by
  rw [inverseDocumentFrequency_perm h, frequency_perm _ h]
  refine decideBy_perm ?_ (h.map _)
  unfold contentKeys
  rw [List.map_map]
  convert hkeys using 2
  funext candidate
  exact congrArg CandidateProfile.contentKey (hprofile _ _ _ _)

theorem matchAll_perm (legalItems : List LegalWorkItem)
    {catalogue catalogue' : List CurrentTopicItem} (hkeys : (catalogue.map (·.contentKey)).Nodup)
    (h : catalogue.Perm catalogue') :
    matchAll patterns rarity legalItems catalogue =
      matchAll patterns rarity legalItems catalogue' := by
  unfold matchAll
  dsimp only
  refine List.map_congr_left fun item _ => ?_
  refine decideBy_candidates scorePair (fun _ _ _ _ => rfl) ?_ (h.map _)
  unfold buildCandidateProfiles
  rw [List.map_map]
  exact hkeys

theorem matchArchive_perm (legalItems : List LegalWorkItem) (excludedUrls : List String)
    {catalogue catalogue' : List ArchivedTopicItem} (hkeys : (catalogue.map (·.contentKey)).Nodup)
    (h : catalogue.Perm catalogue') :
      matchArchive patterns rarity legalItems catalogue excludedUrls =
      matchArchive patterns rarity legalItems catalogue' excludedUrls := by
  unfold matchArchive
  dsimp only
  refine List.map_congr_left fun item _ => ?_
  refine decideBy_candidates scoreArchivePair (fun _ _ _ _ => rfl) ?_
    (((h.filter _).filter _).map _)
  unfold buildArchiveCandidateProfiles
  rw [List.map_map]
  exact hkeys.sublist ((List.filter_sublist.trans List.filter_sublist).map _)

end Catalogue

/-! ## Both matchers -/

/-- What is promised of the decisions of one matcher. -/
structure DecisionLaw (rules : MatcherRules)
    (decision : LegalProfile → List ScoredCandidate → MatchOutcome) : Prop where
  matched_iff : ∀ legal scored, (contentKeys scored).Nodup → ∀ item,
    (decision legal scored).decision = .matched ∧
    (decision legal scored).bestCandidateId = some item ↔
      ∃ entry, Wins rules scored entry ∧ entry.profile.itemId = item
  /-- Blocked and implausible candidates do not change the decision, nor the best candidate where
  one is acceptable. -/
  stable : ∀ legal scored extra, (contentKeys (scored ++ extra)).Nodup →
    (∀ entry ∈ extra, entry.isBlocked rules = true ∨ entry.score < rules.plausibleScore) →
    (decision legal (scored ++ extra)).decision = (decision legal scored).decision ∧
      ((∃ entry ∈ scored, entry.isPlausible rules = true) →
        (decision legal (scored ++ extra)).bestCandidateId =
          (decision legal scored).bestCandidateId)
  /-- Where no candidate is acceptable, the rejected front-runner is reported. -/
  frontRunner : ∀ legal scored, scored ≠ [] →
    (∀ entry ∈ scored, entry.isPlausible rules = false) →
    ∃ best ∈ scored, (∀ other ∈ scored, rankKey best ≤ rankKey other) ∧
      (decision legal scored).bestCandidateId = some best.profile.itemId
  permuted : ∀ legal scored scored', (contentKeys scored).Nodup → scored.Perm scored' →
    decision legal scored = decision legal scored'

theorem decideBy_law {rules : MatcherRules} (hrules : rules.Ordered) :
    DecisionLaw rules (decideBy rules) := by
  refine ⟨fun legal scored hkeys item => decideBy_matched_iff hrules hkeys item,
    fun legal scored extra hkeys hextra => decideBy_append hkeys fun entry hentry => ?_,
    fun legal scored hsome hnone => decideBy_frontRunner hsome hnone,
    fun legal scored scored' hkeys hperm => decideBy_perm hkeys hperm⟩
  unfold ScoredCandidate.isPlausible
  cases hextra entry hentry with
  | inl hblocked => rw [hblocked, Bool.not_true, Bool.and_false]
  | inr hlow => rw [decide_eq_false (not_le.mpr hlow), Bool.false_and]

/-- The decisions of both matchers, and that the order of the catalogue does not matter to them. -/
structure TopicDecisions (patterns : TextPatterns) (rarity : Nat → Nat → ℚ) : Prop where
  current : DecisionLaw currentRules decideTopic
  archive : DecisionLaw archiveRules decideArchive
  currentCatalogue : ∀ legalItems catalogue catalogue',
    (catalogue.map CurrentTopicItem.contentKey).Nodup → catalogue.Perm catalogue' →
    matchAll patterns rarity legalItems catalogue = matchAll patterns rarity legalItems catalogue'
  archiveCatalogue : ∀ legalItems excludedUrls catalogue catalogue',
    (catalogue.map ArchivedTopicItem.contentKey).Nodup → catalogue.Perm catalogue' →
    matchArchive patterns rarity legalItems catalogue excludedUrls =
      matchArchive patterns rarity legalItems catalogue' excludedUrls

theorem topic_decisions (patterns : TextPatterns) (rarity : Nat → Nat → ℚ) :
    TopicDecisions patterns rarity :=
  ⟨decideBy_law currentRules_ordered, decideBy_law archiveRules_ordered,
    fun legalItems _ _ hkeys h => matchAll_perm legalItems hkeys h,
    fun legalItems excludedUrls _ _ hkeys h => matchArchive_perm legalItems excludedUrls hkeys h⟩

/-! ## A field without an acceptable candidate -/

def plainCandidate (itemId : Nat) (contentKey : String) : CandidateProfile :=
  ⟨itemId, contentKey, none, none, "", ∅, ∅, ∅, ∅, ∅, ∅⟩

def plainLegal : LegalProfile := ⟨1, none, none, "", ∅, ∅, [], ∅, ∅, ∅⟩

def faintCandidate : ScoredCandidate := ⟨plainCandidate 1 "a", 10, []⟩

def conflictingCandidate : ScoredCandidate :=
  ⟨plainCandidate 2 "b", 90, [EVIDENCE_DEADLINE_CONFLICT]⟩

/-- The rejected front-runner is reported, and a blocked candidate can become it. -/
theorem blocked_front_runner : (contentKeys [faintCandidate, conflictingCandidate]).Nodup ∧
    conflictingCandidate.isBlocked currentRules = true ∧
    (decideTopic plainLegal [faintCandidate]).bestCandidateId = some 1 ∧
    (decideTopic plainLegal [faintCandidate, conflictingCandidate]).bestCandidateId = some 2 := by
  decide +kernel

end Dashkoda.LegalWork
