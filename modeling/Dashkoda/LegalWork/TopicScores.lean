import Dashkoda.LegalWork.TopicDecision
import Mathlib.Algebra.Order.BigOperators.Ring.Finset
import Mathlib.Tactic.Positivity

/-!
# The scores of the topic matchers

Every signal is a share between 0 and 1, so every score lies between 0 and 100, and the verification
before a run is written has nothing to reject.
-/

open Lib

namespace Dashkoda.LegalWork

open Currency (current?)

def IsShare (q : ℚ) : Prop := 0 ≤ q ∧ q ≤ 1

/-! ## Rounding -/

/-- Rounding stays between whole numbers. -/
theorem roundHalfEven_mem {q : ℚ} {n : Nat} (hlow : 0 ≤ q) (hhigh : q ≤ n) :
    0 ≤ Decimal.roundHalfEven q ∧ Decimal.roundHalfEven q ≤ n := by
  have hfloor : 0 ≤ ⌊q⌋ := Int.floor_nonneg.mpr hlow
  have hrest := Int.fract_nonneg q
  unfold Decimal.roundHalfEven
  dsimp only
  by_cases hlast : ⌊q⌋ = n
  · -- at the upper end nothing is left to round
    have hzero : q - ⌊q⌋ = 0 := by
      have hle : q ≤ (⌊q⌋ : ℚ) := by
        rw [hlast]
        exact_mod_cast hhigh
      have hge := Int.floor_le q
      linarith
    rw [hzero, if_pos (by norm_num)]
    exact ⟨hfloor, hlast.le⟩
  · have hle : ⌊q⌋ ≤ n := by
      have hmono := Int.floor_mono hhigh
      rwa [Int.floor_natCast] at hmono
    split
    · exact ⟨hfloor, hle⟩
    · split
      · omega
      · split <;> omega

theorem roundHalfUp_mem {q : ℚ} {n : Nat} (hlow : 0 ≤ q) (hhigh : q ≤ n) :
    0 ≤ Decimal.roundHalfUp q ∧ Decimal.roundHalfUp q ≤ n := by
  unfold Decimal.roundHalfUp
  rw [if_pos hlow]
  constructor
  · exact Int.floor_nonneg.mpr (by linarith)
  · have hlt : q + 1 / 2 < (n : ℚ) + 1 := by linarith
    have hfloor : ⌊q + 1 / 2⌋ < (n : Int) + 1 := by
      rw [Int.floor_lt]
      push_cast
      exact hlt
    omega

theorem hundredths_mem {raw : ℚ} (h : IsShare raw) : 0 ≤ hundredths raw ∧ hundredths raw ≤ 100 := by
  obtain ⟨hlow, hhigh⟩ := h
  have hfine := @roundHalfEven_mem (raw * 100 * 10000) 1000000 (by positivity)
    (by push_cast; linarith)
  have hfineLow : (0 : ℚ) ≤ (Decimal.roundHalfEven (raw * 100 * 10000) : ℚ) := by
    exact_mod_cast hfine.1
  have hfineHigh : (Decimal.roundHalfEven (raw * 100 * 10000) : ℚ) ≤ 1000000 := by
    exact_mod_cast hfine.2
  unfold hundredths
  dsimp only
  generalize (Decimal.roundHalfEven (raw * 100 * 10000) : ℚ) = fine at hfineLow hfineHigh
  have hcoarse := @roundHalfUp_mem (fine / 10000 * 100) 10000 (by positivity)
    (by push_cast; linarith)
  have hcoarseLow : (0 : ℚ) ≤ (Decimal.roundHalfUp (fine / 10000 * 100) : ℚ) := by
    exact_mod_cast hcoarse.1
  have hcoarseHigh : (Decimal.roundHalfUp (fine / 10000 * 100) : ℚ) ≤ 10000 := by
    exact_mod_cast hcoarse.2
  constructor
  · positivity
  · linarith

/-! ## Signals -/

section Signals

variable {left right : Finset String} {legal : LegalProfile} {candidate : CandidateProfile}

theorem diceSimilarity_share (left right : Finset String) :
    IsShare (diceSimilarity left right) := by
  unfold diceSimilarity
  split
  · exact ⟨le_refl 0, zero_le_one⟩
  · rename_i hfull
    rw [not_or] at hfull
    have hpos : 0 < left.card := Finset.card_pos.mpr (Finset.nonempty_iff_ne_empty.mpr hfull.1)
    have hleft := Finset.card_le_card (@Finset.inter_subset_left _ _ left right)
    have hright := Finset.card_le_card (@Finset.inter_subset_right _ _ left right)
    have hdenominator : (0 : ℚ) < left.card + right.card := by positivity
    refine ⟨by positivity, (div_le_one hdenominator).mpr ?_⟩
    have htwice : 2 * (left ∩ right).card ≤ left.card + right.card := by omega
    exact_mod_cast htwice

theorem containment_share (needle haystack : Finset String) :
    IsShare (containment needle haystack) := by
  unfold containment
  split
  · exact ⟨le_refl 0, zero_le_one⟩
  · rename_i hfull
    rw [not_or] at hfull
    have hpos : 0 < needle.card := Finset.card_pos.mpr (Finset.nonempty_iff_ne_empty.mpr hfull.1)
    have hdenominator : (0 : ℚ) < needle.card := by exact_mod_cast hpos
    refine ⟨by positivity, (div_le_one hdenominator).mpr ?_⟩
    exact_mod_cast Finset.card_le_card (@Finset.inter_subset_left _ _ needle haystack)

/-- Every rarity the catalogue gives a token is positive. -/
structure InverseFrequency.Positive (idf : InverseFrequency) : Prop where
  weight : ∀ token ∈ idf.tokens, 0 < idf.weight token

theorem InverseFrequency.Positive.largest {idf : InverseFrequency} (h : idf.Positive) :
    0 < idf.largest := by
  unfold InverseFrequency.largest
  cases hmax : (idf.tokens.image idf.weight).max with
  | bot => exact one_pos
  | coe value =>
    obtain ⟨token, htoken, rfl⟩ := Finset.mem_image.mp (Finset.mem_of_max hmax)
    exact h.weight token htoken

theorem InverseFrequency.Positive.get {idf : InverseFrequency} (h : idf.Positive) (token : String) :
    0 < idf.get token idf.largest := by
  unfold InverseFrequency.get
  split
  · rename_i htoken
    exact h.weight token htoken
  · exact h.largest

theorem rarityCoverage_share {damping : ℚ} (hdamping : 0 ≤ damping) {idf : InverseFrequency}
    (h : idf.Positive) (queryTokens : List String) (candidateTokens : Finset String) :
    IsShare (rarityCoverage damping queryTokens candidateTokens idf) := by
  unfold rarityCoverage
  dsimp only
  have hweight (token : String) : 0 ≤ if token ∈ GENERIC_TOKENS
      then idf.get token idf.largest * damping else idf.get token idf.largest := by
    have hget := h.get token
    split <;> positivity
  generalize hw : (fun token : String => if token ∈ GENERIC_TOKENS
    then idf.get token idf.largest * damping else idf.get token idf.largest) = weight
  have hnonneg (token : String) : 0 ≤ weight token := hw ▸ hweight token
  split
  · exact ⟨le_refl 0, zero_le_one⟩
  · split
    · exact ⟨le_refl 0, zero_le_one⟩
    · have htotal : 0 ≤ ∑ token ∈ queryTokens.toFinset, weight token :=
        Finset.sum_nonneg fun token _ => hnonneg token
      have hcovered : 0 ≤ ∑ token ∈ queryTokens.toFinset.filter (· ∈ candidateTokens),
          weight token :=
        Finset.sum_nonneg fun token _ => hnonneg token
      refine ⟨div_nonneg hcovered htotal, div_le_one_of_le₀ ?_ htotal⟩
      exact Finset.sum_le_sum_of_subset_of_nonneg (Finset.filter_subset _ _) fun token _ _ =>
        hnonneg token

theorem uniqueTokenScore_share (hits : Nat) : IsShare (uniqueTokenScore hits) := by
  have hle : ((min hits UNIQUE_TOKEN_SATURATION : Nat) : ℚ) ≤ UNIQUE_TOKEN_SATURATION := by
    exact_mod_cast min_le_right _ _
  unfold uniqueTokenScore
  exact ⟨by positivity, div_le_one_of_le₀ hle (by positivity)⟩

theorem deadlineSignal_share (legal : LegalProfile) (candidate : CandidateProfile) :
    IsShare (deadlineSignal legal candidate).1 := by
  unfold deadlineSignal IsShare
  split
  · dsimp only
    split
    · norm_num
    · split
      · norm_num
      · split <;> norm_num
  · norm_num

theorem organizationSignal_share (legal : LegalProfile) (candidate : CandidateProfile) :
    IsShare (organizationSignal legal candidate).1 := by
  unfold organizationSignal IsShare
  split
  · norm_num
  · split
    · norm_num
    · split <;> norm_num

end Signals

/-! ## One score -/

/-- Weights that leave something to divide by. -/
structure MatcherRules.Weighted (rules : MatcherRules) : Prop where
  characterNgram : 0 < rules.weightCharacterNgram
  rarityCoverage : 0 < rules.weightRarityCoverage
  uniqueToken : 0 < rules.weightUniqueToken
  deadline : 0 < rules.weightDeadline
  organization : 0 < rules.weightOrganization
  damping : 0 ≤ rules.genericTokenDamping

theorem currentRules_weighted : currentRules.Weighted := by
  constructor <;> norm_num [currentRules]

theorem archiveRules_weighted : archiveRules.Weighted := by
  constructor <;> norm_num [archiveRules]

structure PairSignals.Shares (signals : PairSignals) : Prop where
  ngram : IsShare signals.ngram
  rarity : IsShare signals.rarity
  deadline : IsShare signals.deadline
  organization : IsShare signals.organization

theorem IsShare.mul_le {weight share : ℚ} (hweight : 0 < weight) (h : IsShare share) :
    0 ≤ weight * share ∧ weight * share ≤ weight :=
  ⟨mul_nonneg hweight.le h.1, mul_le_of_le_one_right hweight.le h.2⟩

section Scores

variable {rules : MatcherRules} {signals : PairSignals}

/-- What is weighed is at most the weights that apply. -/
theorem weigh_mem (hrules : rules.Weighted) (h : signals.Shares) :
    0 ≤ (weigh rules signals).1 ∧ (weigh rules signals).1 ≤ (weigh rules signals).2 ∧
      0 < (weigh rules signals).2 := by
  have hngram := h.ngram.mul_le hrules.characterNgram
  have hrarity := h.rarity.mul_le hrules.rarityCoverage
  have hunique := (uniqueTokenScore_share signals.uniqueHits).mul_le hrules.uniqueToken
  have hdeadline := h.deadline.mul_le hrules.deadline
  have horganization := h.organization.mul_le hrules.organization
  have hpos := hrules.characterNgram
  have hpos' := hrules.rarityCoverage
  have hpos'' := hrules.uniqueToken
  have hdeadlinePos := hrules.deadline
  have horganizationPos := hrules.organization
  unfold weigh
  dsimp only
  cases signals.deadlineApplies with
  | true =>
    rw [if_pos rfl]
    cases signals.organizationApplies with
    | true => rw [if_pos rfl]; refine ⟨?_, ?_, ?_⟩ <;> linarith
    | false => rw [if_neg Bool.false_ne_true]; refine ⟨?_, ?_, ?_⟩ <;> linarith
  | false =>
    rw [if_neg Bool.false_ne_true]
    cases signals.organizationApplies with
    | true => rw [if_pos rfl]; refine ⟨?_, ?_, ?_⟩ <;> linarith
    | false => rw [if_neg Bool.false_ne_true]; refine ⟨?_, ?_, ?_⟩ <;> linarith

theorem pairScore_mem (hrules : rules.Weighted) (h : signals.Shares) :
    0 ≤ pairScore rules signals ∧ pairScore rules signals ≤ 100 := by
  obtain ⟨hlow, hhigh, hpos⟩ := weigh_mem hrules h
  exact hundredths_mem ⟨div_nonneg hlow hpos.le, (div_le_one hpos).mpr hhigh⟩

theorem pairSignals_shares (hrules : rules.Weighted) {idf : InverseFrequency} (h : idf.Positive)
    (legal : LegalProfile) (candidate : CandidateProfile) (owners : String → Nat) :
    (pairSignals rules legal candidate idf owners).Shares where
  ngram :=
    ⟨le_max_of_le_left (diceSimilarity_share _ _).1,
      max_le (diceSimilarity_share _ _).2 (containment_share _ _).2⟩
  rarity := rarityCoverage_share hrules.damping h _ _
  deadline := deadlineSignal_share _ _
  organization := organizationSignal_share _ _

theorem inverseDocumentFrequency_positive {rarity : Nat → Nat → ℚ}
    (hrarity : ∀ total count, count ≤ total → 0 < rarity total count)
    (profiles : List CandidateProfile) :
    (inverseDocumentFrequency rarity profiles).Positive :=
  ⟨fun _ _ => hrarity _ _ List.countP_le_length⟩

end Scores

/-! ## One outcome -/

/-- What the verification asks of one outcome, besides its record. -/
structure MatchOutcome.Sound (candidateIds : List Nat) (outcome : MatchOutcome) : Prop where
  score : 0 ≤ outcome.score ∧ outcome.score ≤ 100
  runnerUp : 0 ≤ outcome.runnerUpScore ∧ outcome.runnerUpScore ≤ outcome.score
  margin : outcome.scoreMargin = outcome.score - outcome.runnerUpScore
  candidate : ∀ candidate, outcome.bestCandidateId = some candidate → candidate ∈ candidateIds
  matched : outcome.decision = .matched → outcome.bestCandidateId ≠ none

section Outcomes

variable {rules : MatcherRules} {legal : LegalProfile} {scored : List ScoredCandidate}
  {candidateIds : List Nat}

/-- The best and the runner-up are the first two of a part of the ranking. -/
theorem decideBy_field : decideBy rules legal scored = noCandidates legal ∨ ∃ best rest,
    (best :: rest).Sublist (sortOn rankKey scored) ∧
      (decideBy rules legal scored).bestCandidateId = some best.profile.itemId ∧
      (decideBy rules legal scored).score = best.score ∧
      (decideBy rules legal scored).runnerUpScore = runnerUpScore rest ∧
      (decideBy rules legal scored).scoreMargin = best.score - runnerUpScore rest := by
  have hfield :
      (if (sortOn rankKey scored).filter (·.isPlausible rules) = [] then sortOn rankKey scored
      else (sortOn rankKey scored).filter (·.isPlausible rules)).Sublist
        (sortOn rankKey scored) := by
    split
    · exact List.Sublist.refl _
    · exact List.filter_sublist
  unfold decideBy
  dsimp only
  split
  · exact Or.inl rfl
  · rename_i best rest hcons
    rw [hcons] at hfield
    exact Or.inr ⟨best, rest, hfield, rfl, rfl, rfl, rfl⟩

theorem decideBy_item : (decideBy rules legal scored).legalItemId = legal.itemId := by
  unfold decideBy
  dsimp only
  split
  · rfl
  · rfl

theorem decideBy_sound (hscores : ∀ entry ∈ scored, 0 ≤ entry.score ∧ entry.score ≤ 100)
    (hids : ∀ entry ∈ scored, entry.profile.itemId ∈ candidateIds) :
    (decideBy rules legal scored).Sound candidateIds := by
  cases @decideBy_field rules legal scored with
  | inl hnone =>
    rw [hnone]
    refine ⟨⟨le_refl 0, by norm_num [noCandidates]⟩, ⟨le_refl 0, le_refl 0⟩,
      (sub_self 0).symm, ?_, ?_⟩
    · exact fun _ h => (by cases h)
    · exact fun h => (by cases h)
  | inr hfield =>
    obtain ⟨best, rest, hsub, hbest, hscore, hrunner, hmargin⟩ := hfield
    have hin {entry : ScoredCandidate} (h : entry ∈ best :: rest) : entry ∈ scored :=
      mem_sortOn.mp (hsub.subset h)
    have hsorted := (pairwise_sortOn rankKey scored).sublist hsub
    have hbestScore := hscores best (hin List.mem_cons_self)
    have hsecond : 0 ≤ runnerUpScore rest ∧ runnerUpScore rest ≤ best.score := by
      cases rest with
      | nil => exact ⟨le_refl 0, hbestScore.1⟩
      | cons second others =>
        refine ⟨(hscores second (hin (List.mem_cons_of_mem _ List.mem_cons_self))).1, ?_⟩
        exact score_le_of_rankKey ((List.pairwise_cons.mp hsorted).1 second List.mem_cons_self)
    refine ⟨?_, ?_, ?_, fun candidate hcandidate => ?_, fun _ hnone => ?_⟩
    · rw [hscore]
      exact hbestScore
    · rw [hscore, hrunner]
      exact hsecond
    · rw [hscore, hrunner, hmargin]
    · rw [hbest] at hcandidate
      rw [← Option.some.inj hcandidate]
      exact hids best (hin List.mem_cons_self)
    · rw [hbest] at hnone
      cases hnone

end Outcomes

/-! ## Every outcome of a run -/

section Runs

variable {patterns : TextPatterns} {rarity : Nat → Nat → ℚ}

theorem matchAll_items (legalItems : List LegalWorkItem) (catalogue : List CurrentTopicItem) :
    (matchAll patterns rarity legalItems catalogue).map (·.legalItemId) =
      legalItems.map (·.pk) := by
  unfold matchAll
  dsimp only
  rw [List.map_map]
  exact List.map_congr_left fun item _ => decideBy_item

theorem matchArchive_items (legalItems : List LegalWorkItem) (archive : List ArchivedTopicItem)
    (excludedUrls : List String) :
      (matchArchive patterns rarity legalItems archive excludedUrls).map
      (·.legalItemId) = legalItems.map (·.pk) := by
  unfold matchArchive
  dsimp only
  rw [List.map_map]
  exact List.map_congr_left fun item _ => decideBy_item

variable (hrarity : ∀ total count, count ≤ total → 0 < rarity total count)
include hrarity

theorem matchAll_sound {legalItems : List LegalWorkItem} {catalogue : List CurrentTopicItem}
    {outcome : MatchOutcome} (h : outcome ∈ matchAll patterns rarity legalItems catalogue) :
    outcome.Sound (catalogue.map (·.pk)) := by
  unfold matchAll at h
  obtain ⟨item, -, rfl⟩ := List.mem_map.mp h
  refine decideBy_sound (fun entry hentry => ?_) fun entry hentry => ?_
  · obtain ⟨candidate, -, rfl⟩ := List.mem_map.mp hentry
    exact pairScore_mem currentRules_weighted (pairSignals_shares currentRules_weighted
      (inverseDocumentFrequency_positive hrarity _) _ _ _)
  · obtain ⟨candidate, hcandidate, rfl⟩ := List.mem_map.mp hentry
    obtain ⟨topic, htopic, rfl⟩ := List.mem_map.mp hcandidate
    exact List.mem_map.mpr ⟨topic, htopic, rfl⟩

theorem matchArchive_sound {legalItems : List LegalWorkItem} {archive : List ArchivedTopicItem}
    {excludedUrls : List String} {outcome : MatchOutcome}
    (h : outcome ∈ matchArchive patterns rarity legalItems archive excludedUrls) :
    outcome.Sound ((archive.filter (·.isMatchable)).map (·.pk)) := by
  unfold matchArchive at h
  obtain ⟨item, -, rfl⟩ := List.mem_map.mp h
  refine decideBy_sound (fun entry hentry => ?_) fun entry hentry => ?_
  · obtain ⟨candidate, -, rfl⟩ := List.mem_map.mp hentry
    exact pairScore_mem archiveRules_weighted (pairSignals_shares archiveRules_weighted
      (inverseDocumentFrequency_positive hrarity _) _ _ _)
  · obtain ⟨candidate, hcandidate, rfl⟩ := List.mem_map.mp hentry
    obtain ⟨topic, htopic, rfl⟩ := List.mem_map.mp hcandidate
    obtain ⟨husable, hmatchable⟩ := List.mem_filter.mp htopic
    exact List.mem_map.mpr
      ⟨topic, List.mem_filter.mpr ⟨(List.mem_filter.mp husable).1, hmatchable⟩, rfl⟩

end Runs

/-! ## The verification -/

section Verify

variable {texts : MatchTexts} {itemIds alreadyMatched candidateIds matchableIds seen : List Nat}
  {outcome : MatchOutcome} {outcomes : List MatchOutcome}

theorem verifyScores_ok (h : outcome.Sound matchableIds) : verifyScores texts outcome = .ok () := by
  have hlow := h.runnerUp.1
  have hle := h.runnerUp.2
  have hhigh := h.score.2
  have hmargin := h.margin
  have hscale {q : ℚ} (hq : 0 ≤ q ∧ q ≤ 100) : outOfScale q = false := by
    unfold outOfScale
    rw [decide_eq_false (not_lt.mpr hq.1), decide_eq_false (not_lt.mpr hq.2)]
    rfl
  unfold verifyScores
  rw [if_neg fun hmissing => h.matched hmissing.1 hmissing.2, if_neg, if_neg (not_lt.mpr hle),
    if_neg (not_not.mpr hmargin)]
  simp only [List.any_cons, List.any_nil, hscale h.score, hscale ⟨hlow, hle.trans hhigh⟩,
    hscale (q := outcome.scoreMargin) ⟨by linarith, by linarith⟩]
  decide

theorem verifyCandidate_ok (h : outcome.Sound matchableIds) (hids : matchableIds ⊆ candidateIds) :
    verifyCandidate texts candidateIds matchableIds outcome = .ok () := by
  unfold verifyCandidate
  cases hbest : outcome.bestCandidateId with
  | none => rfl
  | some candidate =>
    have hmatchable := h.candidate candidate hbest
    dsimp only
    rw [if_neg (not_not.mpr (hids hmatchable)), if_neg (not_not.mpr hmatchable)]

/-- One sound outcome for each record passes. -/
theorem verify_ok (hids : matchableIds ⊆ candidateIds)
    (hsound : ∀ outcome ∈ outcomes, outcome.Sound matchableIds)
    (hitems : ∀ outcome ∈ outcomes, outcome.legalItemId ∈ itemIds ∧
      outcome.legalItemId ∉ alreadyMatched ∧
      outcome.legalItemId ∉ seen)
    (hnodup : (outcomes.map (·.legalItemId)).Nodup)
    (hall : ∀ item ∈ itemIds, item ∈ seen ∨ item ∈ outcomes.map (·.legalItemId)) :
    verify texts itemIds alreadyMatched candidateIds matchableIds seen outcomes = .ok () := by
  induction outcomes generalizing seen with
  | nil =>
    have hmissing : itemIds.filter (· ∉ seen) = [] := by
      rw [List.filter_eq_nil_iff]
      intro item hitem hfresh
      cases hall item hitem with
      | inl hseen => exact of_decide_eq_true hfresh hseen
      | inr hnil => cases hnil
    unfold verify
    dsimp only
    rw [hmissing, if_neg (not_not.mpr rfl)]
  | cons outcome rest ih =>
    obtain ⟨hin, hnew, hfresh⟩ := hitems outcome List.mem_cons_self
    rw [List.map_cons, List.nodup_cons] at hnodup
    have hhead := hsound outcome List.mem_cons_self
    unfold verify
    rw [if_neg (not_not.mpr hin), if_neg hnew, if_neg hfresh, verifyCandidate_ok hhead hids,
      verifyScores_ok hhead]
    refine ih (fun outcome' h => hsound outcome' (List.mem_cons_of_mem _ h)) (fun outcome' h => ?_)
      hnodup.2 fun item hitem => ?_
    · obtain ⟨hin', hnew', hfresh'⟩ := hitems outcome' (List.mem_cons_of_mem _ h)
      refine ⟨hin', hnew', fun hseen => ?_⟩
      cases List.mem_cons.mp hseen with
      | inl heq => exact hnodup.1 (heq ▸ List.mem_map_of_mem h)
      | inr hold => exact hfresh' hold
    · cases hall item hitem with
      | inl hseen => exact Or.inl (List.mem_cons_of_mem _ hseen)
      | inr hmem =>
        rw [List.map_cons] at hmem
        cases List.mem_cons.mp hmem with
        | inl heq => exact Or.inl (heq ▸ List.mem_cons_self)
        | inr hrest => exact Or.inr hrest

/-- The outcomes of a matcher over distinct records pass. -/
theorem verify_matched {itemPks : List Nat} (hpks : itemPks.Nodup)
    (hmatched : outcomes.map (·.legalItemId) = itemPks) (hnew : ∀ pk ∈ itemPks, pk ∉ alreadyMatched)
    (hids : matchableIds ⊆ candidateIds)
    (hsound : ∀ outcome ∈ outcomes, outcome.Sound matchableIds) :
    verify texts itemPks alreadyMatched candidateIds matchableIds [] outcomes = .ok () := by
  refine verify_ok hids hsound (fun outcome h => ?_) (hmatched.symm ▸ hpks) fun item hitem => ?_
  · have hin : outcome.legalItemId ∈ itemPks := hmatched ▸ List.mem_map_of_mem h
    exact ⟨hin, hnew _ hin, List.not_mem_nil⟩
  · rw [hmatched]
    exact Or.inr hitem

end Verify

/-! ## Every history -/

section Histories

variable {matchAll : List LegalWorkItem → List CurrentTopicItem → List MatchOutcome}
  {matchArchive : List LegalWorkItem → List ArchivedTopicItem → List String → List MatchOutcome}
  {db : TopicDb}

theorem matchStep_legalKeys (db : TopicDb) (action : MatchAction)
    (h : Table.UniqueKeys db.legalItems) :
    Table.UniqueKeys (matchStep matchAll matchArchive db action).legalItems := by
  cases action with
  | wait elapsed => exact h
  | importLegalWork source items =>
    exact Table.uniqueKeys_append_mapIdx h items
      (fun pk item => { item with pk := pk, snapshot := Table.nextPk db.legalSnapshots })
      (fun _ _ => rfl) fun _ hr => Table.pk_lt_nextPk hr
  | publishCurrentTopics source items => exact h
  | publishArchivedTopics source items => exact h
  | runCurrentTopicMatching dryRun =>
    show Table.UniqueKeys (runCurrentTopicMatching matchAll db dryRun).1.legalItems
    unfold runCurrentTopicMatching
    cases hrun : currentTopicRun matchAll db dryRun with
    | error message => exact h
    | ok result =>
      obtain ⟨-, -, -, -, -, rows, hdb⟩ := currentTopicRun_ok hrun
      show Table.UniqueKeys result.1.legalItems
      rw [hdb]
      exact h
  | runArchiveMatching dryRun =>
    show Table.UniqueKeys (runArchiveMatching matchArchive db dryRun).1.legalItems
    unfold runArchiveMatching
    cases hrun : archiveRun matchArchive db dryRun with
    | error message => exact h
    | ok result =>
      obtain ⟨-, -, -, -, -, -, -, rows, hdb⟩ := archiveRun_ok hrun
      show Table.UniqueKeys result.1.legalItems
      rw [hdb]
      exact h

theorem consultationItems_nodup (h : Table.UniqueKeys db.legalItems) (legal : Nat) :
    ((consultationItems db legal).map (·.pk)).Nodup :=
  ((perm_sortOn _ _).map _).nodup_iff.mpr (h.sublist (List.filter_sublist.map _))

end Histories

section Law

/-- What `_verify` answers in a current-topic run over the two snapshots. -/
def currentVerification (outcomes : List LegalWorkItem → List CurrentTopicItem → List MatchOutcome)
    (db : TopicDb) (legal topics : Nat) : Except String Unit :=
  let legalItems := consultationItems db legal
  let candidates := sortOn (·.sourceOrder) (db.topicItems.filter (·.snapshot = topics))
  let candidateIds := candidates.map (·.pk)
  verify currentTexts (legalItems.map (·.pk)) [] candidateIds candidateIds []
    (outcomes legalItems candidates)

/-- What `_verify` answers in an archive run over the records that are not matched yet. -/
def archiveVerification
    (outcomes : List LegalWorkItem → List ArchivedTopicItem → List String → List MatchOutcome)
    (db : TopicDb) (legal archive : Nat) (alreadyMatched : List Nat) (excludedUrls : List String) :
    Except String Unit :=
  let legalItems := (consultationItems db legal).filter (·.pk ∉ alreadyMatched)
  let archiveItems := sortOn (·.sourceOrder) (db.archiveItems.filter (·.snapshot = archive))
  verify archiveTexts (legalItems.map (·.pk)) alreadyMatched (archiveItems.map (·.pk))
    ((archiveItems.filter (·.isMatchable)).map (·.pk)) []
      (outcomes legalItems archiveItems excludedUrls)

/-- A live run over inputs that were not matched before verifies its outcomes and writes them. -/
theorem currentTopicRun_eq
    {outcomes : List LegalWorkItem → List CurrentTopicItem → List MatchOutcome} {db : TopicDb}
    {legal : LegalWorkSnapshot} {topics : CurrentTopicSnapshot}
    (hlegal : current? db.legalSnapshots = some legal)
    (htopics : current? db.topicSnapshots = some topics)
    (hfresh : existing? MATCHER_VERSION (CurrentTopicInputs.mk legal.pk topics.pk)
      db.topicMatchSnapshots = none) :
    currentTopicRun outcomes db false = (do
      let legalItems := consultationItems db legal.pk
      let candidates := sortOn (·.sourceOrder) (db.topicItems.filter (·.snapshot = topics.pk))
      currentVerification outcomes db legal.pk topics.pk
      let written ← writeMatches currentTexts MATCHER_VERSION db.clock ⟨legal.pk, topics.pk⟩
        legalItems.length (outcomes legalItems candidates) db.topicMatchSnapshots db.topicMatches
      return ({ db with topicMatchSnapshots := written.snapshots, topicMatches := written.rows },
        snapshotReport .imported currentTexts.published false
          (some candidates.length) written.snapshot)) := by
  unfold currentTopicRun currentVerification
  rw [hlegal, htopics]
  dsimp only
  rw [hfresh]
  rfl

theorem archiveRun_eq
    {outcomes : List LegalWorkItem → List ArchivedTopicItem → List String → List MatchOutcome}
    {db : TopicDb} {legal : LegalWorkSnapshot} {archive : ArchivedTopicSnapshot}
    {currentMatch : LegalCurrentTopicMatchSnapshot}
    (hlegal : current? db.legalSnapshots = some legal)
    (harchive : current? db.archiveSnapshots = some archive)
    (hmatch : current? db.topicMatchSnapshots = some currentMatch)
    (hsame : currentMatch.inputs.legalSnapshot = legal.pk)
    (hfresh : existing? ARCHIVE_MATCHER_VERSION
      (ArchivedTopicInputs.mk legal.pk archive.pk currentMatch.pk)
      db.archiveMatchSnapshots = none) :
    archiveRun outcomes db false = (do
      let alreadyMatched := (db.topicMatches.filter fun row =>
        row.snapshot = currentMatch.pk && decide (row.decision = .matched)).map (·.legalItem)
      let legalItems := (consultationItems db legal.pk).filter (·.pk ∉ alreadyMatched)
      let excludedUrls := (db.topicItems.filter
        (·.snapshot = currentMatch.inputs.currentTopicSnapshot)).map (·.canonicalUrl)
      let archiveItems := sortOn (·.sourceOrder) (db.archiveItems.filter (·.snapshot = archive.pk))
      archiveVerification outcomes db legal.pk archive.pk alreadyMatched excludedUrls
      let written ← writeMatches archiveTexts ARCHIVE_MATCHER_VERSION db.clock
        ⟨legal.pk, archive.pk, currentMatch.pk⟩ legalItems.length
        (outcomes legalItems archiveItems excludedUrls) db.archiveMatchSnapshots db.archiveMatches
      return ({ db with
          archiveMatchSnapshots := written.snapshots
          archiveMatches := written.rows },
        snapshotReport .imported archiveTexts.published false none written.snapshot)) := by
  unfold archiveRun archiveVerification
  rw [hlegal, hmatch]
  dsimp only
  rw [if_neg (not_not.mpr hsame), harchive]
  dsimp only
  rw [hfresh]
  rfl

/-- One outcome for each record, every one of them sound, and no run after any history is
rejected. -/
structure MatcherVerified (patterns : TextPatterns) (rarity : Nat → Nat → ℚ) : Prop where
  currentItems : ∀ legalItems catalogue,
    (matchAll patterns rarity legalItems catalogue).map (·.legalItemId) = legalItems.map (·.pk)
  currentSound : ∀ legalItems catalogue, ∀ outcome ∈ matchAll patterns rarity legalItems catalogue,
    outcome.Sound (catalogue.map (·.pk))
  archiveItems : ∀ legalItems catalogue excludedUrls,
    (matchArchive patterns rarity legalItems catalogue excludedUrls).map (·.legalItemId) =
      legalItems.map (·.pk)
  archiveSound : ∀ legalItems catalogue excludedUrls,
    ∀ outcome ∈ matchArchive patterns rarity legalItems catalogue excludedUrls,
      outcome.Sound ((catalogue.filter (·.isMatchable)).map (·.pk))
  verified : ∀ actions,
    let db := run (matchStep (matchAll patterns rarity) (matchArchive patterns rarity))
      TopicDb.empty actions
    (∀ legal topics, currentVerification (matchAll patterns rarity) db legal topics = .ok ()) ∧
      ∀ legal archive alreadyMatched excludedUrls,
        archiveVerification (matchArchive patterns rarity) db legal archive alreadyMatched
          excludedUrls = .ok ()

/-- **A matcher passes its own verification.** -/
theorem matcher_verified (patterns : TextPatterns) (rarity : Nat → Nat → ℚ)
    (hrarity : ∀ total count, count ≤ total → 0 < rarity total count) :
      MatcherVerified patterns rarity := by
  refine ⟨matchAll_items, fun _ _ _ => matchAll_sound hrarity, matchArchive_items,
    fun _ _ _ _ => matchArchive_sound hrarity, fun actions => ?_⟩
  intro db
  have hkeys : Table.UniqueKeys db.legalItems :=
    run_keeps matchStep_legalKeys actions
      (show Table.UniqueKeys TopicDb.empty.legalItems from List.nodup_nil)
  constructor
  · intro legal topics
    exact verify_matched (consultationItems_nodup hkeys legal) (matchAll_items _ _)
      (fun _ _ => List.not_mem_nil) (List.Subset.refl _) fun _ => matchAll_sound hrarity
  · intro legal archive alreadyMatched excludedUrls
    refine verify_matched
      ((consultationItems_nodup hkeys legal).sublist (List.filter_sublist.map _))
      (matchArchive_items _ _ _) (fun pk hpk => ?_) (List.map_subset _ (List.filter_subset_self _))
      fun _ => matchArchive_sound hrarity
    obtain ⟨item, hitem, rfl⟩ := List.mem_map.mp hpk
    exact of_decide_eq_true (List.mem_filter.mp hitem).2

theorem matcher_verified_plain : (∀ total count : Nat, count ≤ total →
      (0 : ℚ) < ((total - count : Nat) + 1 / 2) / (count + 1 / 2)) ∧
    MatcherVerified plainPatterns fun total count =>
      ((total - count : Nat) + 1 / 2) / (count + 1 / 2) := by
  have hpos : ∀ total count : Nat, count ≤ total →
      (0 : ℚ) < ((total - count : Nat) + 1 / 2) / (count + 1 / 2) :=
        fun total count _ => by positivity
  exact ⟨hpos, matcher_verified plainPatterns _ hpos⟩

end Law

end Dashkoda.LegalWork
