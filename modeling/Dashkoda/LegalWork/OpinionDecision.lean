import Dashkoda.LegalWork.OpinionMatching

/-!
# Deciding which document answered a legal record

The best of the documents that may lead is chosen when it is far enough ahead, and the documents
that belong beside it are grouped with it.  The order the candidates come in decides nothing.
-/

open Lib

namespace Dashkoda.LegalWork

namespace Opinion

def THRESHOLD_MATCH : ℚ := 70
def THRESHOLD_AMBIGUOUS : ℚ := 45
def MIN_MARGIN : ℚ := 12

/-- How close a secondary document must sit to the primary to be grouped with it. -/
def GROUPING_DAYS : Nat := 10

inductive DocumentRole where
  | primary
  | joint
  | supplementary
  | followUp
  | annex
  | supporting
  deriving DecidableEq, Repr

/-- `SECONDARY_ROLE.get(classification)` -/
def secondaryRole : DocumentClassification → Option DocumentRole
  | .jointOpinion => some .joint
  | .supplementaryOpinion => some .supplementary
  | .followUp => some .followUp
  | .annex => some .annex
  | .supportingDocument => some .supporting
  | .opinion => none
  | .unknown => none

/-- `candidate.filename_date or candidate.detected_date` -/
def Candidate.ownDate (candidate : Candidate) : Option Date :=
  candidate.filenameDate.or candidate.detectedDate

/-- Both are dated, and too far apart. -/
def farApart (primary other : Candidate) : Bool :=
  primary.ownDate.any fun primaryDate =>
    other.ownDate.any fun otherDate => GROUPING_DAYS < otherDate.daysBetween primaryDate

/-- What `_group` asks of a document beside the primary. -/
def belongsWith (primary other : Scored) : Bool :=
  (secondaryRole other.candidate.classification).isSome && !farApart primary.candidate
    other.candidate &&
    !decide (other.score < THRESHOLD_AMBIGUOUS)

/-- `_group` -/
def group (primary : Scored) (others : List Scored) : List Scored :=
  others.filter (belongsWith primary)

/-- The decision, the best document, the runner-up and the documents grouped with the best. -/
structure Decided where
  decision : MatchDecision
  best : Option Scored
  runnerUp : Option Scored
  grouped : List Scored
  deriving DecidableEq

def Decided.bestScore (decided : Decided) : Option ℚ := decided.best.map (·.score)

def Decided.runnerUpScore (decided : Decided) : Option ℚ := decided.runnerUp.map (·.score)

/-- The documents that may lead, the highest score first. -/
def leaders (scored : List Scored) : List Scored :=
  sortOn (fun entry => -entry.score) ((scored.filter (!·.blocked)).filter (·.canBePrimary))

def companions (scored : List Scored) : List Scored :=
  (scored.filter (!·.blocked)).filter (!·.canBePrimary)

/-- The decision over the scored candidates of one record. -/
def decideScored (scored : List Scored) : Decided :=
  match leaders scored with
  | [] => ⟨.unmatched, none, none, []⟩
  | best :: rest =>
    let margin := best.score - (rest.head?.map (·.score)).getD 0
    if THRESHOLD_MATCH ≤ best.score ∧ MIN_MARGIN ≤ margin then
      ⟨.matched, some best, rest.head?, group best (rest ++ companions scored)⟩
    else if THRESHOLD_AMBIGUOUS ≤ best.score then ⟨.ambiguous, some best, rest.head?, []⟩
    else ⟨.unmatched, some best, rest.head?, []⟩

/-- `_decide` -/
def decideOpinion (patterns : TextPatterns) (order : SetOrder String) (topic recipient : String)
    (sentDate : Date) (receivedDate : Option Date) (candidates : List Candidate)
    (rarity : Dict String Binary64) : Decided :=
  decideScored (candidates.map fun candidate =>
    scoreCandidate patterns order topic recipient candidate rarity sentDate receivedDate)

/-! ## The order of the candidates -/

section Order

variable {scored scored' : List Scored} {best best' : Scored} {rest rest' : List Scored}

theorem leaders_perm (h : scored.Perm scored') : (leaders scored).Perm (leaders scored') :=
  (perm_sortOn _ _).trans (((h.filter _).filter _).trans (perm_sortOn _ _).symm)

theorem companions_perm (h : scored.Perm scored') : (companions scored).Perm (companions scored') :=
  (h.filter _).filter _

/-- Ranked by their scores, the leaders show the same scores. -/
theorem leaders_scores (h : scored.Perm scored') :
    (leaders scored).map (·.score) = (leaders scored').map (·.score) := by
  have hkeys := @map_sortOn_of_perm _ _ _ (fun entry : Scored => -entry.score) _ _
    ((h.filter (!·.blocked)).filter (·.canBePrimary))
  have hneg (rows : List Scored) : rows.map (·.score) =
      (rows.map fun entry => -entry.score).map (- ·) := by
    rw [List.map_map]
    exact List.map_congr_left fun entry _ => (neg_neg entry.score).symm
  rw [hneg, hneg (leaders scored')]
  exact congrArg (List.map (- ·)) hkeys

theorem le_best (hleaders : leaders scored = best :: rest) {other : Scored}
    (hother : other ∈ rest) :
    other.score ≤ (rest.head?.map (·.score)).getD 0 := by
  have hsorted := pairwise_sortOn (fun entry : Scored => -entry.score)
    ((scored.filter (!·.blocked)).filter (·.canBePrimary))
  change (leaders scored).Pairwise _ at hsorted
  rw [hleaders] at hsorted
  cases rest with
  | nil => cases hother
  | cons second others =>
    show other.score ≤ second.score
    cases List.mem_cons.mp hother with
    | inl heq => rw [heq]
    | inr hin =>
      have hrest := (List.pairwise_cons.mp (List.pairwise_cons.mp hsorted).2).1 other hin
      exact neg_le_neg_iff.mp hrest

/-- A leader that is ahead by the margin is the leader of every order. -/
theorem best_unique (h : scored.Perm scored') (hleaders : leaders scored = best :: rest)
    (hleaders' : leaders scored' = best' :: rest')
    (hmargin : MIN_MARGIN ≤ best.score - (rest.head?.map (·.score)).getD 0) : best' = best := by
  have hscores := leaders_scores h
  rw [hleaders, hleaders', List.map_cons, List.map_cons, List.cons.injEq] at hscores
  have hin : best' ∈ best :: rest := by
    rw [← hleaders, (leaders_perm h).mem_iff, hleaders']
    exact List.mem_cons_self
  cases List.mem_cons.mp hin with
  | inl heq => exact heq
  | inr hrest =>
    have hle := le_best hleaders hrest
    unfold MIN_MARGIN at hmargin
    linarith [hscores.1]

/-- What does not change with the order of the candidates. -/
structure SameDecision (decided decided' : Decided) : Prop where
  decision : decided.decision = decided'.decision
  bestScore : decided.bestScore = decided'.bestScore
  runnerUpScore : decided.runnerUpScore = decided'.runnerUpScore
  best : decided.decision = .matched → decided.best = decided'.best
  grouped : decided.decision = .matched → decided.grouped.Perm decided'.grouped
  roles : decided.decision = .matched →
    ∀ entry ∈ decided.grouped, (secondaryRole entry.candidate.classification).isSome

theorem group_roles {primary entry : Scored} {others : List Scored}
    (h : entry ∈ group primary others) :
    (secondaryRole entry.candidate.classification).isSome := by
  have hbelongs := (List.mem_filter.mp h).2
  unfold belongsWith at hbelongs
  rw [Bool.and_eq_true, Bool.and_eq_true] at hbelongs
  exact hbelongs.1.1

theorem decideScored_perm (h : scored.Perm scored') :
    SameDecision (decideScored scored) (decideScored scored') := by
  have hperm := leaders_perm h
  have hscores := leaders_scores h
  unfold decideScored
  cases hleaders : leaders scored with
  | nil =>
    rw [hleaders] at hperm
    rw [hperm.nil_eq.symm]
    exact ⟨rfl, rfl, rfl, fun hmatched => (by cases hmatched), fun hmatched => (by cases hmatched),
      fun hmatched => (by cases hmatched)⟩
  | cons best rest =>
    cases hleaders' : leaders scored' with
    | nil =>
      rw [hleaders, hleaders'] at hperm
      cases hperm.eq_nil
    | cons best' rest' =>
      rw [hleaders, hleaders'] at hscores hperm
      rw [List.map_cons, List.map_cons, List.cons.injEq] at hscores
      obtain ⟨hbest, hrest⟩ := hscores
      have hsecond : rest.head?.map (·.score) = rest'.head?.map (·.score) := by
        rw [← List.head?_map, hrest, List.head?_map]
      dsimp only
      rw [← hbest, ← hsecond]
      split
      · rename_i hmatch
        have hsame := best_unique h hleaders hleaders' hmatch.2
        subst hsame
        have hothers : (rest ++ companions scored).Perm (rest' ++ companions scored') :=
          hperm.cons_inv.append (companions_perm h)
        exact ⟨rfl, rfl, hsecond, fun _ => rfl, fun _ => hothers.filter _, fun _ _ => group_roles⟩
      · split
        · exact ⟨rfl, congrArg some hbest, hsecond, fun hmatched => (by cases hmatched),
            fun hmatched => (by cases hmatched), fun hmatched => (by cases hmatched)⟩
        · exact ⟨rfl, congrArg some hbest, hsecond, fun hmatched => (by cases hmatched),
            fun hmatched => (by cases hmatched), fun hmatched => (by cases hmatched)⟩

end Order

/-- **The order of the candidates decides nothing.** -/
structure OrderIndependent (patterns : TextPatterns) : Prop where
  scored : ∀ scored scored', scored.Perm scored' →
    SameDecision (decideScored scored) (decideScored scored')
  candidates : ∀ order topic recipient sentDate receivedDate candidates candidates' rarity,
    candidates.Perm candidates' →
      SameDecision
        (decideOpinion patterns order topic recipient sentDate receivedDate candidates rarity)
        (decideOpinion patterns order topic recipient sentDate receivedDate candidates' rarity)

theorem opinion_orderIndependent (patterns : TextPatterns) : OrderIndependent patterns :=
  ⟨fun _ _ => decideScored_perm, fun _ _ _ _ _ _ _ _ h => decideScored_perm (h.map _)⟩

end Opinion

end Dashkoda.LegalWork
