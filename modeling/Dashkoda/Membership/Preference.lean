import Dashkoda.Lib.Except
import Dashkoda.Lib.Runs
import Dashkoda.Membership.Manual

/-!
# One preferred observation for each date

The rule every chart rests on: among the rows of a date that are not superseded, exactly the one
the precedence rules pick is preferred.  An election restores the rule for its own date.  Retiring
a preferred row disturbs the rule at that row's date, and only the date of the replacement is
elected again.
-/

open Lib

namespace Dashkoda.Membership

open Sources (Time)

/-- The row the precedence rules pick for a date, among the rows that compete for it. -/
def Wins (rows : List Observation) (source : Nat) (date : Date) (row : Observation) : Prop :=
  competes source date row = true ∧
    ∀ r ∈ rows, competes source date r = true →
      (candidate row).sortKey ≤ (candidate r).sortKey

/-- The flags of one date are as an election leaves them. -/
def Elected (rows : List Observation) (source : Nat) (date : Date) : Prop :=
  ∀ row ∈ rows, row.source = source → row.observationDate = date →
    (row.isPreferredForDate = true ↔ Wins rows source date row)

/-- Distinct keys, no superseded row preferred, and every date elected except those in `open`. -/
structure Sound (rows : List Observation) (disturbed : Nat → Date → Prop) : Prop where
  keys : Table.UniqueKeys rows
  superseded : ∀ row ∈ rows, row.qualityStatus = .superseded → row.isPreferredForDate = false
  elected : ∀ source date, ¬ disturbed source date → Elected rows source date

theorem competes_iff (source : Nat) (date : Date) (row : Observation) :
    competes source date row = true ↔
      row.source = source ∧ row.observationDate = date ∧ row.qualityStatus ≠ .superseded := by
  simp [competes, and_assoc]

theorem mem_competingRows {rows : List Observation} {source : Nat} {date : Date}
    {row : Observation} :
    row ∈ competingRows rows source date ↔ row ∈ rows ∧ competes source date row = true :=
  List.mem_filter

theorem pk_eq_of_sortKey_eq {a b : Observation}
    (h : (candidate a).sortKey = (candidate b).sortKey) : a.pk = b.pk := by
  simp only [PreferenceCandidate.sortKey, EmbeddingLike.apply_eq_iff_eq, Prod.mk.injEq] at h
  have htie : (-(a.pk : Int)) = -(b.pk : Int) := h.2.2.2
  omega

/-- The row whose key `choose_preferred` returns is the one that wins. -/
theorem winnerKey_eq_some_iff {rows : List Observation} (hkeys : Table.UniqueKeys rows)
    {source : Nat} {date : Date} {row : Observation} (hrow : row ∈ rows) :
    winnerKey rows source date = some row.pk ↔ Wins rows source date row := by
  have hmin : winnerKey rows source date =
      (minOn? (fun r => (candidate r).sortKey) (competingRows rows source date)).map
        fun r => r.pk := by
    unfold winnerKey choosePreferred
    rw [minOn?_map, Option.map_map]
    rfl
  rw [hmin]
  constructor
  · intro h
    obtain ⟨winner, hwinner, hpk⟩ := Option.map_eq_some_iff.mp h
    have hmem := mem_competingRows.mp (minOn?_mem hwinner)
    have heq : winner = row := Table.eq_of_pk_eq hkeys hmem.1 hrow hpk
    subst heq
    exact ⟨hmem.2, fun r hr hr' => minOn?_le hwinner (mem_competingRows.mpr ⟨hr, hr'⟩)⟩
  · rintro ⟨hcompetes, hleast⟩
    refine Option.map_eq_some_iff.mpr ⟨row, ?_, rfl⟩
    refine minOn?_eq_some_of_forall_le (mem_competingRows.mpr ⟨hrow, hcompetes⟩) ?_ ?_
    · intro r hr
      exact hleast r (mem_competingRows.mp hr).1 (mem_competingRows.mp hr).2
    · intro r hr hkey
      exact Table.eq_of_pk_eq hkeys (mem_competingRows.mp hr).1 hrow (pk_eq_of_sortKey_eq hkey)

theorem winnerKey_eq_none_iff {rows : List Observation} {source : Nat} {date : Date} :
    winnerKey rows source date = none ↔ competingRows rows source date = [] := by
  simp [winnerKey, choosePreferred_eq_none_iff]

/-- A change of rows that keeps what they compete with keeps who wins. -/
theorem wins_map {rows : List Observation} {f : Observation → Observation} {source : Nat}
    {date : Date} (hcompetes : ∀ r ∈ rows, competes source date (f r) = competes source date r)
    (hcandidate : ∀ r ∈ rows, competes source date r = true → candidate (f r) = candidate r)
    {row : Observation} (hrow : row ∈ rows) :
    Wins (rows.map f) source date (f row) ↔ Wins rows source date row := by
  unfold Wins
  rw [hcompetes row hrow]
  constructor
  · rintro ⟨hrowCompetes, hleast⟩
    refine ⟨hrowCompetes, fun r hr hr' => ?_⟩
    have := hleast (f r) (List.mem_map_of_mem hr) ((hcompetes r hr).trans hr')
    rwa [hcandidate row hrow hrowCompetes, hcandidate r hr hr'] at this
  · rintro ⟨hrowCompetes, hleast⟩
    refine ⟨hrowCompetes, fun r' hr' hcomp => ?_⟩
    obtain ⟨r, hr, rfl⟩ := List.mem_map.mp hr'
    rw [hcompetes r hr] at hcomp
    rw [hcandidate row hrow hrowCompetes, hcandidate r hr hcomp]
    exact hleast r hr hcomp

/-! ## An election -/

/-- The flags an election of one date leaves. -/
def electedRow (rows : List Observation) (source : Nat) (date : Date) (row : Observation) :
    Observation :=
  if competes source date row then
    { row with isPreferredForDate := decide (winnerKey rows source date = some row.pk) }
  else row

@[simp] theorem electedRow_pk (rows : List Observation) (source : Nat) (date : Date)
    (row : Observation) : (electedRow rows source date row).pk = row.pk := by
  unfold electedRow
  split <;> rfl

@[simp] theorem electedRow_source (rows : List Observation) (source : Nat) (date : Date)
    (row : Observation) : (electedRow rows source date row).source = row.source := by
  unfold electedRow
  split <;> rfl

@[simp] theorem electedRow_observationDate (rows : List Observation) (source : Nat) (date : Date)
    (row : Observation) :
    (electedRow rows source date row).observationDate = row.observationDate := by
  unfold electedRow
  split <;> rfl

@[simp] theorem electedRow_qualityStatus (rows : List Observation) (source : Nat) (date : Date)
    (row : Observation) : (electedRow rows source date row).qualityStatus = row.qualityStatus := by
  unfold electedRow
  split <;> rfl

theorem electedRow_candidate (rows : List Observation) (source : Nat) (date : Date)
    (row : Observation) : candidate (electedRow rows source date row) = candidate row := by
  unfold electedRow
  split <;> rfl

theorem electedRow_competes (rows : List Observation) (source source' : Nat) (date date' : Date)
    (row : Observation) :
    competes source' date' (electedRow rows source date row) = competes source' date' row := by
  simp [competes]

theorem wins_electedRow {rows : List Observation} (source source' : Nat) (date date' : Date)
    {row : Observation} (hrow : row ∈ rows) :
    Wins (rows.map (electedRow rows source date)) source' date' (electedRow rows source date row) ↔
      Wins rows source' date' row :=
  wins_map (fun r _ => electedRow_competes rows source source' date date' r)
    (fun r _ _ => electedRow_candidate rows source date r) hrow

theorem withPreferred_eq_self {row : Observation} {flag : Bool}
    (h : row.isPreferredForDate = flag) : { row with isPreferredForDate := flag } = row := by
  subst h
  rfl

section Election

variable {rows : List Observation} {disturbed : Nat → Date → Prop} {source : Nat} {date : Date}

/-- The row after the first loop of the election. -/
def clearedRow (source : Nat) (date : Date) (pk : Nat) (row : Observation) : Observation :=
  if competes source date row && row.isPreferredForDate && row.pk ≠ pk then
    { row with isPreferredForDate := false }
  else row

theorem clearedRow_of_pk_ne {pk : Nat} {row : Observation} (hcompetes : competes source date row)
    (hpk : row.pk ≠ pk) :
    clearedRow source date pk row = { row with isPreferredForDate := false } := by
  unfold clearedRow
  split
  · rfl
  · rename_i hkept
    rw [withPreferred_eq_self]
    simpa [hcompetes, hpk] using hkept

theorem clearedRow_of_not_competes {pk : Nat} {row : Observation}
    (hcompetes : competes source date row = false) : clearedRow source date pk row = row := by
  simp [clearedRow, hcompetes]

theorem clearedRow_of_pk_eq {row : Observation} :
    clearedRow source date row.pk row = row := by
  simp [clearedRow]

@[simp] theorem clearedRow_pk (pk : Nat) (row : Observation) :
    (clearedRow source date pk row).pk = row.pk := by
  unfold clearedRow
  split <;> rfl

/-- After the first loop, no row but the winner holds the flag of the date. -/
theorem Sound.no_other_holder (h : Sound rows disturbed) (pk : Nat) :
    ((rows.map (clearedRow source date pk)).any fun r =>
      r.pk ≠ pk && r.prefersDate source date) = false := by
  rw [List.any_eq_false]
  intro r' hr'
  obtain ⟨r, hr, rfl⟩ := List.mem_map.mp hr'
  by_cases hpk : r.pk = pk
  · simp [hpk]
  · by_cases hcompetes : competes source date r = true
    · rw [clearedRow_of_pk_ne hcompetes hpk]
      simp [Observation.prefersDate]
    · rw [clearedRow_of_not_competes (by simpa using hcompetes)]
      intro hholder
      simp only [Observation.prefersDate, Bool.and_eq_true, decide_eq_true_eq] at hholder
      obtain ⟨-, ⟨hsource, hdate⟩, hpreferred⟩ := hholder
      rw [competes_iff] at hcompetes
      have hsuperseded : r.qualityStatus = .superseded := by
        by_contra hne
        exact hcompetes ⟨hsource, hdate, hne⟩
      rw [h.superseded r hr hsuperseded] at hpreferred
      cases hpreferred

/-- An election sets the flags of its date and touches nothing else. -/
theorem Sound.electPreferredForDate_eq (h : Sound rows disturbed) (source : Nat) (date : Date) :
    electPreferredForDate rows source date = .ok (rows.map (electedRow rows source date)) := by
  unfold electPreferredForDate
  cases hwinner : winnerKey rows source date with
  | none =>
    have hempty := winnerKey_eq_none_iff.mp hwinner
    have hsame : ∀ r ∈ rows, electedRow rows source date r = r := fun r hr => by
      have hidle : competes source date r = false := by
        by_contra hcompetes
        have : r ∈ competingRows rows source date :=
          mem_competingRows.mpr ⟨hr, by simpa using hcompetes⟩
        rw [hempty] at this
        cases this
      simp [electedRow, hidle]
    rw [List.map_congr_left hsame, List.map_id'' (fun _ => rfl)]
  | some pk =>
    obtain ⟨winner, hmem, hpk⟩ : ∃ winner ∈ rows, winner.pk = pk := by
      obtain ⟨chosen, hchosen, hkey⟩ := Option.map_eq_some_iff.mp hwinner
      obtain ⟨row, hrow, rfl⟩ := List.mem_map.mp (choosePreferred_mem hchosen)
      exact ⟨row, (mem_competingRows.mp hrow).1, hkey⟩
    subst hpk
    have hwins := (winnerKey_eq_some_iff h.keys hmem).mp hwinner
    have hget : Table.get? rows winner.pk = some winner := Table.get?_of_mem h.keys hmem
    have hkey := (competes_iff source date winner).mp hwins.1
    have hrow (r : Observation) (hr : r ∈ rows) : electedRow rows source date r =
        if r.pk = winner.pk then { winner with isPreferredForDate := true }
        else clearedRow source date winner.pk r := by
      split
      · rename_i hpk
        have : r = winner := Table.eq_of_pk_eq h.keys hr hmem hpk
        subst this
        simp [electedRow, hwins.1, hwinner]
      · rename_i hpk
        by_cases hcompetes : competes source date r = true
        · rw [clearedRow_of_pk_ne hcompetes hpk]
          simp [electedRow, hcompetes, hwinner, Ne.symm hpk]
        · rw [clearedRow_of_not_competes (by simpa using hcompetes)]
          simp [electedRow, hcompetes]
    have hcleared : Table.updateWhere
        (fun r => competes source date r && r.isPreferredForDate && r.pk ≠ winner.pk)
        (fun r => { r with isPreferredForDate := false }) rows =
          rows.map (clearedRow source date winner.pk) := rfl
    simp only [hcleared, hget]
    split
    · rename_i hpreferred
      congr 1
      refine List.map_congr_left fun r hr => ?_
      rw [hrow r hr]
      split
      · rename_i hpk
        have : r = winner := Table.eq_of_pk_eq h.keys hr hmem hpk
        subst this
        rw [clearedRow_of_pk_eq, withPreferred_eq_self hpreferred]
      · rfl
    · unfold preferRow
      rw [hkey.1, hkey.2.1, h.no_other_holder winner.pk, if_neg (by decide)]
      unfold Table.updateWhere
      rw [List.map_map]
      congr 1
      refine List.map_congr_left fun r hr => ?_
      rw [hrow r hr]
      simp only [Function.comp_apply, clearedRow_pk, decide_eq_true_eq]
      split
      · rename_i hpk
        have : r = winner := Table.eq_of_pk_eq h.keys hr hmem hpk
        subst this
        rw [clearedRow_of_pk_eq]
      · rfl

/-- An election restores the rule for its own date and keeps it elsewhere. -/
theorem Sound.elect (h : Sound rows disturbed) (source : Nat) (date : Date) :
    Sound (rows.map (electedRow rows source date)) fun source' date' =>
      disturbed source' date' ∧ ¬ (source' = source ∧ date' = date) := by
  refine ⟨Table.uniqueKeys_map h.keys (electedRow_pk rows source date), ?_, ?_⟩
  · intro row' hrow' hsuperseded
    obtain ⟨row, hrow, rfl⟩ := List.mem_map.mp hrow'
    rw [electedRow_qualityStatus] at hsuperseded
    have hidle : competes source date row = false := by simp [competes, hsuperseded]
    rw [electedRow, hidle]
    exact h.superseded row hrow hsuperseded
  · intro source' date' hcalm row' hrow' hsource hdate
    obtain ⟨row, hrow, rfl⟩ := List.mem_map.mp hrow'
    rw [electedRow_source] at hsource
    rw [electedRow_observationDate] at hdate
    rw [wins_electedRow source source' date date' hrow]
    by_cases hcompetes : competes source date row = true
    · obtain ⟨hs, hd, -⟩ := (competes_iff source date row).mp hcompetes
      subst hsource hdate hs hd
      rw [← winnerKey_eq_some_iff h.keys hrow]
      simp [electedRow, hcompetes]
    · have hsame : electedRow rows source date row = row := by simp [electedRow, hcompetes]
      rw [hsame]
      by_cases hhere : source' = source ∧ date' = date
      · obtain ⟨rfl, rfl⟩ := hhere
        have hsuperseded : row.qualityStatus = .superseded := by
          by_contra hne
          exact hcompetes ((competes_iff _ _ row).mpr ⟨hsource, hdate, hne⟩)
        simp [h.superseded row hrow hsuperseded, Wins, hcompetes]
      · exact h.elected source' date' (fun hdisturbed => hcalm ⟨hdisturbed, hhere⟩) row hrow
          hsource hdate

end Election

/-! ## Retiring, adding and stamping rows -/

/-- Retiring `previous` leaves no date without its preferred row: it was not preferred, or its
date is elected next, or nothing else competes for its date. -/
def RetirementSafe (rows : List Observation) (previous : Nat) (reelected : Option (Nat × Date)) :
    Prop :=
  ∀ row ∈ rows, row.pk = previous → row.isPreferredForDate = true →
    reelected = some (row.source, row.observationDate) ∨
      ∀ r ∈ competingRows rows row.source row.observationDate, r.pk = previous

instance (rows : List Observation) (previous : Nat) (reelected : Option (Nat × Date)) :
    Decidable (RetirementSafe rows previous reelected) :=
  inferInstanceAs (Decidable (∀ _ ∈ rows, _))

section Changes

variable {rows : List Observation} {disturbed : Nat → Date → Prop}

/-- A change of columns the election never reads. -/
theorem Sound.map_same (h : Sound rows disturbed) {f : Observation → Observation}
    (hcandidate : ∀ r, candidate (f r) = candidate r)
    (hcompetes : ∀ source date r, competes source date (f r) = competes source date r)
    (hsource : ∀ r, (f r).source = r.source)
    (hdate : ∀ r, (f r).observationDate = r.observationDate)
    (hflag : ∀ r, (f r).isPreferredForDate = r.isPreferredForDate) :
    Sound (rows.map f) disturbed := by
  have hpk (r : Observation) : (f r).pk = r.pk := congrArg PreferenceCandidate.key (hcandidate r)
  have hquality (r : Observation) : (f r).qualityStatus = r.qualityStatus :=
    congrArg PreferenceCandidate.qualityStatus (hcandidate r)
  refine ⟨Table.uniqueKeys_map h.keys hpk, fun row' hrow' hsuperseded => ?_,
    fun source date hcalm row' hrow' hs hd => ?_⟩
  · obtain ⟨row, hrow, rfl⟩ := List.mem_map.mp hrow'
    rw [hflag]
    exact h.superseded row hrow ((hquality row).symm.trans hsuperseded)
  · obtain ⟨row, hrow, rfl⟩ := List.mem_map.mp hrow'
    rw [hflag, wins_map (fun r _ => hcompetes source date r) (fun r _ _ => hcandidate r) hrow]
    exact h.elected source date hcalm row hrow ((hsource row).symm.trans hs)
      ((hdate row).symm.trans hd)

/-- Only the date of the new row is disturbed. -/
theorem Sound.append (h : Sound rows disturbed) {row : Observation}
    (hpk : row.pk = Table.nextPk rows) (hflag : row.isPreferredForDate = false) :
    Sound (rows ++ [row]) fun source date =>
      disturbed source date ∨ (source = row.source ∧ date = row.observationDate) := by
  have hfresh : ∀ r ∈ rows, r.pk ≠ row.pk := fun r hr => by
    have : r.pk < Table.nextPk rows := Table.pk_lt_nextPk hr
    omega
  refine ⟨Table.uniqueKeys_append h.keys hfresh, fun r hr hsuperseded => ?_,
    fun source date hcalm r hr hs hd => ?_⟩
  · rcases List.mem_append.mp hr with hold | hnew
    · exact h.superseded r hold hsuperseded
    · rw [List.mem_singleton.mp hnew]
      exact hflag
  · rw [not_or] at hcalm
    have hidle : competes source date row = false := by
      by_contra hcompetes
      obtain ⟨hs', hd', -⟩ := (competes_iff source date row).mp (by simpa using hcompetes)
      exact hcalm.2 ⟨hs'.symm, hd'.symm⟩
    rcases List.mem_append.mp hr with hold | hnew
    · rw [h.elected source date hcalm.1 r hold hs hd]
      unfold Wins
      simp only [List.mem_append, List.mem_singleton]
      constructor
      · rintro ⟨hcompetes, hleast⟩
        refine ⟨hcompetes, fun x hx hx' => ?_⟩
        rcases hx with hx | rfl
        · exact hleast x hx hx'
        · rw [hidle] at hx'
          cases hx'
      · rintro ⟨hcompetes, hleast⟩
        exact ⟨hcompetes, fun x hx hx' => hleast x (.inl hx) hx'⟩
    · rw [List.mem_singleton.mp hnew] at hs hd
      exact absurd ⟨hs.symm, hd.symm⟩ hcalm.2

/-- The row after `supersede_observation` of the row under `pk`. -/
def retiredRow (pk : Nat) (row : Observation) : Observation :=
  if row.pk = pk then retired row else row

@[simp] theorem retiredRow_pk (pk : Nat) (row : Observation) :
    (retiredRow pk row).pk = row.pk := by
  unfold retiredRow
  split <;> rfl

@[simp] theorem retiredRow_source (pk : Nat) (row : Observation) :
    (retiredRow pk row).source = row.source := by
  unfold retiredRow
  split <;> rfl

@[simp] theorem retiredRow_observationDate (pk : Nat) (row : Observation) :
    (retiredRow pk row).observationDate = row.observationDate := by
  unfold retiredRow
  split <;> rfl

theorem retiredRow_of_ne {pk : Nat} {row : Observation} (hpk : row.pk ≠ pk) :
    retiredRow pk row = row := if_neg hpk

theorem updateWhere_retired (rows : List Observation) (pk : Nat) :
    Table.updateWhere (·.pk = pk) retired rows = rows.map (retiredRow pk) :=
  List.map_congr_left fun r _ => by simp [retiredRow]

theorem competes_retired (source : Nat) (date : Date) (row : Observation) :
    competes source date (retired row) = false := by
  simp [competes, retired]

/-- At the dates of other rows a retirement changes nothing. -/
theorem Sound.retire (h : Sound rows disturbed) {previous : Observation} (hmem : previous ∈ rows) :
    Sound (rows.map (retiredRow previous.pk)) fun source date =>
      disturbed source date ∨
        (source = previous.source ∧ date = previous.observationDate) := by
  refine ⟨Table.uniqueKeys_map h.keys (retiredRow_pk previous.pk), fun row' hrow' hsuperseded => ?_,
    fun source date hcalm row' hrow' hs hd => ?_⟩
  · obtain ⟨row, hrow, rfl⟩ := List.mem_map.mp hrow'
    by_cases hpk : row.pk = previous.pk
    · rw [retiredRow, if_pos hpk]
      rfl
    · rw [retiredRow_of_ne hpk] at hsuperseded ⊢
      exact h.superseded row hrow hsuperseded
  · obtain ⟨row, hrow, rfl⟩ := List.mem_map.mp hrow'
    rw [not_or] at hcalm
    rw [retiredRow_source] at hs
    rw [retiredRow_observationDate] at hd
    have hcompetes : ∀ r ∈ rows,
        competes source date (retiredRow previous.pk r) = competes source date r := fun r hr => by
      by_cases hpk : r.pk = previous.pk
      · have : r = previous := Table.eq_of_pk_eq h.keys hr hmem hpk
        subst this
        rw [retiredRow, if_pos rfl, competes_retired]
        by_contra hcompetes
        obtain ⟨hs', hd', -⟩ := (competes_iff source date r).mp (by simpa using Ne.symm hcompetes)
        exact hcalm.2 ⟨hs'.symm, hd'.symm⟩
      · rw [retiredRow_of_ne hpk]
    have hcandidate : ∀ r ∈ rows, competes source date r = true →
        candidate (retiredRow previous.pk r) = candidate r := fun r hr hcomp => by
      by_cases hpk : r.pk = previous.pk
      · have : r = previous := Table.eq_of_pk_eq h.keys hr hmem hpk
        subst this
        obtain ⟨hs', hd', -⟩ := (competes_iff source date r).mp hcomp
        exact absurd ⟨hs'.symm, hd'.symm⟩ hcalm.2
      · rw [retiredRow_of_ne hpk]
    have hne : row.pk ≠ previous.pk := fun hpk => by
      have : row = previous := Table.eq_of_pk_eq h.keys hrow hmem hpk
      subst this
      exact hcalm.2 ⟨hs.symm, hd.symm⟩
    rw [wins_map hcompetes hcandidate hrow, retiredRow_of_ne hne]
    exact h.elected source date hcalm.1 row hrow hs hd

/-- A retired row that was not preferred, or that competed alone, leaves its own date elected. -/
theorem Sound.elected_retire (h : Sound rows disturbed) {previous : Observation}
    (hmem : previous ∈ rows) (hcalm : ¬ disturbed previous.source previous.observationDate)
    (hsafe : previous.isPreferredForDate = true →
      ∀ r ∈ competingRows rows previous.source previous.observationDate, r.pk = previous.pk) :
    Elected (rows.map (retiredRow previous.pk)) previous.source previous.observationDate := by
  intro row' hrow' hs hd
  obtain ⟨row, hrow, rfl⟩ := List.mem_map.mp hrow'
  rw [retiredRow_source] at hs
  rw [retiredRow_observationDate] at hd
  have helected := h.elected _ _ hcalm
  by_cases hpk : row.pk = previous.pk
  · rw [retiredRow, if_pos hpk]
    refine iff_of_false Bool.false_ne_true fun hwins => ?_
    have hcompetes := hwins.1
    rw [competes_retired] at hcompetes
    cases hcompetes
  rw [retiredRow_of_ne hpk, helected row hrow hs hd]
  constructor
  · rintro ⟨hcompetes, hleast⟩
    refine ⟨hcompetes, fun x' hx' hcomp => ?_⟩
    obtain ⟨x, hx, rfl⟩ := List.mem_map.mp hx'
    by_cases hxpk : x.pk = previous.pk
    · rw [retiredRow, if_pos hxpk, competes_retired] at hcomp
      cases hcomp
    · rw [retiredRow_of_ne hxpk] at hcomp ⊢
      exact hleast x hx hcomp
  · rintro ⟨hcompetes, hleast⟩
    refine ⟨hcompetes, fun x hx hcomp => ?_⟩
    by_cases hxpk : x.pk = previous.pk
    · have : x = previous := Table.eq_of_pk_eq h.keys hx hmem hxpk
      subst this
      by_cases hpreferred : x.isPreferredForDate = true
      · exact absurd (hsafe hpreferred row (mem_competingRows.mpr ⟨hrow, hcompetes⟩)) hpk
      · -- the retired row lost to some other row, which is still there
        have hlost := mt (helected x hx rfl rfl).mpr hpreferred
        simp only [Wins, hcomp, true_and, not_forall] at hlost
        obtain ⟨better, hbetter, hbetterComp, hlt⟩ := hlost
        have hne : better.pk ≠ x.pk := fun heq => by
          rw [Table.eq_of_pk_eq h.keys hbetter hx heq] at hlt
          exact hlt le_rfl
        have := hleast better (List.mem_map.mpr ⟨better, hbetter, retiredRow_of_ne hne⟩) hbetterComp
        exact this.trans (le_of_not_ge hlt)
    · exact hleast x (List.mem_map.mpr ⟨x, hx, retiredRow_of_ne hxpk⟩) hcomp

end Changes

/-! ## Publishing one observation -/

section Publish

variable {rows rows' : List Observation} {disturbed : Nat → Date → Prop}

theorem RetirementSafe.stamp {previous : Nat} {reelected : Option (Nat × Date)}
    (h : RetirementSafe rows previous reelected) (pk : Nat) (now : Time) :
    RetirementSafe (stampPublished rows pk now) previous reelected := by
  let f (r : Observation) : Observation :=
    if r.pk = pk && r.publishedAt.isNone then { r with publishedAt := some now } else r
  have hf (r : Observation) : (f r).pk = r.pk ∧ (f r).source = r.source ∧
      (f r).observationDate = r.observationDate ∧ (f r).qualityStatus = r.qualityStatus ∧
      (f r).isPreferredForDate = r.isPreferredForDate := by
    dsimp only [f]
    split <;> simp
  intro row' hrow' hpk hpreferred
  obtain ⟨row, hrow, rfl⟩ := List.mem_map.mp hrow'
  change (f row).pk = previous at hpk
  change (f row).isPreferredForDate = true at hpreferred
  change reelected = some ((f row).source, (f row).observationDate) ∨
    ∀ r ∈ competingRows (rows.map f) (f row).source (f row).observationDate, r.pk = previous
  obtain ⟨hrowPk, hrowSource, hrowDate, -, hrowFlag⟩ := hf row
  rw [hrowPk] at hpk
  rw [hrowFlag] at hpreferred
  rw [hrowSource, hrowDate]
  refine (h row hrow hpk hpreferred).imp id fun halone r' hr' => ?_
  obtain ⟨hr'mem, hr'comp⟩ := mem_competingRows.mp hr'
  obtain ⟨r, hr, rfl⟩ := List.mem_map.mp hr'mem
  obtain ⟨hrPk, hrSource, hrDate, hrQuality, -⟩ := hf r
  rw [hrPk]
  refine halone r (mem_competingRows.mpr ⟨hr, ?_⟩)
  rw [competes_iff] at hr'comp ⊢
  rwa [hrSource, hrDate, hrQuality] at hr'comp

theorem RetirementSafe.append {previous : Nat} {row : Observation}
    (h : RetirementSafe rows previous (some (row.source, row.observationDate)))
    (hflag : row.isPreferredForDate = false) :
    RetirementSafe (rows ++ [row]) previous (some (row.source, row.observationDate)) := by
  intro r hr hpk hpreferred
  rcases List.mem_append.mp hr with hold | hnew
  · rcases h r hold hpk hpreferred with hsame | halone
    · exact .inl hsame
    · by_cases hcompetes : competes r.source r.observationDate row = true
      · obtain ⟨hs, hd, -⟩ := (competes_iff _ _ row).mp hcompetes
        exact .inl (by rw [hs, hd])
      · refine .inr fun x hx => ?_
        obtain ⟨hxmem, hxcomp⟩ := mem_competingRows.mp hx
        rcases List.mem_append.mp hxmem with hxold | hxnew
        · exact halone x (mem_competingRows.mpr ⟨hxold, hxcomp⟩)
        · rw [List.mem_singleton.mp hxnew] at hxcomp
          exact absurd hxcomp hcompetes
  · rw [List.mem_singleton.mp hnew, hflag] at hpreferred
    cases hpreferred

theorem Sound.stamp (h : Sound rows disturbed) (pk : Nat) (now : Time) :
    Sound (stampPublished rows pk now) disturbed := by
  unfold stampPublished Table.updateWhere
  refine h.map_same ?_ ?_ ?_ ?_ ?_ <;> intros <;> split <;> rfl

/-- Retirement on its own: the rule survives at every date when the retirement is safe. -/
theorem Sound.supersede {previous replacement : Nat} {reelected : Option (Nat × Date)}
    (h : Sound rows disturbed) (hsafe : RetirementSafe rows previous reelected)
    (hdisturbed : ∀ source date, disturbed source date → reelected = some (source, date))
    (hok : supersedeObservation rows previous replacement = .ok rows') :
    Sound rows' fun source date => reelected = some (source, date) := by
  unfold supersedeObservation at hok
  split at hok
  · cases hok
  split at hok
  · cases hok
  rename_i row hrow
  have hmem := Table.mem_of_get? hrow
  have hpk : row.pk = previous := Table.pk_of_get? hrow
  subst hpk
  cases hok
  rw [updateWhere_retired]
  have hretired := h.retire hmem
  refine ⟨hretired.keys, hretired.superseded, fun source date hcalm => ?_⟩
  by_cases hhere : source = row.source ∧ date = row.observationDate
  · obtain ⟨rfl, rfl⟩ := hhere
    refine h.elected_retire hmem (fun hd => hcalm (hdisturbed _ _ hd)) fun hpreferred => ?_
    exact (hsafe row hmem rfl hpreferred).resolve_left hcalm
  · refine hretired.elected source date ?_
    rintro (hd | hd)
    · exact hcalm (hdisturbed source date hd)
    · exact hhere hd

theorem Sound.elect_only {source : Nat} {date : Date}
    (h : Sound rows fun source' date' => some (source, date) = some (source', date'))
    (hok : electPreferredForDate rows source date = .ok rows') : Sound rows' fun _ _ => False := by
  rw [h.electPreferredForDate_eq] at hok
  cases hok
  have helected := h.elect source date
  refine ⟨helected.keys, helected.superseded, fun source' date' _ => helected.elected _ _ ?_⟩
  rintro ⟨hsame, hother⟩
  simp only [Option.some.injEq, Prod.mk.injEq] at hsame
  exact hother ⟨hsame.1.symm, hsame.2.symm⟩

/-- Publishing a row elects the row's own date, and the rule survives everywhere when the row it
retires may be retired safely. -/
theorem Sound.publish {pk : Nat} {supersedes : Option Nat} {now : Time} {row : Observation}
    (h : Sound rows fun source date => row.source = source ∧ row.observationDate = date)
    (hrow : Table.get? rows pk = some row)
    (hsafe : ∀ previous, supersedes = some previous →
      RetirementSafe rows previous (some (row.source, row.observationDate)))
    (hok : publishObservation rows pk supersedes now = .ok rows') :
    Sound rows' fun _ _ => False := by
  have hstamped := h.stamp pk now
  have honly : ∀ source date, row.source = source ∧ row.observationDate = date →
      some (row.source, row.observationDate) = some (source, date) := by
    rintro source date ⟨rfl, rfl⟩
    rfl
  unfold publishObservation at hok
  simp only [hrow] at hok
  cases hsupersedes : supersedes with
  | none =>
    simp only [hsupersedes] at hok
    refine Sound.elect_only ⟨hstamped.keys, hstamped.superseded, fun source date hcalm => ?_⟩ hok
    exact hstamped.elected source date fun hd => hcalm (honly source date hd)
  | some previous =>
    simp only [hsupersedes] at hok
    split at hok
    · cases hok
    rename_i rows₁ hretire
    exact (hstamped.supersede ((hsafe previous hsupersedes).stamp pk now) honly hretire).elect_only
      hok

/-- A new row published in the transaction that saves it. -/
theorem Sound.publish_new {row : Observation} {supersedes : Option Nat} {now : Time}
    (h : Sound rows fun _ _ => False) (hpk : row.pk = Table.nextPk rows)
    (hflag : row.isPreferredForDate = false)
    (hsafe : ∀ previous, supersedes = some previous →
      RetirementSafe rows previous (some (row.source, row.observationDate)))
    (hok : publishObservation (rows ++ [row]) row.pk supersedes now = .ok rows') :
    Sound rows' fun _ _ => False := by
  have happended := h.append hpk hflag
  have hget : Table.get? (rows ++ [row]) row.pk = some row :=
    Table.get?_of_mem happended.keys (List.mem_append_right _ List.mem_cons_self)
  refine Sound.publish ?_ hget (fun previous hp => (hsafe previous hp).append hflag) hok
  refine ⟨happended.keys, happended.superseded, fun source date hcalm => ?_⟩
  refine happended.elected source date ?_
  rintro (hnever | ⟨rfl, rfl⟩)
  · exact hnever
  · exact hcalm ⟨rfl, rfl⟩

end Publish

/-! ## Any order of services -/

inductive Act
  /-- A row saved and published in one transaction, as every importer of one reading does. -/
  | publishNew (row : Observation) (supersedes : Option Nat) (now : Time)
  | publish (pk : Nat) (supersedes : Option Nat) (now : Time)
  | supersede (previous replacement : Nat)
  | manual (report : ManualReport) (now : Time)
  | elect (source : Nat) (date : Date)

/-- A row as `objects.create` stores it: under a fresh key, not preferred. -/
def savedRow (rows : List Observation) (row : Observation) : Observation :=
  { row with pk := Table.nextPk rows, isPreferredForDate := false }

section Runs

variable (sha256 : String → String) (internalSource : Nat)

def performRows (rows : List Observation) :
    Act → Except MembershipError (List Observation)
  | .publishNew row supersedes now =>
    let saved := savedRow rows row
    match saved.brokenCheck with
    | some constraint => .error (.integrity constraint)
    | none => publishObservation (rows ++ [saved]) saved.pk supersedes now
  | .publish pk supersedes now => publishObservation rows pk supersedes now
  | .supersede previous replacement => supersedeObservation rows previous replacement
  | .manual _ _ => .ok rows
  | .elect source date => electPreferredForDate rows source date

def perform (db : MembershipDb) : Act → Except MembershipError MembershipDb
  | .manual report now =>
    (publishManualReport sha256 internalSource db report now).map (·.1)
  | act => (performRows db.observations act).map fun rows => { db with observations := rows }

/-- A service that raises leaves the tables as they were. -/
def step (db : MembershipDb) (act : Act) : MembershipDb :=
  match perform sha256 internalSource db act with
  | .ok db' => db'
  | .error _ => db

/-- The report passes its preview and is not a repetition of one already published. -/
def Accepted (db : MembershipDb) (report : ManualReport) : Prop :=
  reportErrors report = [] ∧ correctionErrors db.observations internalSource report = [] ∧
    existingObservation db internalSource (canonicalSha256 sha256 report) = none

/-- The row the act retires, if any, leaves no date without its preferred row. -/
def RetiresSafely (db : MembershipDb) : Act → Prop
  | .publishNew row supersedes _ => ∀ previous ∈ supersedes,
    RetirementSafe db.observations previous (some (row.source, row.observationDate))
  | .publish pk supersedes _ => ∀ previous ∈ supersedes,
    ∀ row ∈ Table.get? db.observations pk,
      RetirementSafe db.observations previous (some (row.source, row.observationDate))
  | .supersede previous replacement => previous ≠ replacement →
    RetirementSafe db.observations previous none
  | .manual report _ => Accepted sha256 internalSource db report →
    ∀ previous ∈ report.supersedesId,
      RetirementSafe db.observations previous (some (internalSource, report.observationDate))
  | .elect _ _ => True

instance (db : MembershipDb) (report : ManualReport) :
    Decidable (Accepted sha256 internalSource db report) :=
  inferInstanceAs (Decidable (_ ∧ _ ∧ _))

instance (db : MembershipDb) : ∀ act, Decidable (RetiresSafely sha256 internalSource db act)
  | .publishNew _ supersedes _ => inferInstanceAs (Decidable (∀ previous ∈ supersedes, _))
  | .publish pk supersedes _ => inferInstanceAs
    (Decidable (∀ previous ∈ supersedes, ∀ row ∈ Table.get? db.observations pk,
      RetirementSafe db.observations previous (some (row.source, row.observationDate))))
  | .supersede _ _ => inferInstanceAs (Decidable (_ → _))
  | .manual report _ => inferInstanceAs (Decidable (_ → ∀ previous ∈ report.supersedesId, _))
  | .elect _ _ => inferInstanceAs (Decidable True)

end Runs

section Runs

variable {sha256 : String → String} {internalSource : Nat} {db db' : MembershipDb}

theorem correctedRow_pk {rows : List Observation} {source : Nat} {report : ManualReport}
    {row : Observation} (h : correctedRow rows source report = some row) :
    report.supersedesId = some row.pk := by
  obtain ⟨pk, hpk, hrow⟩ := Option.bind_eq_some_iff.mp h
  rw [hpk, ← Table.pk_of_get? (Option.filter_eq_some_iff.mp hrow).1]
  rfl

theorem writeReport_observations {report : ManualReport} {source : Nat}
    {superseded : Option Observation} {artifact : Sources.SourceArtifact} {run : Sources.ImportRun}
    {now : Time} {pk : Nat}
    (h : writeReport db source report superseded artifact run now = .ok (db', pk)) :
    ∃ row : Observation, row.pk = Table.nextPk db.observations ∧ row.isPreferredForDate = false ∧
      row.source = source ∧ row.observationDate = report.observationDate ∧
      row.artifact = artifact.pk ∧
      db'.registry.artifacts = db.registry.artifacts ∧
      publishObservation (db.observations ++ [row]) row.pk (superseded.map (·.pk)) now =
        .ok db'.observations := by
  unfold writeReport at h
  dsimp only at h
  split at h
  · cases h
  split at h
  · cases h
  rename_i db₂ childRows hchildren
  have hsame : db₂.registry = db.registry ∧ db₂.observations = db.observations ++
      [observationFor db.observations report source artifact.pk run.pk
        (documentFor db.documents report source run.pk) superseded now] := by
    unfold writeChildren at hchildren
    dsimp only at hchildren
    split at hchildren
    · cases hchildren
      exact ⟨rfl, rfl⟩
    · cases hchildren
  split at h
  · cases h
  split at h
  · cases h
  rename_i rows hpublished
  split at h
  · cases h
  rename_i registry hcompleted
  cases h
  have hregistry : registry.artifacts = db.registry.artifacts := by
    obtain ⟨-, -, hsaved⟩ := Sources.completeRun_eq_ok_iff.mp hcompleted
    rw [hsaved, ← hsame.1]
    rfl
  exact ⟨_, rfl, rfl, rfl, rfl, rfl, hregistry, hsame.2 ▸ hpublished⟩

/-- What an accepted report does to the observations: nothing when it is already published, else
it adds one row and publishes it over the row it corrects. -/
theorem publishManualReport_observations {report : ManualReport} {now : Time} {pk : Nat}
    (h : publishManualReport sha256 internalSource db report now = .ok (db', pk)) :
    db'.observations = db.observations ∨
      (Accepted sha256 internalSource db report ∧
        ∃ row : Observation, row.pk = Table.nextPk db.observations ∧
          row.isPreferredForDate = false ∧ row.source = internalSource ∧
          row.observationDate = report.observationDate ∧
          publishObservation (db.observations ++ [row]) row.pk
            ((correctedRow db.observations internalSource report).map (·.pk)) now =
              .ok db'.observations) := by
  unfold publishManualReport at h
  split at h
  · cases h
  rename_i preview hpreview
  have hpreview' : preview.errors = reportErrors report ++
        correctionErrors db.observations internalSource report ∧
      preview.supersededObservation = correctedRow db.observations internalSource report := by
    unfold buildPreview at hpreview
    split at hpreview
    · cases hpreview
    split at hpreview
    · cases hpreview
    cases hpreview
    exact ⟨rfl, rfl⟩
  split at h
  · cases h
  rename_i herrors
  rw [hpreview'.1, List.append_eq_nil_iff] at herrors
  dsimp only at h
  split at h
  · cases h
    exact .inl rfl
  rename_i hnew
  split at h
  · cases h
  split at h
  · cases h
  split at h
  · cases h
  refine .inr ⟨⟨herrors.1, herrors.2, hnew⟩, ?_⟩
  rw [← hpreview'.2]
  obtain ⟨row, hpk, hflag, hsource, hdate, -, -, hpublished⟩ := writeReport_observations h
  exact ⟨row, hpk, hflag, hsource, hdate, hpublished⟩

theorem step_sound (act : Act) (h : Sound db.observations fun _ _ => False)
    (hsafe : RetiresSafely sha256 internalSource db act) :
    Sound (step sha256 internalSource db act).observations fun _ _ => False := by
  unfold step
  cases hperform : perform sha256 internalSource db act with
  | error e => exact h
  | ok db' =>
    dsimp only
    cases act with
    | manual report now =>
      obtain ⟨⟨result, pk⟩, hpublished, heq⟩ := map_eq_ok_iff.mp hperform
      subst heq
      rcases publishManualReport_observations hpublished with hsame | ⟨haccepted, row, hpk, hflag,
        rfl, hdate, hok⟩
      · exact hsame ▸ h
      · refine h.publish_new hpk hflag (fun previous hprevious => ?_) hok
        obtain ⟨corrected, hcorrected, rfl⟩ := Option.map_eq_some_iff.mp hprevious
        rw [hdate]
        exact hsafe haccepted corrected.pk (correctedRow_pk hcorrected)
    | publishNew row supersedes now =>
      obtain ⟨rows, hrows, rfl⟩ := map_eq_ok_iff.mp hperform
      unfold performRows at hrows
      dsimp only at hrows
      split at hrows
      · cases hrows
      · have hsaved : ∀ previous, supersedes = some previous →
            RetirementSafe db.observations previous (some ((savedRow db.observations row).source,
              (savedRow db.observations row).observationDate)) := hsafe
        exact h.publish_new rfl rfl hsaved hrows
    | publish pk supersedes now =>
      obtain ⟨rows, hrows, rfl⟩ := map_eq_ok_iff.mp hperform
      change publishObservation db.observations pk supersedes now = .ok rows at hrows
      cases hrow : Table.get? db.observations pk with
      | none => simp [publishObservation, hrow] at hrows
      | some row =>
        refine Sound.publish ?_ hrow (fun previous hp => hsafe previous hp row hrow) hrows
        exact ⟨h.keys, h.superseded, fun source date _ => h.elected source date id⟩
    | supersede previous replacement =>
      obtain ⟨rows, hrows, rfl⟩ := map_eq_ok_iff.mp hperform
      change supersedeObservation db.observations previous replacement = .ok rows at hrows
      have hne : previous ≠ replacement := by
        rintro rfl
        simp [supersedeObservation] at hrows
      have hsound := h.supersede (hsafe hne) (fun _ _ => False.elim) hrows
      exact ⟨hsound.keys, hsound.superseded, fun source date _ =>
        hsound.elected source date (by simp)⟩
    | elect source date =>
      obtain ⟨rows, hrows, rfl⟩ := map_eq_ok_iff.mp hperform
      exact Sound.elect_only ⟨h.keys, h.superseded, fun s d _ => h.elected s d id⟩ hrows

/-- The preferred-observation rule: at every date that some row competes for, the row
`choose_preferred` picks is preferred and no other row of that date is; and no superseded row is
preferred. -/
structure PreferenceInvariant (rows : List Observation) : Prop where
  elected : ∀ source date, competingRows rows source date ≠ [] →
    ∃ row ∈ competingRows rows source date,
      choosePreferred ((competingRows rows source date).map candidate) = some (candidate row) ∧
      ∀ r ∈ rows, r.prefersDate source date = true ↔ r = row
  superseded : ∀ row ∈ rows, row.qualityStatus = .superseded → row.isPreferredForDate = false

theorem Sound.preferenceInvariant {rows : List Observation} (h : Sound rows fun _ _ => False) :
    PreferenceInvariant rows := by
  refine ⟨fun source date hne => ?_, h.superseded⟩
  cases hchosen : choosePreferred ((competingRows rows source date).map candidate) with
  | none =>
    rw [choosePreferred_eq_none_iff, List.map_eq_nil_iff] at hchosen
    exact absurd hchosen hne
  | some winner =>
    obtain ⟨row, hrow, rfl⟩ := List.mem_map.mp (choosePreferred_mem hchosen)
    obtain ⟨hmem, hcompetes⟩ := mem_competingRows.mp hrow
    obtain ⟨hs, hd, -⟩ := (competes_iff source date row).mp hcompetes
    have hkey : winnerKey rows source date = some row.pk := by
      rw [winnerKey, hchosen]
      rfl
    have hwins := (winnerKey_eq_some_iff h.keys hmem).mp hkey
    refine ⟨row, hrow, rfl, fun r hr => ?_⟩
    simp only [Observation.prefersDate, Bool.and_eq_true, decide_eq_true_eq]
    constructor
    · rintro ⟨⟨hrs, hrd⟩, hpreferred⟩
      have hrwins := (h.elected source date id r hr hrs hrd).mp hpreferred
      rw [← winnerKey_eq_some_iff h.keys hr, hkey] at hrwins
      exact Table.eq_of_pk_eq h.keys hr hmem (Option.some.inj hrwins).symm
    · rintro rfl
      exact ⟨⟨hs, hd⟩, (h.elected source date id r hmem hs hd).mpr hwins⟩

/-- Where the retirement is not safe the rule does break: the retired row was the preferred one of
its date, other rows compete for that date, and only another date is elected. -/
theorem Sound.publish_breaks {rows rows' : List Observation} {pk previous : Nat} {now : Time}
    {row : Observation} (h : Sound rows fun _ _ => False) (hrow : Table.get? rows pk = some row)
    (hnot : ¬ RetirementSafe rows previous (some (row.source, row.observationDate)))
    (hok : publishObservation rows pk (some previous) now = .ok rows') :
    ¬ PreferenceInvariant rows' := by
  intro hinv
  unfold RetirementSafe at hnot
  push Not at hnot
  obtain ⟨lost, hlost, rfl, hpreferred, helsewhere, rival, hrival, hrivalPk⟩ := hnot
  obtain ⟨hrivalMem, hrivalComp⟩ := mem_competingRows.mp hrival
  have hstamped := h.stamp pk now
  let stamp (r : Observation) : Observation :=
    if r.pk = pk && r.publishedAt.isNone then { r with publishedAt := some now } else r
  have hstamp (r : Observation) : (stamp r).pk = r.pk ∧ (stamp r).source = r.source ∧
      (stamp r).observationDate = r.observationDate ∧
      (stamp r).isPreferredForDate = r.isPreferredForDate ∧
      ∀ source date, competes source date (stamp r) = competes source date r := by
    dsimp only [stamp]
    split <;> simp [competes]
  unfold publishObservation at hok
  simp only [hrow] at hok
  split at hok
  · cases hok
  rename_i rows₁ hretire
  unfold supersedeObservation at hretire
  split at hretire
  · cases hretire
  split at hretire
  · cases hretire
  rename_i found hfound
  have hfoundPk : found.pk = lost.pk := Table.pk_of_get? hfound
  have hretired := hstamped.retire (Table.mem_of_get? hfound)
  rw [hfoundPk] at hretired
  cases hretire
  rw [updateWhere_retired, hretired.electPreferredForDate_eq] at hok
  cases hok
  -- at the date of the lost row the election changes nothing
  have hkept (q : Observation) (hs : q.source = lost.source)
      (hd : q.observationDate = lost.observationDate) (rs : List Observation) :
      electedRow rs row.source row.observationDate q = q := by
    have hidle : competes row.source row.observationDate q = false := by
      by_contra hcompetes
      obtain ⟨hs', hd', -⟩ := (competes_iff _ _ q).mp (by simpa using hcompetes)
      exact helsewhere (by rw [← hs', ← hd', hs, hd])
    simp [electedRow, hidle]
  have hcompeting : competingRows (((stampPublished rows pk now).map (retiredRow lost.pk)).map
      (electedRow ((stampPublished rows pk now).map (retiredRow lost.pk)) row.source
        row.observationDate)) lost.source lost.observationDate ≠ [] := by
    refine List.ne_nil_of_mem (mem_competingRows.mpr ⟨List.mem_map_of_mem (List.mem_map_of_mem
      (List.mem_map_of_mem hrivalMem)), ?_⟩)
    rw [electedRow_competes]
    change competes _ _ (retiredRow lost.pk (stamp rival)) = true
    rw [retiredRow_of_ne ((hstamp rival).1 ▸ hrivalPk), (hstamp rival).2.2.2.2]
    exact hrivalComp
  obtain ⟨holder, hholder, -, hunique⟩ := hinv.elected _ _ hcompeting
  have hholderMem := (mem_competingRows.mp hholder).1
  have hflag := (hunique holder hholderMem).mpr rfl
  simp only [Observation.prefersDate, Bool.and_eq_true, decide_eq_true_eq] at hflag
  obtain ⟨⟨hs, hd⟩, hheld⟩ := hflag
  obtain ⟨x, hx, rfl⟩ := List.mem_map.mp hholderMem
  obtain ⟨y, hy, rfl⟩ := List.mem_map.mp hx
  obtain ⟨q, hq, rfl⟩ := List.mem_map.mp hy
  change (electedRow _ _ _ (retiredRow lost.pk (stamp q))).source = _ at hs
  change (electedRow _ _ _ (retiredRow lost.pk (stamp q))).observationDate = _ at hd
  change (electedRow _ _ _ (retiredRow lost.pk (stamp q))).isPreferredForDate = true at hheld
  rw [electedRow_source] at hs
  rw [electedRow_observationDate] at hd
  rw [hkept _ hs hd] at hheld
  rw [retiredRow_source, (hstamp q).2.1] at hs
  rw [retiredRow_observationDate, (hstamp q).2.2.1] at hd
  by_cases hqpk : q.pk = lost.pk
  · rw [retiredRow, if_pos ((hstamp q).1.trans hqpk)] at hheld
    cases hheld
  · rw [retiredRow_of_ne ((hstamp q).1 ▸ hqpk), (hstamp q).2.2.2.1] at hheld
    have hqWins := (h.elected _ _ id q hq hs hd).mp hheld
    have hlostWins := (h.elected _ _ id lost hlost rfl rfl).mp hpreferred
    rw [← winnerKey_eq_some_iff h.keys hq] at hqWins
    rw [← winnerKey_eq_some_iff h.keys hlost, hqWins] at hlostWins
    exact hqpk (Option.some.inj hlostWins)

/-- In every run from an empty database whose steps retire safely, the preferred-observation rule
holds in the state reached. -/
theorem preferenceInvariant_run (sha256 : String → String) (internalSource : Nat) (acts : List Act)
    (hsafe : StepsMeet (step sha256 internalSource) (RetiresSafely sha256 internalSource)
      MembershipDb.empty acts) :
    PreferenceInvariant
      (run (step sha256 internalSource) MembershipDb.empty acts).observations := by
  have hempty : Sound MembershipDb.empty.observations fun _ _ => False :=
    ⟨List.nodup_nil, fun _ h => (List.not_mem_nil h).elim, fun _ _ _ _ h =>
      (List.not_mem_nil h).elim⟩
  have hkeeps (db : MembershipDb) (act : Act) (h : Sound db.observations fun _ _ => False)
      (hok : RetiresSafely sha256 internalSource db act) :
      Sound (step sha256 internalSource db act).observations fun _ _ => False :=
    step_sound act h hok
  exact (@run_keeps_of_stepsMeet _ _ _ _ (fun db => Sound db.observations fun _ _ => False)
    hkeeps acts _ hempty hsafe).preferenceInvariant

end Runs

def emptyFacts : MetricFacts := ⟨none, none, none, none, none, none, none, none⟩

def march31 : Date := .of 2024 3 31

def april30 : Date := .of 2024 4 30

/-- A reading of March as one source states it. -/
def marchRow (sourceKind : InternalSourceKind) : Observation where
  pk := 0
  source := 1
  artifact := 0
  importRun := 0
  observationDate := march31
  sourceKind := sourceKind
  reportedYear := some 2024
  facts := emptyFacts
  extractionConfidence := .high
  qualityStatus := .verified
  isPreferredForDate := false
  supersedes := none
  sourceDocument := none
  sourceNote := ""
  warningCodes := []
  publishedAt := none

/-- The March report filed again under April, with the date change confirmed. -/
def movedReport : ManualReport where
  observationDate := april30
  reportedYear := some 2024
  documentTitle := ""
  sourceNote := ""
  facts := emptyFacts
  monthlyYear := none
  monthlyNewMembers := .empty
  joinedByBand := .empty
  removedByBand := .empty
  sizeTableComplete := false
  removalReasons := .empty
  otherReasonLabel := ""
  otherReasonCount := none
  reasonsComplete := false
  supersedesId := some 1
  confirmDateChange := true

/-- The digest of the one report of the run below. -/
def sampleDigest (_ : String) : String :=
  "0f3a0f3a0f3a0f3a0f3a0f3a0f3a0f3a0f3a0f3a0f3a0f3a0f3a0f3a0f3a0f3a"

theorem preferenceInvariant_run_sample :
    PreferenceInvariant (run (step sampleDigest 1) MembershipDb.empty
      [.publishNew (marchRow .manual) none 5,
        .publishNew { marchRow .manual with observationDate := april30 } (some 1) 6,
        .elect 1 march31]).observations :=
  preferenceInvariant_run sampleDigest 1 _ (by decide +kernel)

/-- A confirmed date change retires the preferred row of March; the comparison row still competes
for March, and nothing elects it. -/
theorem preferenceInvariant_fails_after_date_change :
    ¬ ∀ (sha256 : String → String) (internalSource : Nat) (acts : List Act),
      PreferenceInvariant
        (run (step sha256 internalSource) MembershipDb.empty acts).observations := by
  intro hclaim
  have hinv := hclaim sampleDigest 1 [.publishNew (marchRow .manual) none 5,
    .publishNew (marchRow .reportedComparison) none 6, .manual movedReport 7]
  have hrows : (run (step sampleDigest 1) MembershipDb.empty
      [.publishNew (marchRow .manual) none 5, .publishNew (marchRow .reportedComparison) none 6,
        .manual movedReport 7]).observations =
      [{ marchRow .manual with pk := 1, qualityStatus := .superseded, publishedAt := some 5 },
        { marchRow .reportedComparison with pk := 2, publishedAt := some 6 },
        { marchRow .manual with
          pk := 3, artifact := 1, importRun := 1, observationDate := april30
          extractionConfidence := .manualVerified, isPreferredForDate := true
          supersedes := some 1, publishedAt := some 7 }] := by
    decide +kernel
  rw [hrows] at hinv
  obtain ⟨row, hrow, -, hpreferred⟩ := hinv.elected 1 march31 (by decide)
  have hholder := (hpreferred row (mem_competingRows.mp hrow).1).mpr rfl
  revert hholder
  revert row
  decide

end Dashkoda.Membership
