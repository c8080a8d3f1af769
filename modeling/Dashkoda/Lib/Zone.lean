import Dashkoda.Lib.Ordinal

/-!
# Time zones

A zone is the offset it starts with and the instants at which another one takes over, as the tables
of the time zone database list them.  Instants are the microseconds since the first midnight of the
calendar in UTC.  The wall clock repeats an hour where the offset falls and skips one where it
grows; a wall clock time that is skipped or meant twice is read with the offset before the change.
-/

namespace Lib

/-- The microseconds of a day. -/
def dayLength : Int := 86400000000

/-- Another offset takes over at an instant. -/
structure OffsetChange where
  instant : Int
  offset : Int
  deriving DecidableEq

structure Zone where
  offset : Int
  changes : List OffsetChange

namespace Zone

def offsetFrom : Int → List OffsetChange → Int → Int
  | offset, [], _ => offset
  | offset, change :: rest, instant =>
    if instant < change.instant then offset else offsetFrom change.offset rest instant

/-- The offset a wall clock time is read with, with `fold=0`. -/
def wallOffsetFrom : Int → List OffsetChange → Int → Int
  | offset, [], _ => offset
  | offset, change :: rest, wall =>
    if wall < change.instant + max offset change.offset then offset
    else wallOffsetFrom change.offset rest wall

/-- No change takes the wall clock across a midnight it does not stop at, and the wall clock is past
one change before it comes to the next. -/
def KeepsMidnights : Int → List OffsetChange → Prop
  | _, [] => True
  | offset, change :: rest =>
    change.instant + max offset change.offset ≤
        dayLength * ((change.instant + min offset change.offset) / dayLength + 1) ∧
      (∀ next ∈ rest.head?, change.instant ≤ next.instant ∧
        change.instant + max offset change.offset ≤ next.instant + min change.offset next.offset) ∧
      KeepsMidnights change.offset rest

instance keepsMidnightsDecidable : (offset : Int) → (changes : List OffsetChange) →
    Decidable (KeepsMidnights offset changes)
  | _, [] => isTrue trivial
  | offset, change :: rest =>
    have := keepsMidnightsDecidable change.offset rest
    have : Decidable (∀ next ∈ rest.head?, change.instant ≤ next.instant ∧
        change.instant + max offset change.offset ≤ next.instant + min change.offset next.offset) :=
      match rest.head? with
      | none => isTrue fun _ h => by cases h
      | some next => decidable_of_iff (change.instant ≤ next.instant ∧
          change.instant + max offset change.offset ≤ next.instant + min change.offset next.offset)
          ⟨fun h _ heq => Option.some.inj heq ▸ h, fun h => h next rfl⟩
    inferInstanceAs (Decidable (_ ∧ _ ∧ _))

/-! ## Midnights on the wall clock -/

section Midnight

variable {offset instant wall : Int} {changes : List OffsetChange}

/-- What is read past the last change is an instant past it. -/
theorem le_sub_wallOffset {start : Int} (hstart : start + offset ≤ wall)
    (hsorted : ∀ next ∈ changes.head?, start ≤ next.instant) (h : KeepsMidnights offset changes) :
    start ≤ wall - wallOffsetFrom offset changes wall := by
  induction changes generalizing offset start with
  | nil =>
    show start ≤ wall - offset
    omega
  | cons change rest ih =>
    unfold wallOffsetFrom
    by_cases hbefore : wall < change.instant + max offset change.offset
    · rw [if_pos hbefore]
      omega
    · rw [if_neg hbefore]
      have hnext := hsorted change rfl
      have hrest := @ih change.offset change.instant (by omega)
        (fun next hmem => (h.2.1 next hmem).1) h.2.2
      omega

/-- The wall clock does not go back behind a time all later changes are after. -/
theorem le_add_offset {start floor : Int} (hinstant : start ≤ instant)
    (hfloor : floor ≤ start + offset)
    (hafter : ∀ next ∈ changes.head?, floor ≤ next.instant + min offset next.offset)
    (h : KeepsMidnights offset changes) : floor ≤ instant + offsetFrom offset changes instant := by
  induction changes generalizing offset start with
  | nil =>
    show floor ≤ instant + offset
    omega
  | cons change rest ih =>
    unfold offsetFrom
    by_cases hbefore : instant < change.instant
    · rw [if_pos hbefore]
      omega
    · rw [if_neg hbefore]
      have hnext := hafter change rfl
      refine @ih change.offset change.instant (not_lt.mp hbefore) (by omega)
        (fun next hmem => ?_) h.2.2
      have hspaced := (h.2.1 next hmem).2
      omega

/-- A midnight starts its day: the wall clock shows that day or a later one exactly from then on. -/
theorem midnight_le_iff (h : KeepsMidnights offset changes) (day : Int) :
    dayLength * day ≤ instant + offsetFrom offset changes instant ↔
      dayLength * day - wallOffsetFrom offset changes (dayLength * day) ≤ instant := by
  induction changes generalizing offset with
  | nil =>
    show dayLength * day ≤ instant + offset ↔ dayLength * day - offset ≤ instant
    omega
  | cons change rest ih =>
    obtain ⟨hwhole, hnext, hrest⟩ := h
    unfold offsetFrom wallOffsetFrom
    by_cases hwall : dayLength * day < change.instant + max offset change.offset
    · rw [if_pos hwall]
      -- the midnight is not inside what the change repeats or skips, so it is before it
      have hbefore : dayLength * day ≤ change.instant + min offset change.offset := by
        by_contra hinside
        have hfloor := Int.lt_ediv_add_one_mul_self (change.instant + min offset change.offset)
          (show 0 < dayLength by decide)
        have hquotient : (change.instant + min offset change.offset) / dayLength + 1 ≤ day := by
          by_contra hsmall
          have hle : day ≤ (change.instant + min offset change.offset) / dayLength := by omega
          have hmul := Int.mul_le_of_le_ediv (show 0 < dayLength by decide) hle
          rw [Int.mul_comm] at hmul
          omega
        have hmono := Int.mul_le_mul_of_nonneg_left hquotient (show 0 ≤ dayLength by decide)
        omega
      by_cases hinstant : instant < change.instant
      · rw [if_pos hinstant]
        omega
      · rw [if_neg hinstant]
        have hlater := @le_add_offset _ _ _ change.instant
          (change.instant + min offset change.offset)
          (not_lt.mp hinstant) (by omega) (fun next hmem => by
            have hspaced := (hnext next hmem).2
            omega) hrest
        omega
    · rw [if_neg hwall]
      by_cases hinstant : instant < change.instant
      · rw [if_pos hinstant]
        have hpast := @le_sub_wallOffset _ (dayLength * day) _ change.instant (by omega)
          (fun next hmem => (hnext next hmem).1) hrest
        omega
      · rw [if_neg hinstant]
        exact ih hrest

end Midnight

variable (zone : Zone)

def wallClock (instant : Int) : Int := instant + offsetFrom zone.offset zone.changes instant

def localDay (instant : Int) : Int := zone.wallClock instant / dayLength + 1

/-- The instant at which the day with an ordinal starts: `datetime.combine(day, time.min)` in the
zone. -/
def midnight (ordinal : Int) : Int :=
  dayLength * (ordinal - 1) - wallOffsetFrom zone.offset zone.changes (dayLength * (ordinal - 1))

/-- A day of the zone is what lies between its midnight and the next. -/
theorem le_localDay_iff {zone : Zone} (h : KeepsMidnights zone.offset zone.changes)
    {ordinal instant : Int} :
    ordinal ≤ zone.localDay instant ↔ zone.midnight ordinal ≤ instant := by
  have hshift : ordinal ≤ zone.localDay instant ↔
      ordinal - 1 ≤ zone.wallClock instant / dayLength := by
    unfold localDay
    omega
  unfold midnight
  rw [hshift, ← midnight_le_iff h, Int.le_ediv_iff_mul_le (by decide), Int.mul_comm]
  rfl

end Zone

/-! ## Stored moments -/

/-- A moment as it is read back: a date and the microseconds since its midnight, in UTC. -/
structure Moment where
  date : Date
  time : Int
  time_range : 0 ≤ time ∧ time < dayLength
  deriving DecidableEq

namespace Moment

def instant (moment : Moment) : Int := dayLength * (moment.date.toOrdinal - 1) + moment.time

/-- How many days the wall clock of a zone is ahead of UTC. -/
def daysAhead (zone : Zone) (moment : Moment) : Int :=
  (moment.time + Zone.offsetFrom zone.offset zone.changes moment.instant) / dayLength

def localDate? (zone : Zone) (moment : Moment) : Option Date :=
  Date.shift? (moment.daysAhead zone) moment.date

theorem localDay_instant (zone : Zone) (moment : Moment) :
    zone.localDay moment.instant = moment.date.toOrdinal + moment.daysAhead zone := by
  have hclock : zone.wallClock moment.instant = moment.time +
      Zone.offsetFrom zone.offset zone.changes moment.instant + dayLength *
        (moment.date.toOrdinal - 1) := by
    unfold Zone.wallClock
    conv_lhs =>
      rw [show moment.instant = dayLength * (moment.date.toOrdinal - 1) + moment.time from rfl]
    rw [show dayLength * (moment.date.toOrdinal - 1) + moment.time = moment.instant from rfl]
    have hinstant : moment.instant = dayLength * (moment.date.toOrdinal - 1) + moment.time := rfl
    omega
  unfold Zone.localDay daysAhead
  rw [hclock, Int.add_mul_ediv_left _ _ (by decide)]
  omega

theorem localDate?_eq_some_iff {zone : Zone} {moment : Moment} {day : Date} :
    moment.localDate? zone = some day ↔ (day.toOrdinal : Int) = zone.localDay moment.instant := by
  rw [localDay_instant]
  exact Date.shift?_eq_some_iff

/-- The zone and UTC show the same date. -/
theorem localDate?_eq_date_iff {zone : Zone} {moment : Moment} :
    moment.localDate? zone = some moment.date ↔
      0 ≤ moment.time + Zone.offsetFrom zone.offset zone.changes moment.instant ∧
        moment.time + Zone.offsetFrom zone.offset zone.changes moment.instant < dayLength := by
  rw [localDate?_eq_some_iff, localDay_instant]
  unfold daysAhead
  have hpos : (0 : Int) < dayLength := by decide
  constructor
  · intro heq
    have hzero : (moment.time + Zone.offsetFrom zone.offset zone.changes moment.instant) /
      dayLength = 0 := by omega
    have hmod := Int.emod_add_mul_ediv
      (moment.time + Zone.offsetFrom zone.offset zone.changes moment.instant) dayLength
    rw [hzero] at hmod
    have hlow := Int.emod_nonneg
      (moment.time + Zone.offsetFrom zone.offset zone.changes moment.instant) hpos.ne'
    have hhigh := Int.emod_lt_of_pos
      (moment.time + Zone.offsetFrom zone.offset zone.changes moment.instant) hpos
    omega
  · rintro ⟨hlow, hhigh⟩
    rw [Int.ediv_eq_zero_of_lt hlow hhigh]
    omega

end Moment

end Lib
