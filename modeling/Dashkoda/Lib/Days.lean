import Dashkoda.Lib.Calendar
import Mathlib.Order.Cover

/-!
# From day to day

`date + timedelta(days=n)` and `date - timedelta(days=n)`, which do not leave the years 1 to 9999.
-/

namespace Lib

theorem one_le_daysInMonth (year month : Nat) : 1 ≤ daysInMonth year month := by
  unfold daysInMonth
  split
  · split <;> decide
  · decide
  · decide
  · decide
  · decide
  · decide

theorem daysInMonth_le (year month : Nat) : daysInMonth year month ≤ 31 := by
  unfold daysInMonth
  split
  · split <;> decide
  · decide
  · decide
  · decide
  · decide
  · decide

namespace Date

theorem lt_iff {a b : Date} : a < b ↔ a.year < b.year ∨
    a.year = b.year ∧ (a.month < b.month ∨ a.month = b.month ∧ a.day < b.day) := by
  show a.key < b.key ↔ _
  unfold key
  simp only [Prod.Lex.toLex_lt_toLex]

theorem day_le {a b : Date} (hyear : a.year = b.year) (hmonth : a.month = b.month) :
    b.day ≤ daysInMonth a.year a.month := hyear ▸ hmonth ▸ b.day_range.2

def next? (date : Date) : Option Date :=
  if hday : date.day < daysInMonth date.year date.month then
    some ⟨date.year, date.month, date.day + 1, date.year_range, date.month_range,
      Nat.le_add_left 1 date.day, hday⟩
  else if hmonth : date.month < 12 then
    some ⟨date.year, date.month + 1, 1, date.year_range, ⟨Nat.le_add_left 1 date.month, hmonth⟩,
      le_refl 1, one_le_daysInMonth _ _⟩
  else if hyear : date.year < 9999 then
    some ⟨date.year + 1, 1, 1, ⟨Nat.le_add_left 1 date.year, hyear⟩, by decide, le_refl 1,
      one_le_daysInMonth _ _⟩
  else none

def prev? (date : Date) : Option Date :=
  if hday : 1 < date.day then
    some ⟨date.year, date.month, date.day - 1, date.year_range, date.month_range,
      Nat.le_sub_one_of_lt hday, (Nat.sub_le _ _).trans date.day_range.2⟩
  else if hmonth : 1 < date.month then
    some ⟨date.year, date.month - 1, daysInMonth date.year (date.month - 1), date.year_range,
      ⟨Nat.le_sub_one_of_lt hmonth, (Nat.sub_le _ _).trans date.month_range.2⟩,
      one_le_daysInMonth _ _, le_refl _⟩
  else if hyear : 1 < date.year then
    some ⟨date.year - 1, 12, 31,
      ⟨Nat.le_sub_one_of_lt hyear, (Nat.sub_le _ _).trans date.year_range.2⟩,
      by decide, by decide, le_refl 31⟩
  else none

/-- The next day follows immediately. -/
theorem covBy_next? {date day : Date} (h : date.next? = some day) : date ⋖ day := by
  have hmonths := date.month_range
  have hdays := date.day_range
  unfold next? at h
  split at h
  · cases h
    refine ⟨lt_iff.mpr (by dsimp only; omega), fun x hx hx' => ?_⟩
    rw [lt_iff] at hx hx'
    dsimp only at hx'
    omega
  · rename_i hday
    split at h
    · cases h
      refine ⟨lt_iff.mpr (by dsimp only; omega), fun x hx hx' => ?_⟩
      have hlast := @day_le date x
      have hxdays := x.day_range
      rw [lt_iff] at hx hx'
      dsimp only at hx'
      omega
    · split at h
      · cases h
        refine ⟨lt_iff.mpr (by dsimp only; omega), fun x hx hx' => ?_⟩
        have hlast := @day_le date x
        have hxmonths := x.month_range
        have hxdays := x.day_range
        rw [lt_iff] at hx hx'
        dsimp only at hx'
        omega
      · cases h

/-- The day before precedes immediately. -/
theorem prev?_covBy {date day : Date} (h : date.prev? = some day) : day ⋖ date := by
  have hmonths := date.month_range
  have hdays := date.day_range
  unfold prev? at h
  split at h
  · cases h
    refine ⟨lt_iff.mpr (by dsimp only; omega), fun x hx hx' => ?_⟩
    rw [lt_iff] at hx hx'
    dsimp only at hx
    omega
  · split at h
    · cases h
      refine ⟨lt_iff.mpr (by dsimp only; omega), fun x hx hx' => ?_⟩
      have hlast (hyear : x.year = date.year) (hmonth : x.month = date.month - 1) :
          x.day ≤ daysInMonth date.year (date.month - 1) := hyear ▸ hmonth ▸ x.day_range.2
      have hxdays := x.day_range
      rw [lt_iff] at hx hx'
      dsimp only at hx
      omega
    · split at h
      · cases h
        refine ⟨lt_iff.mpr (by dsimp only; omega), fun x hx hx' => ?_⟩
        have hxmonths := x.month_range
        have hlast : x.month = 12 → x.day ≤ 31 := fun hmonth =>
          x.day_range.2.trans (by rw [hmonth]; exact le_refl 31)
        have hxdays := x.day_range
        rw [lt_iff] at hx hx'
        dsimp only at hx
        omega
      · cases h

/-- `date + timedelta(days=n)`; `none` is the `OverflowError`. -/
def addDays? : Nat → Date → Option Date
  | 0, date => some date
  | n + 1, date => date.next?.bind (addDays? n)

/-- `date - timedelta(days=n)` -/
def subDays? : Nat → Date → Option Date
  | 0, date => some date
  | n + 1, date => date.prev?.bind (subDays? n)

theorem le_addDays? {n : Nat} {date day : Date} (h : addDays? n date = some day) : date ≤ day := by
  induction n generalizing date with
  | zero => exact (Option.some.inj h).le
  | succ n ih =>
    obtain ⟨next, hnext, hrest⟩ := Option.bind_eq_some_iff.mp h
    exact (covBy_next? hnext).lt.le.trans (ih hrest)

theorem subDays?_le {n : Nat} {date day : Date} (h : subDays? n date = some day) : day ≤ date := by
  induction n generalizing date with
  | zero => exact (Option.some.inj h).ge
  | succ n ih =>
    obtain ⟨previous, hprevious, hrest⟩ := Option.bind_eq_some_iff.mp h
    exact (ih hrest).trans (prev?_covBy hprevious).lt.le

/-- A day and so many days before it, as far as there are any. -/
def daysBack : Nat → Date → List Date
  | 0, date => [date]
  | n + 1, date => date :: (date.prev?.map (daysBack n)).getD []

/-- The days of a window that ends on a day. -/
theorem mem_daysBack {n : Nat} {date first : Date} (h : subDays? n date = some first) {day : Date} :
    day ∈ daysBack n date ↔ first ≤ day ∧ day ≤ date := by
  induction n generalizing date with
  | zero =>
    rw [← Option.some.inj h]
    show day ∈ [date] ↔ _
    rw [List.mem_singleton]
    exact ⟨fun heq => ⟨heq.ge, heq.le⟩, fun hboth => le_antisymm hboth.2 hboth.1⟩
  | succ n ih =>
    obtain ⟨previous, hprevious, hrest⟩ := Option.bind_eq_some_iff.mp h
    have hcov := prev?_covBy hprevious
    have hfirst : first ≤ previous := subDays?_le hrest
    have hlist : daysBack (n + 1) date = date :: daysBack n previous := by
      show date :: (date.prev?.map (daysBack n)).getD [] = _
      rw [hprevious]
      rfl
    rw [hlist, List.mem_cons, ih hrest]
    constructor
    · intro hday
      cases hday with
      | inl heq => exact ⟨heq ▸ hfirst.trans hcov.lt.le, heq.le⟩
      | inr hbefore => exact ⟨hbefore.1, hbefore.2.trans hcov.lt.le⟩
    · intro hday
      cases hday.2.eq_or_lt with
      | inl heq => exact Or.inl heq
      | inr hlt => exact Or.inr ⟨hday.1, hcov.le_of_lt hlt⟩

theorem nodup_daysBack {n : Nat} {date first : Date} (h : subDays? n date = some first) :
    (daysBack n date).Nodup := by
  induction n generalizing date with
  | zero => exact List.nodup_cons.mpr ⟨List.not_mem_nil, List.nodup_nil⟩
  | succ n ih =>
    obtain ⟨previous, hprevious, hrest⟩ := Option.bind_eq_some_iff.mp h
    have hlist : daysBack (n + 1) date = date :: daysBack n previous := by
      show date :: (date.prev?.map (daysBack n)).getD [] = _
      rw [hprevious]
      rfl
    rw [hlist, List.nodup_cons]
    refine ⟨fun hmem => ?_, ih hrest⟩
    exact absurd ((mem_daysBack hrest).mp hmem).2 (not_le.mpr (prev?_covBy hprevious).lt)

def remaining (date : Date) : Nat :=
  (9999 - date.year) * 372 + (12 - date.month) * 31 + (31 - date.day)

theorem remaining_lt {a b : Date} (h : a < b) : b.remaining < a.remaining := by
  have ha := a.year_range
  have hb := b.year_range
  have ha' := a.month_range
  have hb' := b.month_range
  have hday := a.day_range
  have hday' := b.day_range
  have hlast := daysInMonth_le a.year a.month
  have hlast' := daysInMonth_le b.year b.month
  rw [lt_iff] at h
  unfold remaining
  omega

/-- Where no day is left, no date is later. -/
theorem le_of_next?_eq_none {date : Date} (h : date.next? = none) (day : Date) : day ≤ date := by
  unfold next? at h
  split at h
  · cases h
  · rename_i hday
    split at h
    · cases h
    · rename_i hmonth
      split at h
      · cases h
      · rename_i hyear
        rw [← not_lt, lt_iff]
        have hyears := day.year_range
        have hmonths := day.month_range
        have hlast (hsame : date.year = day.year) (hsame' : date.month = day.month) :=
          day_le hsame hsame'
        omega

/-- The days from a date to another, of at most so many. -/
def upTo (stop : Date) : Nat → Date → List Date
  | 0, _ => []
  | n + 1, date => if date ≤ stop then date :: (date.next?.map (upTo stop n)).getD [] else []

def eachDay (start stop : Date) : List Date := upTo stop (start.remaining + 1) start

theorem mem_upTo {stop : Date} {n : Nat} {date : Date} (h : date.remaining < n) {day : Date} :
    day ∈ upTo stop n date ↔ date ≤ day ∧ day ≤ stop := by
  induction n generalizing date with
  | zero => cases h
  | succ n ih =>
    unfold upTo
    by_cases hle : date ≤ stop
    · rw [if_pos hle, List.mem_cons]
      cases hnext : date.next? with
      | none =>
        have hlast : date ≤ day ↔ day = date :=
          ⟨fun hday => le_antisymm (le_of_next?_eq_none hnext day) hday, fun heq => heq.ge⟩
        rw [hlast]
        exact ⟨fun hday => hday.elim (fun heq => ⟨heq, heq ▸ hle⟩) fun hmem => (by cases hmem),
          fun hboth => Or.inl hboth.1⟩
      | some next =>
        have hcov := covBy_next? hnext
        have hsmaller := remaining_lt hcov.lt
        show day = date ∨ day ∈ upTo stop n next ↔ _
        rw [ih (by omega)]
        constructor
        · intro hday
          cases hday with
          | inl heq => exact ⟨heq.ge, heq ▸ hle⟩
          | inr hlater => exact ⟨hcov.lt.le.trans hlater.1, hlater.2⟩
        · intro hday
          cases hday.1.eq_or_lt with
          | inl heq => exact Or.inl heq.symm
          | inr hlt => exact Or.inr ⟨hcov.ge_of_gt hlt, hday.2⟩
    · rw [if_neg hle]
      exact ⟨fun hmem => (by cases hmem), fun hday => absurd (hday.1.trans hday.2) hle⟩

theorem mem_eachDay {start stop day : Date} : day ∈ eachDay start stop ↔ start ≤ day ∧ day ≤ stop :=
  mem_upTo (Nat.lt_succ_self _)

theorem nodup_eachDay (start stop : Date) : (eachDay start stop).Nodup := by
  have hnodup (n : Nat) (date : Date) (h : date.remaining < n) : (upTo stop n date).Nodup := by
    induction n generalizing date with
    | zero => cases h
    | succ n ih =>
      unfold upTo
      split
      · rw [List.nodup_cons]
        cases hnext : date.next? with
        | none => exact ⟨List.not_mem_nil, List.nodup_nil⟩
        | some next =>
          have hcov := covBy_next? hnext
          have hsmaller := remaining_lt hcov.lt
          have hmore : next.remaining < n := by omega
          refine ⟨fun hmem => ?_, ih next hmore⟩
          exact absurd ((mem_upTo hmore).mp hmem).1 (not_le.mpr hcov.lt)
      · exact List.nodup_nil
  exact hnodup _ start (Nat.lt_succ_self _)

end Date

end Lib
