import Dashkoda.LegalWork.TopicMatching
import Dashkoda.Lib.IsoDate
import Dashkoda.Lib.PyText
import Dashkoda.Lib.Regex

/-!
# The feedback deadline of a consultation page

A page states its deadline as a numeric date, as a day and a month with a year, or as a day and a
month alone.  The year of the last form is the one the publication date allows.
-/

open Lib

namespace Dashkoda.LegalWork

/-- Genitive stems, in the order of the calendar. -/
def MONTH_STEMS : List (String × Nat) :=
  [("jaanuari", 1), ("veebruari", 2), ("märtsi", 3), ("aprilli", 4), ("mai", 5), ("juuni", 6),
    ("juuli", 7),
    ("augusti", 8), ("septembri", 9), ("oktoobri", 10), ("novembri", 11), ("detsembri", 12)]

/-- A deadline more than this far beyond publication is not a consultation deadline. -/
def MAX_DEADLINE_HORIZON_DAYS : Int := 400

section Patterns

variable (classes : CharClasses)

/-- `_MONTH_ALTERNATION`, the longest stem first. -/
def monthAlternation : Regex :=
  .anyOf ((sortOn (fun stem : String × Nat => -(stem.1.length : Int)) MONTH_STEMS).map
    fun stem => classes.literal stem.1)

/-- `hiljemalt\D{0,40}?` -/
def deadlineAnchor : Regex :=
  .seq (classes.literal "hiljemalt") (.upTo false 40 fun c => (classes.digit? c).isNone)

def dot : Regex := .char (· = '.')

/-- The ending of the translative and of the adessive. -/
def monthEnding : Regex := .alt (classes.literal "ks") (classes.literal "l")

/-- Groups: day, month stem. -/
def DEADLINE_PATTERN : Regex :=
  .sequence [deadlineAnchor classes, .group (classes.digits 1 2), dot, .star PyText.isSpace,
    .group (monthAlternation classes), monthEnding classes, .boundary classes.isWord]

/-- Groups: day, month stem, year. -/
def DEADLINE_WITH_YEAR_PATTERN : Regex :=
  .sequence [deadlineAnchor classes, .group (classes.digits 1 2), dot, .star PyText.isSpace,
    .group (monthAlternation classes), .alt (monthEnding classes) .eps, .star PyText.isSpace,
    .group (classes.digits 4 4)]

/-- Groups: day, month, year. -/
def DEADLINE_NUMERIC_PATTERN : Regex :=
  .sequence [deadlineAnchor classes, .group (classes.digits 1 2), dot,
    .group (classes.digits 1 2), dot,
    .group (classes.digits 4 4)]

end Patterns

/-! ## Extraction -/

/-- The date in the publication's year, or in the next one where that would precede the
publication. -/
def rolledDate (published : Date) (month day : Nat) : Option Date := do
  let candidate ← Date.ofNumbers? published.year month day
  if candidate < published then Date.ofNumbers? (published.year + 1) month day else some candidate

/-- `_resolve_year` -/
def resolveYear (day month : Nat) (publishedOn : Option Date) : Option Date := do
  let published ← publishedOn
  let candidate ← rolledDate published month day
  if MAX_DEADLINE_HORIZON_DAYS < daysAfter candidate published then none else some candidate

section Extraction

variable (classes : CharClasses)

/-- `MONTH_STEMS[stem.lower()]` -/
def monthOf (stem : String) : Except String Nat :=
  match MONTH_STEMS.find? (·.1 = classes.lower stem) with
  | some (_, month) => .ok month
  | none => .error "KeyError"

/-- The dates of one spelled form; the groups are the day, the stem and what may follow. -/
def spelledDates (resolve : Nat → Nat → List String → Option Date) (found : List (List String)) :
    Except String (List Date) := do
  let dates ← found.mapM fun
    | day :: stem :: rest => do
      let month ← monthOf classes stem
      return resolve (classes.number day) month rest
    | _ => return none
  return dates.filterMap id

def numericDates (text : String) : List Date :=
  ((DEADLINE_NUMERIC_PATTERN classes).findAll text).filterMap fun
    | [day, month, year] =>
      Date.ofNumbers? (classes.number year) (classes.number month) (classes.number day)
    | _ => none

def explicitDates (text : String) : Except String (List Date) := do
  let spelled ← spelledDates classes (fun day month rest =>
      Date.ofNumbers? (classes.number ((rest.head?).getD "")) month day)
    ((DEADLINE_WITH_YEAR_PATTERN classes).findAll text)
  return numericDates classes text ++ spelled

def bareDates (text : String) (publishedOn : Option Date) : Except String (List Date) :=
  spelledDates classes (fun day month _ => resolveYear day month publishedOn)
    ((DEADLINE_PATTERN classes).findAll text)

/-- The one date the forms agree on. -/
def agreed (dates : List Date) : Option Date :=
  match dates.dedup with
  | [date] => some date
  | _ => none

/-- `extract_feedback_deadline` -/
def extractFeedbackDeadline (text : String) (publishedOn : Option Date) :
    Except String (Option Date) := do
  if text = "" then return none
  let resolved ← explicitDates classes text
  if resolved ≠ [] then return agreed resolved
  return agreed (← bareDates classes text publishedOn)

end Extraction

/-! ## The horizon -/

/-- From the publication to the horizon after it. -/
structure WithinHorizon (published deadline : Date) : Prop where
  notBefore : published ≤ deadline
  notBeyond : daysAfter deadline published ≤ MAX_DEADLINE_HORIZON_DAYS

/-- Every deadline extracted from the page lies within the horizon. -/
def HorizonKept (classes : CharClasses) (text : String) (published : Date) : Prop :=
  ∀ deadline, extractFeedbackDeadline classes text (some published) = .ok (some deadline) →
    WithinHorizon published deadline

section Horizon

variable {classes : CharClasses} {text : String} {published deadline : Date} {day month : Nat}

theorem ofNumbers?_year {year : Nat} (h : Date.ofNumbers? year month day = some deadline) :
    deadline.year = year := by
  unfold Date.ofNumbers? at h
  split at h
  · rw [← Option.some.inj h]
  · cases h

theorem rolledDate_le (h : rolledDate published month day = some deadline) :
    published ≤ deadline := by
  unfold rolledDate at h
  obtain ⟨candidate, hcandidate, h⟩ := Option.bind_eq_some_iff.mp h
  by_cases hearly : candidate < published
  · -- the year after the publication
    rw [if_pos hearly] at h
    have hyear := ofNumbers?_year h
    exact (Date.lt_iff.mpr (Or.inl (by omega))).le
  · rw [if_neg hearly] at h
    rw [← Option.some.inj h]
    exact not_lt.mp hearly

/-- A date without a year is only read within the horizon. -/
theorem resolveYear_within (h : resolveYear day month (some published) = some deadline) :
    WithinHorizon published deadline := by
  unfold resolveYear at h
  change (rolledDate published month day).bind _ = _ at h
  obtain ⟨candidate, hcandidate, h⟩ := Option.bind_eq_some_iff.mp h
  by_cases hbeyond : MAX_DEADLINE_HORIZON_DAYS < daysAfter candidate published
  · rw [if_pos hbeyond] at h
    cases h
  · rw [if_neg hbeyond] at h
    rw [← Option.some.inj h]
    exact ⟨rolledDate_le hcandidate, not_lt.mp hbeyond⟩

theorem mem_of_agreed {dates : List Date} (h : agreed dates = some deadline) :
    deadline ∈ dates := by
  unfold agreed at h
  split at h
  · rename_i date hdates
    rw [← Option.some.inj h, ← List.mem_dedup, hdates]
    exact List.mem_singleton_self date
  · cases h

/-- Each date of a form is one it resolved. -/
theorem exists_of_mem_spelledDates {resolve : Nat → Nat → List String → Option Date}
    {found : List (List String)} {dates : List Date}
    (h : spelledDates classes resolve found = .ok dates)
    (hmem : deadline ∈ dates) : ∃ day month rest, resolve day month rest = some deadline := by
  unfold spelledDates at h
  obtain ⟨resolved, hresolved, h⟩ := bind_eq_ok_iff.mp h
  rw [← Except.ok.inj h, List.mem_filterMap] at hmem
  obtain ⟨read, hread, hsome⟩ := hmem
  obtain ⟨groups, -, hgroups⟩ := exists_of_mem_forall₂ (forall₂_of_mapM_eq_ok hresolved) hread
  change read = some deadline at hsome
  rw [hsome] at hgroups
  split at hgroups
  · obtain ⟨month, -, hresolve⟩ := bind_eq_ok_iff.mp hgroups
    exact ⟨_, month, _, Except.ok.inj hresolve⟩
  · cases hgroups

/-- **The horizon is kept exactly where the explicit date lies within it.** -/
theorem horizonKept_iff : HorizonKept classes text published ↔
    ∀ dates deadline, explicitDates classes text = .ok dates → agreed dates = some deadline →
      WithinHorizon published deadline := by
  unfold HorizonKept extractFeedbackDeadline
  by_cases hempty : text = ""
  · -- nothing is read from an empty text
    rw [if_pos hempty, hempty]
    constructor
    · intro _ dates deadline hdates hagreed
      cases hdates
      cases hagreed
    · intro _ deadline h
      cases h
  · rw [if_neg hempty]
    constructor
    · intro hkept dates deadline hdates hagreed
      have hfull : dates ≠ [] := List.ne_nil_of_mem (mem_of_agreed hagreed)
      refine hkept deadline (bind_eq_ok_iff.mpr ⟨dates, hdates, ?_⟩)
      rw [if_pos hfull, hagreed]
      rfl
    · intro hexplicit deadline h
      obtain ⟨dates, hdates, h⟩ := bind_eq_ok_iff.mp h
      by_cases hfull : dates ≠ []
      · rw [if_pos hfull] at h
        exact hexplicit dates deadline hdates (Except.ok.inj h)
      · rw [if_neg hfull] at h
        obtain ⟨bare, hbare, h⟩ := bind_eq_ok_iff.mp h
        obtain ⟨day, month, _, hresolved⟩ :=
          exists_of_mem_spelledDates hbare (mem_of_agreed (Except.ok.inj h))
        exact resolveYear_within hresolved

/-! ## A date years after the publication -/

def announcedOn : Date := .of 2026 3 1

def farDeadline : Date := .of 2030 1 1

theorem explicitYear_not_kept : ¬ HorizonKept asciiClasses "Anna hiljemalt 1.1.2030 teada."
    announcedOn := by
  intro hkept
  have hread : extractFeedbackDeadline asciiClasses "Anna hiljemalt 1.1.2030 teada."
      (some announcedOn) =
      .ok (some farDeadline) := by decide +kernel
  have hlate : ¬ daysAfter farDeadline announcedOn ≤ MAX_DEADLINE_HORIZON_DAYS := by decide +kernel
  exact hlate (hkept farDeadline hread).notBeyond

end Horizon

end Dashkoda.LegalWork
