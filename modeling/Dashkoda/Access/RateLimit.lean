import Dashkoda.Lib.Runs
import Mathlib.Logic.Function.Basic

/-!
# The lock on the PIN

Failures are counted in windows of fixed length, each of which starts with a failure.  Five failures
of one window lock the client; of five that follow each other as closely across the end of a window
some are forgotten.  Moments and durations are in microseconds.
-/

open Lib

namespace Dashkoda.Access

def FAILURE_LIMIT : Nat := 5

def WINDOW_DURATION : Int := 15 * 60 * 1000000

def LOCK_DURATION : Int := 15 * 60 * 1000000

structure ViewerRateLimitBucket where
  windowStartedAt : Int
  failureCount : Nat
  lockedUntil : Option Int
  deriving DecidableEq, Repr

structure PinCheckResult where
  authenticated : Bool
  locked : Bool
  retryAfter : Option Int
  deriving DecidableEq, Repr

abbrev Buckets := String → Option ViewerRateLimitBucket

/-- `math.ceil(….total_seconds())` -/
def ceilSeconds (duration : Int) : Int := -(-duration / 1000000)

def ViewerRateLimitBucket.lockHolds (bucket : ViewerRateLimitBucket) (now : Int) : Bool :=
  match bucket.lockedUntil with
  | some lockedUntil => now < lockedUntil
  | none => false

def ViewerRateLimitBucket.countFailure (bucket : ViewerRateLimitBucket) (now : Int) :
    ViewerRateLimitBucket :=
  let bucket :=
    if WINDOW_DURATION ≤ now - bucket.windowStartedAt then ⟨now, 0, none⟩ else bucket
  let failureCount := bucket.failureCount + 1
  { bucket with
    failureCount
    lockedUntil := if FAILURE_LIMIT ≤ failureCount then some (now + LOCK_DURATION)
      else bucket.lockedUntil }

/-- The bucket a check works on, created where there is none. -/
def Buckets.getOrCreate (buckets : Buckets) (clientKey : String) (now : Int) :
    ViewerRateLimitBucket := (buckets clientKey).getD ⟨now, 0, none⟩

/-- `check_pin`, for a `check_password` against the configured hash. -/
def checkPin (checkPassword : String → Bool) (clientKey pin : String) (now : Int)
    (buckets : Buckets) : PinCheckResult × Buckets :=
  let bucket := buckets.getOrCreate clientKey now
  if bucket.lockHolds now then
    (⟨false, true, bucket.lockedUntil.map fun lockedUntil =>
      max 1 (ceilSeconds (lockedUntil - now))⟩,
      Function.update buckets clientKey (some bucket))
  else if checkPassword pin then (⟨true, false, none⟩, Function.update buckets clientKey none)
  else
    let bucket := bucket.countFailure now
    (if bucket.lockedUntil.isSome then ⟨false, true, some (ceilSeconds LOCK_DURATION)⟩
      else ⟨false, false, none⟩, Function.update buckets clientKey (some bucket))

/-! ## One check -/

section Check

variable {checkPassword : String → Bool} {clientKey pin : String} {now : Int} {buckets : Buckets}
  {bucket : ViewerRateLimitBucket}

/-- The PIN is looked at unless a lock holds. -/
def Buckets.evaluates (buckets : Buckets) (clientKey : String) (now : Int) : Bool :=
  !(buckets.getOrCreate clientKey now).lockHolds now

theorem checkPin_locked (h : buckets.evaluates clientKey now = false) :
    (checkPin checkPassword clientKey pin now buckets).1.authenticated = false ∧
      (checkPin checkPassword clientKey pin now buckets).1.locked = true ∧
      (checkPin checkPassword clientKey pin now buckets).2 = buckets := by
  unfold Buckets.evaluates Buckets.getOrCreate at h
  unfold checkPin Buckets.getOrCreate
  cases hbucket : buckets clientKey with
  | none =>
    rw [hbucket] at h
    cases h
  | some bucket =>
    rw [hbucket, Option.getD_some, Bool.not_eq_false'] at h
    dsimp only
    rw [Option.getD_some, if_pos h]
    refine ⟨rfl, rfl, ?_⟩
    show Function.update buckets clientKey (some bucket) = buckets
    rw [← hbucket]
    exact Function.update_eq_self clientKey buckets

theorem checkPin_right (h : buckets.evaluates clientKey now = true)
    (hright : checkPassword pin = true) :
    checkPin checkPassword clientKey pin now buckets =
      (⟨true, false, none⟩, Function.update buckets clientKey none) := by
  unfold Buckets.evaluates at h
  rw [Bool.not_eq_true'] at h
  unfold checkPin
  dsimp only
  rw [if_neg (by rw [h]; exact Bool.false_ne_true), if_pos hright]

theorem checkPin_wrong (h : buckets.evaluates clientKey now = true)
    (hwrong : checkPassword pin = false) :
    (checkPin checkPassword clientKey pin now buckets).2 = Function.update buckets clientKey
      (some ((buckets.getOrCreate clientKey now).countFailure now)) := by
  unfold Buckets.evaluates at h
  rw [Bool.not_eq_true'] at h
  unfold checkPin
  dsimp only
  rw [if_neg (by rw [h]; exact Bool.false_ne_true),
    if_neg (by rw [hwrong]; exact Bool.false_ne_true)]

/-- What a PIN is compared with matters exactly while no lock holds. -/
theorem evaluates_iff : buckets.evaluates clientKey now = true ↔ ∃ checkPassword checkPassword',
    checkPin checkPassword clientKey pin now buckets ≠ checkPin checkPassword' clientKey pin now
      buckets := by
  constructor
  · intro h
    refine ⟨fun _ => true, fun _ => false, fun heq => ?_⟩
    have hbucket : (checkPin (fun _ => true) clientKey pin now buckets).2 clientKey =
        (checkPin (fun _ => false) clientKey pin now buckets).2 clientKey := by rw [heq]
    rw [checkPin_right h rfl, checkPin_wrong h rfl, Function.update_self] at hbucket
    have hdeleted : Function.update buckets clientKey none clientKey = some _ := hbucket
    rw [Function.update_self] at hdeleted
    cases hdeleted
  · rintro ⟨checkPassword, checkPassword', hne⟩
    by_contra hlocked
    have hlock : (buckets.getOrCreate clientKey now).lockHolds now = true := by
      unfold Buckets.evaluates at hlocked
      simpa using hlocked
    apply hne
    unfold checkPin
    dsimp only
    rw [if_pos hlock, if_pos hlock]

/-- Another client's bucket is left alone. -/
theorem checkPin_other {other : String} (hother : other ≠ clientKey) :
    (checkPin checkPassword clientKey pin now buckets).2 other = buckets other := by
  unfold checkPin
  dsimp only
  split
  · exact Function.update_of_ne hother _ _
  · split
    · exact Function.update_of_ne hother _ _
    · exact Function.update_of_ne hother _ _

end Check

/-! ## Sequences of attempts -/

/-- An attempt, so many microseconds after the one before it. -/
structure Attempt where
  elapsed : Nat
  clientKey : String
  pin : String

/-- The table together with the moments of the wrong PINs of one client that were evaluated since
its last success, the latest first. -/
structure Watched where
  clock : Int
  buckets : Buckets
  failures : List Int

def Watched.initial (start : Int) : Watched := ⟨start, fun _ => none, []⟩

section Attempts

variable (checkPassword : String → Bool) (client : String)

def Watched.attempt (watched : Watched) (attempt : Attempt) : Watched :=
  let now := watched.clock + attempt.elapsed
  { clock := now
    buckets := (checkPin checkPassword attempt.clientKey attempt.pin now watched.buckets).2
    failures :=
      if attempt.clientKey = client ∧ watched.buckets.evaluates client now = true then
        if checkPassword attempt.pin then [] else now :: watched.failures
      else watched.failures }

/-- Until the moment the client is refused whatever it is compared with, and nothing is written. -/
def LockedUntil (buckets : Buckets) (moment : Int) : Prop :=
  ∀ checkPassword pin now, now < moment →
    (checkPin checkPassword client pin now buckets).1.authenticated = false ∧
      (checkPin checkPassword client pin now buckets).1.locked = true ∧
      (checkPin checkPassword client pin now buckets).2 = buckets

/-- The sliding lockout: five wrong PINs in less than fifteen minutes lock for the next fifteen, and
a lock that is set is a lock. -/
structure Watched.Locks (watched : Watched) : Prop where
  fifth : ∀ first last, watched.failures[0]? = some last → watched.failures[4]? = some first →
    last - first < WINDOW_DURATION → LockedUntil client watched.buckets (last + LOCK_DURATION)
  unread : ∀ bucket moment, watched.buckets client = some bucket →
    bucket.lockedUntil = some moment →
    LockedUntil client watched.buckets moment

/-- If the attempt is a wrong PIN that is evaluated and the fifth in less than fifteen minutes, then
the window of the bucket contains all five. -/
def Watched.WindowCovers (watched : Watched) (attempt : Attempt) : Prop :=
  let now := watched.clock + attempt.elapsed
  attempt.clientKey = client → watched.buckets.evaluates client now = true →
    checkPassword attempt.pin = false → ∀ first, watched.failures[3]? = some first →
    now - first < WINDOW_DURATION → ∃ bucket, watched.buckets client = some bucket ∧
      bucket.windowStartedAt ≤ first ∧ now - bucket.windowStartedAt < WINDOW_DURATION

end Attempts

/-! ## What a bucket counts -/

/-- The bucket counts the latest failures: those from the start of its window on.  The fifth one has
set the lock. -/
structure ViewerRateLimitBucket.Counts (bucket : ViewerRateLimitBucket) (failures : List Int) :
    Prop where
  pos : 1 ≤ bucket.failureCount
  le : bucket.failureCount ≤ FAILURE_LIMIT
  length : bucket.failureCount ≤ failures.length
  recent : ∀ t ∈ failures.take bucket.failureCount,
    bucket.windowStartedAt ≤ t ∧ t < bucket.windowStartedAt + WINDOW_DURATION
  older : ∀ t ∈ failures.drop bucket.failureCount, t < bucket.windowStartedAt
  lock : bucket.lockedUntil = if bucket.failureCount = FAILURE_LIMIT
    then failures.head?.map (· + LOCK_DURATION) else none

section Counts

variable {bucket : ViewerRateLimitBucket} {failures : List Int} {now clock : Int}

theorem counts_first (now : Int) : (⟨now, 1, none⟩ : ViewerRateLimitBucket).Counts
    (now :: failures) ↔
    ∀ t ∈ failures, t < now := by
  constructor
  · exact fun h => h.older
  · intro holder
    refine ⟨Nat.le_refl 1, by show 1 ≤ 5; omega, by simp, fun t ht => ?_, holder, rfl⟩
    rw [List.take_one, List.head?_cons, Option.toList_some, List.mem_singleton] at ht
    subst ht
    refine ⟨Int.le_refl t, ?_⟩
    dsimp only
    unfold WINDOW_DURATION
    omega

/-- The window of an unlocked bucket has room for one more failure. -/
theorem ViewerRateLimitBucket.Counts.lt_limit (h : bucket.Counts failures)
    (hpast : ∀ t ∈ failures, t ≤ now) (hunlocked : bucket.lockHolds now = false)
    (hwindow : now - bucket.windowStartedAt < WINDOW_DURATION) :
      bucket.failureCount < FAILURE_LIMIT := by
  refine Nat.lt_of_le_of_ne h.le fun hfull => ?_
  have hlock := h.lock
  rw [if_pos hfull] at hlock
  cases failures with
  | nil =>
    have hlength := h.length
    rw [hfull] at hlength
    simp [FAILURE_LIMIT] at hlength
  | cons last rest =>
    have hlast := (h.recent last (by rw [hfull]; exact List.mem_cons_self)).1
    unfold lockHolds at hunlocked
    rw [hlock] at hunlocked
    have hover : ¬ now < last + LOCK_DURATION := of_decide_eq_false hunlocked
    unfold LOCK_DURATION at hover
    unfold WINDOW_DURATION at hwindow
    omega

/-- One more failure is counted with the window it falls in, or starts the next one. -/
theorem ViewerRateLimitBucket.Counts.countFailure (h : bucket.Counts failures)
    (hpast : ∀ t ∈ failures, t ≤ now) (hunlocked : bucket.lockHolds now = false) :
    (bucket.countFailure now).Counts (now :: failures) := by
  by_cases hover : WINDOW_DURATION ≤ now - bucket.windowStartedAt
  · -- every earlier failure lies before the new window
    have hbefore : ∀ t ∈ failures, t < now := by
      intro t ht
      rw [← List.take_append_drop bucket.failureCount failures] at ht
      cases List.mem_append.mp ht with
      | inl hrecent =>
        have hlast := (h.recent t hrecent).2
        omega
      | inr holder =>
        have hstart := h.older t holder
        unfold WINDOW_DURATION at hover
        omega
    have hnext : bucket.countFailure now = ⟨now, 1, none⟩ := by
      unfold ViewerRateLimitBucket.countFailure
      rw [if_pos hover]
      rfl
    rw [hnext]
    exact (counts_first now).mpr hbefore
  · have hwindow : now - bucket.windowStartedAt < WINDOW_DURATION := by omega
    have hroom := h.lt_limit hpast hunlocked hwindow
    have hfree : bucket.lockedUntil = none := by
      rw [h.lock, if_neg (by omega)]
    have hnext : bucket.countFailure now = ⟨bucket.windowStartedAt, bucket.failureCount + 1,
        if FAILURE_LIMIT ≤ bucket.failureCount + 1 then some (now + LOCK_DURATION) else none⟩ := by
      unfold ViewerRateLimitBucket.countFailure
      rw [if_neg hover, ← hfree]
    have hstart : bucket.windowStartedAt ≤ now := by
      cases failures with
      | nil =>
        have hlength := h.length
        have hpos := h.pos
        rw [List.length_nil] at hlength
        omega
      | cons last rest =>
        have hlast : last ∈ (last :: rest).take bucket.failureCount := by
          obtain ⟨n, hn⟩ := Nat.exists_eq_add_of_le h.pos
          rw [hn, Nat.add_comm, List.take_succ_cons]
          exact List.mem_cons_self
        exact Int.le_trans (h.recent last hlast).1 (hpast last List.mem_cons_self)
    rw [hnext]
    refine ⟨by dsimp only; omega, by dsimp only; omega, ?_, fun t ht => ?_, h.older, ?_⟩
    · rw [List.length_cons]
      exact Nat.succ_le_succ h.length
    · rw [List.take_succ_cons] at ht
      cases List.mem_cons.mp ht with
      | inl heq =>
        subst heq
        dsimp only
        omega
      | inr hin => exact h.recent t hin
    · dsimp only
      by_cases hfull : bucket.failureCount + 1 = FAILURE_LIMIT
      · rw [if_pos (by omega), if_pos hfull]
        rfl
      · rw [if_neg (by omega), if_neg hfull]

/-- The fifth failure sets the lock exactly if the window contains the four before it. -/
theorem ViewerRateLimitBucket.Counts.locks_iff (h : bucket.Counts failures)
    (hpast : ∀ t ∈ failures, t ≤ now) (hunlocked : bucket.lockHolds now = false) {first : Int}
    (hfirst : failures[3]? = some first) : (bucket.countFailure now).lockedUntil =
      some (now + LOCK_DURATION) ↔
      bucket.windowStartedAt ≤ first ∧ now - bucket.windowStartedAt < WINDOW_DURATION := by
  have hnext := h.countFailure hpast hunlocked
  by_cases hover : WINDOW_DURATION ≤ now - bucket.windowStartedAt
  · have hnone : (bucket.countFailure now).lockedUntil = none := by
      unfold ViewerRateLimitBucket.countFailure
      rw [if_pos hover]
      rfl
    rw [hnone]
    constructor
    · intro hlock
      cases hlock
    · intro hcovers
      omega
  · have hsame : (bucket.countFailure now).windowStartedAt = bucket.windowStartedAt := by
      unfold ViewerRateLimitBucket.countFailure
      rw [if_neg hover]
    have hfifth : (now :: failures)[4]? = some first := hfirst
    rw [hnext.lock]
    constructor
    · intro hlock
      refine ⟨?_, by omega⟩
      split at hlock
      · rename_i hfull
        rw [← hsame]
        refine (hnext.recent first ?_).1
        rw [hfull]
        exact List.mem_of_getElem?
          ((List.getElem?_take_of_lt (by decide : 4 < FAILURE_LIMIT)).trans hfifth)
      · cases hlock
    · rintro ⟨hcovers, -⟩
      -- what is older than the window is not the first of the five
      by_cases hfull : (bucket.countFailure now).failureCount = FAILURE_LIMIT
      · rw [if_pos hfull]
        rfl
      · have hlt := Nat.lt_of_le_of_ne hnext.le hfull
        have holder : first ∈ (now :: failures).drop (bucket.countFailure now).failureCount := by
          apply @List.mem_of_getElem? _ _ (4 - (bucket.countFailure now).failureCount)
          rw [List.getElem?_drop, ← hfifth]
          congr 1
          unfold FAILURE_LIMIT at hlt
          omega
        have hbefore := hnext.older first holder
        rw [hsame] at hbefore
        omega

end Counts

/-! ## Every sequence -/

/-- The bucket of the client counts its failures, which are past. -/
structure Watched.Sound (client : String) (watched : Watched) : Prop where
  absent : watched.buckets client = none → watched.failures = []
  present : ∀ bucket, watched.buckets client = some bucket → bucket.Counts watched.failures
  past : ∀ t ∈ watched.failures, t ≤ watched.clock

section Steps

variable {checkPassword : String → Bool} {client : String} {watched : Watched} {attempt : Attempt}
  {buckets : Buckets} {moment : Int}

/-- Until a moment the client is locked exactly if its bucket is. -/
theorem lockedUntil_iff : LockedUntil client buckets moment ↔ ∀ now < moment,
    buckets.evaluates client now = false := by
  constructor
  · intro h now hnow
    by_contra hopen
    have hanswer := (h (fun _ => true) "" now hnow).1
    rw [checkPin_right (Bool.not_eq_false _ ▸ hopen) rfl] at hanswer
    cases hanswer
  · exact fun h checkPassword pin now hnow => checkPin_locked (h now hnow)

theorem lockedUntil_of_bucket {bucket : ViewerRateLimitBucket}
    (hbucket : buckets client = some bucket)
    (hlock : bucket.lockedUntil = some moment) : LockedUntil client buckets moment := by
  rw [lockedUntil_iff]
  intro now hnow
  unfold Buckets.evaluates Buckets.getOrCreate ViewerRateLimitBucket.lockHolds
  rw [hbucket, Option.getD_some, hlock]
  simpa using hnow

theorem Watched.locks_congr {watched' : Watched} (h : watched.Locks client)
    (hbuckets : watched'.buckets client = watched.buckets client)
    (hfailures : watched'.failures = watched.failures) : watched'.Locks client := by
  have hsame (now : Int) :
      watched'.buckets.evaluates client now = watched.buckets.evaluates client now := by
    unfold Buckets.evaluates Buckets.getOrCreate
    rw [hbuckets]
  constructor
  · intro first last hlast hfirst hspan
    rw [hfailures] at hlast hfirst
    have hlocked := lockedUntil_iff.mp (h.fifth first last hlast hfirst hspan)
    exact lockedUntil_iff.mpr fun now hnow => (hsame now).trans (hlocked now hnow)
  · intro bucket moment hbucket hlock
    exact lockedUntil_of_bucket hbucket hlock

/-- The attempts by which the client's bucket and its failures stay the same. -/
theorem Watched.attempt_same (h : ¬ (attempt.clientKey = client ∧
    watched.buckets.evaluates client (watched.clock + attempt.elapsed) = true)) :
    (watched.attempt checkPassword client attempt).buckets client = watched.buckets client ∧
      (watched.attempt checkPassword client attempt).failures = watched.failures := by
  refine ⟨?_, if_neg h⟩
  by_cases hclient : attempt.clientKey = client
  · have hlocked : watched.buckets.evaluates attempt.clientKey
        (watched.clock + attempt.elapsed) = false := by
      rw [hclient]
      exact Bool.not_eq_true _ ▸ fun hopen => h ⟨hclient, hopen⟩
    exact congrFun (checkPin_locked hlocked).2.2 client
  · exact checkPin_other (Ne.symm hclient)

/-- An evaluated wrong PIN is counted. -/
theorem Watched.attempt_wrong (hclient : attempt.clientKey = client)
    (hopen : watched.buckets.evaluates client (watched.clock + attempt.elapsed) = true)
    (hwrong : checkPassword attempt.pin = false) :
    (watched.attempt checkPassword client attempt).buckets client =
        some ((watched.buckets.getOrCreate client (watched.clock + attempt.elapsed)).countFailure
          (watched.clock + attempt.elapsed)) ∧
      (watched.attempt checkPassword client attempt).failures =
        (watched.clock + attempt.elapsed) :: watched.failures := by
  unfold Watched.attempt
  dsimp only
  rw [if_pos ⟨hclient, hopen⟩, hwrong, hclient, checkPin_wrong hopen hwrong]
  exact ⟨Function.update_self _ _ _, rfl⟩

/-- A right PIN that is evaluated deletes the bucket. -/
theorem Watched.attempt_right (hclient : attempt.clientKey = client)
    (hopen : watched.buckets.evaluates client (watched.clock + attempt.elapsed) = true)
    (hright : checkPassword attempt.pin = true) :
    (watched.attempt checkPassword client attempt).buckets client = none ∧
      (watched.attempt checkPassword client attempt).failures = [] := by
  unfold Watched.attempt
  dsimp only
  rw [if_pos ⟨hclient, hopen⟩, hright, hclient, checkPin_right hopen hright]
  exact ⟨Function.update_self _ _ _, rfl⟩

/-- What a wrong PIN leaves counts it. -/
theorem Watched.Sound.countFailure (h : watched.Sound client)
    (hopen : watched.buckets.evaluates client (watched.clock + attempt.elapsed) = true) :
    ((watched.buckets.getOrCreate client (watched.clock + attempt.elapsed)).countFailure
        (watched.clock + attempt.elapsed)).Counts
      ((watched.clock + attempt.elapsed) :: watched.failures) := by
  have hpast : ∀ t ∈ watched.failures, t ≤ watched.clock + attempt.elapsed := by
    intro t ht
    have hbefore := h.past t ht
    omega
  unfold Buckets.evaluates at hopen
  rw [Bool.not_eq_true'] at hopen
  cases hbucket : watched.buckets client with
  | some bucket =>
    unfold Buckets.getOrCreate at hopen ⊢
    rw [hbucket, Option.getD_some] at hopen ⊢
    exact (h.present bucket hbucket).countFailure hpast hopen
  | none =>
    have hfirst :
        (watched.buckets.getOrCreate client (watched.clock + attempt.elapsed)).countFailure
        (watched.clock + attempt.elapsed) = ⟨watched.clock + attempt.elapsed, 1, none⟩ := by
      unfold Buckets.getOrCreate ViewerRateLimitBucket.countFailure
      rw [hbucket, Option.getD_none, Int.sub_self, if_neg (by decide)]
      rfl
    rw [hfirst, h.absent hbucket]
    exact (counts_first _).mpr fun t ht => (by cases ht)

theorem Watched.attempt_sound (h : watched.Sound client) :
    (watched.attempt checkPassword client attempt).Sound client := by
  have hclock : (watched.attempt checkPassword client attempt).clock =
    watched.clock + attempt.elapsed := rfl
  have hpast : ∀ t ∈ watched.failures, t ≤ watched.clock + attempt.elapsed := by
    intro t ht
    have hbefore := h.past t ht
    omega
  by_cases hopen : attempt.clientKey = client ∧
      watched.buckets.evaluates client (watched.clock + attempt.elapsed) = true
  · cases hpin : checkPassword attempt.pin with
    | true =>
      obtain ⟨hbuckets, hfailures⟩ := Watched.attempt_right hopen.1 hopen.2 hpin
      refine ⟨fun _ => hfailures, fun bucket hbucket => ?_, fun t ht => ?_⟩
      · rw [hbuckets] at hbucket
        cases hbucket
      · rw [hfailures] at ht
        cases ht
    | false =>
      obtain ⟨hbuckets, hfailures⟩ := Watched.attempt_wrong hopen.1 hopen.2 hpin
      refine ⟨fun hnone => ?_, fun bucket hbucket => ?_, fun t ht => ?_⟩
      · rw [hbuckets] at hnone
        cases hnone
      · rw [hbuckets] at hbucket
        rw [hfailures, ← Option.some.inj hbucket]
        exact h.countFailure hopen.2
      · rw [hfailures] at ht
        rw [hclock]
        cases List.mem_cons.mp ht with
        | inl heq => omega
        | inr hin => exact hpast t hin
  · obtain ⟨hbuckets, hfailures⟩ := @Watched.attempt_same checkPassword _ _ _ hopen
    refine ⟨fun hnone => ?_, fun bucket hbucket => ?_, fun t ht => ?_⟩
    · rw [hfailures]
      exact h.absent (hbuckets.symm.trans hnone)
    · rw [hfailures]
      exact h.present bucket (hbuckets.symm.trans hbucket)
    · rw [hfailures] at ht
      exact hpast t ht

/-- After an attempt the sliding lockout holds exactly if the window covers it. -/
theorem Watched.attempt_locks_iff (h : watched.Sound client) (hlocks : watched.Locks client) :
    (watched.attempt checkPassword client attempt).Locks client ↔
      watched.WindowCovers checkPassword client attempt := by
  by_cases hopen : attempt.clientKey = client ∧
      watched.buckets.evaluates client (watched.clock + attempt.elapsed) = true
  · cases hpin : checkPassword attempt.pin with
    | true =>
      obtain ⟨hbuckets, hfailures⟩ := Watched.attempt_right hopen.1 hopen.2 hpin
      constructor
      · intro _ _ _ hwrong
        rw [hpin] at hwrong
        cases hwrong
      · intro _
        refine ⟨fun first last hlast => ?_, fun bucket moment hbucket hlock => ?_⟩
        · rw [hfailures] at hlast
          cases hlast
        · exact lockedUntil_of_bucket hbucket hlock
    | false =>
      obtain ⟨hbuckets, hfailures⟩ := Watched.attempt_wrong hopen.1 hopen.2 hpin
      have hcounts := h.countFailure hopen.2
      have hpast : ∀ t ∈ watched.failures, t ≤ watched.clock + attempt.elapsed := by
        intro t ht
        have hbefore := h.past t ht
        omega
      have hlocked : ∀ bucket, watched.buckets client = some bucket →
          bucket.lockHolds (watched.clock + attempt.elapsed) = false := by
        intro bucket hbucket
        have hevaluated := hopen.2
        unfold Buckets.evaluates Buckets.getOrCreate at hevaluated
        rw [hbucket, Option.getD_some, Bool.not_eq_true'] at hevaluated
        exact hevaluated
      constructor
      · intro hafter _ _ _ first hfirst hspan
        cases hbucket : watched.buckets client with
        | none =>
          rw [h.absent hbucket] at hfirst
          cases hfirst
        | some bucket =>
          refine ⟨bucket, rfl,
            (ViewerRateLimitBucket.Counts.locks_iff (h.present bucket hbucket) hpast
            (hlocked bucket hbucket) hfirst).mp ?_⟩
          -- the client is locked right after the attempt, so its bucket has the lock
          have hrefused := lockedUntil_iff.mp (hafter.fifth first _ (by rw [hfailures]; rfl)
            (by rw [hfailures]; exact hfirst) hspan) (watched.clock + attempt.elapsed)
            (by unfold LOCK_DURATION; omega)
          unfold Buckets.evaluates Buckets.getOrCreate at hrefused
          unfold Buckets.getOrCreate at hbuckets hcounts
          rw [hbucket, Option.getD_some] at hbuckets hcounts
          rw [hbuckets, Option.getD_some, Bool.not_eq_false'] at hrefused
          unfold ViewerRateLimitBucket.lockHolds at hrefused
          rw [hcounts.lock] at hrefused ⊢
          split at hrefused
          · rename_i hset
            rw [hset]
            split at hset
            · exact hset.symm
            · cases hset
          · cases hrefused
      · intro hcovers
        refine ⟨fun first last hlast hfirst hspan => ?_, fun bucket moment hbucket hlock =>
          lockedUntil_of_bucket hbucket hlock⟩
        rw [hfailures] at hlast hfirst
        have hlast : watched.clock + attempt.elapsed = last := Option.some.inj hlast
        have hfirst : watched.failures[3]? = some first := hfirst
        obtain ⟨bucket, hbucket, hinside⟩ := hcovers hopen.1 hopen.2 hpin first hfirst (by omega)
        have hset := (ViewerRateLimitBucket.Counts.locks_iff (h.present bucket hbucket) hpast
          (hlocked bucket hbucket) hfirst).mpr hinside
        unfold Buckets.getOrCreate at hbuckets
        rw [hbucket, Option.getD_some] at hbuckets
        rw [← hlast]
        exact lockedUntil_of_bucket hbuckets hset
  · obtain ⟨hbuckets, hfailures⟩ := @Watched.attempt_same checkPassword _ _ _ hopen
    constructor
    · exact fun _ hclient hevaluated => absurd ⟨hclient, hevaluated⟩ hopen
    · exact fun _ => Watched.locks_congr hlocks hbuckets hfailures

end Steps

/-- Over any sequence of attempts of any clients, the sliding lockout of a client holds after each
attempt exactly if its window covers each of them. -/
theorem sliding_lockout_iff (checkPassword : String → Bool) (client : String) (start : Int)
    (attempts : List Attempt) :
    Throughout (Watched.attempt checkPassword client) (Watched.Locks client) (Watched.initial start)
        attempts ↔
      StepsMeet (Watched.attempt checkPassword client) (Watched.WindowCovers checkPassword client)
        (Watched.initial start) attempts := by
  have hsound : (Watched.initial start).Sound client :=
    ⟨fun _ => rfl, fun _ hbucket => (by cases hbucket), fun _ ht => (by cases ht)⟩
  have hlocks : (Watched.initial start).Locks client :=
    ⟨fun _ _ hlast => (by cases hlast), fun _ _ hbucket => (by cases hbucket)⟩
  exact throughout_iff_stepsMeet (fun _ _ h => Watched.attempt_sound h)
    (fun _ _ h hlocks => Watched.attempt_locks_iff h hlocks) attempts hsound hlocks

/-! ## Across the end of a window -/

/-- A wrong PIN, and fourteen minutes later four more within two minutes. -/
def straddling : List Attempt :=
  [⟨0, "viewer", "0000"⟩, ⟨14 * 60 * 1000000, "viewer", "0001"⟩, ⟨0, "viewer", "0002"⟩,
    ⟨0, "viewer", "0003"⟩, ⟨60 * 1000000, "viewer", "0004"⟩, ⟨60 * 1000000, "viewer", "0005"⟩]

set_option maxRecDepth 4000 in
/-- The last five wrong PINs follow within two minutes, and the next one is evaluated. -/
theorem straddling_not_locked :
    ¬ Throughout (Watched.attempt (· = "4711") "viewer") (Watched.Locks "viewer")
      (Watched.initial 0)
      straddling := by
  intro hlocks
  have hlocked := hlocks.run.fifth (14 * 60 * 1000000) (16 * 60 * 1000000) rfl rfl (by decide)
  have hrefused := (hlocked (· = "4711") "4711" (17 * 60 * 1000000) (by decide)).1
  revert hrefused
  decide

end Dashkoda.Access
