import Mathlib.Data.List.Basic
import Mathlib.Data.List.Count
import Mathlib.Order.Monotone.Basic

/-!
# A backlog worked off from its head

A run takes at most `limit` items from the head of what is left.  An item that is done leaves the
backlog, one that is kept stays where it is, and one that stops the run is left with all that
follows.  What is not done comes back at the head of the next run, so an item is reached only if
fewer than `limit` such items are ahead of it.
-/

namespace Lib

universe u

namespace Backlog

variable {α : Type u}

inductive Outcome
  | done
  | kept
  | stop
  deriving DecidableEq

/-- What one run leaves of the backlog. -/
def sweep (read : α → Outcome) : Nat → List α → List α
  | 0, backlog => backlog
  | _ + 1, [] => []
  | limit + 1, item :: rest =>
    match read item with
    | .done => sweep read limit rest
    | .kept => item :: sweep read limit rest
    | .stop => item :: rest

/-- What is done of a list before the run is stopped. -/
def cleared (read : α → Outcome) : List α → List α
  | [] => []
  | item :: rest =>
    match read item with
    | .done => item :: cleared read rest
    | .kept => cleared read rest
    | .stop => []

/-- What is left after some runs, each with its own reading. -/
def runs (read : Nat → α → Outcome) (limit : Nat) (backlog : List α) : Nat → List α
  | 0 => backlog
  | k + 1 => sweep (read k) limit (runs read limit backlog k)

section Sweep

variable {read : α → Outcome} {x : α}

theorem sweep_sublist (read : α → Outcome) (limit : Nat) (backlog : List α) :
    (sweep read limit backlog).Sublist backlog := by
  induction limit, backlog using sweep.induct read with
  | case1 backlog => simp [sweep]
  | case2 => simp [sweep]
  | case3 limit item rest hread ih =>
    rw [sweep, hread]
    exact ih.cons item
  | case4 limit item rest hread ih =>
    rw [sweep, hread]
    exact ih.cons_cons item
  | case5 limit item rest hread =>
    rw [sweep, hread]

/-- Only what is done leaves. -/
theorem countP_sweep {p : α → Bool} (hp : ∀ y, p y = true → read y ≠ .done) (limit : Nat)
    (backlog : List α) :
    (sweep read limit backlog).countP p = backlog.countP p := by
  induction limit, backlog using sweep.induct read with
  | case1 backlog => simp [sweep]
  | case2 => simp [sweep]
  | case3 limit item rest hread ih =>
    have hitem : ¬ p item = true := fun h => hp item h hread
    rw [sweep, hread, List.countP_cons_of_neg hitem]
    exact ih
  | case4 limit item rest hread ih =>
    rw [sweep, hread]
    simp only [List.countP_cons, ih]
  | case5 limit item rest hread =>
    rw [sweep, hread]

theorem mem_sweep_of_ne_done {limit : Nat} {backlog : List α} (hmem : x ∈ backlog)
    (hread : read x ≠ .done) :
    x ∈ sweep read limit backlog := by
  classical
  have hcount := countP_sweep (p := fun y => decide (y = x))
    (fun y hy => by rw [of_decide_eq_true hy]; exact hread) limit backlog
  have hpos : 0 < backlog.countP fun y => decide (y = x) :=
    List.countP_pos_iff.mpr ⟨x, hmem, decide_eq_true rfl⟩
  rw [← hcount, List.countP_pos_iff] at hpos
  obtain ⟨y, hy, heq⟩ := hpos
  exact of_decide_eq_true heq ▸ hy

theorem cleared_subset (read : α → Outcome) (items : List α) : cleared read items ⊆ items := by
  induction items with
  | nil => exact List.Subset.refl _
  | cons item rest ih =>
    rw [cleared]
    cases read item with
    | done => exact List.cons_subset_cons item ih
    | kept => exact fun y hy => List.mem_cons_of_mem _ (ih hy)
    | stop => exact List.nil_subset _

/-- A run leaves what it has not cleared. -/
theorem sweep_eq_filter [DecidableEq α] (read : α → Outcome) (limit : Nat) {backlog : List α}
    (h : backlog.Nodup) :
    sweep read limit backlog = backlog.filter fun y => y ∉ cleared read (backlog.take limit) := by
  induction backlog generalizing limit with
  | nil => cases limit <;> rfl
  | cons item rest ih =>
    obtain ⟨hitem, hrest⟩ := List.nodup_cons.mp h
    cases limit with
    | zero =>
      rw [sweep, List.take_zero, cleared, List.filter_eq_self.mpr]
      simp
    | succ limit =>
      have hnot : item ∉ cleared read (rest.take limit) := fun hmem =>
        hitem (List.mem_of_mem_take (cleared_subset read _ hmem))
      rw [sweep, List.take_succ_cons, cleared, ih limit hrest]
      cases read item with
      | done =>
        show _ = (item :: rest).filter fun y => y ∉ item :: cleared read (rest.take limit)
        rw [List.filter_cons_of_neg (by simp)]
        refine List.filter_congr fun y hy => ?_
        have hne : y ≠ item := fun heq => hitem (heq ▸ hy)
        simp [hne]
      | kept =>
        show _ = (item :: rest).filter fun y => y ∉ cleared read (rest.take limit)
        rw [List.filter_cons_of_pos (by simpa using hnot)]
      | stop =>
        show item :: rest = (item :: rest).filter fun y => y ∉ []
        rw [List.filter_eq_self.mpr]
        simp

/-- A run that is stopped, or has no room left, before an item leaves it and all that follows. -/
theorem sweep_blocked {limit : Nat} {before : List α}
    (h : (∃ y ∈ before, read y = .stop) ∨ limit ≤ before.length) (after : List α) :
    sweep read limit (before ++ after) = sweep read limit before ++ after := by
  induction limit, before using sweep.induct read with
  | case1 before => simp [sweep]
  | case2 => simp at h
  | case3 limit item rest hread ih =>
    have hrest : (∃ y ∈ rest, read y = .stop) ∨ limit ≤ rest.length := by
      simpa [hread] using h
    rw [List.cons_append, sweep, sweep, hread]
    exact ih hrest
  | case4 limit item rest hread ih =>
    have hrest : (∃ y ∈ rest, read y = .stop) ∨ limit ≤ rest.length := by
      simpa [hread] using h
    rw [List.cons_append, sweep, sweep, hread]
    show item :: sweep read limit (rest ++ after) = item :: (sweep read limit rest ++ after)
    rw [ih hrest]
  | case5 limit item rest hread =>
    rw [List.cons_append, sweep, sweep, hread]
    rfl

/-- A run with nothing to stop it reaches an item it has room for. -/
theorem sweep_reaches {limit : Nat} {before after : List α} (hx : x ∉ before ++ after)
    (hread : read x = .done) (hstop : ∀ y ∈ before, read y ≠ .stop)
    (hroom : before.length < limit) :
    x ∉ sweep read limit (before ++ x :: after) := by
  induction before generalizing limit with
  | nil =>
    obtain ⟨limit, rfl⟩ : ∃ n, limit = n + 1 := ⟨limit - 1, by simp at hroom; omega⟩
    rw [List.nil_append, sweep, hread]
    exact fun hmem => hx (by simpa using (sweep_sublist read limit after).subset hmem)
  | cons item rest ih =>
    obtain ⟨limit, rfl⟩ : ∃ n, limit = n + 1 := ⟨limit - 1, by omega⟩
    have hrest : x ∉ sweep read limit (rest ++ x :: after) :=
      ih (fun h => hx (List.mem_cons_of_mem _ h)) (fun y hy => hstop y (List.mem_cons_of_mem _ hy))
        (by rw [List.length_cons] at hroom; omega)
    have hne : x ≠ item := fun h => hx (by rw [h]; exact List.mem_cons_self)
    rw [List.cons_append, sweep]
    cases hitem : read item with
    | done => exact hrest
    | kept => exact fun hmem => (List.mem_cons.mp hmem).elim hne hrest
    | stop => exact absurd hitem (hstop item List.mem_cons_self)

/-- Where fewer items than a run takes are kept, something leaves. -/
theorem length_sweep_lt {limit : Nat} {backlog : List α} (hstop : ∀ y ∈ backlog, read y ≠ .stop)
    (hkept : backlog.countP (fun y => read y = .kept) < limit) (hroom : limit ≤ backlog.length) :
    (sweep read limit backlog).length < backlog.length := by
  induction backlog generalizing limit with
  | nil =>
    rw [List.length_nil] at hroom
    omega
  | cons item rest ih =>
    obtain ⟨limit, rfl⟩ : ∃ n, limit = n + 1 := ⟨limit - 1, by omega⟩
    rw [sweep]
    cases hitem : read item with
    | done =>
      have hle := (sweep_sublist read limit rest).length_le
      rw [List.length_cons]
      exact Nat.lt_succ_of_le hle
    | kept =>
      have hcount : rest.countP (fun y => read y = .kept) < limit := by
        rw [List.countP_cons_of_pos (by simpa using hitem)] at hkept
        omega
      have := ih (fun y hy => hstop y (List.mem_cons_of_mem _ hy)) hcount
        (by rw [List.length_cons] at hroom; omega)
      show (item :: sweep read limit rest).length < (item :: rest).length
      rw [List.length_cons, List.length_cons]
      omega
    | stop => exact absurd hitem (hstop item List.mem_cons_self)

end Sweep

/-! ## Runs one after the other -/

section Runs

variable {read : Nat → α → Outcome} {limit : Nat} {before after : List α} {x : α}

/-- An item that is done in some run stays so, and what stops one run stops them all. -/
structure Settled (read : Nat → α → Outcome) : Prop where
  done : ∀ k y, read k y = .done → read (k + 1) y = .done
  stop : ∀ k y, read k y = .stop ↔ read 0 y = .stop

theorem Settled.done_le (h : Settled read) {j k : Nat} (hle : j ≤ k) {y : α}
    (hdone : read j y = .done) :
    read k y = .done := by
  induction hle with
  | refl => exact hdone
  | @step k _ ih => exact h.done k y ih

/-- A reading that is the same in every run. -/
theorem settled_const (read : α → Outcome) : Settled fun _ : Nat => read :=
  ⟨fun _ _ h => h, fun _ _ => .rfl⟩

theorem runs_sublist (read : Nat → α → Outcome) (limit : Nat) (backlog : List α) (k : Nat) :
    (runs read limit backlog k).Sublist backlog := by
  induction k with
  | zero => exact List.Sublist.refl _
  | succ k ih => exact (sweep_sublist _ limit _).trans ih

theorem runs_add (read : Nat → α → Outcome) (limit : Nat) (backlog : List α) (j k : Nat) :
    runs read limit backlog (j + k) = runs (fun i => read (j + i)) limit
      (runs read limit backlog j) k := by
  induction k with
  | zero => rfl
  | succ k ih =>
    show sweep (read (j + k)) limit (runs read limit backlog (j + k)) = _
    rw [ih]
    rfl

/-- What is never done stays. -/
theorem mem_runs_of_never {backlog : List α} (hmem : x ∈ backlog) (hnever : ∀ k, read k x ≠ .done)
    (k : Nat) :
    x ∈ runs read limit backlog k := by
  induction k with
  | zero => exact hmem
  | succ k ih => exact mem_sweep_of_ne_done ih (hnever k)

open Classical in
/-- Items that are never done, as many as a run takes, keep every run from what is behind them. -/
theorem runs_blocked (h : Settled read)
    (hblocked : (∃ y ∈ before, read 0 y = .stop) ∨ limit ≤ before.countP fun y =>
      ∀ k, read k y ≠ .done)
    (after : List α) (k : Nat) : ∃ ahead, runs read limit (before ++ after) k = ahead ++ after := by
  suffices hall : ∃ ahead, runs read limit (before ++ after) k = ahead ++ after ∧
      ((∃ y ∈ ahead, read 0 y = .stop) ∨ limit ≤ ahead.countP fun y => ∀ k, read k y ≠ .done) by
    obtain ⟨ahead, heq, -⟩ := hall
    exact ⟨ahead, heq⟩
  induction k with
  | zero => exact ⟨before, rfl, hblocked⟩
  | succ k ih =>
    obtain ⟨ahead, heq, hahead⟩ := ih
    have hlen : (∃ y ∈ ahead, read k y = .stop) ∨ limit ≤ ahead.length := by
      rcases hahead with ⟨y, hy, hstop⟩ | hcount
      · exact .inl ⟨y, hy, (h.stop k y).mpr hstop⟩
      · exact .inr (Nat.le_trans hcount List.countP_le_length)
    refine ⟨sweep (read k) limit ahead, ?_, ?_⟩
    · show sweep (read k) limit (runs read limit (before ++ after) k) = _
      rw [heq]
      exact sweep_blocked hlen after
    · rcases hahead with ⟨y, hy, hstop⟩ | hcount
      · refine .inl ⟨y, mem_sweep_of_ne_done hy ?_, hstop⟩
        rw [(h.stop k y).mpr hstop]
        decide
      · right
        have hnever : ∀ y, decide (∀ k, read k y ≠ .done) = true → read k y ≠ .done :=
          fun y hy => of_decide_eq_true hy k
        rw [countP_sweep hnever]
        exact hcount

/-- Fewer items ahead are kept than a run takes: the runs reach the item. -/
theorem exists_run_reaches (read : Nat → α → Outcome) (hx : x ∉ before ++ after)
    (hread : ∀ k, read k x = .done) (hsame : ∀ k, ∀ y ∈ before, read k y = read 0 y)
    (hstop : ∀ y ∈ before, read 0 y ≠ .stop)
    (hkept : before.countP (fun y => read 0 y = .kept) < limit) :
    ∃ k, x ∉ runs read limit (before ++ x :: after) k := by
  -- on the number of items ahead: a run has room for them all, or one of them leaves
  induction hn : before.length using Nat.strongRecOn generalizing before read with
  | ind n ih =>
    by_cases hroom : before.length < limit
    · exact ⟨1, sweep_reaches hx (hread 0) hstop hroom⟩
    · have hsub := sweep_sublist (read 0) limit before
      have hshorter : (sweep (read 0) limit before).length < n :=
        hn ▸ length_sweep_lt hstop hkept (Nat.le_of_not_lt hroom)
      have hx' : x ∉ sweep (read 0) limit before ++ after := fun hmem =>
        hx ((hsub.append (List.Sublist.refl after)).subset hmem)
      have hleft : ∀ y ∈ sweep (read 0) limit before, read (1 + 0) y = read 0 y :=
        fun y hy => hsame 1 y (hsub.subset hy)
      have hkept' : (sweep (read 0) limit before).countP
          (fun y => read (1 + 0) y = .kept) < limit := by
        rw [List.countP_congr fun y hy => by rw [hleft y hy],
          countP_sweep (fun y hy => by rw [of_decide_eq_true hy]; decide)]
        exact hkept
      obtain ⟨k, hk⟩ := ih _ hshorter (fun i => read (1 + i)) hx' (fun k => hread (1 + k))
        (fun k y hy => by rw [hsame (1 + k) y (hsub.subset hy), hleft y hy])
        (fun y hy => by rw [hleft y hy]; exact hstop y (hsub.subset hy)) hkept' rfl
      refine ⟨1 + k, ?_⟩
      rw [runs_add]
      show x ∉ runs (fun i => read (1 + i)) limit (sweep (read 0) limit (before ++ x :: after)) k
      rw [sweep_blocked (.inr (Nat.le_of_not_lt hroom))]
      exact hk

/-- From some run on, all that will ever be done of a list is done. -/
theorem exists_settled (h : Settled read) (items : List α) :
    ∃ j, ∀ y ∈ items, (∃ k, read k y = .done) → ∀ k, read (j + k) y = .done := by
  induction items with
  | nil => exact ⟨0, fun y hy => by cases hy⟩
  | cons item rest ih =>
    obtain ⟨j, hj⟩ := ih
    by_cases hitem : ∃ k, read k item = .done
    · obtain ⟨i, hi⟩ := hitem
      refine ⟨max i j, fun y hy hdone k => ?_⟩
      rcases List.mem_cons.mp hy with rfl | hy
      · exact h.done_le (by omega) hi
      · exact h.done_le (j := j) (by omega) (hj y hy hdone 0)
    · refine ⟨j, fun y hy hdone k => ?_⟩
      rcases List.mem_cons.mp hy with rfl | hy
      · exact absurd hdone hitem
      · exact hj y hy hdone k

/-- What is left of a backlog around an item that has not left it. -/
theorem exists_parts {left : List α} (hsub : left.Sublist (before ++ x :: after))
    (hx : x ∉ before ++ after)
    (hmem : x ∈ left) :
    ∃ ahead behind, left = ahead ++ x :: behind ∧ ahead.Sublist before ∧ behind.Sublist after := by
  obtain ⟨ahead, rest, rfl, hahead, hrest⟩ := List.sublist_append_iff.mp hsub
  have hnotin : x ∉ ahead ∧ x ∉ after :=
    ⟨fun h => hx (List.mem_append_left _ (hahead.subset h)), fun h =>
      hx (List.mem_append_right _ h)⟩
  have hin : x ∈ rest := (List.mem_append.mp hmem).resolve_left hnotin.1
  rcases List.sublist_cons_iff.mp hrest with hafter | ⟨behind, rfl, hbehind⟩
  · exact absurd (hafter.subset hin) hnotin.2
  · exact ⟨ahead, behind, rfl, hahead, hbehind⟩

open Classical in
/-- **Which items leave.**  Those that are done in some run, with nothing ahead that stops the runs
and fewer items ahead that are never done than a run takes. -/
theorem leaves_iff (h : Settled read) (hx : x ∉ before ++ after) :
    (∃ k, x ∉ runs read limit (before ++ x :: after) k) ↔
      (∃ k, read k x = .done) ∧ (∀ y ∈ before, read 0 y ≠ .stop) ∧
        before.countP (fun y => ∀ k, read k y ≠ .done) < limit := by
  constructor
  · rintro ⟨k, hk⟩
    have hreach : ¬ ((∃ y ∈ before, read 0 y = .stop) ∨ limit ≤ before.countP fun y =>
        ∀ k, read k y ≠ .done) := by
      intro hblocked
      obtain ⟨ahead, heq⟩ := runs_blocked h hblocked (x :: after) k
      rw [heq] at hk
      exact hk (List.mem_append_right _ List.mem_cons_self)
    refine ⟨?_, fun y hy hstop => hreach (.inl ⟨y, hy, hstop⟩), Nat.lt_of_not_le fun hle =>
      hreach (.inr hle)⟩
    by_contra hnever
    exact hk (mem_runs_of_never (List.mem_append_right _ List.mem_cons_self)
      (fun k hdone => hnever ⟨k, hdone⟩) k)
  · rintro ⟨hdone, hstop, hkept⟩
    obtain ⟨j, hj⟩ := exists_settled h (before ++ [x])
    by_cases hmem : x ∈ runs read limit (before ++ x :: after) j
    · obtain ⟨ahead, behind, heq, hahead, hbehind⟩ :=
        exists_parts (runs_sublist read limit _ j) hx hmem
      -- from run `j` on, the readings ahead of the item no longer change
      have hreading : ∀ y ∈ ahead, ∀ k, read (j + k) y = .done ∨
          (read (j + k) y = .kept ∧ ∀ i, read i y ≠ .done) := by
        intro y hy k
        by_cases hever : ∃ i, read i y = .done
        · exact .inl (hj y (List.mem_append_left _ (hahead.subset hy)) hever k)
        · right
          have hnever : ∀ i, read i y ≠ .done := fun i hi => hever ⟨i, hi⟩
          cases hout : read (j + k) y with
          | done => exact absurd hout (hnever _)
          | kept => exact ⟨rfl, hnever⟩
          | stop => exact absurd ((h.stop _ y).mp hout) (hstop y (hahead.subset hy))
      have hsame : ∀ k, ∀ y ∈ ahead, read (j + k) y = read (j + 0) y := by
        intro k y hy
        rcases hreading y hy k with hk | ⟨hk, hnever⟩
        · rcases hreading y hy 0 with h0 | ⟨-, hnever⟩
          · rw [hk, h0]
          · exact absurd hk (hnever _)
        · rcases hreading y hy 0 with h0 | ⟨h0, -⟩
          · exact absurd h0 (hnever _)
          · rw [hk, h0]
      have hcount : ahead.countP (fun y => read (j + 0) y = .kept) < limit := by
        refine Nat.lt_of_le_of_lt (Nat.le_trans ?_ hahead.countP_le) hkept
        refine List.countP_mono_left fun y hy hk => decide_eq_true ?_
        rcases hreading y hy 0 with h0 | ⟨-, hnever⟩
        · rw [of_decide_eq_true hk] at h0
          cases h0
        · exact hnever
      have hx' : x ∉ ahead ++ behind := fun hin => hx ((hahead.append hbehind).subset hin)
      have hstop' : ∀ y ∈ ahead, read (j + 0) y ≠ .stop := fun y hy hs =>
        hstop y (hahead.subset hy) ((h.stop _ y).mp hs)
      obtain ⟨k, hk⟩ := exists_run_reaches (fun i => read (j + i)) hx'
        (fun k => hj x (List.mem_append_right _ List.mem_cons_self) hdone k) hsame hstop' hcount
      refine ⟨j + k, ?_⟩
      rw [runs_add, heq]
      exact hk
    · exact ⟨j, hmem⟩

open Classical in
/-- When all of a kind leave. -/
theorem all_leave_iff (h : Settled read) {backlog : List α} (hnodup : backlog.Nodup)
    (wanted : α → Prop) :
    (∀ x ∈ backlog, wanted x → ∃ k, x ∉ runs read limit backlog k) ↔
      ∀ before x after, backlog = before ++ x :: after → wanted x →
        (∃ k, read k x = .done) ∧ (∀ y ∈ before, read 0 y ≠ .stop) ∧
          before.countP (fun y => ∀ k, read k y ≠ .done) < limit := by
  have hfresh {before : List α} {x : α} {after : List α} (heq : backlog = before ++ x :: after) :
      x ∉ before ++ after := by
    rw [heq] at hnodup
    exact (List.nodup_cons.mp (List.perm_middle.nodup_iff.mp hnodup)).1
  constructor
  · intro hall before x after heq hwanted
    obtain ⟨k, hk⟩ := hall x (heq ▸ List.mem_append_right _ List.mem_cons_self) hwanted
    exact (leaves_iff h (hfresh heq)).mp ⟨k, heq ▸ hk⟩
  · intro hall x hx hwanted
    obtain ⟨before, after, heq⟩ := List.append_of_mem hx
    rw [heq]
    exact (leaves_iff h (hfresh heq)).mpr (hall before x after heq hwanted)

end Runs

end Backlog

end Lib
