import Mathlib.Data.List.Basic
import Mathlib.Order.Defs.Unbundled

/-!
# Nested transactions over one store

A connection as one process sees it: the state it reads and writes, and the states saved when
each enclosing transaction block was opened, innermost first.  The state other processes see is
the oldest one.  A relation that only ever grows the store survives any order of opening,
committing and rolling back.
-/

namespace Lib

universe u

variable {σ : Type u}

structure Tx (σ : Type u) where
  view : σ
  saved : List σ
  deriving DecidableEq, Repr

namespace Tx

def idle (s : σ) : Tx σ := ⟨s, []⟩

/-- What the database holds for everybody else: the state before the outermost open block. -/
def committed (t : Tx σ) : σ := t.saved.getLastD t.view

/-- All states a rollback can bring back, the current one included, newest first. -/
def states (t : Tx σ) : List σ := t.view :: t.saved

def begin (t : Tx σ) : Tx σ := ⟨t.view, t.view :: t.saved⟩

/-- The innermost block ends well: its writes stay in the enclosing block, or become durable. -/
def commit (t : Tx σ) : Tx σ := ⟨t.view, t.saved.tail⟩

/-- The innermost block ends with an error: its writes are undone. -/
def rollback (t : Tx σ) : Tx σ := ⟨t.saved.headD t.view, t.saved.tail⟩

def write (t : Tx σ) (s : σ) : Tx σ := ⟨s, t.saved⟩

@[simp] theorem write_view (t : Tx σ) (s : σ) : (t.write s).view = s := rfl

@[simp] theorem write_saved (t : Tx σ) (s : σ) : (t.write s).saved = t.saved := rfl

@[simp] theorem begin_view (t : Tx σ) : t.begin.view = t.view := rfl

@[simp] theorem commit_view (t : Tx σ) : t.commit.view = t.view := rfl

@[simp] theorem commit_write_begin (t : Tx σ) (s : σ) :
    (t.begin.write s).commit = t.write s := rfl

@[simp] theorem rollback_begin (t : Tx σ) : t.begin.rollback = t := rfl

@[simp] theorem idle_view (s : σ) : (idle s).view = s := rfl

theorem committed_of_saved_nil (t : Tx σ) (hsaved : t.saved = []) : t.committed = t.view := by
  simp [committed, hsaved]

theorem committed_mem_states (t : Tx σ) : t.committed ∈ t.states := by
  unfold committed states
  cases hsaved : t.saved with
  | nil => simp
  | cons s rest =>
    have hlast : (s :: rest).getLastD t.view ∈ s :: rest := by
      rw [List.getLastD_cons, List.getLastD_eq_getLast?]
      cases hrest : rest.getLast? with
      | none => simp
      | some last => simpa using Or.inr (List.mem_of_getLast? hrest)
    exact List.mem_cons_of_mem _ hlast

theorem view_mem_states (t : Tx σ) : t.view ∈ t.states := by simp [states]

/-! ## Facts about every state a rollback can reach -/

/-- `P` holds of every state the connection can still show or return to. -/
def All (P : σ → Prop) (t : Tx σ) : Prop := ∀ s ∈ t.states, P s

section All

variable {P : σ → Prop} {t : Tx σ}

theorem all_idle {s : σ} (h : P s) : All P (idle s) := by
  simpa [All, states, idle] using h

theorem All.view (h : All P t) : P t.view := h _ t.view_mem_states

theorem All.committed (h : All P t) : P t.committed := h _ t.committed_mem_states

theorem All.begin (h : All P t) : All P t.begin := by
  intro s hs
  refine h s ?_
  simpa [states, Tx.begin] using hs

theorem All.commit (h : All P t) : All P t.commit := by
  intro s hs
  refine h s ?_
  rcases List.mem_cons.mp hs with hview | htail
  · exact hview ▸ t.view_mem_states
  · exact List.mem_cons_of_mem _ (List.mem_of_mem_tail htail)

theorem All.rollback (h : All P t) : All P t.rollback := by
  intro s hs
  refine h s ?_
  rcases t with ⟨view, _ | ⟨s', rest⟩⟩
  · exact hs
  · exact List.mem_cons_of_mem view hs

theorem All.write (h : All P t) {s : σ} (hs : P s) : All P (t.write s) := by
  intro s' hs'
  rcases List.mem_cons.mp hs' with hview | htail
  · exact hview ▸ hs
  · exact h s' (List.mem_cons_of_mem _ htail)

theorem All.mono {Q : σ → Prop} (h : All P t) (hPQ : ∀ s, P s → Q s) : All Q t :=
  fun s hs => hPQ s (h s hs)

end All

/-! ## Stores that only move forward -/

/-- Every saved state is behind the ones written after it. -/
def Chain (R : σ → σ → Prop) (t : Tx σ) : Prop :=
  t.states.Pairwise fun newer older => R older newer

section Chain

variable {R : σ → σ → Prop} {t : Tx σ}

theorem chain_idle (s : σ) : Chain R (idle s) := by
  simp [Chain, states, idle]

theorem Chain.saved_le_view (h : Chain R t) {s : σ} (hs : s ∈ t.saved) : R s t.view :=
  List.rel_of_pairwise_cons h hs

theorem Chain.commit (h : Chain R t) : Chain R t.commit :=
  List.Pairwise.sublist ((List.tail_sublist t.saved).cons_cons t.view) h

theorem Chain.rollback (h : Chain R t) : Chain R t.rollback := by
  rcases t with ⟨view, _ | ⟨s, rest⟩⟩
  · exact h
  · exact (List.pairwise_cons.mp h).2

variable [IsPreorder σ R]

theorem Chain.le_view (h : Chain R t) {s : σ} (hs : s ∈ t.states) : R s t.view := by
  rcases List.mem_cons.mp hs with hview | hsaved
  · exact hview ▸ refl_of R s
  · exact h.saved_le_view hsaved

theorem Chain.committed_le_view (h : Chain R t) : R t.committed t.view :=
  h.le_view t.committed_mem_states

theorem Chain.begin (h : Chain R t) : Chain R t.begin :=
  List.pairwise_cons.mpr ⟨fun _ hs => h.le_view hs, h⟩

theorem Chain.write (h : Chain R t) {s : σ} (hs : R t.view s) : Chain R (t.write s) := by
  have hparts := List.pairwise_cons.mp h
  exact List.pairwise_cons.mpr
    ⟨fun older holder => trans_of R (hparts.1 older holder) hs, hparts.2⟩

theorem committed_begin (t : Tx σ) : t.begin.committed = t.committed := by
  rcases t with ⟨view, _ | ⟨s, rest⟩⟩ <;> rfl

theorem committed_rollback (t : Tx σ) : t.rollback.committed = t.committed := by
  rcases t with ⟨view, _ | ⟨s, rest⟩⟩
  · rfl
  · exact List.getLastD_cons.symm

/-- A commit publishes the current state when it closes the outermost block, else nothing. -/
theorem committed_commit (t : Tx σ) :
    t.commit.committed = t.committed ∨ t.commit.committed = t.view := by
  rcases t with ⟨view, _ | ⟨s, _ | ⟨s', rest⟩⟩⟩
  · exact .inl rfl
  · exact .inr rfl
  · exact .inl rfl

theorem committed_write (t : Tx σ) (s : σ) :
    (t.write s).committed = t.committed ∨
      (t.saved = [] ∧ (t.write s).committed = s) := by
  rcases t with ⟨view, _ | ⟨s', rest⟩⟩
  · exact .inr ⟨rfl, rfl⟩
  · exact .inl (List.getLastD_cons.trans List.getLastD_cons.symm)

theorem Chain.committed_le_commit (h : Chain R t) : R t.committed t.commit.committed := by
  rcases committed_commit t with heq | heq
  · rw [heq]
    exact refl_of R _
  · rw [heq]
    exact h.committed_le_view

theorem Chain.committed_le_write (h : Chain R t) {s : σ} (hs : R t.view s) :
    R t.committed (t.write s).committed := by
  rcases committed_write t s with heq | ⟨_, heq⟩
  · rw [heq]
    exact refl_of R _
  · rw [heq]
    exact trans_of R h.committed_le_view hs

end Chain

end Tx

end Lib
