import Mathlib.Data.Set.Basic

/-!
# Programs that can crash between two steps

A program is a tree of operations, each answered by the machine.  An execution may stop before any
operation; what holds in every state of it, `Inv`, is kept apart from what holds at its end.
-/

namespace Lib

inductive Prog (Op : Type) (Res : Op → Type) (α : Type) : Type where
  | pure (a : α)
  | op (o : Op) (k : Res o → Prog Op Res α)

namespace Prog

variable {Op : Type} {Res : Op → Type} {α β : Type}

protected def bind : Prog Op Res α → (α → Prog Op Res β) → Prog Op Res β
  | .pure a, f => f a
  | .op o k, f => .op o fun r => (k r).bind f

instance : Monad (Prog Op Res) where
  pure := .pure
  bind := .bind

/-- There are no exceptions at this level: the clean-up runs after the body. -/
instance : MonadFinally (Prog Op Res) where
  tryFinally' x h := x.bind fun a => (h (some a)).bind fun b => .pure (a, b)

/-- One operation on its own. -/
def call (o : Op) : Prog Op Res (Res o) := .op o .pure

/-- The program run to its end on a machine that always answers the same way. -/
def eval {σ : Type} (answer : σ → (o : Op) → Res o × σ) : Prog Op Res α → σ → α × σ
  | .pure a, s => (a, s)
  | .op o k, s => (k (answer s o).1).eval answer (answer s o).2

end Prog

section Semantics

variable {Op : Type} {Res : Op → Type} {α β ε σ : Type} (step : σ → (o : Op) → Res o → σ → Prop)

/-- Executions of a program: the outcome is `none` when the machine crashed. -/
inductive Exec : Prog Op Res α → σ → Option α → σ → Prop
  | done (a : α) (s : σ) : Exec (.pure a) s (some a) s
  | crash (p : Prog Op Res α) (s : σ) : Exec p s none s
  | step {o : Op} {k : Res o → Prog Op Res α} {s t u : σ} {r : Res o} {out : Option α} :
      step s o r t → Exec (k r) t out u → Exec (.op o k) s out u

/-- `Inv` holds from `s` on whatever happens, and `Post` where the program returns. -/
def wp (Inv : σ → Prop) : Prog Op Res α → (α → σ → Prop) → σ → Prop
  | .pure a, Post, s => Inv s ∧ Post a s
  | .op o k, Post, s => Inv s ∧ ∀ r t, step s o r t → wp Inv (k r) Post t

variable {step} {Inv : σ → Prop}

theorem exec_eval {answer : σ → (o : Op) → Res o × σ}
    (hanswer : ∀ s o, step s o (answer s o).1 (answer s o).2) (p : Prog Op Res α) (s : σ) :
    Exec step p s (some (p.eval answer s).1) (p.eval answer s).2 := by
  induction p generalizing s with
  | pure a => exact Exec.done a s
  | op o k ih => exact Exec.step (hanswer s o) (ih (answer s o).1 (answer s o).2)

theorem wp_inv {p : Prog Op Res α} {Post : α → σ → Prop} {s : σ} (h : wp step Inv p Post s) :
    Inv s := by
  cases p with
  | pure a => exact h.1
  | op o k => exact h.1

/-- What `wp` promises, every execution delivers. -/
theorem wp_sound {p : Prog Op Res α} {Post : α → σ → Prop} {s t : σ} {out : Option α}
    (h : wp step Inv p Post s) (hexec : Exec step p s out t) :
    Inv t ∧ ∀ a, out = some a → Post a t := by
  induction hexec with
  | done a s =>
    refine ⟨h.1, fun b hb => ?_⟩
    rw [← Option.some.inj hb]
    exact h.2
  | crash p s => exact ⟨wp_inv h, fun a ha => nomatch ha⟩
  | step hstep _ ih => exact ih (h.2 _ _ hstep)

theorem wp_mono {p : Prog Op Res α} {Post Post' : α → σ → Prop} {s : σ}
    (hpost : ∀ a t, Inv t → Post a t → Post' a t) (h : wp step Inv p Post s) :
    wp step Inv p Post' s := by
  induction p generalizing s with
  | pure a => exact ⟨h.1, hpost a s h.1 h.2⟩
  | op o k ih => exact ⟨h.1, fun r t hstep => ih r (h.2 r t hstep)⟩

theorem wp_bind {p : Prog Op Res α} {f : α → Prog Op Res β} {Post : β → σ → Prop} {s : σ}
    (h : wp step Inv p (fun a => wp step Inv (f a) Post) s) : wp step Inv (p.bind f) Post s := by
  induction p generalizing s with
  | pure a => exact h.2
  | op o k ih => exact ⟨h.1, fun r t hstep => ih r (h.2 r t hstep)⟩

variable (step Inv) in
/-- `wp` of a program that may raise: `Post` where it returns, `Inv` alone where it raises. -/
def wpe (p : ExceptT ε (Prog Op Res) α) (Post : α → σ → Prop) (s : σ) : Prop :=
  wp step Inv p.run (fun r t => ∀ a, r = .ok a → Post a t) s

variable {Post : α → σ → Prop} {s : σ}

theorem wpe_pure {a : α} (hinv : Inv s) (hpost : Post a s) :
    wpe step Inv (pure a : ExceptT ε (Prog Op Res) α) Post s :=
  ⟨hinv, fun _ hb => Except.ok.inj hb ▸ hpost⟩

theorem wpe_throw {e : ε} (hinv : Inv s) :
    wpe step Inv (throw e : ExceptT ε (Prog Op Res) α) Post s :=
  ⟨hinv, fun _ hb => nomatch hb⟩

theorem wpe_mono {p : ExceptT ε (Prog Op Res) α} {Post' : α → σ → Prop}
    (hpost : ∀ a t, Inv t → Post a t → Post' a t) (h : wpe step Inv p Post s) :
    wpe step Inv p Post' s :=
  wp_mono (fun _ t hinv hr a ha => hpost a t hinv (hr a ha)) h

theorem wpe_bind {p : ExceptT ε (Prog Op Res) α} {f : α → ExceptT ε (Prog Op Res) β}
    {Post : β → σ → Prop} (h : wpe step Inv p (fun a => wpe step Inv (f a) Post) s) :
    wpe step Inv (p >>= f) Post s := by
  apply wp_bind
  refine wp_mono (fun r t hinv hr => ?_) h
  cases r with
  | ok a => exact hr a rfl
  | error e => exact ⟨hinv, fun _ hb => nomatch hb⟩

/-- The clean-up runs on both ways out of the body. -/
theorem wpe_tryFinally {p : ExceptT ε (Prog Op Res) α} {final : ExceptT ε (Prog Op Res) β}
    (hfinal : ∀ t, Inv t → wpe step Inv final (fun _ _ => True) t)
    (h : wpe step Inv p (fun a => wpe step Inv final fun _ => Post a) s) :
    wpe step Inv (tryFinally p final) Post s := by
  apply wp_bind
  apply wp_bind
  apply wp_bind
  refine wp_mono (fun r t hinv hr => ?_) h
  cases r with
  | ok a =>
    apply wp_bind
    refine wp_mono (fun r' u hinv' hr' => ?_) (hr a rfl)
    cases r' with
    | ok b => exact ⟨hinv', hinv', hinv', fun _ hc => Except.ok.inj hc ▸ hr' b rfl⟩
    | error e => exact ⟨hinv', hinv', hinv', fun _ hc => nomatch hc⟩
  | error e =>
    apply wp_bind
    refine wp_mono (fun r' u hinv' _ => ?_) (hfinal t hinv)
    cases r' with
    | ok b => exact ⟨hinv', hinv', hinv', fun _ hc => nomatch hc⟩
    | error e' => exact ⟨hinv', hinv', hinv', fun _ hc => nomatch hc⟩

/-- A pure computation that may raise. -/
theorem wpe_lift {x : Except ε α} (hinv : Inv s) (h : ∀ a, x = .ok a → Post a s) :
    wpe step Inv (liftM x : ExceptT ε (Prog Op Res) α) Post s := ⟨hinv, h⟩

/-- `if c: raise e`, then the rest. -/
theorem wpe_raiseIf {c : Prop} [Decidable c] {e : ε} {f : β → ExceptT ε (Prog Op Res) α}
    {q : ExceptT ε (Prog Op Res) α} (hinv : Inv s) (h : ¬ c → wpe step Inv q Post s) :
    wpe step Inv (if c then throw e >>= f else q) Post s := by
  by_cases hc : c
  · rw [if_pos hc]
    exact wpe_bind (wpe_throw hinv)
  · rw [if_neg hc]
    exact h hc

theorem wpe_ite {c : Prop} [Decidable c] {p q : ExceptT ε (Prog Op Res) α}
    (hpos : c → wpe step Inv p Post s) (hneg : ¬ c → wpe step Inv q Post s) :
    wpe step Inv (if c then p else q) Post s := by
  by_cases hc : c
  · rw [if_pos hc]
    exact hpos hc
  · rw [if_neg hc]
    exact hneg hc

variable (step) in
/-- One call after another, each with its outcome.  After a crash the next call starts from
whatever the crash left. -/
inductive CallRun {Call : Type} (program : Call → Prog Op Res α) :
    σ → List (Call × Option α) → σ → Prop
  | nil (s : σ) : CallRun program s [] s
  | cons {call : Call} {out : Option α} {log : List (Call × Option α)} {s t u : σ} :
      Exec step (program call) s out t → CallRun program t log u →
        CallRun program s ((call, out) :: log) u

section CallRuns

variable {Call : Type} {program : Call → Prog Op Res α} {ok : Call → Prop}
  {log : List (Call × Option α)} {s t : σ}

theorem CallRun.keeps
    (hcall : ∀ call s out t, ok call → Inv s → Exec step (program call) s out t → Inv t)
    (h : CallRun step program s log t) (hok : ∀ entry ∈ log, ok entry.1)
    (hinv : Inv s) : Inv t := by
  induction h with
  | nil s => exact hinv
  | cons hexec _ ih =>
    have hhead := hok _ List.mem_cons_self
    exact ih (fun entry hentry => hok entry (List.mem_cons_of_mem _ hentry))
      (hcall _ _ _ _ hhead hinv hexec)

/-- What an invariant gives for each outcome. -/
theorem CallRun.outcomes {Good : Call × Option α → Prop}
    (hcall : ∀ call s out t, ok call → Inv s → Exec step (program call) s out t → Inv t)
    (hgood : ∀ call s out t, ok call → Inv s → Exec step (program call) s out t → Good (call, out))
    (h : CallRun step program s log t) (hok : ∀ entry ∈ log, ok entry.1) (hinv : Inv s) :
    ∀ entry ∈ log, Good entry := by
  induction h with
  | nil s => simp
  | cons hexec _ ih =>
    have hhead := hok _ List.mem_cons_self
    intro entry hentry
    cases List.mem_cons.mp hentry with
    | inl heq =>
      rw [heq]
      exact hgood _ _ _ _ hhead hinv hexec
    | inr hmem =>
      exact ih (fun entry hentry => hok entry (List.mem_cons_of_mem _ hentry))
        (hcall _ _ _ _ hhead hinv hexec) entry hmem

end CallRuns

end Semantics

section Calls

variable {Op : Type} {Out : Op → Type} {ε σ : Type}
  {step : σ → (o : Op) → Except ε (Out o) → σ → Prop} {Inv : σ → Prop}

/-- One operation of a machine that may answer with an error. -/
def perform (o : Op) : ExceptT ε (Prog Op fun o => Except ε (Out o)) (Out o) :=
  ExceptT.mk (Prog.call o)

/-- One operation whose error is looked at instead of raised. -/
def attempt (o : Op) : ExceptT ε (Prog Op fun o => Except ε (Out o)) (Except ε (Out o)) :=
  ExceptT.lift (Prog.call o)

theorem wpe_perform {o : Op} {Post : Out o → σ → Prop} {s : σ} (hinv : Inv s)
    (h : ∀ r t, step s o r t → Inv t ∧ ∀ a, r = .ok a → Post a t) :
    wpe step Inv (perform o) Post s := ⟨hinv, h⟩

theorem wpe_attempt {o : Op} {Post : Except ε (Out o) → σ → Prop} {s : σ} (hinv : Inv s)
    (h : ∀ r t, step s o r t → Inv t ∧ Post r t) : wpe step Inv (attempt o) Post s :=
  ⟨hinv, fun r t hstep => ⟨(h r t hstep).1, fun _ ha => Except.ok.inj ha ▸ (h r t hstep).2⟩⟩

end Calls

end Lib
