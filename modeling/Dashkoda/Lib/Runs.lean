import Mathlib.Data.List.Basic

/-!
# Runs of a state machine

A run is a list of actions applied one after the other.  What every step keeps, every run keeps;
what a step keeps only under a condition on the state before it, a run keeps as long as each of
its steps meets that condition.
-/

namespace Lib

universe u v

variable {σ : Type u} {α : Type v}

def run (step : σ → α → σ) (s : σ) (acts : List α) : σ := acts.foldl step s

@[simp] theorem run_nil (step : σ → α → σ) (s : σ) : run step s [] = s := rfl

@[simp] theorem run_cons (step : σ → α → σ) (s : σ) (act : α) (acts : List α) :
    run step s (act :: acts) = run step (step s act) acts := rfl

theorem run_append (step : σ → α → σ) (s : σ) (acts acts' : List α) :
    run step s (acts ++ acts') = run step (run step s acts) acts' := List.foldl_append

theorem run_keeps {step : σ → α → σ} {Inv : σ → Prop} (hstep : ∀ s act, Inv s → Inv (step s act))
    (acts : List α) {s : σ} (h : Inv s) :
    Inv (run step s acts) := by
  induction acts generalizing s with
  | nil => exact h
  | cons act acts ih => exact ih (hstep s act h)

/-- What the steps of the run's own actions keep, the run keeps. -/
theorem run_keeps_of_mem {step : σ → α → σ} {Inv : σ → Prop} (acts : List α)
    (hstep : ∀ s, ∀ act ∈ acts, Inv s → Inv (step s act)) {s : σ} (h : Inv s) :
    Inv (run step s acts) := by
  induction acts generalizing s with
  | nil => exact h
  | cons act acts ih =>
    exact ih (fun s act' hact => hstep s act' (List.mem_cons_of_mem act hact))
      (hstep s act List.mem_cons_self h)

/-- Every step of the run meets `ok` in the state it is taken from. -/
def StepsMeet (step : σ → α → σ) (ok : σ → α → Prop) : σ → List α → Prop
  | _, [] => True
  | s, act :: acts => ok s act ∧ StepsMeet step ok (step s act) acts

theorem run_keeps_of_stepsMeet {step : σ → α → σ} {ok : σ → α → Prop} {Inv : σ → Prop}
    (hstep : ∀ s act, Inv s → ok s act → Inv (step s act)) (acts : List α) {s : σ} (h : Inv s)
    (hok : StepsMeet step ok s acts) : Inv (run step s acts) := by
  induction acts generalizing s with
  | nil => exact h
  | cons act acts ih => exact ih (hstep s act h hok.1) hok.2

/-- What every action of the run is, besides what it meets. -/
theorem StepsMeet.with_forall {step : σ → α → σ} {ok : σ → α → Prop} {P : α → Prop} {s : σ}
    {acts : List α} (h : StepsMeet step ok s acts) (hall : ∀ act ∈ acts, P act) :
    StepsMeet step (fun s act => P act ∧ ok s act) s acts := by
  induction acts generalizing s with
  | nil => trivial
  | cons act acts ih =>
    exact ⟨⟨hall act List.mem_cons_self, h.1⟩,
      ih h.2 fun act' hact => hall act' (List.mem_cons_of_mem act hact)⟩

/-- The property holds in every state of the run, the first one included. -/
def Throughout (step : σ → α → σ) (P : σ → Prop) : σ → List α → Prop
  | s, [] => P s
  | s, act :: acts => P s ∧ Throughout step P (step s act) acts

/-- What holds throughout a run holds at its end. -/
theorem Throughout.run {step : σ → α → σ} {P : σ → Prop} {s : σ} {acts : List α}
    (h : Throughout step P s acts) : P (run step s acts) := by
  induction acts generalizing s with
  | nil => exact h
  | cons act acts ih => exact ih h.2

/-- Where a step keeps the property exactly if it meets `ok`, so does a run. -/
theorem throughout_iff_stepsMeet {step : σ → α → σ} {ok : σ → α → Prop} {Inv P : σ → Prop}
    (hinv : ∀ s act, Inv s → Inv (step s act))
    (hstep : ∀ s act, Inv s → P s → (P (step s act) ↔ ok s act)) (acts : List α) {s : σ}
    (hI : Inv s) (hP : P s) : Throughout step P s acts ↔ StepsMeet step ok s acts := by
  have hhead {s : σ} {acts : List α} (h : Throughout step P s acts) : P s := by
    cases acts with
    | nil => exact h
    | cons act acts => exact h.1
  induction acts generalizing s with
  | nil => exact ⟨fun _ => trivial, fun _ => hP⟩
  | cons act acts ih =>
    constructor
    · rintro ⟨-, hrest⟩
      have hnext := hhead hrest
      exact ⟨(hstep s act hI hP).mp hnext, (ih (hinv s act hI) hnext).mp hrest⟩
    · rintro ⟨hok, hrest⟩
      have hnext := (hstep s act hI hP).mpr hok
      exact ⟨hP, (ih (hinv s act hI) hnext).mpr hrest⟩

instance stepsMeetDecidable (step : σ → α → σ) (ok : σ → α → Prop)
    [∀ s act, Decidable (ok s act)] : ∀ s acts, Decidable (StepsMeet step ok s acts)
  | _, [] => inferInstanceAs (Decidable True)
  | s, act :: acts =>
    have := stepsMeetDecidable step ok (step s act) acts
    inferInstanceAs (Decidable (ok s act ∧ StepsMeet step ok (step s act) acts))

end Lib
