import Mathlib.Data.List.Basic

/-!
# Readers with a contract

A reader refuses its input with a message of its own, or lets another exception escape.  Which
inputs let one escape is told step by step: a step matters only where everything before it went
through.
-/

namespace Lib

/-- Why a reader gave no value. -/
inductive Refusal (ε : Type)
  | contract (message : String)
  | escaped (exn : ε)

abbrev Reading (ε α : Type) := Except (Refusal ε) α

namespace Reading

variable {ε α β σ : Type}

def refuse (message : String) : Reading ε α := .error (.contract message)

def escape (exn : ε) : Reading ε α := .error (.escaped exn)

def require (condition : Prop) [Decidable condition] (message : String) : Reading ε Unit :=
  if condition then .ok () else refuse message

/-- Nothing but a refusal keeps the value back. -/
def Contracted (reading : Reading ε α) : Prop := ∀ exn, reading ≠ .error (.escaped exn)

@[simp] theorem contracted_ok (a : α) : Contracted (.ok a : Reading ε α) := fun _ h => by cases h

@[simp] theorem contracted_pure (a : α) : Contracted (pure a : Reading ε α) := contracted_ok a

@[simp] theorem contracted_refuse (message : String) : Contracted (refuse message : Reading ε α) :=
  fun _ h => by cases h

@[simp] theorem not_contracted_escape (exn : ε) : ¬ Contracted (escape exn : Reading ε α) :=
  fun h => h exn rfl

@[simp] theorem contracted_require (condition : Prop) [Decidable condition] (message : String) :
    Contracted (require condition message : Reading ε Unit) := by
  unfold require
  split
  · exact contracted_ok ()
  · exact contracted_refuse message

@[simp] theorem require_eq_ok_iff {condition : Prop} [Decidable condition] {message : String}
    {u : Unit} :
    (require condition message : Reading ε Unit) = .ok u ↔ condition := by
  unfold require refuse
  split
  · rename_i h
    exact ⟨fun _ => h, fun _ => rfl⟩
  · rename_i h
    exact ⟨fun heq => (by cases heq), fun hc => absurd hc h⟩

instance (reading : Reading ε α) : Decidable (Contracted reading) :=
  match reading with
  | .ok a => .isTrue (contracted_ok a)
  | .error (.contract message) => .isTrue (contracted_refuse message)
  | .error (.escaped exn) => .isFalse (not_contracted_escape exn)

theorem contracted_bind_iff {x : Reading ε α} {f : α → Reading ε β} :
    Contracted (x >>= f) ↔ Contracted x ∧ ∀ a, x = .ok a → Contracted (f a) := by
  cases x with
  | error refusal =>
    refine ⟨fun h => ⟨fun exn heq => h exn ?_, fun a ha => by cases ha⟩,
      fun h exn heq => h.1 exn ?_⟩
    · cases heq
      rfl
    · cases heq
      rfl
  | ok a => exact ⟨fun h => ⟨contracted_ok a, fun b hb => by cases hb; exact h⟩, fun h => h.2 a rfl⟩

theorem Contracted.bind {x : Reading ε α} {f : α → Reading ε β} (hx : Contracted x)
    (hf : ∀ a, x = .ok a → Contracted (f a)) : Contracted (x >>= f) :=
      contracted_bind_iff.mpr ⟨hx, hf⟩

/-- What goes through first cannot let anything escape. -/
theorem contracted_bind_of_contracted {x : Reading ε α} {f : α → Reading ε β} (hx : Contracted x) :
    Contracted (x >>= f) ↔ ∀ a, x = .ok a → Contracted (f a) := by
  rw [contracted_bind_iff]
  exact ⟨fun h => h.2, fun h => ⟨hx, h⟩⟩

/-- What goes through last cannot let anything escape. -/
theorem contracted_bind_of_forall {x : Reading ε α} {f : α → Reading ε β}
    (hf : ∀ a, Contracted (f a)) :
    Contracted (x >>= f) ↔ Contracted x := by
  rw [contracted_bind_iff]
  exact ⟨fun h => h.1, fun h => ⟨h, fun a _ => hf a⟩⟩

/-- The loop takes the item in the state that the items before it leave. -/
def Reaches (step : σ → α → Reading ε σ) (items : List α) (start state : σ) (item : α) : Prop :=
  ∃ before after, items = before ++ item :: after ∧ before.foldlM step start = .ok state

theorem Reaches.mem {step : σ → α → Reading ε σ} {items : List α} {start state : σ} {item : α}
    (h : Reaches step items start state item) : item ∈ items := by
  obtain ⟨before, after, rfl, -⟩ := h
  exact List.mem_append_right before List.mem_cons_self

theorem reaches_head (step : σ → α → Reading ε σ) (item : α) (rest : List α) (start : σ) :
    Reaches step (item :: rest) start start item := ⟨[], rest, rfl, rfl⟩

theorem Reaches.cons {step : σ → α → Reading ε σ} {first : α} {rest : List α} {start next state : σ}
    {item : α} (hfirst : step start first = .ok next)
    (h : Reaches step rest next state item) :
    Reaches step (first :: rest) start state item := by
  obtain ⟨before, after, rfl, hbefore⟩ := h
  refine ⟨first :: before, after, rfl, ?_⟩
  rw [List.foldlM_cons, hfirst]
  exact hbefore

/-- A loop: each item, once all before it went through. -/
theorem contracted_foldlM_iff {step : σ → α → Reading ε σ} {items : List α} {start : σ} :
    Contracted (items.foldlM step start) ↔
      ∀ state item, Reaches step items start state item → Contracted (step state item) := by
  induction items generalizing start with
  | nil =>
    refine ⟨fun _ state item hreach => ?_, fun _ => contracted_pure start⟩
    cases hreach.mem
  | cons first rest ih =>
    rw [List.foldlM_cons, contracted_bind_iff]
    constructor
    · rintro ⟨hfirst, hrest⟩ state item ⟨before, after, heq, hbefore⟩
      cases before with
      | nil =>
        cases heq
        cases hbefore
        exact hfirst
      | cons head before =>
        cases heq
        rw [List.foldlM_cons] at hbefore
        cases hnext : step start first with
        | error refusal =>
          rw [hnext] at hbefore
          cases hbefore
        | ok next =>
          rw [hnext] at hbefore
          exact ih.mp (hrest next hnext) state item ⟨before, after, rfl, hbefore⟩
    · intro h
      have hfirst := h start first (reaches_head step first rest start)
      exact ⟨hfirst, fun next hnext => ih.mpr fun state item hreach =>
        h state item (hreach.cons hnext)⟩

theorem contracted_foldlM {step : σ → α → Reading ε σ}
    (h : ∀ state item, Contracted (step state item)) (items : List α)
    (start : σ) : Contracted (items.foldlM step start) :=
  contracted_foldlM_iff.mpr fun state item _ => h state item

/-- A loop whose steps compute a function when they go through. -/
theorem foldlM_eq_foldl {step : σ → α → Reading ε σ} {f : σ → α → σ}
    (hstep : ∀ state item state', step state item = .ok state' → state' = f state item)
    {items : List α} {start stop : σ}
    (h : items.foldlM step start = .ok stop) : stop = items.foldl f start := by
  induction items generalizing start with
  | nil =>
    cases h
    rfl
  | cons first rest ih =>
    rw [List.foldlM_cons] at h
    cases hnext : step start first with
    | error refusal =>
      rw [hnext] at h
      cases h
    | ok next =>
      rw [hnext] at h
      rw [List.foldl_cons, ← hstep start first next hnext]
      exact ih h

/-- Every item of a loop that went through was taken in some state. -/
theorem exists_step_of_mem {step : σ → α → Reading ε σ} {items : List α} {start stop : σ}
    (h : items.foldlM step start = .ok stop) {item : α} (hitem : item ∈ items) :
    ∃ state state', step state item = .ok state' := by
  induction items generalizing start with
  | nil => cases hitem
  | cons first rest ih =>
    rw [List.foldlM_cons] at h
    cases hnext : step start first with
    | error refusal =>
      rw [hnext] at h
      cases h
    | ok next =>
      rw [hnext] at h
      rcases List.mem_cons.mp hitem with rfl | hitem
      · exact ⟨start, next, hnext⟩
      · exact ih h hitem

end Reading

end Lib
