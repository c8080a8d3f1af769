import Mathlib.Data.List.Basic

/-!
# Procedures that may raise

A procedure reads and writes one store.  It returns or raises, and what it wrote before raising
stays written unless it ran in a transaction.
-/

namespace Lib

/-- What a call on a store leaves: its answer or its exception, and the store. -/
def Proc (ε σ α : Type) : Type := σ → Except ε α × σ

namespace Proc

variable {ε σ α β : Type}

protected def bind (x : Proc ε σ α) (f : α → Proc ε σ β) : Proc ε σ β := fun s =>
  match x s with
  | (.ok a, s') => f a s'
  | (.error e, s') => (.error e, s')

instance : Monad (Proc ε σ) where
  pure a := fun s => (.ok a, s)
  bind := Proc.bind

theorem bind_pure' (x : Proc ε σ α) : Proc.bind x pure = x := by
  funext s
  unfold Proc.bind
  split <;> (rename_i h; rw [h]; try rfl)

theorem bind_assoc' {γ : Type} (x : Proc ε σ α) (f : α → Proc ε σ β) (g : β → Proc ε σ γ) :
    Proc.bind (Proc.bind x f) g = Proc.bind x fun a => Proc.bind (f a) g := by
  funext s
  unfold Proc.bind
  cases x s with
  | mk out s' => cases out <;> rfl

instance : LawfulMonad (Proc ε σ) :=
  LawfulMonad.mk' (Proc ε σ) bind_pure' (fun _ _ => rfl) bind_assoc'

instance : MonadExceptOf ε (Proc ε σ) where
  throw e := fun s => (.error e, s)
  tryCatch x handler := fun s =>
    match x s with
    | (.ok a, s') => (.ok a, s')
    | (.error e, s') => handler e s'

instance : MonadStateOf σ (Proc ε σ) where
  get := fun s => (.ok s, s)
  set s := fun _ => (.ok (), s)
  modifyGet f := fun s => (.ok (f s).1, (f s).2)

/-- `with transaction.atomic()` -/
def atomically (x : Proc ε σ α) : Proc ε σ α := fun s =>
  match x s with
  | (.ok a, s') => (.ok a, s')
  | (.error e, _) => (.error e, s)

/-- A computation that does not touch the store. -/
def ofExcept (x : Except ε α) : Proc ε σ α := fun s => (x, s)

/-- A service that leaves nothing behind when it refuses. -/
def service (f : σ → Except ε (σ × α)) : Proc ε σ α := fun s =>
  match f s with
  | .ok (s', a) => (.ok a, s')
  | .error e => (.error e, s)

/-- A procedure on one part of the store. -/
def onPart {ε' ρ : Type} (part : σ → ρ) (put : ρ → σ → σ) (wrap : ε' → ε) (x : Proc ε' ρ α) :
    Proc ε σ α := fun s =>
  match x (part s) with
  | (.ok a, r) => (.ok a, put r s)
  | (.error e, r) => (.error (wrap e), put r s)

/-- What has to be cleaned up after an exception, which then goes on. -/
def onError (x : Proc ε σ α) (cleanup : ε → Proc ε σ Unit) : Proc ε σ α :=
  tryCatch x fun e => do
    cleanup e
    throw e

theorem get_bind (f : σ → Proc ε σ α) (s : σ) : (get >>= f) s = f s s := rfl

/-! ## What a procedure establishes -/

/-- Run from `s`, the procedure ends in `post` where it returns and in `raised` where it raises. -/
def wp (x : Proc ε σ α) (post : α → σ → Prop) (raised : ε → σ → Prop) (s : σ) : Prop :=
  match x s with
  | (.ok a, s') => post a s'
  | (.error e, s') => raised e s'

variable {post : α → σ → Prop} {raised : ε → σ → Prop} {s : σ}

theorem wp.ok {x : Proc ε σ α} (h : wp x post raised s) {a : α} {s' : σ}
    (hx : x s = (.ok a, s')) : post a s' := by
  unfold wp at h
  rw [hx] at h
  exact h

theorem wp.error {x : Proc ε σ α} (h : wp x post raised s) {e : ε} {s' : σ}
    (hx : x s = (.error e, s')) : raised e s' := by
  unfold wp at h
  rw [hx] at h
  exact h

/-- What holds of the store whichever way the procedure ends. -/
theorem wp.left {x : Proc ε σ α} {P : σ → Prop} (h : wp x (fun _ => P) (fun _ => P) s) :
    P (x s).2 := by
  unfold wp at h
  split at h
  · rename_i heq
    rw [heq]
    exact h
  · rename_i heq
    rw [heq]
    exact h

/-- What holds of the outcome and the store together. -/
theorem wp.outcome {x : Proc ε σ α} {P : Except ε α → σ → Prop}
    (h : wp x (fun a => P (.ok a)) (fun e => P (.error e)) s) : P (x s).1 (x s).2 := by
  unfold wp at h
  split at h
  · rename_i heq
    rw [heq]
    exact h
  · rename_i heq
    rw [heq]
    exact h

/-- A procedure that cannot raise returns. -/
theorem wp.returns {x : Proc ε σ α} (h : wp x post (fun _ _ => False) s) :
    ∃ a s', x s = (.ok a, s') ∧ post a s' := by
  unfold wp at h
  split at h
  · rename_i a s' heq
    exact ⟨a, s', heq, h⟩
  · exact h.elim

theorem wp_of_eq {x : Proc ε σ α} {a : α} {s' : σ} (hx : x s = (.ok a, s')) (h : post a s') :
    wp x post raised s := by
  unfold wp
  rw [hx]
  exact h

theorem wp_iff_of_ok {x : Proc ε σ α} {a : α} {s' : σ} (hx : x s = (.ok a, s')) :
    wp x post raised s ↔ post a s' := by
  unfold wp
  rw [hx]

/-- What holds of every answer and every exception. -/
theorem wp_of_forall {x : Proc ε σ α} (hpost : ∀ a s', post a s') (hraised : ∀ e s', raised e s') :
    wp x post raised s := by
  unfold wp
  split
  · exact hpost _ _
  · exact hraised _ _

theorem wp_mono {x : Proc ε σ α} {post' : α → σ → Prop} {raised' : ε → σ → Prop}
    (h : wp x post raised s) (hpost : ∀ a s', post a s' → post' a s')
    (hraised : ∀ e s', raised e s' → raised' e s') : wp x post' raised' s := by
  unfold wp at h ⊢
  split at h
  · exact hpost _ _ h
  · exact hraised _ _ h

theorem wp_and {x : Proc ε σ α} {post' : α → σ → Prop} {raised' : ε → σ → Prop}
    (h : wp x post raised s) (h' : wp x post' raised' s) :
    wp x (fun a s' => post a s' ∧ post' a s') (fun e s' => raised e s' ∧ raised' e s') s := by
  unfold wp at h h' ⊢
  cases hx : x s with
  | mk out s' =>
    rw [hx] at h h'
    cases out with
    | ok a => exact ⟨h, h'⟩
    | error e => exact ⟨h, h'⟩

/-- What a procedure establishes it cannot also fail to establish. -/
theorem not_wp {x : Proc ε σ α} {post' : α → σ → Prop} {raised' : ε → σ → Prop}
    (h : wp x post' raised' s) (hpost : ∀ a s', post' a s' → ¬ post a s')
    (hraised : ∀ e s', raised' e s' → ¬ raised e s') : ¬ wp x post raised s := by
  intro hwp
  unfold wp at h hwp
  split at hwp
  · rename_i heq
    rw [heq] at h
    exact hpost _ _ h hwp
  · rename_i heq
    rw [heq] at h
    exact hraised _ _ h hwp

/- The rules are equations between predicates on the store, so that they also rewrite under a
binder. -/

@[simp] theorem wp_pure (a : α) : wp (pure a : Proc ε σ α) post raised = post a := rfl

@[simp] theorem wp_throw (e : ε) : wp (throw e : Proc ε σ α) post raised = raised e := rfl

@[simp] theorem wp_bind (x : Proc ε σ β) (f : β → Proc ε σ α) :
    wp (x >>= f) post raised = wp x (fun b => wp (f b) post raised) raised := by
  funext s
  change wp (Proc.bind x f) post raised s = _
  unfold wp Proc.bind
  cases x s with
  | mk out s' => cases out <;> rfl

@[simp] theorem wp_map (f : β → α) (x : Proc ε σ β) :
    wp (f <$> x) post raised = wp x (fun b => post (f b)) raised := by
  rw [map_eq_pure_bind, wp_bind]
  rfl

@[simp] theorem wp_get {post : σ → σ → Prop} :
    wp (get : Proc ε σ σ) post raised = fun s => post s s := rfl

@[simp] theorem wp_modify (f : σ → σ) {post : PUnit → σ → Prop} :
    wp (modify f : Proc ε σ PUnit) post raised = fun s => post ⟨⟩ (f s) := rfl

@[simp] theorem wp_tryCatch (x : Proc ε σ α) (handler : ε → Proc ε σ α) :
    wp (tryCatch x handler) post raised = wp x post (fun e => wp (handler e) post raised) := by
  funext s
  change (match (match x s with
    | (.ok a, s') => (.ok a, s')
    | (.error e, s') => handler e s' : Except ε α × σ) with
    | (.ok a, s') => post a s'
    | (.error e, s') => raised e s') = _
  unfold wp
  cases x s with
  | mk out s' => cases out <;> rfl

@[simp] theorem wp_onError (x : Proc ε σ α) (cleanup : ε → Proc ε σ Unit) :
    wp (onError x cleanup) post raised =
      wp x post (fun e => wp (cleanup e) (fun _ => raised e) raised) := by
  unfold onError
  rw [wp_tryCatch]
  simp only [wp_bind, wp_throw]

@[simp] theorem wp_atomically (x : Proc ε σ α) :
    wp (atomically x) post raised = fun s => wp x post (fun e _ => raised e s) s := by
  funext s
  unfold wp atomically
  cases x s with
  | mk out s' => cases out <;> rfl

@[simp] theorem wp_onPart {ε' ρ : Type} {part : σ → ρ} {put : ρ → σ → σ} {wrap : ε' → ε}
    (x : Proc ε' ρ α) :
    wp (onPart part put wrap x) post raised = fun s =>
      wp x (fun a r => post a (put r s)) (fun e r => raised (wrap e) (put r s)) (part s) := by
  funext s
  unfold wp onPart
  cases x (part s) with
  | mk out r => cases out <;> rfl

theorem wp_ite {c : Prop} [Decidable c] {x y : Proc ε σ α} :
    wp (if c then x else y) post raised s ↔
      (c → wp x post raised s) ∧ (¬ c → wp y post raised s) := by
  by_cases hc : c <;> simp [hc]

theorem wp_ofExcept {x : Except ε α} (hpost : ∀ a, x = .ok a → post a s)
    (hraised : ∀ e, x = .error e → raised e s) :
    wp (ofExcept x) post raised s := by
  unfold wp ofExcept
  cases x with
  | ok a => exact hpost a rfl
  | error e => exact hraised e rfl

theorem wp_service {f : σ → Except ε (σ × α)} (hpost : ∀ s' a, f s = .ok (s', a) → post a s')
    (hraised : ∀ e, f s = .error e → raised e s) :
    wp (service f) post raised s := by
  unfold wp service
  cases hf : f s with
  | ok out => exact hpost out.1 out.2 hf
  | error e => exact hraised e hf

theorem wp_service_ok {f : σ → Except ε (σ × α)} {s' : σ} {a : α} (hf : f s = .ok (s', a))
    (h : post a s') : wp (service f) post raised s := by
  unfold wp service
  rw [hf]
  exact h

theorem wp_service_error {f : σ → Except ε (σ × α)} {e : ε} (hf : f s = .error e)
    (h : raised e s) : wp (service f) post raised s := by
  unfold wp service
  rw [hf]
  exact h

/-! ## Loops -/

/-- What every turn of a loop keeps and says about its item, the loop keeps and says about each. -/
theorem wp_mapM {f : α → Proc ε σ β} (Inv : σ → Prop) (P : α → β → Prop) (items : List α)
    (hstep : ∀ a ∈ items, ∀ s, Inv s → wp (f a) (fun b s' => Inv s' ∧ P a b) (fun _ => Inv) s)
    {s : σ} (h : Inv s) :
    wp (items.mapM f) (fun bs s' => Inv s' ∧ ∀ a ∈ items, ∃ b ∈ bs, P a b) (fun _ => Inv) s := by
  induction items generalizing s with
  | nil =>
    rw [List.mapM_nil, wp_pure]
    exact ⟨h, fun a ha => by cases ha⟩
  | cons a rest ih =>
    rw [List.mapM_cons, wp_bind]
    apply wp_mono (hstep a List.mem_cons_self s h)
    · rintro b s' ⟨hinv, hb⟩
      rw [wp_bind]
      apply wp_mono (ih (fun a' ha' => hstep a' (List.mem_cons_of_mem a ha')) hinv)
      · rintro bs s'' ⟨hinv', hbs⟩
        rw [wp_pure]
        refine ⟨hinv', fun a' ha' => ?_⟩
        cases List.mem_cons.mp ha' with
        | inl heq => exact ⟨b, List.mem_cons_self, heq ▸ hb⟩
        | inr hrest =>
          obtain ⟨b', hb', hP⟩ := hbs a' hrest
          exact ⟨b', List.mem_cons_of_mem b hb', hP⟩
      · exact fun _ _ hinv' => hinv'
    · exact fun _ _ hinv => hinv

/-- An invariant of what has been gathered so far from the items gone through. -/
theorem wp_foldlM {f : β → α → Proc ε σ β} (Inv : List α → β → σ → Prop) {raised : ε → σ → Prop}
    (items : List α)
    (hstep : ∀ gone a acc s, a ∈ items → Inv gone acc s →
      wp (f acc a) (Inv (gone ++ [a])) raised s)
    {gone : List α} {acc : β} {s : σ} (h : Inv gone acc s) :
    wp (items.foldlM f acc) (Inv (gone ++ items)) raised s := by
  induction items generalizing gone acc s with
  | nil =>
    rw [List.foldlM_nil, wp_pure, List.append_nil]
    exact h
  | cons a rest ih =>
    rw [List.foldlM_cons, wp_bind]
    apply wp_mono (hstep gone a acc s List.mem_cons_self h)
    · intro acc' s' hinv
      have hrest := ih (fun gone' a' acc'' s'' ha' => hstep gone' a' acc'' s''
        (List.mem_cons_of_mem a ha')) hinv
      rw [List.append_assoc, List.singleton_append] at hrest
      exact hrest
    · exact fun _ _ hraised => hraised

/-! ## Invariants of the store -/

/-- From a store in which the invariant holds, it holds whichever way the procedure ends. -/
def Keeps (Inv : σ → Prop) (x : Proc ε σ α) : Prop :=
  ∀ s, Inv s → wp x (fun _ => Inv) (fun _ => Inv) s

section Keeps

variable {Inv : σ → Prop}

theorem keeps_pure (a : α) : Keeps Inv (pure a : Proc ε σ α) := fun _ h => h

theorem keeps_throw (e : ε) : Keeps Inv (throw e : Proc ε σ α) := fun _ h => h

theorem keeps_get : Keeps Inv (get : Proc ε σ σ) := fun _ h => h

theorem keeps_bind {x : Proc ε σ β} {f : β → Proc ε σ α} (hx : Keeps Inv x)
    (hf : ∀ b, Keeps Inv (f b)) : Keeps Inv (x >>= f) := by
  intro s h
  rw [wp_bind]
  exact wp_mono (hx s h) (fun b s' hinv => hf b s' hinv) fun _ _ hinv => hinv

theorem keeps_map (f : β → α) {x : Proc ε σ β} (hx : Keeps Inv x) : Keeps Inv (f <$> x) := by
  rw [map_eq_pure_bind]
  exact keeps_bind hx fun b => keeps_pure (f b)

theorem keeps_modify {f : σ → σ} (h : ∀ s, Inv s → Inv (f s)) :
    Keeps Inv (modify f : Proc ε σ PUnit) := h

theorem keeps_ite {c : Prop} [Decidable c] {x y : Proc ε σ α} (hx : Keeps Inv x)
    (hy : Keeps Inv y) : Keeps Inv (if c then x else y) := by
  split
  · exact hx
  · exact hy

theorem keeps_tryCatch {x : Proc ε σ α} {handler : ε → Proc ε σ α} (hx : Keeps Inv x)
    (hhandler : ∀ e, Keeps Inv (handler e)) : Keeps Inv (tryCatch x handler) := by
  intro s h
  rw [wp_tryCatch]
  exact wp_mono (hx s h) (fun _ _ hinv => hinv) fun e s' hinv => hhandler e s' hinv

theorem keeps_onError {x : Proc ε σ α} {cleanup : ε → Proc ε σ Unit} (hx : Keeps Inv x)
    (hcleanup : ∀ e, Keeps Inv (cleanup e)) : Keeps Inv (onError x cleanup) :=
  keeps_tryCatch hx fun e => keeps_bind (hcleanup e) fun _ => keeps_throw e

theorem keeps_atomically {x : Proc ε σ α} (hx : Keeps Inv x) : Keeps Inv (atomically x) := by
  intro s h
  rw [wp_atomically]
  exact wp_mono (hx s h) (fun _ _ hinv => hinv) fun _ _ _ => h

/-- A call on a part of the store, where the invariant is about the other parts. -/
theorem keeps_onPart {ε' ρ : Type} {part : σ → ρ} {put : ρ → σ → σ} {wrap : ε' → ε}
    (x : Proc ε' ρ α) (h : ∀ r s, Inv s → Inv (put r s)) : Keeps Inv (onPart part put wrap x) := by
  intro s hs
  rw [wp_onPart]
  exact wp_of_forall (fun _ r => h r s hs) fun _ r => h r s hs

theorem keeps_mapM {f : α → Proc ε σ β} (items : List α) (h : ∀ a ∈ items, Keeps Inv (f a)) :
    Keeps Inv (items.mapM f) := by
  intro s hs
  have hall := wp_mapM Inv (fun _ _ => True) items (fun a ha s' hs' =>
    wp_mono (h a ha s' hs') (fun _ _ hinv => ⟨hinv, trivial⟩) fun _ _ hinv => hinv) hs
  exact wp_mono hall (fun _ _ hpost => hpost.1) fun _ _ hinv => hinv

theorem keeps_foldlM {f : β → α → Proc ε σ β} (items : List α)
    (h : ∀ acc, ∀ a ∈ items, Keeps Inv (f acc a)) (acc : β) :
    Keeps Inv (items.foldlM f acc) := by
  intro s hs
  exact @wp_foldlM ε σ α β f (fun _ _ => Inv) (fun _ => Inv) items
    (fun _ a acc' s' ha hinv => h acc' a ha s' hinv) [] acc s hs

end Keeps

end Proc

end Lib
