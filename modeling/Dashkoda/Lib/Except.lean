import Mathlib.Data.List.Perm.Basic

/-!
# Taking a successful computation apart
-/

namespace Lib

universe u v w

section Map

variable {ε : Type u} {α : Type v} {β : Type w}

theorem map_eq_ok_iff {f : α → β} {x : Except ε α} {b : β} :
    x.map f = .ok b ↔ ∃ a, x = .ok a ∧ f a = b := by
  cases x <;> simp [Except.map]

theorem toOption_eq_some_iff {x : Except ε α} {a : α} : x.toOption = some a ↔ x = .ok a := by
  cases x <;> simp [Except.toOption]

end Map

section Bind

variable {ε : Type u} {α β : Type v}

theorem bind_eq_ok_iff {x : Except ε α} {f : α → Except ε β} {b : β} :
    x >>= f = .ok b ↔ ∃ a, x = .ok a ∧ f a = .ok b := by
  cases x with
  | error e => simp [bind, Except.bind]
  | ok a => simp [bind, Except.bind]

/-- `if c: raise e`, then the rest. -/
theorem raiseIf_eq_ok_iff {c : Prop} [Decidable c] {e : ε} {f : α → Except ε β} {x : Except ε β}
    {b : β} : (if c then throw e >>= f else x) = .ok b ↔ ¬ c ∧ x = .ok b := by
  by_cases hc : c
  · simp [hc, throw, throwThe, MonadExceptOf.throw, bind, Except.bind]
  · simp [hc]

/-- Every item of a loop that returned was answered, in order. -/
theorem forall₂_of_mapM_eq_ok {f : α → Except ε β} {items : List α} {out : List β}
    (h : items.mapM f = .ok out) : List.Forall₂ (fun a b => f a = .ok b) items out := by
  induction items generalizing out with
  | nil =>
    rw [List.mapM_nil] at h
    cases h
    exact List.Forall₂.nil
  | cons a rest ih =>
    rw [List.mapM_cons] at h
    obtain ⟨b, hb, hrest⟩ := bind_eq_ok_iff.mp h
    obtain ⟨bs, hbs, hout⟩ := bind_eq_ok_iff.mp hrest
    cases hout
    exact List.Forall₂.cons hb (ih hbs)

theorem mapM_eq_ok_iff {f : α → Except ε β} {items : List α} {out : List β} :
    items.mapM f = .ok out ↔ List.Forall₂ (fun a b => f a = .ok b) items out := by
  refine ⟨forall₂_of_mapM_eq_ok, fun h => ?_⟩
  induction h with
  | nil => rfl
  | cons hhead _ ih =>
    rw [List.mapM_cons]
    exact bind_eq_ok_iff.mpr ⟨_, hhead, bind_eq_ok_iff.mpr ⟨_, ih, rfl⟩⟩

/-- In another order, a loop has the same answers in another order. -/
theorem mapM_perm {f : α → Except ε β} {items items' : List α} {out : List β}
    (h : items'.Perm items) (hout : items.mapM f = .ok out) :
    ∃ out', items'.mapM f = .ok out' ∧ out'.Perm out := by
  obtain ⟨out', hall, hperm⟩ := List.perm_comp_forall₂ h (mapM_eq_ok_iff.mp hout)
  exact ⟨out', mapM_eq_ok_iff.mpr hall, hperm⟩

/-- A loop that returns each item as it is returns the items. -/
theorem eq_of_mapM_eq_ok {f : α → Except ε α} {items out : List α}
    (hf : ∀ a ∈ items, ∀ b, f a = .ok b → b = a) (h : items.mapM f = .ok out) : out = items := by
  have hall := forall₂_of_mapM_eq_ok h
  clear h
  induction hall with
  | nil => rfl
  | cons hhead _ ih =>
    rw [hf _ List.mem_cons_self _ hhead, ih fun a ha => hf a (List.mem_cons_of_mem _ ha)]

/-- A loop whose every turn returns, returns. -/
theorem exists_mapM_eq_ok {f : α → Except ε β} {items : List α}
    (h : ∀ a ∈ items, ∃ b, f a = .ok b) : ∃ out, items.mapM f = .ok out := by
  induction items with
  | nil => exact ⟨[], rfl⟩
  | cons a rest ih =>
    obtain ⟨b, hb⟩ := h a List.mem_cons_self
    obtain ⟨bs, hbs⟩ := ih fun a' ha' => h a' (List.mem_cons_of_mem a ha')
    rw [List.mapM_cons]
    exact ⟨b :: bs, bind_eq_ok_iff.mpr ⟨b, hb, bind_eq_ok_iff.mpr ⟨bs, hbs, rfl⟩⟩⟩

theorem exists_of_mem_forall₂ {R : α → β → Prop} {items : List α} {out : List β}
    (h : List.Forall₂ R items out) {b : β} (hb : b ∈ out) : ∃ a ∈ items, R a b := by
  induction h with
  | nil => cases hb
  | cons hR _ ih =>
    cases List.mem_cons.mp hb with
    | inl heq => exact ⟨_, List.mem_cons_self, heq ▸ hR⟩
    | inr hrest =>
      obtain ⟨a, ha, hab⟩ := ih hrest
      exact ⟨a, List.mem_cons_of_mem _ ha, hab⟩

theorem exists_of_mem_forall₂_left {R : α → β → Prop} {items : List α} {out : List β}
    (h : List.Forall₂ R items out) {a : α} (ha : a ∈ items) : ∃ b ∈ out, R a b :=
  exists_of_mem_forall₂ h.flip ha

/-- A loop that only checks what it computes. -/
theorem mapM_checked_iff {f : α → Except ε β} {valid : α → Prop} {value : α → β}
    (hf : ∀ a b, f a = .ok b ↔ valid a ∧ b = value a) {items : List α} {out : List β} :
    items.mapM f = .ok out ↔ (∀ a ∈ items, valid a) ∧ out = items.map value := by
  rw [mapM_eq_ok_iff]
  constructor
  · intro hall
    induction hall with
    | nil => exact ⟨fun _ hmem => absurd hmem List.not_mem_nil, rfl⟩
    | cons hhead _ ih =>
      obtain ⟨hvalid, rfl⟩ := (hf _ _).mp hhead
      exact ⟨List.forall_mem_cons.mpr ⟨hvalid, ih.1⟩, congrArg _ ih.2⟩
  · intro ⟨hvalid, hout⟩
    subst hout
    induction items with
    | nil => exact List.Forall₂.nil
    | cons a rest ih =>
      obtain ⟨ha, hrest⟩ := List.forall_mem_cons.mp hvalid
      exact List.Forall₂.cons ((hf _ _).mpr ⟨ha, rfl⟩) (ih hrest)

/-- What holds between two items at different places holds between their answers. -/
theorem pairwise_of_forall₂ {R : α → β → Prop} {S : α → α → Prop} {T : β → β → Prop}
    (hstep : ∀ a a' b b', R a b → R a' b' → S a a' → T b b') {items : List α} {out : List β}
    (h : List.Forall₂ R items out) (hitems : items.Pairwise S) : out.Pairwise T := by
  induction h with
  | nil => exact List.Pairwise.nil
  | cons hR hrest ih =>
    obtain ⟨hhead, htail⟩ := List.pairwise_cons.mp hitems
    refine List.pairwise_cons.mpr ⟨fun b' hb' => ?_, ih htail⟩
    obtain ⟨a', ha', hR'⟩ := exists_of_mem_forall₂ hrest hb'
    exact hstep _ _ _ _ hR hR' (hhead a' ha')

/-- Answers have distinct keys where equal keys come from equal keys of the items. -/
theorem nodup_map_of_forall₂ {γ δ : Type*} {R : α → β → Prop} {f : α → γ} {g : β → δ}
    {items : List α} {out : List β} (h : List.Forall₂ R items out) (hitems : (items.map f).Nodup)
    (hkey : ∀ a a' b b', R a b → R a' b' → g b = g b' → f a = f a') : (out.map g).Nodup := by
  induction h with
  | nil => exact List.nodup_nil
  | cons hR hrest ih =>
    rw [List.map_cons, List.nodup_cons] at hitems ⊢
    refine ⟨fun hmem => ?_, ih hitems.2⟩
    obtain ⟨b', hb', hsame⟩ := List.mem_map.mp hmem
    obtain ⟨a', ha', hR'⟩ := exists_of_mem_forall₂ hrest hb'
    exact hitems.1 (hkey _ _ _ _ hR' hR hsame ▸ List.mem_map_of_mem ha')

/-! ### A loop that keeps a record of what it has been through -/

section Recorded

variable {f : β → α → Except ε β} {Inv : List α → β → Prop} {Fine : List α → α → Prop}
  (hstep : ∀ done item state next, Inv done state → f state item = .ok next →
    Inv (done ++ [item]) next)
include hstep

theorem foldlM_recorded {items done : List α} {state result : β} (hstart : Inv done state)
    (h : items.foldlM f state = .ok result) : Inv (done ++ items) result := by
  induction items generalizing done state with
  | nil =>
    cases h
    rwa [List.append_nil]
  | cons item rest ih =>
    rw [List.foldlM_cons] at h
    obtain ⟨next, hnext, hrest⟩ := bind_eq_ok_iff.mp h
    have hdone := ih (hstep done item state next hstart hnext) hrest
    rwa [List.append_assoc] at hdone

/-- It returns exactly where every turn is fine after what came before. -/
theorem exists_foldlM_iff (hfine : ∀ done item state, Inv done state →
    ((∃ next, f state item = .ok next) ↔ Fine done item))
    {items done : List α} {state : β} (hstart : Inv done state) :
    (∃ result, items.foldlM f state = .ok result) ↔
      ∀ before item after, items = before ++ item :: after → Fine (done ++ before) item := by
  induction items generalizing done state with
  | nil =>
    exact iff_of_true ⟨state, rfl⟩ fun before item after heq =>
      absurd heq.symm (List.append_ne_nil_of_right_ne_nil _ (List.cons_ne_nil _ _))
  | cons item rest ih =>
    constructor
    · intro ⟨result, h⟩ before other after heq
      rw [List.foldlM_cons] at h
      obtain ⟨next, hnext, hrest⟩ := bind_eq_ok_iff.mp h
      cases before with
      | nil =>
        cases heq
        rw [List.append_nil]
        exact (hfine done item state hstart).mp ⟨next, hnext⟩
      | cons first before =>
        cases heq
        have hafter := (ih (hstep done item state next hstart hnext)).mp ⟨result, hrest⟩ before
          other after rfl
        rwa [List.append_assoc] at hafter
    · intro h
      have hfirst := h [] item rest rfl
      rw [List.append_nil] at hfirst
      obtain ⟨next, hnext⟩ := (hfine done item state hstart).mpr hfirst
      have hrest : ∀ before other after, rest = before ++ other :: after →
          Fine (done ++ [item] ++ before) other := by
        intro before other after heq
        have hother := h (item :: before) other after (heq ▸ rfl)
        rwa [List.append_assoc]
      obtain ⟨result, hresult⟩ := (ih (hstep done item state next hstart hnext)).mpr hrest
      exact ⟨result, by rw [List.foldlM_cons]; exact bind_eq_ok_iff.mpr ⟨next, hnext, hresult⟩⟩

end Recorded

end Bind

end Lib
