import Dashkoda.Core.QueryState
import Dashkoda.Lib.Table
import Dashkoda.Lib.Worklist
import Dashkoda.Sources.ImportRun
import Mathlib.Algebra.GroupWithZero.Nat

/-!
# Which retired snapshots may be deleted

The retention policy over a registry of snapshot families.  Protection starts from the current
and the recent snapshots and follows the pins between snapshots; what it does not reach, and is
old and retired, is a candidate.  The registry carries the facts the policy relies on: it names
every foreign key from one snapshot to another, and a family comes after the families it pins.
-/

open Lib

namespace Dashkoda.Sources

open Core (OverflowError)

/-- `DEFAULT_RETENTION_DAYS` -/
def defaultRetentionDays : Int := 7

/-- Microseconds, as `Time` counts them. -/
def microsecondsPerDay : Nat := 24 * 60 * 60 * 1000000

/-- The first moment after the calendar, counted from its first one. -/
def calendarEnd : Nat := Date.maxOrdinal * microsecondsPerDay

inductive CutoffField
  | importedAt
  | observedAt
  | generatedAt
  deriving DecidableEq, Repr

structure SnapshotFamily (M F : Type) where
  model : M
  label : String
  cutoffField : CutoffField
  pins : List F
  deriving Repr

/-- The families in dependency order, with the snapshot foreign keys the models declare. -/
structure SnapshotRegistry (M F : Type) [DecidableEq M] where
  families : List (SnapshotFamily M F)
  relatedModel : M → F → Option M
  models_nodup : (families.map (·.model)).Nodup
  pins_complete : ∀ model name, (relatedModel model name).isSome →
    ∃ family ∈ families, family.model = model ∧ name ∈ family.pins
  dependencies_first : families.Pairwise fun earlier later =>
    ∀ name ∈ earlier.pins, relatedModel earlier.model name ≠ some later.model
  no_self_pin : ∀ family ∈ families, ∀ name ∈ family.pins,
    relatedModel family.model name ≠ some family.model

structure Snapshot (F : Type) where
  pk : Nat
  isCurrent : Bool
  stamp : CutoffField → Time
  pin : F → Option Nat

/-- The snapshot tables, and for each model the parent keys of the rows in each table that
cascades from it. -/
structure SnapshotStore (M F : Type) where
  rows : M → List (Snapshot F)
  relatedObjects : M → List (List Nat)
  keys_nodup : ∀ model, ((rows model).map (·.pk)).Nodup

structure FamilyPlan (M F : Type) where
  family : SnapshotFamily M F
  current : Nat
  recent : Nat
  kept : Nat
  candidates : List Nat
  oldest : Option Time
  newest : Option Time
  childRows : Nat

/-- `retention_cutoff`; a window that reaches out of the calendar has no cutoff. -/
def retentionCutoff (days : Int) (now : Time) : Except OverflowError Time :=
  let moment := (now : Int) - days * microsecondsPerDay
  if 0 ≤ moment ∧ moment < calendarEnd then .ok moment.toNat else .error .outOfRange

/-- In the year 2026, 740000 days reach back beyond the year 1. -/
example : retentionCutoff 740000 (739900 * microsecondsPerDay) = .error .outOfRange := by decide

section Policy

variable {M F : Type} [DecidableEq M] (registry : SnapshotRegistry M F) (store : SnapshotStore M F)

/-- `by_model` -/
def SnapshotRegistry.byModel (model : M) : Option (SnapshotFamily M F) :=
  registry.families.find? (·.model = model)

def seedsOf (cutoff : Time) (family : SnapshotFamily M F) : List (M × Nat) :=
  ((store.rows family.model).filter (·.isCurrent) ++
    (store.rows family.model).filter (fun row => cutoff ≤ row.stamp family.cutoffField)).map
      fun row => (family.model, row.pk)

/-- What expanding one snapshot adds: the registered snapshots its family's pins name. -/
def pinned (node : M × Nat) : List (M × Nat) :=
  match registry.byModel node.1 with
  | none => []
  | some family =>
    match (store.rows family.model).find? (·.pk = node.2) with
    | none => []
    | some row =>
      family.pins.filterMap fun name =>
        match row.pin name, registry.relatedModel family.model name with
        | some target, some model =>
          if (registry.byModel model).isSome then some (model, target) else none
        | _, _ => none

/-- `protected_ids`, with `fuel` rounds of its loop. -/
def protectedIds (fuel : Nat) (cutoff : Time) : Option (List (M × Nat)) :=
  Worklist.close (pinned registry store) fuel
    (Worklist.start (registry.families.flatMap (seedsOf store cutoff)))

/-- `_estimated_children` -/
def estimatedChildren (model : M) (ids : List Nat) : Nat :=
  ((store.relatedObjects model).map fun parents => parents.countP (· ∈ ids)).sum

/-- `plan_family`; `kept` counts the rows a protection rule saved. -/
def planFamily (cutoff : Time) (isProtected : List Nat) (family : SnapshotFamily M F) :
    FamilyPlan M F :=
  let rows := store.rows family.model
  let old := rows.filter fun row => row.stamp family.cutoffField < cutoff && !row.isCurrent
  let deletable := (old.filter fun row => row.pk ∉ isProtected).mergeSort
    fun a b => a.stamp family.cutoffField ≤ b.stamp family.cutoffField
  let candidates := deletable.map (·.pk)
  { family := family
    current := rows.countP (·.isCurrent)
    recent := rows.countP fun row => cutoff ≤ row.stamp family.cutoffField
    kept := old.countP fun row => row.pk ∈ isProtected
    candidates := candidates
    oldest := (deletable.map (·.stamp family.cutoffField)).head?
    newest := (deletable.map (·.stamp family.cutoffField)).getLast?
    childRows := if candidates = [] then 0 else estimatedChildren store family.model candidates }

/-- `protected[family.model]` -/
def protectedKeys (model : M) (nodes : List (M × Nat)) : List Nat :=
  (nodes.filter (·.1 = model)).map (·.2)

/-- `plan_retention`; `none` where the fuel of its closure does not last. -/
def planRetention (fuel : Nat) (days : Int) (now : Time) :
    Option (Except OverflowError (List (FamilyPlan M F))) :=
  match retentionCutoff days now with
  | .error error => some (.error error)
  | .ok cutoff =>
    (protectedIds registry store fuel cutoff).map fun nodes =>
      .ok (registry.families.map fun family =>
        planFamily store cutoff (protectedKeys family.model nodes) family)

end Policy

/-- The order `prune_snapshots` deletes in: families from last to first. -/
def deletionOrder {M F : Type} (plans : List (FamilyPlan M F)) : List (M × Nat) :=
  plans.reverse.flatMap fun plan => plan.candidates.map fun pk => (plan.family.model, pk)

/-! ## What the closure protects -/

section Closure

variable {M F : Type} [DecidableEq M] {registry : SnapshotRegistry M F} {store : SnapshotStore M F}

/-- A foreign key of a stored snapshot names another snapshot.  Every such key cascades. -/
def References (registry : SnapshotRegistry M F) (store : SnapshotStore M F)
    (node target : M × Nat) : Prop :=
  ∃ row ∈ store.rows node.1, row.pk = node.2 ∧
    ∃ name, row.pin name = some target.2 ∧ registry.relatedModel node.1 name = some target.1

/-- A snapshot no rule lets go of on its own account: current, or inside the window. -/
def IsSeed (registry : SnapshotRegistry M F) (store : SnapshotStore M F) (cutoff : Time)
    (node : M × Nat) : Prop :=
  ∃ family ∈ registry.families, family.model = node.1 ∧
    ∃ row ∈ store.rows node.1, row.pk = node.2 ∧
      (row.isCurrent = true ∨ cutoff ≤ row.stamp family.cutoffField)

/-- Reachable from a current or recent snapshot along the references between snapshots. -/
def Protected (registry : SnapshotRegistry M F) (store : SnapshotStore M F) (cutoff : Time)
    (node : M × Nat) : Prop :=
  ∃ seed, IsSeed registry store cutoff seed ∧
    Relation.ReflTransGen (References registry store) seed node

theorem SnapshotRegistry.byModel_of_mem {family : SnapshotFamily M F}
    (hmem : family ∈ registry.families) : registry.byModel family.model = some family :=
  find?_key_of_mem SnapshotFamily.model registry.models_nodup hmem

theorem SnapshotRegistry.mem_of_byModel {model : M} {family : SnapshotFamily M F}
    (h : registry.byModel model = some family) : family ∈ registry.families ∧
    family.model = model :=
  ⟨List.mem_of_find?_eq_some h, by simpa using List.find?_some h⟩

omit [DecidableEq M] in
theorem SnapshotStore.find?_of_mem {model : M} {row : Snapshot F} (hrow : row ∈ store.rows model) :
    (store.rows model).find? (·.pk = row.pk) = some row :=
  find?_key_of_mem Snapshot.pk (store.keys_nodup model) hrow

/-- A model that declares a snapshot foreign key is registered, under a family that pins it. -/
theorem References.registered {node target : M × Nat} (h : References registry store node target) :
    (registry.byModel node.1).isSome := by
  obtain ⟨_, _, _, name, _, hmodel⟩ := h
  obtain ⟨family, hmem, hfamily, _⟩ := registry.pins_complete node.1 name (by simp [hmodel])
  rw [← hfamily, registry.byModel_of_mem hmem]
  rfl

/-- The pins a family declares are all the references its rows have. -/
theorem mem_pinned_iff (node target : M × Nat) :
    target ∈ pinned registry store node ↔
      References registry store node target ∧ (registry.byModel target.1).isSome := by
  rcases node with ⟨model, pk⟩
  rcases target with ⟨targetModel, targetPk⟩
  constructor
  · intro h
    unfold pinned at h
    split at h
    · cases h
    rename_i family hfamily
    obtain ⟨_, hmodel⟩ := SnapshotRegistry.mem_of_byModel hfamily
    dsimp only at hmodel
    split at h
    · cases h
    rename_i row hrow
    obtain ⟨name, _, hname⟩ := List.mem_filterMap.mp h
    split at hname
    · rename_i t m hpin hrelated
      split at hname
      · rename_i hregistered
        cases hname
        refine ⟨⟨row, ?_, by simpa using List.find?_some hrow, name, hpin, ?_⟩, hregistered⟩
        · exact hmodel ▸ List.mem_of_find?_eq_some hrow
        · exact hmodel ▸ hrelated
      · cases hname
    · cases hname
  · rintro ⟨⟨row, hrow, hpk, name, hpin, hrelated⟩, hregistered⟩
    dsimp only at hrow hpk hpin hrelated hregistered
    obtain ⟨family, hmem, hfamily, hname⟩ :=
      registry.pins_complete model name (by simp [hrelated])
    subst hfamily hpk
    unfold pinned
    simp only [registry.byModel_of_mem hmem, store.find?_of_mem hrow]
    refine List.mem_filterMap.mpr ⟨name, hname, ?_⟩
    simp [hpin, hrelated, hregistered]

/-- Between registered snapshots, following references is following pins. -/
theorem reaches_pinned_iff {a b : M × Nat} (hb : (registry.byModel b.1).isSome) :
    Worklist.Reaches (pinned registry store) a b ↔
      Relation.ReflTransGen (References registry store) a b := by
  constructor
  · have hstep (x y : M × Nat) (hxy : y ∈ pinned registry store x) :
        References registry store x y := ((mem_pinned_iff x y).mp hxy).1
    exact Relation.ReflTransGen.mono hstep a b
  · intro h
    induction h using Relation.ReflTransGen.head_induction_on with
    | refl => exact Relation.ReflTransGen.refl
    | head hstep hrest ih =>
      rename_i x y
      have hy : (registry.byModel y.1).isSome := by
        rcases Relation.ReflTransGen.cases_head hrest with heq | ⟨z, hz, _⟩
        · exact heq ▸ hb
        · exact hz.registered
      exact Relation.ReflTransGen.head ((mem_pinned_iff x y).mpr ⟨hstep, hy⟩) ih

theorem mem_seeds_iff (cutoff : Time) (node : M × Nat) :
    node ∈ registry.families.flatMap (seedsOf store cutoff) ↔
      IsSeed registry store cutoff node := by
  rcases node with ⟨model, pk⟩
  simp only [List.mem_flatMap, seedsOf, List.mem_map, List.mem_append, List.mem_filter,
    decide_eq_true_eq, IsSeed, Prod.mk.injEq]
  constructor
  · rintro ⟨family, hmem, row, hrow, hmodel, hpk⟩
    subst hmodel hpk
    rcases hrow with ⟨hrow, hcurrent⟩ | ⟨hrow, hrecent⟩
    · exact ⟨family, hmem, rfl, row, hrow, rfl, .inl hcurrent⟩
    · exact ⟨family, hmem, rfl, row, hrow, rfl, .inr hrecent⟩
  · rintro ⟨family, hmem, hmodel, row, hrow, hpk, hkept⟩
    subst hmodel hpk
    refine ⟨family, hmem, row, ?_, rfl, rfl⟩
    rcases hkept with hcurrent | hrecent
    · exact .inl ⟨hrow, hcurrent⟩
    · exact .inr ⟨hrow, hrecent⟩

theorem protectedIds_spec {fuel : Nat} {cutoff : Time} {nodes : List (M × Nat)}
    (h : protectedIds registry store fuel cutoff = some nodes) {node : M × Nat}
    (hregistered : (registry.byModel node.1).isSome) :
    node ∈ nodes ↔ Protected registry store cutoff node := by
  rw [Worklist.close_spec Worklist.inv_start h]
  simp only [mem_seeds_iff, reaches_pinned_iff hregistered, Protected]

/-- All the snapshots of the registry's families, and what they pin. -/
def snapshotNodes (registry : SnapshotRegistry M F) (store : SnapshotStore M F) : List (M × Nat) :=
  let stored := registry.families.flatMap fun family =>
    (store.rows family.model).map fun row => (family.model, row.pk)
  stored ++ stored.flatMap (pinned registry store)

theorem mem_snapshotNodes_of_row {family : SnapshotFamily M F} (hmem : family ∈ registry.families)
    {row : Snapshot F} (hrow : row ∈ store.rows family.model) :
    (family.model, row.pk) ∈ snapshotNodes registry store :=
  List.mem_append_left _ (List.mem_flatMap.mpr ⟨family, hmem, List.mem_map_of_mem hrow⟩)

theorem pinned_mem_snapshotNodes {node target : M × Nat}
    (h : target ∈ pinned registry store node) : target ∈ snapshotNodes registry store := by
  obtain ⟨row, hrow, hpk, name, _, hrelated⟩ := ((mem_pinned_iff node target).mp h).1
  obtain ⟨family, hmem, hfamily, _⟩ := registry.pins_complete node.1 name (by simp [hrelated])
  refine List.mem_append_right _ (List.mem_flatMap.mpr ⟨node, ?_, h⟩)
  refine List.mem_flatMap.mpr ⟨family, hmem, List.mem_map.mpr ⟨row, hfamily ▸ hrow, ?_⟩⟩
  exact Prod.ext hfamily hpk

/-- The closure loop ends: it makes at most one round for each snapshot. -/
theorem protectedIds_terminates (cutoff : Time) {fuel : Nat}
    (hfuel : (snapshotNodes registry store).length ≤ fuel) :
    ∃ nodes, protectedIds registry store fuel cutoff = some nodes := by
  refine Worklist.close_start_terminates (fun x _ y hy => pinned_mem_snapshotNodes hy)
    (fun x hx => ?_) hfuel
  obtain ⟨family, hmem, hmodel, row, hrow, hpk, _⟩ := (mem_seeds_iff cutoff x).mp hx
  have hnode := mem_snapshotNodes_of_row hmem (hmodel.symm ▸ hrow)
  rwa [hmodel, hpk] at hnode

end Closure

/-! ## What a plan deletes -/

inductive StoredRow (M C : Type)
  | snapshot (node : M × Nat)
  | child (row : C)

/-- The foreign keys a deletion follows: those between snapshots, and whatever the other tables
hold. -/
inductive CascadesFrom {M F C : Type} [DecidableEq M] (registry : SnapshotRegistry M F)
    (store : SnapshotStore M F) (childKeys : C → StoredRow M C → Prop) :
    StoredRow M C → StoredRow M C → Prop
  | pin {node target : M × Nat} (h : References registry store node target) :
    CascadesFrom registry store childKeys (.snapshot node) (.snapshot target)
  | child {row : C} {target : StoredRow M C} (h : childKeys row target) :
    CascadesFrom registry store childKeys (.child row) target

/-- Deleting the snapshots `ids` takes `row` with them. -/
def Removed {M F C : Type} [DecidableEq M] (registry : SnapshotRegistry M F)
    (store : SnapshotStore M F) (childKeys : C → StoredRow M C → Prop) (ids : List (M × Nat))
    (row : StoredRow M C) : Prop :=
  ∃ node ∈ ids, Relation.ReflTransGen (CascadesFrom registry store childKeys) row (.snapshot node)

section Plan

variable {M F : Type} [DecidableEq M] {registry : SnapshotRegistry M F} {store : SnapshotStore M F}
  {cutoff : Time}

/-- From a snapshot a cascade only ever climbs through snapshots. -/
theorem references_of_cascadesFrom {C : Type} {childKeys : C → StoredRow M C → Prop}
    {row : StoredRow M C} {target : M × Nat}
    (h : Relation.ReflTransGen (CascadesFrom registry store childKeys) row (.snapshot target)) :
    ∀ node, row = .snapshot node → Relation.ReflTransGen
      (References registry store) node target := by
  induction h using Relation.ReflTransGen.head_induction_on with
  | refl =>
    intro node heq
    cases heq
    exact Relation.ReflTransGen.refl
  | head hstep _ ih =>
    intro node heq
    subst heq
    cases hstep with
    | pin href => exact Relation.ReflTransGen.head href (ih _ rfl)

theorem Protected.of_reaches {node target : M × Nat} (h : Protected registry store cutoff node)
    (hreach : Relation.ReflTransGen (References registry store) node target) :
    Protected registry store cutoff target := by
  obtain ⟨seed, hseed, hpath⟩ := h
  exact ⟨seed, hseed, hpath.trans hreach⟩

theorem mem_protectedKeys {model : M} {nodes : List (M × Nat)} {pk : Nat} :
    pk ∈ protectedKeys model nodes ↔ (model, pk) ∈ nodes := by
  unfold protectedKeys
  simp only [List.mem_map, List.mem_filter, decide_eq_true_eq]
  constructor
  · rintro ⟨node, ⟨hnode, rfl⟩, rfl⟩
    exact hnode
  · exact fun h => ⟨(model, pk), ⟨h, rfl⟩, rfl⟩

omit [DecidableEq M] in
theorem mem_planFamily_candidates {isProtected : List Nat} {family : SnapshotFamily M F}
    {pk : Nat} :
    pk ∈ (planFamily store cutoff isProtected family).candidates ↔
      ∃ row ∈ store.rows family.model, row.pk = pk ∧ row.stamp family.cutoffField < cutoff ∧
        row.isCurrent = false ∧ pk ∉ isProtected := by
  simp only [planFamily, List.mem_map, List.mem_mergeSort, List.mem_filter, Bool.and_eq_true,
    decide_eq_true_eq, Bool.not_eq_true']
  constructor
  · rintro ⟨row, ⟨⟨hrow, hold, hcurrent⟩, hkept⟩, rfl⟩
    exact ⟨row, hrow, rfl, hold, hcurrent, hkept⟩
  · rintro ⟨row, hrow, rfl, hold, hcurrent, hkept⟩
    exact ⟨row, ⟨⟨hrow, hold, hcurrent⟩, hkept⟩, rfl⟩

/-- The plans an ended closure leads to: one for each family, in registry order. -/
structure PlansOf (registry : SnapshotRegistry M F) (store : SnapshotStore M F) (cutoff : Time)
    (plans : List (FamilyPlan M F)) : Prop where
  families : plans.map (·.family) = registry.families
  candidates : ∀ plan ∈ plans, ∀ pk, pk ∈ plan.candidates ↔
    ∃ row ∈ store.rows plan.family.model, row.pk = pk ∧
      row.stamp plan.family.cutoffField < cutoff ∧ row.isCurrent = false ∧
      ¬ Protected registry store cutoff (plan.family.model, pk)

theorem plansOf_protectedIds {fuel : Nat} {nodes : List (M × Nat)}
    (h : protectedIds registry store fuel cutoff = some nodes) :
    PlansOf registry store cutoff (registry.families.map fun family =>
      planFamily store cutoff (protectedKeys family.model nodes) family) := by
  constructor
  · rw [List.map_map]
    exact List.map_id _
  · intro plan hplan pk
    obtain ⟨family, hmem, rfl⟩ := List.mem_map.mp hplan
    have hregistered : (registry.byModel family.model).isSome := by
      rw [registry.byModel_of_mem hmem]
      rfl
    have hspec : (family.model, pk) ∈ nodes ↔ Protected registry store cutoff (family.model, pk) :=
      protectedIds_spec h hregistered
    rw [mem_planFamily_candidates]
    simp only [mem_protectedKeys, hspec]
    rfl

variable {plans : List (FamilyPlan M F)}

omit [DecidableEq M] in
theorem mem_deletionOrder {node : M × Nat} :
    node ∈ deletionOrder plans ↔
      ∃ plan ∈ plans, plan.family.model = node.1 ∧ node.2 ∈ plan.candidates := by
  simp only [deletionOrder, List.mem_flatMap, List.mem_reverse, List.mem_map]
  constructor
  · rintro ⟨plan, hplan, pk, hpk, rfl⟩
    exact ⟨plan, hplan, rfl, hpk⟩
  · rintro ⟨plan, hplan, hmodel, hpk⟩
    exact ⟨plan, hplan, node.2, hpk, Prod.ext hmodel rfl⟩

theorem PlansOf.not_protected (h : PlansOf registry store cutoff plans) {node : M × Nat}
    (hnode : node ∈ deletionOrder plans) : ¬ Protected registry store cutoff node := by
  obtain ⟨plan, hplan, hmodel, hpk⟩ := mem_deletionOrder.mp hnode
  obtain ⟨_, _, _, _, _, hfree⟩ := (h.candidates plan hplan node.2).mp hpk
  rwa [hmodel] at hfree

/-- Whatever references a candidate is a candidate too. -/
theorem PlansOf.mem_of_references (h : PlansOf registry store cutoff plans) {node target : M × Nat}
    (href : References registry store node target) (htarget : target ∈ deletionOrder plans) :
    node ∈ deletionOrder plans := by
  have hfree : ¬ Protected registry store cutoff node := fun hprotected =>
    h.not_protected htarget (hprotected.of_reaches (Relation.ReflTransGen.single href))
  obtain ⟨row, hrow, hpk, name, _, hrelated⟩ := href
  obtain ⟨family, hmem, hfamily, _⟩ := registry.pins_complete node.1 name (by simp [hrelated])
  have hunseeded : ¬ IsSeed registry store cutoff node := fun hseed =>
    hfree ⟨node, hseed, Relation.ReflTransGen.refl⟩
  obtain ⟨plan, hplan, hplanFamily⟩ := List.mem_map.mp (h.families.symm ▸ hmem)
  subst hplanFamily
  refine mem_deletionOrder.mpr ⟨plan, hplan, hfamily, (h.candidates plan hplan _).mpr ?_⟩
  refine ⟨row, hfamily ▸ hrow, hpk, ?_, ?_, hfamily ▸ hfree⟩
  · by_contra hrecent
    exact hunseeded ⟨plan.family, hmem, hfamily, row, hrow, hpk, .inr (Nat.le_of_not_lt hrecent)⟩
  · by_contra hcurrent
    exact hunseeded ⟨plan.family, hmem, hfamily, row, hrow, hpk, .inl (by simpa using hcurrent)⟩

/-- A family's rows never reference a row of the same family or of a later one. -/
theorem not_references_of_pairwise {earlier later : SnapshotFamily M F}
    (hpins : ∀ name ∈ earlier.pins, registry.relatedModel earlier.model name ≠ some later.model)
    (hearlier : earlier ∈ registry.families) (pk pk' : Nat) :
    ¬ References registry store (earlier.model, pk) (later.model, pk') := by
  rintro ⟨row, _, _, name, _, hrelated⟩
  obtain ⟨family, hmem, hfamily, hname⟩ :=
    registry.pins_complete earlier.model name (by simp [hrelated])
  have hsame : family = earlier := Option.some.inj <| by
    rw [← registry.byModel_of_mem hmem, ← registry.byModel_of_mem hearlier, hfamily]
  exact hpins name (hsame ▸ hname) hrelated

/-- Along the deletion order, nothing is referenced by what comes after it. -/
theorem PlansOf.pairwise_deletionOrder (h : PlansOf registry store cutoff plans) :
    (deletionOrder plans).Pairwise fun first second =>
      ¬ References registry store second first := by
  have hregistered : ∀ plan ∈ plans, plan.family ∈ registry.families := fun plan hplan =>
    h.families ▸ List.mem_map_of_mem hplan
  have hpairs : plans.Pairwise fun earlier later => ∀ name ∈ earlier.family.pins,
      registry.relatedModel earlier.family.model name ≠ some later.family.model := by
    have := registry.dependencies_first
    rw [← h.families] at this
    exact List.pairwise_map.mp this
  unfold deletionOrder
  rw [List.pairwise_flatMap]
  constructor
  · intro plan hplan
    have hmem := hregistered plan (List.mem_reverse.mp hplan)
    refine List.pairwise_map.mpr (List.pairwise_of_forall fun pk pk' => ?_)
    exact not_references_of_pairwise (registry.no_self_pin plan.family hmem) hmem pk' pk
  · rw [List.pairwise_reverse]
    refine hpairs.imp_of_mem fun {earlier later} hearlier _ hpins => ?_
    intro first hfirst second hsecond
    obtain ⟨pk, _, rfl⟩ := List.mem_map.mp hfirst
    obtain ⟨pk', _, rfl⟩ := List.mem_map.mp hsecond
    exact not_references_of_pairwise hpins (hregistered earlier hearlier) pk' pk

/-- What `plan_retention` decides.  A window out of the calendar raises.  Else the closure ends; the
candidates are exactly the old, retired snapshots that no current or recent one reaches; deleting
them with everything that cascades takes no protected snapshot; and whatever references a snapshot
is deleted before it. -/
structure RetentionClosed (registry : SnapshotRegistry M F) (store : SnapshotStore M F) (days : Int)
    (now : Time) : Prop where
  overflow : ∀ error, retentionCutoff days now = .error error →
    ∀ fuel, planRetention registry store fuel days now = some (.error error)
  plans : ∀ cutoff, retentionCutoff days now = .ok cutoff →
    ∃ rounds plans,
      (∀ fuel, rounds ≤ fuel → planRetention registry store fuel days now = some (.ok plans)) ∧
      plans.map (·.family) = registry.families ∧
      (∀ plan ∈ plans, ∀ pk, pk ∈ plan.candidates ↔
        ∃ row ∈ store.rows plan.family.model, row.pk = pk ∧
          row.stamp plan.family.cutoffField < cutoff ∧ row.isCurrent = false ∧
          ¬ Protected registry store cutoff (plan.family.model, pk)) ∧
      (∀ (C : Type) (childKeys : C → StoredRow M C → Prop) (node : M × Nat),
        Protected registry store cutoff node →
        ¬ Removed registry store childKeys (deletionOrder plans) (.snapshot node)) ∧
      (∀ before target after node, deletionOrder plans = before ++ target :: after →
        References registry store node target → node ∈ before)

/-- Along the deletion order, a reference comes before what it names. -/
theorem PlansOf.mem_before (h : PlansOf registry store cutoff plans) {before after : List (M × Nat)}
    {node target : M × Nat} (horder : deletionOrder plans = before ++ target :: after)
    (href : References registry store node target) : node ∈ before := by
  have hnode : node ∈ deletionOrder plans := by
    refine h.mem_of_references href ?_
    rw [horder]
    exact List.mem_append_right _ List.mem_cons_self
  have hpairs := h.pairwise_deletionOrder
  rw [horder] at hnode hpairs
  have hafter := (List.pairwise_cons.mp (List.pairwise_append.mp hpairs).2.1).1
  rcases List.mem_append.mp hnode with hbefore | hrest
  · exact hbefore
  · rcases List.mem_cons.mp hrest with heq | hlater
    · subst heq
      obtain ⟨_, _, _, name, _, hrelated⟩ := href
      obtain ⟨family, hmem, hfamily, hname⟩ :=
        registry.pins_complete node.1 name (by simp [hrelated])
      exact absurd (hfamily ▸ hrelated) (registry.no_self_pin family hmem name hname)
    · exact absurd href (hafter node hlater)

theorem planRetention_closure (registry : SnapshotRegistry M F) (store : SnapshotStore M F)
    (days : Int) (now : Time) : RetentionClosed registry store days now where
  overflow error herror fuel := by
    unfold planRetention
    rw [herror]
  plans cutoff hcutoff := by
    let rounds := (snapshotNodes registry store).length
    obtain ⟨nodes, hnodes⟩ := protectedIds_terminates cutoff (Nat.le_refl rounds)
    have h := plansOf_protectedIds hnodes
    refine ⟨rounds, _, fun fuel hfuel => ?_, h.families, h.candidates,
      fun C childKeys node hprotected => ?_, fun _ _ _ _ => h.mem_before⟩
    · unfold planRetention
      rw [hcutoff]
      dsimp only
      have hsame : protectedIds registry store fuel cutoff = some nodes :=
        Worklist.close_of_le hnodes hfuel
      rw [hsame]
      rfl
    · rintro ⟨target, htarget, hcascade⟩
      exact h.not_protected htarget
        (hprotected.of_reaches (references_of_cascadesFrom hcascade node rfl))

end Plan

/-! ## The families of the repository -/

inductive SnapshotModel
  | legalWorkSnapshot
  | currentTopicSnapshot
  | archivedTopicSnapshot
  | opinionCatalogueSnapshot
  | publicOpinionSnapshot
  | newsSnapshot
  | eventSnapshot
  | eventProgrammeSnapshot
  | publicEventDiscoverySnapshot
  | legalCurrentTopicMatchSnapshot
  | legalArchivedTopicMatchSnapshot
  | legalOpinionMatchSnapshot
  | eventPublicMatchSnapshot
  deriving DecidableEq, Repr

inductive PinField
  | legalSnapshot
  | currentTopicSnapshot
  | archivedTopicSnapshot
  | currentTopicMatchSnapshot
  | opinionCatalogueSnapshot
  | publicOpinionSnapshot
  | programmeSnapshot
  deriving DecidableEq, Repr

/-- `FAMILIES` -/
def families : List (SnapshotFamily SnapshotModel PinField) :=
  [⟨.legalWorkSnapshot, "Õigusloome hetkeseis", .importedAt, []⟩,
    ⟨.currentTopicSnapshot, "Hetkel käsil kataloog", .observedAt, []⟩,
    ⟨.archivedTopicSnapshot, "Arhiivi kataloog", .observedAt, []⟩,
    ⟨.opinionCatalogueSnapshot, "Arvamuste kataloog", .observedAt, []⟩,
    ⟨.publicOpinionSnapshot, "Avalik arvamuskorpus", .observedAt, []⟩,
    ⟨.newsSnapshot, "Uudiste hetkeseis", .importedAt, []⟩,
    ⟨.eventSnapshot, "Sündmuste kalendri hetkeseis", .importedAt, []⟩,
    ⟨.eventProgrammeSnapshot, "Sündmuste programmi hetkeseis", .importedAt, []⟩,
    ⟨.publicEventDiscoverySnapshot, "Avalike sündmuste lehtede avastusjooks", .observedAt, []⟩,
    ⟨.legalCurrentTopicMatchSnapshot, "Hetkel käsil sobitamine", .generatedAt,
      [.legalSnapshot, .currentTopicSnapshot]⟩,
    ⟨.legalArchivedTopicMatchSnapshot, "Arhiivi sobitamine", .generatedAt,
      [.legalSnapshot, .archivedTopicSnapshot, .currentTopicMatchSnapshot]⟩,
    ⟨.legalOpinionMatchSnapshot, "Arvamuste sobitamine", .generatedAt,
      [.legalSnapshot, .opinionCatalogueSnapshot, .publicOpinionSnapshot]⟩,
    ⟨.eventPublicMatchSnapshot, "Sündmuste viidete sobitamine", .generatedAt,
      [.programmeSnapshot]⟩]

/-- The foreign keys from one snapshot model to another, as the models declare them. -/
def relatedModel : SnapshotModel → PinField → Option SnapshotModel
  | .legalCurrentTopicMatchSnapshot, .legalSnapshot => some .legalWorkSnapshot
  | .legalCurrentTopicMatchSnapshot, .currentTopicSnapshot => some .currentTopicSnapshot
  | .legalArchivedTopicMatchSnapshot, .legalSnapshot => some .legalWorkSnapshot
  | .legalArchivedTopicMatchSnapshot, .archivedTopicSnapshot => some .archivedTopicSnapshot
  | .legalArchivedTopicMatchSnapshot, .currentTopicMatchSnapshot =>
    some .legalCurrentTopicMatchSnapshot
  | .legalOpinionMatchSnapshot, .legalSnapshot => some .legalWorkSnapshot
  | .legalOpinionMatchSnapshot, .opinionCatalogueSnapshot => some .opinionCatalogueSnapshot
  | .legalOpinionMatchSnapshot, .publicOpinionSnapshot => some .publicOpinionSnapshot
  | .eventPublicMatchSnapshot, .programmeSnapshot => some .eventProgrammeSnapshot
  | _, _ => none

/-- The registry of the repository: its thirteen families and the foreign keys between them. -/
def snapshotRegistry : SnapshotRegistry SnapshotModel PinField where
  families := families
  relatedModel := relatedModel
  models_nodup := by decide
  pins_complete := by
    intro model name
    cases model <;> cases name <;> decide
  dependencies_first := by decide
  no_self_pin := by decide

end Dashkoda.Sources
