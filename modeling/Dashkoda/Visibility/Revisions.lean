import Dashkoda.Lib.Column
import Dashkoda.Visibility.Models

/-!
# The revisions of a reading day

A day that changed gets a new snapshot, one revision after the current one, which it supersedes.
-/

open Lib

namespace Dashkoda.Visibility

open Sources (Time)

/-! ## What the columns take -/

/-- The value of a column, or the exception the database raises for it. -/
def column {α : Type} (name : String) : Except ColumnError α → Except VisibilityExn α
  | .ok value => .ok value
  | .error .negative => .error (.integrityError (name ++ "_check"))
  | .error _ => .error (.dataError name)

def storeFigure (name : String) (value : Option Int) : Except VisibilityExn (Option Int) :=
  column name (Column.nullable Column.positiveInteger value)

/-- Rows that go under a unique constraint. -/
def bulkCreate {α κ : Type} [DecidableEq κ] (store : α → Except VisibilityExn α) (key : α → κ)
    (unique : String) (rows : List α) : Except VisibilityExn (List α) := do
  let stored ← rows.mapM store
  if (stored.map key).Nodup then return stored else throw (.integrityError unique)

/-! ## The current revision and the next one -/

section Draft

variable {κ : Type}

/-- `.filter(source=source, report_date=day, is_current_for_date=True).first()` -/
def currentFor (source : Nat) (day : Date) (snapshots : List (DailySnapshot κ)) :
    Option (DailySnapshot κ) := Lineage.current? (source, day) snapshots

structure SnapshotDraft (κ : Type) where
  source : Nat
  artifact : Nat
  importRun : Nat
  day : Date
  observedAt : Time
  checksum : String
  content : κ

namespace SnapshotDraft

/-- The number of the revision that comes after the locked one. -/
def revision (locked : Option (DailySnapshot κ)) : Nat := (locked.map (·.revision)).getD 0 + 1

/-- The snapshot that supersedes the locked one. -/
def row (draft : SnapshotDraft κ) (locked : Option (DailySnapshot κ)) (pk : Nat) :
    DailySnapshot κ :=
  ⟨pk, draft.source, draft.artifact, draft.importRun, draft.day, draft.observedAt, draft.checksum,
    revision locked, locked.map (·.pk), true, draft.content⟩

def next (draft : SnapshotDraft κ) (snapshots : List (DailySnapshot κ)) : DailySnapshot κ :=
  draft.row (currentFor draft.source draft.day snapshots) (Table.nextPk snapshots)

/-- The snapshot is saved, the locked one is retired, and the new one becomes current. -/
def publish (draft : SnapshotDraft κ) (snapshots : List (DailySnapshot κ)) :
    List (DailySnapshot κ) :=
  Lineage.succeed (currentFor draft.source draft.day snapshots) (draft.next snapshots) snapshots

end SnapshotDraft

/-! ## What a publication leaves -/

variable (Extends : κ → κ → Prop)

/-- A revision names the one before it, counts on from it and extends what it says. -/
structure Supersedes (previous : Option (DailySnapshot κ)) (row : DailySnapshot κ) : Prop where
  supersedes : row.supersedes = previous.map (·.pk)
  revision : row.revision = (previous.map (·.revision)).getD 0 + 1
  extends_ : ∀ before ∈ previous, Extends before.content row.content

theorem supersedes_blind : Lineage.Blind (Supersedes Extends) := by
  intro f hf previous row h
  have hpk (r : DailySnapshot κ) : (f r).pk = r.pk := by
    cases hf r with
    | inl heq => rw [heq]
    | inr heq => rw [heq]; rfl
  have hrevision (r : DailySnapshot κ) : (f r).revision = r.revision := by
    cases hf r with
    | inl heq => rw [heq]
    | inr heq => rw [heq]; rfl
  have hcontent (r : DailySnapshot κ) : (f r).content = r.content := by
    cases hf r with
    | inl heq => rw [heq]
    | inr heq => rw [heq]; rfl
  have hsupersedes : (f row).supersedes = row.supersedes := by
    cases hf row with
    | inl heq => rw [heq]
    | inr heq => rw [heq]; rfl
  refine ⟨?_, ?_, fun before hbefore => ?_⟩
  · rw [hsupersedes, h.supersedes, Option.map_map]
    exact congrArg (Option.map · previous) (funext fun r => (hpk r).symm)
  · rw [hrevision, h.revision, Option.map_map]
    exact congrArg (fun g => (Option.map g previous).getD 0 + 1)
      (funext fun r => (hrevision r).symm)
  · obtain ⟨old, hold, rfl⟩ := Option.mem_map.mp hbefore
    rw [hcontent, hcontent]
    exact h.extends_ old hold

abbrev SnapshotsSound (snapshots : List (DailySnapshot κ)) : Prop :=
  Lineage.Sound (Supersedes Extends) snapshots

variable {Extends} {snapshots : List (DailySnapshot κ)} {draft : SnapshotDraft κ}

theorem next_fresh : ∀ row ∈ snapshots, Row.pk row ≠ Row.pk (draft.next snapshots) :=
  fun _ hrow => Table.ne_nextPk hrow

theorem next_supersedes
    (h : ∀ before, currentFor draft.source draft.day snapshots = some before →
      Extends before.content draft.content) :
    Supersedes Extends (Lineage.current? (Revised.key (draft.next snapshots)) snapshots)
      (Revised.setCurrent true (draft.next snapshots)) :=
  ⟨rfl, rfl, fun before hbefore => h before hbefore⟩

theorem snapshots_publish (hsound : SnapshotsSound Extends snapshots)
    (h : ∀ before, currentFor draft.source draft.day snapshots = some before →
      Extends before.content draft.content) : SnapshotsSound Extends (draft.publish snapshots) :=
  hsound.succeed (supersedes_blind Extends) next_fresh (next_supersedes h)

theorem currentFor_publish_self (hsound : SnapshotsSound Extends snapshots)
    (h : ∀ before, currentFor draft.source draft.day snapshots = some before →
      Extends before.content draft.content) :
    currentFor draft.source draft.day (draft.publish snapshots) = some (draft.next snapshots) :=
  hsound.current?_succeed_self next_fresh (supersedes_blind Extends) (next_supersedes h)

theorem currentFor_publish_other (hsound : SnapshotsSound Extends snapshots) {source : Nat}
    {day : Date} (hother : (source, day) ≠ (draft.source, draft.day)) :
    currentFor source day (draft.publish snapshots) = currentFor source day snapshots :=
  hsound.current?_succeed_other (@next_fresh κ snapshots draft) hother

/-! ## The revisions of one day -/

theorem linked_numbered {previous : Option (DailySnapshot κ)} {rows : List (DailySnapshot κ)}
    (h : Lineage.Linked (Supersedes Extends) previous rows) :
    rows.map (·.revision) = List.range' ((previous.map (·.revision)).getD 0 + 1) rows.length := by
  induction rows generalizing previous with
  | nil => rfl
  | cons row rest ih =>
    rw [List.map_cons, List.length_cons, List.range'_succ, h.1.revision, ih h.2]
    show _ :: List.range' (row.revision + 1) _ = _
    rw [h.1.revision]

theorem linked_superseding {previous : Option (DailySnapshot κ)} {rows : List (DailySnapshot κ)}
    (h : Lineage.Linked (Supersedes Extends) previous rows) :
    rows.map (·.supersedes) =
      (previous.map (·.pk) :: rows.map fun row => some row.pk).dropLast := by
  induction rows generalizing previous with
  | nil => rfl
  | cons row rest ih =>
    rw [List.map_cons, List.map_cons, List.dropLast_cons_cons, h.1.supersedes, ih h.2]
    rfl

/-- What is extended step by step is extended throughout. -/
theorem linked_extends (htrans : ∀ a b c, Extends a b → Extends b c → Extends a c)
    {previous : Option (DailySnapshot κ)} {rows : List (DailySnapshot κ)}
    (h : Lineage.Linked (Supersedes Extends) previous rows) :
    (∀ before ∈ previous, ∀ row ∈ rows, Extends before.content row.content) ∧
      rows.Pairwise fun a b => Extends a.content b.content := by
  induction rows generalizing previous with
  | nil => exact ⟨fun _ _ _ hrow => (by cases hrow), List.Pairwise.nil⟩
  | cons row rest ih =>
    obtain ⟨hfirst, hrest⟩ := ih h.2
    refine ⟨fun before hbefore x hx => ?_, List.pairwise_cons.mpr ⟨hfirst row rfl, hrest⟩⟩
    have hstep := h.1.extends_ before hbefore
    cases List.mem_cons.mp hx with
    | inl heq => exact heq ▸ hstep
    | inr hin => exact htrans _ _ _ hstep (hfirst row rfl x hin)

/-- Revisions 1, 2, ..., n, each superseding the one before it, and only the last one current. -/
structure InOrder (rows : List (DailySnapshot κ)) : Prop where
  numbered : rows.map (·.revision) = List.range' 1 rows.length
  superseding : rows.map (·.supersedes) = (none :: rows.map fun row => some row.pk).dropLast
  oneCurrent : (rows.filter (·.isCurrentForDate)).length = 1
  lastCurrent : ∀ row ∈ rows, row.isCurrentForDate = true → row.revision = rows.length

theorem history_inOrder (hsound : SnapshotsSound Extends snapshots) (source : Nat) (day : Date)
    (hrows : Lineage.history (source, day) snapshots ≠ []) :
    InOrder (Lineage.history (source, day) snapshots) := by
  have hnumbered := linked_numbered (hsound.linked (source, day))
  have hcurrents : (Lineage.history (source, day) snapshots).filter (·.isCurrentForDate) =
      [(Lineage.history (source, day) snapshots).getLast hrows] := by
    have hlast := hsound.currents (source, day)
    rw [List.getLast?_eq_some_getLast hrows] at hlast
    exact hlast
  refine ⟨hnumbered, linked_superseding (hsound.linked (source, day)), ?_,
    fun row hrow hcurrent => ?_⟩
  · rw [hcurrents]
    rfl
  · have hin : row ∈ (Lineage.history (source, day) snapshots).filter (·.isCurrentForDate) :=
      List.mem_filter.mpr ⟨hrow, hcurrent⟩
    rw [hcurrents] at hin
    have hlast := congrArg List.getLast? hnumbered
    have hpos : (Lineage.history (source, day) snapshots).length ≠ 0 :=
      fun hzero => hrows (List.eq_nil_of_length_eq_zero hzero)
    rw [List.getLast?_map, List.getLast?_eq_some_getLast hrows, List.getLast?_range', if_neg hpos,
      ← List.mem_singleton.mp hin] at hlast
    have hrevision : row.revision = _ := Option.some.inj hlast
    rw [hrevision]
    show 0 + 1 + _ - 1 = _
    omega

end Draft

end Dashkoda.Visibility
