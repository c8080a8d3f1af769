import Mathlib.Data.List.Nodup
import Mathlib.Data.Fintype.Card
import Mathlib.Logic.Relation

/-!
# Closing a set of nodes over a successor function

The loop `while frontier: node = frontier.pop()` with a set of visited nodes: a node is pushed
when it is first seen, so it is expanded once.  On a finite graph the loop ends, and the visited
nodes are then exactly those reachable from the seeds.
-/

namespace Lib

universe u

namespace Worklist

variable {α : Type u}

/-- The visited nodes, and among them the ones still to expand (the top of the stack first). -/
structure State (α : Type u) where
  visited : List α
  frontier : List α

variable [DecidableEq α]

def push (w : State α) (node : α) : State α :=
  if node ∈ w.visited then w else ⟨node :: w.visited, node :: w.frontier⟩

def pushAll (w : State α) (nodes : List α) : State α := nodes.foldl push w

def start (seeds : List α) : State α := pushAll ⟨[], []⟩ seeds

/-- At most `fuel` rounds of the loop; `none` when they do not empty the frontier. -/
def close (succ : α → List α) : Nat → State α → Option (List α)
  | _, ⟨visited, []⟩ => some visited
  | 0, ⟨_, _ :: _⟩ => none
  | fuel + 1, ⟨visited, node :: rest⟩ => close succ fuel (pushAll ⟨visited, rest⟩ (succ node))

theorem mem_push_visited (w : State α) (node x : α) :
    x ∈ (push w node).visited ↔ x ∈ w.visited ∨ x = node := by
  unfold push
  split
  · rename_i hseen
    constructor
    · exact .inl
    · rintro (h | rfl)
      · exact h
      · exact hseen
  · simp [or_comm]

theorem mem_push_frontier (w : State α) (node x : α) :
    x ∈ (push w node).frontier ↔ x ∈ w.frontier ∨ (x = node ∧ x ∉ w.visited) := by
  unfold push
  split
  · rename_i hseen
    constructor
    · exact .inl
    · rintro (h | ⟨rfl, hnew⟩)
      · exact h
      · exact absurd hseen hnew
  · rename_i hseen
    simp only [List.mem_cons]
    constructor
    · rintro (rfl | h)
      · exact .inr ⟨rfl, hseen⟩
      · exact .inl h
    · rintro (h | ⟨rfl, _⟩)
      · exact .inr h
      · exact .inl rfl

@[simp] theorem mem_pushAll_visited (w : State α) (nodes : List α) (x : α) :
    x ∈ (pushAll w nodes).visited ↔ x ∈ w.visited ∨ x ∈ nodes := by
  induction nodes generalizing w with
  | nil => simp [pushAll]
  | cons node nodes ih =>
    have hstep := ih (push w node)
    rw [mem_push_visited] at hstep
    simpa [pushAll, or_assoc] using hstep

/-- Only nodes seen for the first time are pushed. -/
@[simp] theorem mem_pushAll_frontier (w : State α) (nodes : List α) (x : α) :
    x ∈ (pushAll w nodes).frontier ↔ x ∈ w.frontier ∨ (x ∈ nodes ∧ x ∉ w.visited) := by
  induction nodes generalizing w with
  | nil => simp [pushAll]
  | cons node nodes ih =>
    have hstep := ih (push w node)
    rw [mem_push_frontier, mem_push_visited] at hstep
    change x ∈ (pushAll (push w node) nodes).frontier ↔ _
    rw [hstep, List.mem_cons]
    by_cases hx : x = node
    · subst hx
      tauto
    · tauto

theorem nodup_pushAll {w : State α} (h : w.visited.Nodup) (nodes : List α) :
    (pushAll w nodes).visited.Nodup := by
  induction nodes generalizing w with
  | nil => exact h
  | cons node nodes ih =>
    refine ih ?_
    unfold push
    split
    · exact h
    · rename_i hseen
      exact List.nodup_cons.mpr ⟨hseen, h⟩

/-- Every push adds one node to both lists. -/
theorem pushAll_length (w : State α) (nodes : List α) :
    (pushAll w nodes).visited.length + w.frontier.length =
      w.visited.length + (pushAll w nodes).frontier.length := by
  induction nodes generalizing w with
  | nil => rfl
  | cons node nodes ih =>
    have hstep := ih (push w node)
    have hpush : (push w node).visited.length + w.frontier.length =
        w.visited.length + (push w node).frontier.length := by
      unfold push
      split
      · rfl
      · simp only [List.length_cons]
        omega
    change (pushAll (push w node) nodes).visited.length + _ =
      _ + (pushAll (push w node) nodes).frontier.length
    omega

/-! ## What the loop computes -/

/-- Reachability along the successor function. -/
def Reaches (succ : α → List α) : α → α → Prop :=
  Relation.ReflTransGen fun a b => b ∈ succ a

structure Inv (succ : α → List α) (seeds : List α) (w : State α) : Prop where
  frontier : ∀ x ∈ w.frontier, x ∈ w.visited
  seeded : ∀ x ∈ seeds, x ∈ w.visited
  reached : ∀ x ∈ w.visited, ∃ seed ∈ seeds, Reaches succ seed x
  expanded : ∀ x ∈ w.visited, x ∉ w.frontier → ∀ y ∈ succ x, y ∈ w.visited

variable {succ : α → List α} {seeds : List α}

theorem inv_start : Inv succ seeds (start seeds) := by
  refine ⟨fun x hx => ?_, fun x hx => ?_, fun x hx => ?_, fun x hx hexpanded => ?_⟩
  · simpa [start] using hx
  · simpa [start] using hx
  · exact ⟨x, by simpa [start] using hx, Relation.ReflTransGen.refl⟩
  · have hfrontier : x ∈ (start seeds).frontier := by simpa [start] using hx
    exact absurd hfrontier hexpanded

/-- One round of the loop. -/
theorem inv_expand {visited rest : List α} {node : α}
    (h : Inv succ seeds ⟨visited, node :: rest⟩) :
    Inv succ seeds (pushAll ⟨visited, rest⟩ (succ node)) := by
  have hnode : node ∈ visited := h.frontier node List.mem_cons_self
  refine ⟨fun x hx => ?_, fun x hx => ?_, fun x hx => ?_, fun x hx hexpanded y hy => ?_⟩
  · rcases (mem_pushAll_frontier _ _ x).mp hx with hrest | ⟨hsucc, _⟩
    · exact (mem_pushAll_visited _ _ x).mpr (.inl (h.frontier x (List.mem_cons_of_mem _ hrest)))
    · exact (mem_pushAll_visited _ _ x).mpr (.inr hsucc)
  · exact (mem_pushAll_visited _ _ x).mpr (.inl (h.seeded x hx))
  · rcases (mem_pushAll_visited _ _ x).mp hx with hold | hsucc
    · exact h.reached x hold
    · obtain ⟨seed, hseed, hreach⟩ := h.reached node hnode
      exact ⟨seed, hseed, hreach.tail hsucc⟩
  · rw [mem_pushAll_visited]
    rw [mem_pushAll_frontier, not_or] at hexpanded
    obtain ⟨hrest, hpushed⟩ := hexpanded
    rcases (mem_pushAll_visited _ _ x).mp hx with hold | hsucc
    · by_cases hxnode : x = node
      · exact .inr (hxnode ▸ hy)
      · exact .inl (h.expanded x hold (by simp [hxnode, hrest]) y hy)
    · by_cases hold : x ∈ visited
      · by_cases hxnode : x = node
        · exact .inr (hxnode ▸ hy)
        · exact .inl (h.expanded x hold (by simp [hxnode, hrest]) y hy)
      · exact absurd ⟨hsucc, hold⟩ hpushed

omit [DecidableEq α] in
theorem mem_of_reaches {w : State α} (h : Inv succ seeds w) (hdone : w.frontier = []) {a b : α}
    (ha : a ∈ w.visited) (hreach : Reaches succ a b) : b ∈ w.visited := by
  induction hreach with
  | refl => exact ha
  | tail _ hstep ih => exact h.expanded _ ih (by simp [hdone]) _ hstep

/-- When the loop ends, it has visited what the seeds reach and nothing else. -/
theorem close_spec {fuel : Nat} {w : State α} (h : Inv succ seeds w) {result : List α}
    (hclose : close succ fuel w = some result) (x : α) :
    x ∈ result ↔ ∃ seed ∈ seeds, Reaches succ seed x := by
  induction fuel, w using close.induct succ with
  | case1 _ visited =>
    have heq : visited = result := by simpa [close] using hclose
    subst heq
    constructor
    · exact h.reached x
    · rintro ⟨seed, hseed, hreach⟩
      exact mem_of_reaches h rfl (h.seeded seed hseed) hreach
  | case2 visited node rest => simp [close] at hclose
  | case3 fuel visited node rest ih =>
    rw [close] at hclose
    exact ih (inv_expand h) hclose

/-! ## Why the loop ends -/

/-- Rounds to spare change nothing. -/
theorem close_of_le {fuel fuel' : Nat} {w : State α} {result : List α}
    (hclose : close succ fuel w = some result) (hle : fuel ≤ fuel') :
    close succ fuel' w = some result := by
  induction fuel, w using close.induct succ generalizing fuel' with
  | case1 fuel visited => simpa [close] using hclose
  | case2 visited node rest => simp [close] at hclose
  | case3 fuel visited node rest ih =>
    obtain ⟨spare, rfl⟩ : ∃ spare, fuel' = spare + 1 := ⟨fuel' - 1, by omega⟩
    rw [close] at hclose ⊢
    exact ih hclose (by omega)

/-- Inside a finite part of the graph that no edge leaves, the loop makes at most one round for
each node of it. -/
theorem close_terminates {nodes : List α} (hclosed : ∀ x ∈ nodes, ∀ y ∈ succ x, y ∈ nodes)
    {fuel : Nat} {w : State α} (hnodup : w.visited.Nodup) (hvisited : ∀ x ∈ w.visited, x ∈ nodes)
    (hfrontier : ∀ x ∈ w.frontier, x ∈ w.visited)
    (hfuel : nodes.length + w.frontier.length ≤ fuel + w.visited.length) :
    ∃ result, close succ fuel w = some result := by
  induction fuel, w using close.induct succ with
  | case1 fuel visited => exact ⟨visited, by simp [close]⟩
  | case2 visited node rest =>
    have hlength : visited.length ≤ nodes.length :=
      (List.subperm_of_subset hnodup hvisited).length_le
    simp only [List.length_cons] at hfuel
    omega
  | case3 fuel visited node rest ih =>
    rw [close]
    have hnode : node ∈ visited := hfrontier node List.mem_cons_self
    apply ih (nodup_pushAll (w := ⟨visited, rest⟩) hnodup _)
    · intro x hx
      rcases (mem_pushAll_visited _ _ x).mp hx with hold | hsucc
      · exact hvisited x hold
      · exact hclosed node (hvisited node hnode) x hsucc
    · intro x hx
      rcases (mem_pushAll_frontier _ _ x).mp hx with hrest | ⟨hsucc, _⟩
      · exact (mem_pushAll_visited _ _ x).mpr (.inl (hfrontier x (List.mem_cons_of_mem _ hrest)))
      · exact (mem_pushAll_visited _ _ x).mpr (.inr hsucc)
    · have hlength := pushAll_length ⟨visited, rest⟩ (succ node)
      simp only [List.length_cons] at hfuel
      simp only at hlength
      omega

theorem close_start_terminates {nodes : List α} (hclosed : ∀ x ∈ nodes, ∀ y ∈ succ x, y ∈ nodes)
    (hseeds : ∀ x ∈ seeds, x ∈ nodes) {fuel : Nat}
    (hfuel : nodes.length ≤ fuel) :
    ∃ result, close succ fuel (start seeds) = some result := by
  refine close_terminates hclosed (nodup_pushAll List.nodup_nil seeds) (fun x hx => ?_)
    (inv_start : Inv succ seeds _).frontier ?_
  · exact hseeds x (by simpa [start] using hx)
  · have hlength := pushAll_length ⟨[], []⟩ seeds
    simp only [List.length_nil] at hlength
    change nodes.length + (pushAll ⟨[], []⟩ seeds).frontier.length ≤
      fuel + (pushAll ⟨[], []⟩ seeds).visited.length
    omega

end Worklist

end Lib
