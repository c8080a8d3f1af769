import Mathlib.Data.Finset.Sort

/-!
# Orders of iteration

A set is iterated in an order of its own, and any order is possible.
-/

namespace Lib

universe u

/-- Some order in which sets are iterated. -/
structure SetOrder (α : Type u) [DecidableEq α] where
  keys : Finset α → List α
  nodup : ∀ s, (keys s).Nodup
  mem_keys : ∀ s x, x ∈ keys s ↔ x ∈ s

namespace SetOrder

variable {α : Type u} [DecidableEq α]

/-- Least element first. -/
def ascending [LinearOrder α] : SetOrder α where
  keys s := s.sort (· ≤ ·)
  nodup s := s.sort_nodup (· ≤ ·)
  mem_keys s _ := s.mem_sort (· ≤ ·)

/-- The same order, with one element moved to the front. -/
def first (order : SetOrder α) (x : α) : SetOrder α where
  keys s := if x ∈ s then x :: order.keys (s.erase x) else order.keys s
  nodup s := by
    split
    · exact List.nodup_cons.mpr
        ⟨fun hx => Finset.notMem_erase x s ((order.mem_keys _ _).mp hx), order.nodup _⟩
    · exact order.nodup s
  mem_keys s y := by
    split
    · rename_i hx
      rw [List.mem_cons, order.mem_keys, Finset.mem_erase]
      constructor
      · rintro (rfl | h)
        · exact hx
        · exact h.2
      · intro hy
        by_cases heq : y = x
        · exact Or.inl heq
        · exact Or.inr ⟨heq, hy⟩
    · exact order.mem_keys s y

theorem keys_first {order : SetOrder α} {x : α} {s : Finset α} (h : x ∈ s) :
    (order.first x).keys s = x :: order.keys (s.erase x) := if_pos h

/-- Two orders iterate the same elements. -/
theorem keys_perm (order order' : SetOrder α) (s : Finset α) :
    (order.keys s).Perm (order'.keys s) :=
  (List.perm_ext_iff_of_nodup (order.nodup s) (order'.nodup s)).mpr fun x => by
    rw [order.mem_keys, order'.mem_keys]

theorem length_keys (order : SetOrder α) (s : Finset α) : (order.keys s).length = s.card := by
  have htoFinset : (order.keys s).toFinset = s := by
    ext x
    rw [List.mem_toFinset, order.mem_keys]
  rw [← List.toFinset_card_of_nodup (order.nodup s), htoFinset]

end SetOrder

end Lib
