import Mathlib.Algebra.Order.Field.Basic
import Mathlib.Tactic.Linarith

/-!
# Strips around positions

An interval cut halfway between each two neighbouring positions: the pieces tile it, and each holds
one position.
-/

namespace Lib

variable {K : Type*}

/-- Pieces that follow each other from `lo` to `hi`, none of them empty. -/
def Tiles [LT K] (lo hi : K) : List (K × K) → Prop
  | [] => lo = hi
  | piece :: rest => piece.1 = lo ∧ piece.1 < piece.2 ∧ Tiles piece.2 hi rest

structure Strip (K : Type*) where
  left : K
  point : K
  right : K

namespace Strip

section Cut

variable [Field K]

def midpoints (positions : List K) : List K :=
  List.zipWith (fun left right => (left + right) / 2) positions positions.tail

/-- The midpoints, with both ends. -/
def edges (lo hi : K) (positions : List K) : List K := lo :: midpoints positions ++ [hi]

/-- The strips of the positions, in their order. -/
def cut (lo hi : K) : List K → List (Strip K)
  | [] => []
  | [p] => [⟨lo, p, hi⟩]
  | p :: q :: rest => ⟨lo, p, (p + q) / 2⟩ :: cut ((p + q) / 2) hi (q :: rest)

theorem map_point_cut (lo hi : K) (positions : List K) :
    (cut lo hi positions).map (·.point) = positions := by
  induction positions generalizing lo with
  | nil => rfl
  | cons p rest ih =>
    cases rest with
    | nil => rfl
    | cons q rest =>
      show p :: (cut ((p + q) / 2) hi (q :: rest)).map (·.point) = p :: q :: rest
      rw [ih]

/-- Two edges that follow each other are the sides of a strip. -/
theorem zip_edges (lo hi : K) {positions : List K} (h : positions ≠ []) :
    (edges lo hi positions).zip (edges lo hi positions).tail =
      (cut lo hi positions).map fun strip => (strip.left, strip.right) := by
  induction positions generalizing lo with
  | nil => exact absurd rfl h
  | cons p rest ih =>
    cases rest with
    | nil => rfl
    | cons q rest =>
      show (lo, (p + q) / 2) :: (edges ((p + q) / 2) hi (q :: rest)).zip
        (edges ((p + q) / 2) hi (q :: rest)).tail =
        (lo, (p + q) / 2) :: (cut ((p + q) / 2) hi (q :: rest)).map fun strip =>
          (strip.left, strip.right)
      rw [ih _ (List.cons_ne_nil q rest)]

end Cut

section Order

variable [Field K] [LinearOrder K] [IsStrictOrderedRing K] {lo hi : K} {positions : List K}

/-- The strips tile the interval. -/
theorem tiles_cut (hne : positions ≠ []) (hspan : lo < hi) (horder : positions.Pairwise (· < ·))
    (hlow : ∀ p ∈ positions, lo ≤ p) (hhigh : ∀ p ∈ positions, p ≤ hi) :
    Tiles lo hi ((cut lo hi positions).map fun strip => (strip.left, strip.right)) := by
  induction positions generalizing lo with
  | nil => exact absurd rfl hne
  | cons p rest ih =>
    cases rest with
    | nil => exact ⟨rfl, hspan, rfl⟩
    | cons q rest =>
      have hp := hlow p List.mem_cons_self
      have hpq : p < q := List.rel_of_pairwise_cons horder List.mem_cons_self
      have hq := hhigh q (List.mem_cons_of_mem p List.mem_cons_self)
      have hrest := (List.pairwise_cons.mp horder).2
      refine ⟨rfl,
        by show lo < (p + q) / 2; linarith, ih (List.cons_ne_nil q rest) (by linarith) hrest ?_ ?_⟩
      · intro r hr
        cases List.mem_cons.mp hr with
        | inl heq => rw [heq]; linarith
        | inr hr =>
          have hqr := List.rel_of_pairwise_cons hrest hr
          linarith
      · exact fun r hr => hhigh r (List.mem_cons_of_mem p hr)

/-- No strip starts before the first edge, and each holds its own position. -/
theorem bounds_of_mem_cut (horder : positions.Pairwise (· < ·)) (hlow : ∀ p ∈ positions, lo ≤ p)
    (hhigh : ∀ p ∈ positions, p ≤ hi) {strip : Strip K} (h : strip ∈ cut lo hi positions) :
    lo ≤ strip.left ∧ strip.left ≤ strip.point ∧ strip.point ≤ strip.right := by
  induction positions generalizing lo with
  | nil => cases h
  | cons p rest ih =>
    have hp := hlow p List.mem_cons_self
    cases rest with
    | nil =>
      rw [List.mem_singleton.mp h]
      exact ⟨le_refl lo, hp, hhigh p List.mem_cons_self⟩
    | cons q rest =>
      have hpq : p < q := List.rel_of_pairwise_cons horder List.mem_cons_self
      have hrest := (List.pairwise_cons.mp horder).2
      cases List.mem_cons.mp h with
      | inl heq =>
        rw [heq]
        exact ⟨le_refl lo, hp, by show p ≤ (p + q) / 2; linarith⟩
      | inr h =>
        have hmid : ∀ r ∈ q :: rest, (p + q) / 2 ≤ r := by
          intro r hr
          cases List.mem_cons.mp hr with
          | inl heq => rw [heq]; linarith
          | inr hr =>
            have hqr := List.rel_of_pairwise_cons hrest hr
            linarith
        have hbounds := ih hrest hmid (fun r hr => hhigh r (List.mem_cons_of_mem p hr)) h
        exact ⟨by linarith [hbounds.1], hbounds.2⟩

/-- Of all positions a strip holds its own. -/
theorem mem_strip_iff (horder : positions.Pairwise (· < ·)) (hlow : ∀ p ∈ positions, lo ≤ p)
    (hhigh : ∀ p ∈ positions, p ≤ hi) {strip : Strip K} (h : strip ∈ cut lo hi positions) {p : K}
    (hp : p ∈ positions) : strip.left ≤ p ∧ p ≤ strip.right ↔ p = strip.point := by
  constructor
  · intro hin
    induction positions generalizing lo with
    | nil => cases h
    | cons first rest ih =>
      cases rest with
      | nil =>
        rw [List.mem_singleton.mp h, List.mem_singleton.mp hp]
      | cons q rest =>
        have hfirst : first < q := List.rel_of_pairwise_cons horder List.mem_cons_self
        have hrest := (List.pairwise_cons.mp horder).2
        have hmid : ∀ r ∈ q :: rest, (first + q) / 2 < r := by
          intro r hr
          cases List.mem_cons.mp hr with
          | inl heq => rw [heq]; linarith
          | inr hr =>
            have hqr := List.rel_of_pairwise_cons hrest hr
            linarith
        cases List.mem_cons.mp h with
        | inl heq =>
          -- every later position lies beyond the first strip
          cases List.mem_cons.mp hp with
          | inl hp => rw [hp, heq]
          | inr hp =>
            have hbeyond := hmid p hp
            have hright : p ≤ (first + q) / 2 := by
              rw [heq] at hin
              exact hin.2
            exact absurd hbeyond (not_lt.mpr hright)
        | inr h =>
          have hleft := (bounds_of_mem_cut hrest (fun r hr => le_of_lt (hmid r hr))
            (fun r hr => hhigh r (List.mem_cons_of_mem first hr)) h).1
          cases List.mem_cons.mp hp with
          | inl hp =>
            rw [hp] at hin
            exact absurd hin.1 (by linarith)
          | inr hp =>
            exact ih hrest (fun r hr => le_of_lt (hmid r hr))
              (fun r hr => hhigh r (List.mem_cons_of_mem first hr))
              h hp
  · intro heq
    rw [heq]
    exact (bounds_of_mem_cut horder hlow hhigh h).2

end Order

end Strip

end Lib
