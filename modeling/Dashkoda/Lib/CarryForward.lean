import Mathlib.Order.Basic

/-!
# Registers that are carried forward

A register follows what a source shows.  Whatever is shown is noted with the moment it was first and
last seen, what is shown no longer is marked with the moment it went, and nothing is forgotten.
-/

namespace Lib

universe u v w

/-- What is known of one key. -/
structure Sighting (π : Type u) (τ : Type v) where
  shown : π
  firstSeen : τ
  lastSeen : τ
  gone : Option τ
  deriving DecidableEq

namespace CarryForward

variable {κ : Type w} {π : Type u} {τ : Type v}

/-- A look at what the source shows for one key. -/
def look (now : τ) : Option (Sighting π τ) → Option π → Option (Sighting π τ)
  | none, none => none
  | none, some shown => some ⟨shown, now, now, none⟩
  | some known, some shown => some { known with shown, lastSeen := now, gone := none }
  | some known, none => some { known with gone := known.gone.or (some now) }

/-- A register is brought in line with everything the source shows. -/
def observe (now : τ) (shown : κ → Option π) (register : κ → Option (Sighting π τ)) :
    κ → Option (Sighting π τ) := fun key => look now (register key) (shown key)

/-- What the source shows for a key, as far as is known. -/
def showing (known : Option (Sighting π τ)) : Option π :=
  known.bind fun sighting => if sighting.gone.isNone then some sighting.shown else none

/-- Everything but the moment of the last look. -/
def lasting (sighting : Sighting π τ) : π × τ × Option τ :=
  (sighting.shown, sighting.firstSeen, sighting.gone)

/-- After a look, the register says what the source shows. -/
theorem showing_look (now : τ) (known : Option (Sighting π τ)) (shown : Option π) :
    showing (look now known shown) = shown := by
  cases known with
  | none => cases shown <;> rfl
  | some sighting =>
    cases shown with
    | some shown => rfl
    | none =>
      show (if (sighting.gone.or (some now)).isNone then some sighting.shown else none) = none
      rw [Option.isNone_or, Option.isNone_some, Bool.and_false]
      rfl

theorem showing_observe (now : τ) (shown : κ → Option π) (register : κ → Option (Sighting π τ))
    (key : κ) : showing (observe now shown register key) = shown key := showing_look _ _ _

/-- Looking at what is known already changes nothing that lasts. -/
theorem lasting_look {now : τ} {known : Option (Sighting π τ)} {shown : Option π}
    (h : showing known = shown) : (look now known shown).map lasting = known.map lasting := by
  cases known with
  | none =>
    rw [← h]
    rfl
  | some sighting =>
    have hshown : shown = if sighting.gone.isNone then some sighting.shown else none := h.symm
    cases hgone : sighting.gone with
    | none =>
      rw [hshown, hgone]
      show some _ = some _
      simp [lasting, hgone]
    | some moment =>
      rw [hshown, hgone]
      show some _ = some _
      simp [lasting, hgone]

/-- A later sighting of the same key. -/
structure Later [LE τ] (before after : Sighting π τ) : Prop where
  firstSeen : after.firstSeen = before.firstSeen
  lastSeen : before.lastSeen ≤ after.lastSeen

/-- A look at a known key, no earlier than the last one, forgets nothing. -/
theorem look_later [Preorder τ] {now : τ} {sighting : Sighting π τ} (h : sighting.lastSeen ≤ now)
    (shown : Option π) : ∃ after, look now (some sighting) shown = some after ∧
    Later sighting after := by
  cases shown with
  | some shown => exact ⟨_, rfl, rfl, h⟩
  | none => exact ⟨_, rfl, rfl, le_refl _⟩

end CarryForward

end Lib
