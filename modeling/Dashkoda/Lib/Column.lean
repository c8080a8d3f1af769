import Dashkoda.Lib.PyText

/-!
# What the columns of a table take

A `varchar` column refuses the character NUL and a text that is too long, unless only blanks exceed
its length, which are dropped.  A positive integer column holds 31 bits.
-/

namespace Lib

inductive ColumnError
  | nul
  | tooLong
  | outOfRange
  | negative
  deriving DecidableEq, Repr

namespace Column

def varchar (max : Nat) (text : String) : Except ColumnError String :=
  if '\x00' ∈ text.toList then .error .nul
  else if text.length ≤ max then .ok text
  else if (text.toList.drop max).all (· = ' ') then .ok (PyText.take max text)
  else .error .tooLong

def maxPositiveInteger : Int := 2147483647

def positiveInteger (value : Int) : Except ColumnError Int :=
  if maxPositiveInteger < value then .error .outOfRange
  else if value < 0 then .error .negative
  else .ok value

def nullable {α : Type} (column : α → Except ColumnError α) :
    Option α → Except ColumnError (Option α)
  | none => .ok none
  | some value => (column value).map some

/-- A text without NUL that is short enough is stored as it is. -/
theorem varchar_of_fits {max : Nat} {text : String} (hnul : '\x00' ∉ text.toList)
    (hlength : text.length ≤ max) : varchar max text = .ok text := by
  unfold varchar
  rw [if_neg hnul, if_pos hlength]

/-- What is stored has no NUL and is short enough. -/
theorem fits_of_varchar {max : Nat} {text stored : String} (h : varchar max text = .ok stored) :
    '\x00' ∉ stored.toList ∧ stored.length ≤ max := by
  unfold varchar at h
  split at h
  · cases h
  · rename_i hnul
    split at h
    · rename_i hlength
      cases h
      exact ⟨hnul, hlength⟩
    · split at h
      · cases h
        unfold PyText.take
        rw [String.toList_ofList, String.length_ofList]
        exact ⟨fun hmem => hnul (List.mem_of_mem_take hmem), List.length_take_le _ _⟩
      · cases h

theorem varchar_eq_self_iff {max : Nat} {text : String} :
    varchar max text = .ok text ↔ '\x00' ∉ text.toList ∧ text.length ≤ max :=
  ⟨fits_of_varchar, fun h => varchar_of_fits h.1 h.2⟩

/-- What was stored once is stored again as it is. -/
theorem varchar_idempotent {max : Nat} {text stored : String} (h : varchar max text = .ok stored) :
    varchar max stored = .ok stored := varchar_eq_self_iff.mpr (fits_of_varchar h)

theorem positiveInteger_eq_ok_iff {value stored : Int} :
    positiveInteger value = .ok stored ↔ (0 ≤ value ∧ value ≤ maxPositiveInteger) ∧
    stored = value := by
  unfold positiveInteger
  split
  · rename_i hlarge
    exact ⟨fun h => (by cases h), fun h => absurd h.1.2 (Int.not_le.mpr hlarge)⟩
  · rename_i hfits
    split
    · rename_i hnegative
      exact ⟨fun h => (by cases h), fun h => absurd h.1.1 (Int.not_le.mpr hnegative)⟩
    · rename_i hpositive
      exact ⟨fun h => ⟨⟨Int.not_lt.mp hpositive, Int.not_lt.mp hfits⟩, (Except.ok.inj h).symm⟩,
        fun h => congrArg Except.ok h.2.symm⟩

end Column

end Lib
