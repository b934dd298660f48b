import Reckoner.Proofs.Number.Guards
import Reckoner.Proofs.Number.Rendering

/-!
The index that a double stands for. A finite one is cut off towards zero, an infinity goes to the
bound of 32 bits on its side, and what is not a number goes to zero.
-/

namespace Reckoner.Number

def truncate (q : ℚ) : ℤ :=
  if 0 ≤ q then ⌊q⌋ else ⌈q⌉

/-- The index that a double stands for. -/
def position (x : Float) : ℤ :=
  match rational? x with
  | some q => truncate q
  | none => if x = infinity then 2 ^ 31 - 1 else if x = -infinity then -2 ^ 31 else 0

theorem truncate_signed (negative : Bool) (size : Nat) {divisor : Nat} (positive : 0 < divisor) :
    truncate ((signed negative size : ℚ) / divisor) = signed negative (size / divisor) := by
  have above : (0 : ℚ) < divisor := Nat.cast_pos.mpr positive
  cases negative with
  | false =>
      have nonnegative : (0 : ℚ) ≤ (signed false size : ℚ) / divisor :=
        div_nonneg (Int.cast_nonneg (Int.natCast_nonneg size)) above.le
      rw [truncate, if_pos nonnegative, Rat.floor_intCast_div_natCast]
      rfl
  | true =>
      by_cases zero : size = 0
      · simp [zero, truncate, signed]
      · have below : (signed true size : ℚ) < 0 := by
          simpa [signed] using Nat.pos_of_ne_zero zero
        rw [truncate, if_neg (not_le.mpr (div_neg_of_neg_of_pos below above)),
          Rat.ceil_intCast_div_natCast]
        simp [signed]

theorem toIndex_infinite (negative : Bool) :
    toIndex (ofBits negative infinityBits) = .ok (position (ofBits negative infinityBits)) := by
  cases negative <;> decide +kernel

theorem toIndex_of_units {x : Float} {units : Nat} (finite : units? x = some units) :
    toIndex x = Machine.truncate x := by
  rw [toIndex, isNaN_of_units finite, isInfinite_of_units finite]
  rfl

theorem toIndex_eq_position (x : Float) : toIndex x = .ok (position x) := by
  cases finite : units? x with
  | some units =>
      rw [toIndex_of_units finite, truncate_of_units finite, position, rational?_eq, finite,
        Option.map_some]
      dsimp only
      rw [truncate_signed (isNegative x) units unitsPerOne_pos]
      cases isNegative x <;> rfl
  | none =>
      rcases special_cases finite with ⟨_, size⟩ | ⟨_, rfl⟩
      · rw [← ofBits_sizeBits x, size]
        exact toIndex_infinite (isNegative x)
      · decide +kernel

end Reckoner.Number
