import Reckoner.Number.Arithmetic
import Reckoner.Proofs.Number.Bits

/-!
Arithmetic of the language has an answer for all numbers. Each guard catches what the machine does not
answer, and a finite double is never rounded beyond the range.
-/

namespace Reckoner.Number

variable {x y : Float}

theorem bind_answers {α β : Type} {first : Except Breakdown α} {next : α → Except Breakdown β}
    {middle : α} (before : first = .ok middle) (later : ∃ result, next middle = .ok result) :
    ∃ result, first >>= next = .ok result := by
  subst before
  exact later

theorem isNaN_of_units {units : Nat} (finite : units? x = some units) : x.isNaN = false := by
  rw [Float.isNaN_eq_decide_eq_nan, nan_eq, decide_eq_false_iff_not]
  rintro rfl
  have special : units? notANumber = none := by decide +kernel
  exact absurd (special.symm.trans finite) (by simp)

theorem isInfinite_of_units {units : Nat} (finite : units? x = some units) :
    isInfinite x = false := by
  simp [isInfinite, isFinite, finite]

theorem orUndefined_elementary (apply : Float → Float) (x : Float) :
    ∃ y, orUndefined (Machine.elementary apply) x = .ok y := by
  simp only [orUndefined, Machine.elementary]
  split_ifs
  · exact ⟨notANumber, rfl⟩
  · exact ⟨apply x, rfl⟩

theorem divide_answers (left right : Float) : ∃ y, divide left right = .ok y := by
  by_cases zero : right == 0
  · exact ⟨_, by rw [divide, if_pos zero]⟩
  · exact ⟨_, by rw [divide, if_neg zero, Machine.divide, if_neg zero]⟩

theorem power_cause {base exponent : Float} {cause : Breakdown}
    (fails : Machine.power base exponent = .error cause) : cause = .domain ∨ cause = .overflow := by
  simp only [Machine.power] at fails
  split_ifs at fails
  · exact .inl (Except.error.inj fails).symm
  · exact .inl (Except.error.inj fails).symm
  · exact .inr (Except.error.inj fails).symm

theorem power_answers (base exponent : Float) : ∃ y, power base exponent = .ok y := by
  cases outcome : Machine.power base exponent with
  | ok value => exact ⟨value, by rw [power, outcome]⟩
  | error cause =>
      rcases power_cause outcome with rfl | rfl
      · exact ⟨_, by rw [power, outcome]⟩
      · exact ⟨_, by rw [power, outcome]⟩

theorem truncate_of_units {units : Nat} (finite : units? x = some units) :
    Machine.truncate x = .ok
      (if isNegative x then -((units : Int) / unitsPerOne) else (units : Int) / unitsPerOne) := by
  rw [Machine.truncate, Machine.units, finite]
  rfl

section

variable {numerator denominator whole top : Nat}

/-- What is nearest to a number below the middle of the last step does not reach infinity. -/
theorem nearestBits_lt (last : top = 2045)
    (inside : 2 * (whole * unitsPerOne) < (4 * fractions - 1) * 2 ^ top) :
    nearestBits whole 1 < infinityBits := by
  simp only [nearestBits, Nat.div_one, Nat.one_mul]
  generalize whole * unitsPerOne = count at inside
  generalize shifted : count.log2 - 52 = shift
  refine (Nat.min_le_left _ _).trans_lt ?_
  change _ + halfEven count (2 ^ shift) < _
  have positive := Nat.two_pow_pos shift
  have rounded := halfEven_mul_le count (2 ^ shift)
  rw [fractions_eq] at inside
  rw [infinityBits, fractions_eq]
  have notAbove : shift ≤ top := by
    have below : count < 2 ^ (53 + top) := by
      rw [Nat.pow_add]
      omega
    by_cases zero : count = 0
    · subst zero
      have none : Nat.log2 0 = 0 := by decide
      omega
    · have := (Nat.log2_lt zero).mpr below
      omega
  rcases notAbove.lt_or_eq with earlier | rfl
  · have below : count < 9007199254740992 * 2 ^ shift := by
      have self : count < 2 ^ (count.log2 + 1) := Nat.lt_log2_self
      have grid : 2 ^ (count.log2 + 1) ≤ 2 ^ (53 + shift) :=
        Nat.pow_le_pow_right (by decide) (by omega)
      rw [Nat.pow_add 2 53] at grid
      omega
    have bound : halfEven count (2 ^ shift) ≤ 9007199254740992 := by
      by_contra above
      have := Nat.mul_le_mul_right (2 ^ shift) (not_le.mp above)
      omega
    omega
  · have bound : halfEven count (2 ^ shift) < 9007199254740992 := by
      by_contra above
      have := Nat.mul_le_mul_right (2 ^ shift) (not_lt.mp above)
      omega
    omega

theorem units_le {bits units : Nat} (last : top = 2045)
    (finite : unitsOfBits? bits = some units) : units ≤ (2 * fractions - 1) * 2 ^ top := by
  have fraction : bits % fractions < fractions := Nat.mod_lt _ (by decide)
  have field : bits / fractions % 2048 < 2048 := Nat.mod_lt _ (by decide)
  have positive := Nat.two_pow_pos top
  simp only [unitsOfBits?] at finite
  split_ifs at finite with special bottom
  · obtain rfl := Option.some.inj finite
    have grid := Nat.mul_le_mul_left (2 * fractions - 1) positive
    omega
  · obtain rfl := Option.some.inj finite
    exact Nat.mul_le_mul (by omega) (Nat.pow_le_pow_right (by decide) (by omega))

theorem nearestWhole_of_units {units : Nat} (finite : units? x = some units) :
    Machine.nearestWhole x = .ok (if isNegative x then -(halfEven units unitsPerOne : Int)
      else (halfEven units unitsPerOne : Int)) := by
  rw [Machine.nearestWhole, Machine.units, finite]
  rfl

theorem ofInt_of_lt {n : Int} {size : Nat} (same : n.natAbs = size)
    (inside : nearestBits size 1 < infinityBits) : ∃ y, Machine.ofInt n = .ok y := by
  subst same
  simp only [Machine.ofInt, if_neg inside.ne]
  exact ⟨_, rfl⟩

theorem unitsPerOne_lt (last : top = 2045) : unitsPerOne < 2 ^ top := by
  obtain ⟨places, few, power⟩ := unitsPerOne_two_pow
  rw [power]
  exact Nat.pow_lt_pow_right Nat.one_lt_two (by rw [few, last]; decide)

theorem nearestBits_halfEven_lt {bits units : Nat} (last : top = 2045)
    (finite : unitsOfBits? bits = some units) :
    nearestBits (halfEven units unitsPerOne) 1 < infinityBits := by
  have size := units_le last finite
  have rounded := halfEven_mul_le units unitsPerOne
  have small := unitsPerOne_lt last
  apply nearestBits_lt last
  rw [fractions_eq] at size ⊢
  generalize halfEven units unitsPerOne * unitsPerOne = nearest at rounded ⊢
  generalize unitsPerOne = step at small rounded
  clear last finite
  omega

end

theorem round_answers (x : Float) : ∃ y, round x = .ok y := by
  cases finite : units? x with
  | none => exact ⟨x, by rw [round, isFinite, finite]; rfl⟩
  | some units =>
      have inside := nearestBits_halfEven_lt rfl finite
      rw [round, isFinite, finite, Option.isSome_some, if_pos rfl]
      refine bind_answers (nearestWhole_of_units finite) (ofInt_of_lt ?_ inside)
      split
      · rw [Int.natAbs_neg, Int.natAbs_natCast]
      · rw [Int.natAbs_natCast]

end Reckoner.Number
