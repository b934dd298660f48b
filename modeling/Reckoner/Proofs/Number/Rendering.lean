import Reckoner.Proofs.Number.Recovery

/-!
The rational number that a finite double stands for, and the text that a double is rendered by. A
whole number is rendered by its sign and its digits. Every double reads back from its text, but for
the sign of a zero, which is not written.
-/

namespace Reckoner.Number

open Float.Model (Format UnpackedFloat)
open Float.Model.UnpackedFloat

def quantity? : UnpackedFloat → Option ℚ
  | .zero _ => some 0
  | .finite sign mantissa exponent _ => some (sign.apply mantissa * 2 ^ exponent)
  | .infinity _ | .notANumber => none

/-- The rational number that a finite double stands for. -/
def rational? (x : Float) : Option ℚ :=
  quantity? x.toModel.unpack

theorem apply_scaled (sign : Sign) (size shift : Nat) :
    (sign.apply size : ℚ) * 2 ^ ((shift : ℤ) - 1074) =
      (sign.apply ((size * 2 ^ shift : Nat) : ℤ) : ℚ) / unitsPerOne := by
  obtain ⟨places, same, power⟩ := unitsPerOne_two_pow
  have split : (2 : ℚ) ^ ((shift : ℤ) - 1074) = 2 ^ shift / 2 ^ places := by
    rw [zpow_sub₀ two_ne_zero, zpow_natCast, ← zpow_natCast 2 places, same]
    rfl
  rw [split, power]
  cases sign with
  | positive =>
      simp only [Sign.apply]
      push_cast
      ring
  | negative =>
      simp only [Sign.apply]
      push_cast
      ring

theorem toNat_implicit (mantissa : BitVec 52) :
    (1#1 ++ mantissa).toNat = fractions + mantissa.toNat := by
  have low : mantissa.toNat < 2 ^ 52 := mantissa.isLt
  rw [BitVec.toNat_append, fractions_two_pow, Nat.shiftLeft_eq]
  exact (Nat.two_pow_add_eq_or_of_lt low 1).symm

theorem quantity?_unpack (bits : BitVec Format.binary64.numBits) :
    quantity? (unpack Format.binary64 bits) =
      (unitsOfBits? bits.toNat).map fun units : Nat =>
        ((Sign.ofBitVec (unpackSign bits)).apply units : ℚ) / unitsPerOne := by
  have exponent := toNat_exponent bits
  have mantissa := toNat_mantissa bits
  have bias : (Format.binary64.exponentBias : ℤ) +
      Format.binary64.mantissaBitsWithoutImplicit = 1075 := rfl
  rw [unitsOfBits?, ← exponent, ← mantissa, unpack]
  dsimp only
  rw [bias]
  by_cases top : unpackExponent bits = -1#_
  · have special : (unpackExponent bits).toNat = 2047 := by
      rw [top]
      rfl
    rw [if_pos top, if_pos special]
    split_ifs <;> rfl
  have finite : (unpackExponent bits).toNat ≠ 2047 :=
    fun same => top (BitVec.eq_of_toNat_eq same)
  rw [if_neg top, if_neg finite]
  by_cases bottom : unpackExponent bits = 0#_
  · have low : (unpackExponent bits).toNat = 0 := by
      rw [bottom]
      rfl
    have subnormal := apply_scaled (Sign.ofBitVec (unpackSign bits)) (unpackMantissa bits).toNat 0
    rw [Nat.pow_zero, Nat.mul_one] at subnormal
    rw [if_pos bottom, if_pos low, Option.map_some, ← subnormal]
    split_ifs with empty
    · rw [empty]
      cases Sign.ofBitVec (unpackSign bits) <;> simp [quantity?, Sign.apply]
    · rw [quantity?, low]
      rfl
  · have high : (unpackExponent bits).toNat ≠ 0 := fun same => bottom (BitVec.eq_of_toNat_eq same)
    have normal := apply_scaled (Sign.ofBitVec (unpackSign bits))
      (fractions + (unpackMantissa bits).toNat) ((unpackExponent bits).toNat - 1)
    have place : ((unpackExponent bits).toNat : ℤ) - 1075 =
        ((unpackExponent bits).toNat - 1 : Nat) - 1074 := by
      omega
    rw [if_neg bottom, if_neg high, quantity?, toNat_implicit, Option.map_some, Nat.pow_eq,
      ← normal, place]

def signed (negative : Bool) (size : Nat) : ℤ :=
  if negative then -size else size

theorem natAbs_signed (negative : Bool) (size : Nat) : (signed negative size).natAbs = size := by
  cases negative <;> simp [signed]

theorem signed_mul (negative : Bool) (size factor : Nat) :
    signed negative (size * factor) = signed negative size * factor := by
  cases negative <;> simp [signed]

theorem signed_neg_iff (negative : Bool) (size : Nat) :
    signed negative size < 0 ↔ negative = true ∧ size ≠ 0 := by
  cases negative <;> simp [signed, Nat.pos_iff_ne_zero]

theorem apply_unpackSign (x : Float) (size : Nat) :
    (Sign.ofBitVec (@unpackSign Format.binary64 x.toBits.toBitVec)).apply size =
      signed (isNegative x) size := by
  have bit := toNat_sign x.toBits.toBitVec
  have small : x.toBits.toNat < 2 ^ 64 := x.toBits.toNat_lt
  rw [UInt64.toNat_toBitVec, signBit_eq] at bit
  by_cases positive : @unpackSign Format.binary64 x.toBits.toBitVec = 0#1
  · have clear : isNegative x = false := by
      rw [positive, BitVec.toNat_ofNat] at bit
      rw [isNegative, signBit_eq, decide_eq_false_iff_not]
      omega
    rw [positive, clear]
    rfl
  · have set : isNegative x = true := by
      have filled := mt BitVec.eq_of_toNat_eq positive
      rw [BitVec.toNat_ofNat, bit] at filled
      rw [isNegative, signBit_eq, decide_eq_true_iff]
      omega
    rw [Sign.ofBitVec, if_neg positive, set]
    rfl

theorem rational?_eq (x : Float) :
    rational? x = (units? x).map fun units => (signed (isNegative x) units : ℚ) / unitsPerOne := by
  have unpacked := quantity?_unpack x.toBits.toBitVec
  simp only [apply_unpackSign x] at unpacked
  exact unpacked

theorem rational?_eq_int_iff (x : Float) (n : ℤ) :
    rational? x = some (n : ℚ) ↔
      ∃ size, units? x = some (size * unitsPerOne) ∧ n = signed (isNegative x) size := by
  rw [rational?_eq, Option.map_eq_some_iff]
  have positive := unitsPerOne_pos
  generalize unitsPerOne = one at positive ⊢
  have divisor : (one : ℚ) ≠ 0 := by
    exact_mod_cast positive.ne'
  constructor
  · rintro ⟨units, finite, same⟩
    have whole : signed (isNegative x) units = n * one := by
      rw [div_eq_iff divisor] at same
      exact_mod_cast same
    have sizes := congrArg Int.natAbs whole
    rw [natAbs_signed, Int.natAbs_mul, Int.natAbs_natCast] at sizes
    subst sizes
    refine ⟨n.natAbs, finite, ?_⟩
    rw [signed_mul] at whole
    exact (Int.eq_of_mul_eq_mul_right (by omega) whole).symm
  · rintro ⟨size, finite, rfl⟩
    refine ⟨size * one, finite, ?_⟩
    rw [signed_mul, div_eq_iff divisor]
    push_cast
    rfl

theorem readDecimal_digitsOf (count : Nat) : readDecimal (digitsOf count) = some ⟨count, 0⟩ := by
  have digits := digitsOf_digits count
  have filled : digitsOf count ≠ [] := Nat.toDigits_ne_nil
  have value : Nat.ofDigitChars 10 (digitsOf count) 0 = count := Nat.ofDigitChars_ten_toDigits
  simp [readDecimal, List.takeWhile_eq_self_iff.mpr digits, List.dropWhile_eq_nil_iff.mpr digits,
    takeFraction, filled, readExponent, value]

theorem read?_digitsOf (negative : Bool) (count : Nat) :
    read? (withSign negative (digitsOf count)) = some (ofBits negative (nearestBits count 1)) := by
  have digits := digitsOf_digits count
  have plus : '+' ∉ digitsOf count := fun member => absurd (digits _ member) (by decide)
  have minus : '-' ∉ digitsOf count := fun member => absurd (digits _ member) (by decide)
  have bits : Decimal.bits ⟨count, 0⟩ = nearestBits count 1 := by
    rw [Decimal.bits_eq]
    simp
  rw [read?_withSign (fun c member => digit_isPlain (digits c member))
    (takeSign_of_unsigned plus minus) (readDecimal_digitsOf count), bits]

theorem rendered_whole {x : Float} {size : Nat} (finite : units? x = some (size * unitsPerOne)) :
    rendered x = withSign (isNegative x && size ≠ 0) (digitsOf size) := by
  have zero : size * unitsPerOne = 0 ↔ size = 0 := by
    simp [unitsPerOne_pos.ne']
  simp only [rendered, finite, Nat.mul_mod_left, if_true, Nat.mul_div_cancel _ unitsPerOne_pos,
    ne_eq, zero]

theorem rendered_other {x : Float} (other : ∀ size, units? x ≠ some (size * unitsPerOne)) :
    rendered x = shownAs inFull x := by
  rw [rendered, shownAs]
  cases finite : units? x with
  | none => rfl
  | some units =>
      have rest : units % unitsPerOne ≠ 0 := by
        intro none
        apply other (units / unitsPerOne)
        rw [finite, Nat.div_mul_cancel (Nat.dvd_of_mod_eq_zero none)]
      simp only [rest, if_false]

theorem eq_ofBits_of_units {x : Float} {units : Nat} (finite : units? x = some units) :
    x = ofBits (isNegative x) (nearestBits units unitsPerOne) := by
  rw [units?_eq] at finite
  rw [nearestBits_units (sizeBits_lt x) finite, ofBits_sizeBits]

theorem nearestBits_whole (size : Nat) :
    nearestBits (size * unitsPerOne) unitsPerOne = nearestBits size 1 := by
  have scaled := nearestBits_mul unitsPerOne_pos size 1
  rwa [Nat.one_mul] at scaled

theorem read?_rendered_zero {x : Float} (zero : units? x = some (0 * unitsPerOne)) :
    read? (rendered x) = some (if x = -0.0 then 0.0 else x) := by
  have none : nearestBits 0 1 = 0 := nearestBits_of_small (by simp)
  have zeros (negative : Bool) : ofBits false 0 =
      if ofBits negative 0 = -0.0 then 0.0 else ofBits negative 0 := by
    cases negative <;> decide +kernel
  have same := eq_ofBits_of_units zero
  rw [nearestBits_whole, none] at same
  rw [rendered_whole zero, read?_digitsOf, none]
  simp only [ne_eq, not_true_eq_false, decide_false, Bool.and_false]
  rw [same, zeros]

theorem read?_rendered_whole {x : Float} {size : Nat}
    (finite : units? x = some (size * unitsPerOne)) (positive : size ≠ 0) :
    read? (rendered x) = some x := by
  have same := eq_ofBits_of_units finite
  rw [nearestBits_whole] at same
  rw [rendered_whole finite, read?_digitsOf]
  simp only [ne_eq, positive, not_false_eq_true, decide_true, Bool.and_true]
  rw [← same]

/-- The digits of a natural number, with no zero in front of others. -/
structure WholeDigits (count : Nat) (run : List Char) : Prop where
  digits : ∀ c ∈ run, c.isDigit = true
  value : Nat.ofDigitChars 10 run 0 = count
  leading : run = ['0'] ∨ ∃ first rest, first ≠ '0' ∧ run = first :: rest

theorem wholeDigits_digitsOf (count : Nat) : WholeDigits count (digitsOf count) where
  digits := digitsOf_digits count
  value := Nat.ofDigitChars_ten_toDigits
  leading := by
    by_cases zero : count = 0
    · rw [zero]
      exact .inl rfl
    · exact .inr (digitsOf_leading zero)

/-- Every double reads back from the text that renders it, a negative zero without its sign. The
text of a whole number is an optional minus sign and its digits. -/
theorem read?_rendered (x : Float) :
    read? (rendered x) = some (if x = -0.0 then 0.0 else x) ∧
    ∀ n : ℤ, rational? x = some (n : ℚ) →
      ∃ run, WholeDigits n.natAbs run ∧ rendered x = withSign (n < 0) run := by
  have units : units? (-0.0) = some 0 := by decide +kernel
  constructor
  · by_cases whole : ∃ size, units? x = some (size * unitsPerOne)
    · obtain ⟨size, finite⟩ := whole
      by_cases zero : size = 0
      · subst zero
        exact read?_rendered_zero finite
      · have signless : x ≠ -0.0 := by
          rintro rfl
          rw [units, Option.some.injEq, eq_comm, Nat.mul_eq_zero] at finite
          exact finite.elim zero unitsPerOne_pos.ne'
        rw [read?_rendered_whole finite zero, if_neg signless]
    · have signless : x ≠ -0.0 := by
        rintro rfl
        exact whole ⟨0, by rw [units, Nat.zero_mul]⟩
      rw [rendered_other (not_exists.mp whole), read?_shownAs, if_neg signless]
  · intro n same
    obtain ⟨size, finite, rfl⟩ := (rational?_eq_int_iff x n).mp same
    refine ⟨digitsOf size, ?_, ?_⟩
    · rw [natAbs_signed]
      exact wholeDigits_digitsOf size
    · rw [rendered_whole finite]
      simp only [signed_neg_iff, Bool.decide_and, Bool.decide_eq_true]

theorem read?_rendered_beyond_exponent :
    rational? (-1e22) = some ((-(10 ^ 22) : ℤ) : ℚ) ∧
      read? (rendered (-1e22)) = some (-1e22) ∧
      ∃ run, WholeDigits (10 ^ 22) run ∧ rendered (-1e22) = withSign true run := by
  have units : units? (-1e22) = some (10 ^ 22 * unitsPerOne) := by decide +kernel
  have signless : (-1e22 : Float) ≠ -0.0 := by decide +kernel
  have whole : rational? (-1e22) = some ((-(10 ^ 22) : ℤ) : ℚ) :=
    (rational?_eq_int_iff _ _).mpr ⟨10 ^ 22, units, by decide +kernel⟩
  obtain ⟨back, digits⟩ := read?_rendered (-1e22)
  rw [if_neg signless] at back
  exact ⟨whole, back, digits _ whole⟩

end Reckoner.Number
