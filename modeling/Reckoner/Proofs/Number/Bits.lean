import Mathlib
import Reckoner.Proofs.Number.Nearest

/-!
Doubles and their bits. A double is known by its sign and the bits below it, and one that has no
units is an infinity or the single double that is not a number.
-/

namespace Reckoner.Number

open Float.Model (Format)
open Float.Model.UnpackedFloat

theorem signBit_eq : signBit = 9223372036854775808 := by
  decide

/-- The bits below the sign. -/
def sizeBits (x : Float) : Nat :=
  x.toBits.toNat % signBit

theorem sizeBits_lt (x : Float) : sizeBits x < signBit :=
  Nat.mod_lt _ (by decide)

theorem units?_eq (x : Float) : units? x = unitsOfBits? (sizeBits x) := by
  have same : x.toBits.toNat % signBit / fractions % 2048 = x.toBits.toNat / fractions % 2048 := by
    rw [fractions_eq, signBit_eq]
    omega
  have low : x.toBits.toNat % signBit % fractions = x.toBits.toNat % fractions := by
    rw [fractions_eq, signBit_eq]
    omega
  rw [units?, sizeBits]
  simp only [unitsOfBits?, same, low]

theorem ofBits_sizeBits (x : Float) : ofBits (isNegative x) (sizeBits x) = x := by
  have whole : (if isNegative x then sizeBits x + signBit else sizeBits x) = x.toBits.toNat := by
    have small : x.toBits.toNat < 2 ^ 64 := x.toBits.toNat_lt
    simp only [isNegative, sizeBits, decide_eq_true_eq]
    rw [signBit_eq]
    split_ifs <;> omega
  rw [ofBits, whole, UInt64.ofNat_toNat, Float.ofBits_toBits]

section

variable (bits : BitVec Format.binary64.numBits)

theorem toNat_exponent : (unpackExponent bits).toNat = bits.toNat / fractions % 2048 := by
  rw [unpackExponent_def, BitVec.extractLsb'_toNat, Nat.shiftRight_eq_div_pow]
  rfl

theorem toNat_mantissa : (unpackMantissa bits).toNat = bits.toNat % fractions := by
  rw [unpackMantissa_def, BitVec.extractLsb'_toNat]
  rfl

theorem toNat_sign : (unpackSign bits).toNat = bits.toNat / signBit % 2 := by
  rw [unpackSign_def, BitVec.extractLsb'_toNat, Nat.shiftRight_eq_div_pow]
  rfl

end

theorem toNat_toBits_ofBits {bits : Nat} (bounded : bits ≤ infinityBits) :
    (ofBits false bits).toBits.toNat = bits := by
  rw [infinityBits, fractions_eq] at bounded
  have kept : (UInt64.ofNat bits).toBitVec.toNat = bits := by
    rw [UInt64.toNat_toBitVec, UInt64.toNat_ofNat_of_lt' (by rw [UInt64.size]; omega)]
  have plain : @isNaNBits Format.binary64 (UInt64.ofNat bits).toBitVec = false := by
    rw [isNaNBits, decide_eq_false_iff_not]
    rintro ⟨top, filled⟩
    apply filled
    apply BitVec.eq_of_toNat_eq
    have field := toNat_exponent (UInt64.ofNat bits).toBitVec
    rw [top, kept, fractions_eq] at field
    rw [toNat_mantissa, kept, fractions_eq]
    change 2047 = _ at field
    change _ = 0
    omega
  have packed : (ofBits false bits).toBits.toBitVec = (UInt64.ofNat bits).toBitVec := by
    have whole := @pack_unpack Format.binary64 (UInt64.ofNat bits).toBitVec (by decide)
    rw [plain] at whole
    exact whole
  rw [← UInt64.toNat_toBitVec, packed, kept]

theorem isNegative_ofBits {bits : Nat} (bounded : bits ≤ infinityBits) :
    isNegative (ofBits false bits) = false := by
  rw [isNegative, toNat_toBits_ofBits bounded, decide_eq_false_iff_not]
  rw [infinityBits, fractions_eq] at bounded
  rw [signBit_eq]
  omega

theorem nan_eq : Float.nan = notANumber := by
  decide +kernel

theorem special_cases {x : Float} (special : units? x = none) :
    x.isNaN = false ∧ sizeBits x = infinityBits ∨ x.isNaN = true ∧ x = notANumber := by
  rw [Float.isNaN_eq_decide_eq_nan, nan_eq]
  by_cases same : x = notANumber
  · exact .inr ⟨decide_eq_true same, same⟩
  · refine .inl ⟨decide_eq_false same, ?_⟩
    let bits : BitVec Format.binary64.numBits := x.toBits.toBitVec
    have field : x.toBits.toNat / fractions % 2048 = 2047 := by
      simp only [units?, unitsOfBits?] at special
      split_ifs at special with top
      exact top
    have top : unpackExponent bits = -1#_ :=
      BitVec.eq_of_toNat_eq ((toNat_exponent bits).trans field)
    have empty : unpackMantissa bits = 0#_ := by
      by_contra filled
      have canonical : bits = packedNaN Format.binary64 :=
        x.toModel.valid.eq_packedNaN top filled
      exact same (Float.toBits_inj.mp (UInt64.toBitVec_inj.mp canonical))
    have low : x.toBits.toNat % fractions = 0 :=
      (toNat_mantissa bits).symm.trans (congrArg BitVec.toNat empty)
    rw [sizeBits, infinityBits, signBit_eq, fractions_eq]
    rw [fractions_eq] at field low
    omega

theorem isNaN_ofBits {bits : Nat} (bounded : bits ≤ infinityBits) :
    (ofBits false bits).isNaN = false := by
  have above : notANumber.toBits.toNat = undefinedBits := by decide +kernel
  rw [Float.isNaN_eq_decide_eq_nan, nan_eq, decide_eq_false_iff_not]
  intro same
  have bits := toNat_toBits_ofBits bounded
  rw [same, above, undefinedBits, fractions_eq] at bits
  omega

end Reckoner.Number
