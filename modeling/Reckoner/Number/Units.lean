/-!
Finite numbers as counts of the smallest positive one. Every finite double is a whole multiple
of `2 ^ -1074`, so a sign and a natural number describe it exactly, and rounding a quotient to
the nearest double needs natural arithmetic only.
-/

namespace Reckoner.Number

def unitsPerOne : Nat := Nat.pow 2 1074

def fractions : Nat := Nat.pow 2 52

def signBit : Nat := Nat.pow 2 63

def infinityBits : Nat := 2047 * fractions

def undefinedBits : Nat := infinityBits + fractions / 2

def ofBits (negative : Bool) (bits : Nat) : Float :=
  Float.ofBits (UInt64.ofNat (if negative then bits + signBit else bits))

def infinity : Float := ofBits false infinityBits

def notANumber : Float := ofBits false undefinedBits

def isNegative (x : Float) : Bool :=
  signBit ≤ x.toBits.toNat

/-- The units that some bits stand for, the sign aside; infinities and what is not a number
have none. -/
def unitsOfBits? (bits : Nat) : Option Nat :=
  let fraction := bits % fractions
  let exponent := bits / fractions % 2048
  if exponent = 2047 then none
  else if exponent = 0 then some fraction
  else some ((fractions + fraction) * Nat.pow 2 (exponent - 1))

/-- The units in the absolute value of a finite number. -/
def units? (x : Float) : Option Nat :=
  unitsOfBits? x.toBits.toNat

def isFinite (x : Float) : Bool :=
  (units? x).isSome

def isInfinite (x : Float) : Bool :=
  !isFinite x && !x.isNaN

/-- The quotient rounded to the nearest natural number, a half to the even one. -/
def halfEven (numerator denominator : Nat) : Nat :=
  let quotient := numerator / denominator
  let remainder := numerator % denominator
  if 2 * remainder < denominator then quotient
  else if 2 * remainder = denominator then quotient + quotient % 2
  else quotient + 1

/-- The bits of the double nearest to a quotient, a half to the even mantissa, infinity beyond
the range. Beyond 53 bits of the count of units, the low ones are rounded away; a carry out of
the mantissa moves into the exponent field by itself. -/
def nearestBits (numerator denominator : Nat) : Nat :=
  let count := numerator * unitsPerOne
  let shift := (count / denominator).log2 - 52
  min (shift * fractions + halfEven count (denominator * Nat.pow 2 shift)) infinityBits

def ofNat (count : Nat) : Float :=
  ofBits false (nearestBits count 1)

end Reckoner.Number
