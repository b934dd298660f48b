import Reckoner.Number.Units

/-!
Decimals `digits * 10 ^ exponent`, the doubles nearest to them, and the shortest decimal that a
double is nearest to.
-/

namespace Reckoner.Number

structure Decimal where
  digits : Nat
  exponent : Int
  deriving DecidableEq, Repr

namespace Decimal

/-- The bits of the nearest double. Exponents that are out of range whatever the digits are
settled without writing the power of ten out. -/
def bits (d : Decimal) : Nat :=
  if d.digits = 0 then 0
  else
    match d.exponent with
    | .ofNat up =>
        if up > 400 then infinityBits else nearestBits (d.digits * Nat.pow 10 up) 1
    | .negSucc less =>
        let down := less + 1
        if 3 * down > d.digits.log2 + 1080 then 0
        else nearestBits d.digits (Nat.pow 10 down)

/-- The neighbours of a count of units on the grid of multiples of `10 ^ exponent`, the nearer
one first, and the even one first if both are equally near. -/
def neighbours (units : Nat) (exponent : Int) : List Decimal :=
  let numerator := units * Nat.pow 10 (-exponent).toNat
  let denominator := unitsPerOne * Nat.pow 10 exponent.toNat
  let below := numerator / denominator
  if halfEven numerator denominator = below then
    [⟨below, exponent⟩, ⟨below + 1, exponent⟩]
  else
    [⟨below + 1, exponent⟩, ⟨below, exponent⟩]

/-- The number of decimal places before the point, negative for zeros that follow it. -/
def magnitude (units : Nat) : Int :=
  (Nat.toDigits 10 (units * Nat.pow 10 400 / unitsPerOne)).length - 400

def exact (units : Nat) : Decimal :=
  ⟨units * Nat.pow 5 1074, -1074⟩

def readsBack (units : Nat) (d : Decimal) : Bool :=
  unitsOfBits? d.bits = some units

/-- The first neighbour that reads back, on a number of grids each ten times finer than the one
before it. -/
def shortestFrom (units : Nat) (exponent : Int) : Nat → Decimal
  | 0 => exact units
  | tries + 1 =>
      match (neighbours units exponent).find? (readsBack units) with
      | some found => found
      | none => shortestFrom units (exponent - 1) tries

def shortest (units : Nat) : Decimal :=
  shortestFrom units (magnitude units - 1) 17

end Decimal

end Reckoner.Number
