import Reckoner.Machine

/-!
Arithmetic of the language. Where the machine would break down, an overflow and a pole give an
infinity and a point outside the domain gives what is not a number.
-/

namespace Reckoner.Number

def tolerance : Float := 1e-12

def isTrue (x : Float) : Bool :=
  tolerance < x.abs

def agrees (x y : Float) : Bool :=
  (x - y).abs < tolerance

def isOddWhole (x : Float) : Bool :=
  match units? x with
  | some units => units % unitsPerOne = 0 && units / unitsPerOne % 2 = 1
  | none => false

def copySign (size sign : Float) : Float :=
  ofBits (isNegative sign) (size.toBits.toNat % signBit)

/-- What is outside the domain of a function is not a number. -/
def orUndefined (apply : Float → Except Breakdown Float) (x : Float) : Except Breakdown Float :=
  match apply x with
  | .error .domain => .ok notANumber
  | outcome => outcome

/-- A zero below gives an infinity, or what is not a number if there is none above. -/
def divide (left right : Float) : Except Breakdown Float :=
  if right == 0 then
    .ok (if left == 0 || left.isNaN then notANumber
      else copySign infinity left * copySign 1 right)
  else Machine.divide left right

/-- What overflows, and a pole, gives an infinity, negative if an odd whole exponent keeps the
sign of a negative base. All else outside the domain is not a number. -/
def power (base exponent : Float) : Except Breakdown Float :=
  match Machine.power base exponent with
  | .error .overflow => .ok (if base < 0 && isOddWhole exponent then -infinity else infinity)
  | .error .domain =>
      .ok (if base == 0 && exponent < 0 then
        if isOddWhole exponent then copySign infinity base else infinity
      else notANumber)
  | outcome => outcome

/-- The larger one, the first on a tie; what is not a number wins. -/
def larger (x y : Float) : Float :=
  if x.isNaN || y.isNaN then notANumber else if x < y then y else x

def smaller (x y : Float) : Float :=
  if x.isNaN || y.isNaN then notANumber else if y < x then y else x

def round (x : Float) : Except Breakdown Float :=
  if isFinite x then do Machine.ofInt (← Machine.nearestWhole x) else .ok x

/-- The whole number towards zero. Infinities go to the bounds of 32 bits, and what is not a
number goes to zero. -/
def toIndex (x : Float) : Except Breakdown Int :=
  if x.isNaN then .ok 0
  else if isInfinite x then .ok (if x < 0 then -2147483648 else 2147483647)
  else Machine.truncate x

end Reckoner.Number
