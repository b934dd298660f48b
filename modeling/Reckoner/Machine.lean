import Reckoner.Number.Units

/-!
The machine under the language: lists taken by index, and functions of numbers. It breaks down
where it has no answer, and the language has to see to it that this never shows.
-/

namespace Reckoner

inductive Breakdown where
  | outOfRange
  | domain
  | overflow
  | zeroDivision
  deriving DecidableEq, Repr

namespace Breakdown

def message : Breakdown → String
  | .outOfRange => "list index out of range"
  | .domain => "math domain error"
  | .overflow => "math range error"
  | .zeroDivision => "float division by zero"

end Breakdown

namespace Machine

open Number

def item {α : Type} (items : List α) (index : Nat) : Except Breakdown α :=
  match items[index]? with
  | some item => .ok item
  | none => .error .outOfRange

/-- The value of a function at an argument, which must be a number if the argument is one, and
finite if the argument is. -/
def elementary (apply : Float → Float) (x : Float) : Except Breakdown Float :=
  let value := apply x
  if value.isNaN && !x.isNaN || isInfinite value && isFinite x then .error .domain
  else .ok value

def sin : Float → Except Breakdown Float := elementary Float.sin

def cos : Float → Except Breakdown Float := elementary Float.cos

def tan : Float → Except Breakdown Float := elementary Float.tan

def squareRoot : Float → Except Breakdown Float := elementary Float.sqrt

/-- A power of finite numbers must be finite. Beyond the range it overflows, and a pole counts as
a point outside the domain. -/
def power (base exponent : Float) : Except Breakdown Float :=
  let value := Float.pow base exponent
  if !(isFinite base && isFinite exponent) then .ok value
  else if value.isNaN then .error .domain
  else if isInfinite value then .error (if base == 0 then .domain else .overflow)
  else .ok value

def divide (left right : Float) : Except Breakdown Float :=
  if right == 0 then .error .zeroDivision else .ok (left / right)

def units (x : Float) : Except Breakdown Nat :=
  match units? x with
  | some units => .ok units
  | none => .error (if x.isNaN then .domain else .overflow)

def truncate (x : Float) : Except Breakdown Int := do
  let whole : Int := (← units x) / unitsPerOne
  pure (if isNegative x then -whole else whole)

/-- The nearest whole number, a half to the even one. -/
def nearestWhole (x : Float) : Except Breakdown Int := do
  let whole : Int := halfEven (← units x) unitsPerOne
  pure (if isNegative x then -whole else whole)

/-- The double nearest to a whole number. Zero has no sign. -/
def ofInt (whole : Int) : Except Breakdown Float :=
  let bits := nearestBits whole.natAbs 1
  if bits = infinityBits then .error .overflow else .ok (ofBits (whole < 0) bits)

end Machine

end Reckoner
