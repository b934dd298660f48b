import Reckoner.Number.Decimal

/-!
The text of a number. `shown` writes the fewest digits that read back, with a point or an
exponent always present; `rendered` is the form for users, where whole numbers are written out
in full. The two differ in the names of infinities too.
-/

namespace Reckoner.Number

def digitsOf (count : Nat) : List Char :=
  Nat.toDigits 10 count

def exponentDigits (size : Nat) : List Char :=
  if size < 10 then '0' :: digitsOf size else digitsOf size

def writeExponent (exponent : Int) : List Char :=
  (if exponent < 0 then '-' else '+') :: exponentDigits exponent.natAbs

/-- One digit before the point, none after it if there is no other digit. -/
def scientific (digits : List Char) (exponent : Int) : List Char :=
  digits.take 1 ++ (if digits.length ≤ 1 then [] else '.' :: digits.drop 1) ++
    'e' :: writeExponent exponent

/-- The point stands after `places` digits, which may be negative or exceed what there is. -/
def positional (digits : List Char) (places : Int) : List Char :=
  if places ≤ 0 then
    '0' :: '.' :: List.replicate (-places).toNat '0' ++ digits
  else if digits.length ≤ places.toNat then
    digits ++ List.replicate (places.toNat - digits.length) '0' ++ ['.', '0']
  else
    digits.take places.toNat ++ '.' :: digits.drop places.toNat

/-- Positional from `0.0001` up to sixteen places before the point, else with an exponent. -/
def layOut (digits : List Char) (places : Int) : List Char :=
  if -4 < places ∧ places ≤ 16 then positional digits places
  else scientific digits (places - 1)

def dropZeros (digits : List Char) : List Char :=
  (digits.reverse.dropWhile (· = '0')).reverse

def writeUnits (units : Nat) : List Char :=
  if units = 0 then ['0', '.', '0']
  else
    let decimal := Decimal.shortest units
    let digits := digitsOf decimal.digits
    layOut (dropZeros digits) (digits.length + decimal.exponent)

def withSign (negative : Bool) (chars : List Char) : String :=
  String.ofList (if negative then '-' :: chars else chars)

structure Names where
  infinite : String
  undefined : String

def tersely : Names := ⟨"inf", "nan"⟩

def inFull : Names := ⟨"Infinity", "NaN"⟩

def writeSpecial (names : Names) (x : Float) : String :=
  if x.isNaN then names.undefined else withSign (isNegative x) names.infinite.toList

def shownAs (names : Names) (x : Float) : String :=
  match units? x with
  | some units => withSign (isNegative x) (writeUnits units)
  | none => writeSpecial names x

def shown (x : Float) : String :=
  shownAs tersely x

def rendered (x : Float) : String :=
  match units? x with
  | some units =>
      if units % unitsPerOne = 0 then
        withSign (isNegative x && units ≠ 0) (digitsOf (units / unitsPerOne))
      else withSign (isNegative x) (writeUnits units)
  | none => writeSpecial inFull x

end Reckoner.Number
