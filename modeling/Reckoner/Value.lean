import Reckoner.Number.Arithmetic
import Reckoner.Number.Reading
import Reckoner.Number.Writing
import Reckoner.Text.Quoted

/-!
The values of the language and the rules that all operations share: when a value counts as a
number, when it is true, which text stands for it, and when two values are equal.
-/

namespace Reckoner

inductive Value where
  | number (x : Float)
  | text (s : String)
  | truth (b : Bool)
  | absent

namespace Value

/-- A truth counts as one or zero and a text by what it spells; an absent value is no number. -/
def toNumber? : Value → Option Float
  | .number x => some x
  | .truth b => some (if b then Number.ofNat 1 else Number.ofNat 0)
  | .text s => Number.read? s
  | .absent => none

def isTrue : Value → Bool
  | .truth b => b
  | .number x => Number.isTrue x
  | .text s => s ≠ ""
  | .absent => false

def isText : Value → Bool
  | .text _ => true
  | _ => false

def rendered : Value → String
  | .text s => s
  | .number x => Number.rendered x
  | .truth b => if b then "true" else "false"
  | .absent => ""

/-- The form used in messages. -/
def described : Value → String
  | .text s => Text.quoted s
  | .absent => "absent"
  | value => value.rendered

def shown : Value → String
  | .number x => "NumberValue(value=" ++ Number.shown x ++ ")"
  | .text s => "TextValue(value=" ++ Text.quoted s ++ ")"
  | .truth b => "BooleanValue(value=" ++ (if b then "True" else "False") ++ ")"
  | .absent => "Absent"

/-- The text to print for the result of a line; an absent value prints nothing. -/
def result? : Value → Option String
  | .absent => none
  | value => some value.rendered

/-- Equality of the language: numbers up to a tolerance, truths by identity, an absent value
with itself only, and all other pairs by their rendered texts. -/
def equals : Value → Value → Bool
  | .absent, .absent => true
  | .absent, _ => false
  | _, .absent => false
  | .number x, .number y => Number.agrees x y
  | .truth b, .truth c => b = c
  | left, right => left.rendered = right.rendered

def same : Value → Value → Bool
  | .number x, .number y => x == y
  | .text s, .text t => s = t
  | .truth b, .truth c => b = c
  | .absent, .absent => true
  | _, _ => false

end Value

end Reckoner
