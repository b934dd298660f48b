import Reckoner.EvalError
import Reckoner.Text.Blank
import Reckoner.Text.Case

/-!
The builtin functions. Each names the least number of arguments it takes and ignores those that
it has no use for. A reply is a value together with the text that the call prints.
-/

namespace Reckoner

structure Builtin where
  name : String
  least : Nat
  reply : List Value → Except EvalError (Value × String)

namespace Builtin

/-- What the machine answers, its breakdowns among the errors. -/
def onMachine {α : Type} (outcome : Except Breakdown α) : Except EvalError α :=
  outcome.mapError .breakdown

def argument (arguments : List Value) (index : Nat) : Except EvalError Value :=
  onMachine (Machine.item arguments index)

def silently (value : Value) : Value × String :=
  (value, "")

def toNumber (value : Value) : Except EvalError Float :=
  match value.toNumber? with
  | some x => .ok x
  | none => .error (.notNumeric value)

def numeric (name : String) (apply : Float → Except Breakdown Float) : Builtin where
  name
  least := 1
  reply arguments := do
    let x ← toNumber (← argument arguments 0)
    let result ← onMachine (apply x)
    pure (silently (.number result))

def numeric2 (name : String) (apply : Float → Float → Except Breakdown Float) : Builtin where
  name
  least := 2
  reply arguments := do
    let x ← toNumber (← argument arguments 0)
    let y ← toNumber (← argument arguments 1)
    let result ← onMachine (apply x y)
    pure (silently (.number result))

def textual (name : String) (apply : String → String) : Builtin where
  name
  least := 1
  reply arguments := do
    let value ← argument arguments 0
    pure (silently (.text (apply value.rendered)))

/-- The nearest number of a range from zero. -/
def clamp (index : Int) (high : Nat) : Nat :=
  min index.toNat high

def slice (chars : List Char) (start : Int) (length : Option Int) : List Char :=
  let first := clamp start chars.length
  let rest := chars.drop first
  match length with
  | none => rest
  | some length => rest.take (clamp length rest.length)

def toIndex (value : Value) : Except EvalError Int := do
  let x ← toNumber value
  onMachine (Number.toIndex x)

def substr : Builtin where
  name := "substr"
  least := 2
  reply arguments := do
    let chars := (← argument arguments 0).rendered.toList
    let start ← toIndex (← argument arguments 1)
    if arguments.length = 2 then
      pure (silently (.text (String.ofList (slice chars start none))))
    else
      let length ← toIndex (← argument arguments 2)
      pure (silently (.text (String.ofList (slice chars start (some length)))))

def choose : Builtin where
  name := "if"
  least := 2
  reply arguments := do
    if (← argument arguments 0).isTrue then
      pure (silently (← argument arguments 1))
    else if 2 < arguments.length then
      pure (silently (← argument arguments 2))
    else
      pure (silently .absent)

def concat : Builtin where
  name := "concat"
  least := 0
  reply arguments := pure (silently (.text (String.join (arguments.map Value.rendered))))

def len : Builtin where
  name := "len"
  least := 1
  reply arguments := do
    let value ← argument arguments 0
    pure (silently (.number (Number.ofNat value.rendered.length)))

def print : Builtin where
  name := "print"
  least := 0
  reply arguments :=
    pure (.absent, " ".intercalate (arguments.map Value.rendered) ++ "\n")

def standard : List Builtin := [
  numeric "sin" (Number.orUndefined Machine.sin),
  numeric "cos" (Number.orUndefined Machine.cos),
  numeric "tan" (Number.orUndefined Machine.tan),
  numeric "sqrt" (Number.orUndefined Machine.squareRoot),
  numeric2 "pow" Number.power,
  numeric "abs" fun x => .ok x.abs,
  numeric2 "max" fun x y => .ok (Number.larger x y),
  numeric2 "min" fun x y => .ok (Number.smaller x y),
  numeric "round" Number.round,
  concat,
  len,
  substr,
  textual "upper" Text.upperEach,
  textual "lower" Text.lowerEach,
  textual "trim" Text.trim,
  choose,
  print]

def find? (table : List Builtin) (name : String) : Option Builtin :=
  table.find? (·.name = Text.lowercase name)

def shown (builtin : Builtin) : String :=
  "<builtin " ++ builtin.name ++ ">"

end Builtin

end Reckoner
