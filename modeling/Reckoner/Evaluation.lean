import Reckoner.Builtin
import Reckoner.Number.Reading
import Reckoner.Session.Basic
import Reckoner.Stack

/-!
Evaluation of trees in a session. A chain of binary operators that leans to the left is taken
apart into its first operand and the steps that follow, so that long chains do not count as
nesting; everything else that stands inside something else does.
-/

namespace Reckoner

abbrev Evaluation := Attempt Session EvalError

namespace Evaluation

def toNumber (value : Value) : Evaluation Float :=
  Attempt.ofExcept (Builtin.toNumber value)

/-- A number node; a truth counts as one or zero and a text by what it spells. -/
def number : Label → Evaluation Value
  | .number x => pure (.number x)
  | .truth b => pure (.number (if b then Number.ofNat 1 else Number.ofNat 0))
  | .text s =>
      match Number.readGrouped? s with
      | some x => pure (.number x)
      | none => Attempt.fail (.badNumber (.text s))
  | .blank => Attempt.fail (.badNumber .blank)

def lookUp (name : String) : Evaluation Value := do
  let session ← Attempt.get
  match session.bindings.get? name with
  | some value => pure value
  | none => Attempt.fail (.undefinedVariable name)

def assign (name : String) (value : Value) : Evaluation Value := do
  Attempt.modify (·.bind name value)
  pure value

def unaryOperator? : Label → Option UnaryOperator
  | .text symbol => UnaryOperator.ofSymbol? symbol
  | _ => none

def binaryOperator? : Label → Option BinaryOperator
  | .text symbol => BinaryOperator.ofSymbol? symbol
  | _ => none

def applyUnary (label : Label) (operand : Value) : Evaluation Value :=
  match unaryOperator? label with
  | some .negative => do
      let x ← toNumber operand
      pure (.number (-x))
  | some .negation => pure (.truth (!operand.isTrue))
  | none => Attempt.fail (.unknownUnary label)

def add (left right : Value) : Evaluation Value :=
  if left.isText || right.isText then
    pure (.text (left.rendered ++ right.rendered))
  else do
    let x ← toNumber left
    let y ← toNumber right
    pure (.number (x + y))

def arithmetic (apply : Float → Float → Except Breakdown Float) (left right : Value) :
    Evaluation Value := do
  let x ← toNumber left
  let y ← toNumber right
  let result ← Attempt.ofExcept (Builtin.onMachine (apply x y))
  pure (.number result)

/-- Compares as numbers if both sides count as numbers, and by rendered texts otherwise. -/
def compare (numbers : Float → Float → Bool) (texts : String → String → Bool)
    (left right : Value) : Bool :=
  match left.toNumber?, right.toNumber? with
  | some x, some y => numbers x y
  | _, _ => texts left.rendered right.rendered

def isLess : Value → Value → Bool :=
  compare (fun x y => x < y) (fun s t => s < t)

def isLessEqual : Value → Value → Bool :=
  compare (fun x y => x ≤ y) (fun s t => s ≤ t)

def isGreater : Value → Value → Bool :=
  compare (fun x y => y < x) (fun s t => t < s)

def isGreaterEqual : Value → Value → Bool :=
  compare (fun x y => y ≤ x) (fun s t => t ≤ s)

/-- The value that a left value alone decides, whatever the right operand. -/
def decided? (operator : BinaryOperator) (left : Value) : Option Value :=
  match operator with
  | .conjunction => if left.isTrue then none else some (.truth false)
  | .disjunction => if left.isTrue then some (.truth true) else none
  | _ => none

def applyOperator (operator : BinaryOperator) (left right : Value) : Evaluation Value :=
  match operator with
  | .disjunction => pure (.truth (left.isTrue || right.isTrue))
  | .conjunction => pure (.truth (left.isTrue && right.isTrue))
  | .equal => pure (.truth (left.equals right))
  | .unequal => pure (.truth (!left.equals right))
  | .less => pure (.truth (isLess left right))
  | .lessEqual => pure (.truth (isLessEqual left right))
  | .greater => pure (.truth (isGreater left right))
  | .greaterEqual => pure (.truth (isGreaterEqual left right))
  | .plus => add left right
  | .minus => arithmetic (fun x y => .ok (x - y)) left right
  | .times => arithmetic (fun x y => .ok (x * y)) left right
  | .divide => arithmetic Number.divide left right
  | .power => arithmetic Number.power left right

/-- Applies a binary operator to a left value. The right operand is evaluated unless the left
value decides already. -/
def combine (operator : BinaryOperator) (left : Value) (operand : Evaluation Value) :
    Evaluation Value :=
  match decided? operator left with
  | some value => pure value
  | none => do
      let right ← operand
      applyOperator operator left right

/-- One step of a chain: takes the right operand, if there is one, and combines. An operator
that nobody knows is found out after its operand. -/
def applyBinary (label : Label) (operand : Option (Evaluation Value)) (left : Value) :
    Evaluation Value :=
  match operand with
  | none => Attempt.fail .missingChild
  | some operand =>
      match binaryOperator? label with
      | some operator => combine operator left operand
      | none => do
          let _ ← operand
          Attempt.fail (.unknownBinary label)

def invoke (builtin : Builtin) (arguments : List Value) : Evaluation Value :=
  if arguments.length < builtin.least then
    Attempt.fail (.missingArguments builtin.name builtin.least arguments.length)
  else do
    Attempt.modify (·.note (.called builtin.name arguments.length))
    let (value, text) ← Attempt.ofExcept (builtin.reply arguments)
    Attempt.modify (·.print text)
    pure value

def call (table : List Builtin) (name : String) (place : Place) (arguments : List Value) :
    Evaluation Value :=
  match Builtin.find? table name with
  | some builtin => invoke builtin arguments
  | none => do
      Attempt.modify (·.note (.calleeMissing name place))
      Attempt.fail (.unknownFunction name)

/-- An evaluation taken apart: a first value, and steps that carry it on, the last one first. -/
structure Chain where
  first : Evaluation Value
  steps : List (Value → Evaluation Value)

namespace Chain

def single (first : Evaluation Value) : Chain :=
  ⟨first, []⟩

def run (chain : Chain) : Evaluation Value := do
  let value ← chain.first
  chain.steps.reverse.foldlM (fun value step => step value) value

end Chain

def enter (room : Nat) (inner : Nat → Chain) : Evaluation Value :=
  match room with
  | 0 => Attempt.fail .nestedTooDeeply
  | room + 1 => (inner room).run

mutual

/-- Takes the evaluation of a tree apart, with room for nesting left. -/
def walk (table : List Builtin) : Tree → Nat → Chain
  | .node .number label _ _, _ => .single (number label)
  | .node .text label _ _, _ => .single (pure (.text label.spelled))
  | .node .truth label _ _, _ => .single (pure (.truth label.isTrue))
  | .node .name label _ _, _ => .single (lookUp label.spelled)
  | .node .assign label _ children, room =>
      .single do
        let value ← walkFirst table children room
        assign label.spelled value
  | .node .unary label _ children, room =>
      .single do
        let operand ← walkFirst table children room
        applyUnary label operand
  | .node .binary label _ children, room =>
      let left := walkLeft table children room
      ⟨left.first, applyBinary label (walkSecond table children room) :: left.steps⟩
  | .node .call label place children, room =>
      .single do
        let arguments ← walkAll table children room
        call table label.spelled place arguments
  | .node (.other title) _ place _, _ =>
      .single (Attempt.fail (.unknownKind title place))

def walkFirst (table : List Builtin) : List Tree → Nat → Evaluation Value
  | [], _ => Attempt.fail .missingChild
  | child :: _, room => enter room (walk table child)

/-- The left operand. One that is a binary node itself is part of the same chain. -/
def walkLeft (table : List Builtin) : List Tree → Nat → Chain
  | [], _ => .single (Attempt.fail .missingChild)
  | child :: _, room =>
      if child.kind = .binary then walk table child room
      else .single (enter room (walk table child))

def walkSecond (table : List Builtin) : List Tree → Nat → Option (Evaluation Value)
  | _ :: child :: _, room => some (enter room (walk table child))
  | _, _ => none

def walkAll (table : List Builtin) : List Tree → Nat → Evaluation (List Value)
  | [], _ => pure []
  | child :: rest, room => do
      let value ← enter room (walk table child)
      let values ← walkAll table rest room
      pure (value :: values)

end

def nestingRoom : Nat := Stack.levels

def evaluate (table : List Builtin) (tree : Tree) : Evaluation Value :=
  (walk table tree nestingRoom).run

end Evaluation

end Reckoner
