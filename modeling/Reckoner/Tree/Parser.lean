import Reckoner.Attempt
import Reckoner.Number.Reading
import Reckoner.Stack
import Reckoner.Tree.Basic

/-!
Reading statement trees from tokens. The groups of binary operators are climbed from the loosest
to the tightest, each folding to the left; unary operators bind tighter than all of them. A line
may hold several statements, with or without semicolons between them, and its tree is that of
the last one.

Nesting is bounded by a budget of which every unary operator, parenthesis and call takes a part.
-/

namespace Reckoner

inductive ParseError where
  | expected (kinds : List TokenKind) (found : Token)
  | unexpected (found : Token)
  | malformedNumber (found : Token)
  | nestedTooDeeply (found : Token)
  | tooDeepToDump
  deriving DecidableEq, Repr

namespace ParseError

def message : ParseError → String
  | .expected kinds found =>
      "Expected " ++ " or ".intercalate (kinds.map TokenKind.title) ++ ", got " ++
        found.kind.title ++ " (" ++ found.text ++ ") at " ++ found.place.described
  | .unexpected found =>
      "Unexpected token " ++ found.kind.title ++ " (" ++ found.text ++ ") at " ++
        found.place.described
  | .malformedNumber found =>
      "Invalid number literal '" ++ found.text ++ "' at " ++ found.place.described
  | .nestedTooDeeply found => "Expression nested too deeply at " ++ found.place.described
  | .tooDeepToDump => "Expression nested too deeply to print as JSON"

end ParseError

abbrev Parser := Attempt (List Token) ParseError

namespace Parser

/-- The first remaining token; behind the last one there is a closing token. -/
def current : Parser Token := fun tokens =>
  (.ok (tokens.headD (Token.finish .nowhere)), tokens)

def advance : Parser Unit :=
  Attempt.modify List.tail

def expect (kinds : List TokenKind) : Parser Token := do
  let token ← current
  if token.kind ∈ kinds then
    advance
    pure token
  else
    Attempt.fail (.expected kinds token)

def remaining : Parser (List Token) :=
  Attempt.get

def operatorOf? (operators : List BinaryOperator) (token : Token) : Option BinaryOperator :=
  (BinaryOperator.ofToken? token.kind).filter (· ∈ operators)

/-- Folds further operands of one group onto the tree read so far. Every operand takes an
operator, so there are no more of them than tokens in `bound`. -/
def chainFrom (operators : List BinaryOperator) (operand : Parser Tree) :
    List Token → Tree → Parser Tree
  | [], left => pure left
  | _ :: bound, left => do
      let token ← current
      match operatorOf? operators token with
      | some operator =>
          advance
          let right ← operand
          chainFrom operators operand bound
            (.node .binary (.text operator.symbol) token.place [left, right])
      | none => pure left

def chain (operators : List BinaryOperator) (operand : Parser Tree) : Parser Tree := do
  let left ← operand
  let bound ← remaining
  chainFrom operators operand bound left

/-- Operands joined by the operators of several groups, the loosest group first. -/
def climb (levels : List (List BinaryOperator)) (operand : Parser Tree) : Parser Tree :=
  levels.foldr chain operand

def literal? : String → Option Bool
  | "true" => some true
  | "false" => some false
  | _ => none

/-- The arguments behind the commas, no more of them than tokens in `bound`. -/
def argumentsFrom (argument : Parser Tree) : List Token → Parser (List Tree)
  | [] => pure []
  | _ :: bound => do
      let token ← current
      if token.kind = .comma then
        advance
        let first ← argument
        let others ← argumentsFrom argument bound
        pure (first :: others)
      else
        pure []

def arguments (argument : Parser Tree) : Parser (List Tree) := do
  let token ← current
  if token.kind = .rightParen then
    pure []
  else
    let first ← argument
    let bound ← remaining
    let others ← argumentsFrom argument bound
    pure (first :: others)

def call (argument : Parser Tree) (callee : Token) : Parser Tree := do
  let _ ← expect [.leftParen]
  let children ← arguments argument
  let _ ← expect [.rightParen]
  pure (.node .call (.text callee.text) callee.place children)

def named (argument : Parser Tree) (token : Token) : Parser Tree := do
  let following ← current
  if following.kind = .leftParen then
    call argument token
  else
    match literal? token.text with
    | some b => pure (.node .truth (.truth b) token.place [])
    | none => pure (.node .name (.text token.text) token.place [])

def number (token : Token) : Parser Tree :=
  match Number.readGrouped? token.text with
  | some x => pure (.node .number (.number x) token.place [])
  | none => Attempt.fail (.malformedNumber token)

/-- A literal, a name, a call or a group. What stands in parentheses is read by `group`, and
what stands between commas by `argument`. -/
def primary (group argument : Parser Tree) : Parser Tree := do
  let token ← current
  match token.kind with
  | .number =>
      advance
      number token
  | .text =>
      advance
      pure (.node .text (.text token.text) token.place [])
  | .name =>
      advance
      named argument token
  | .leftParen =>
      advance
      let inner ← group
      let _ ← expect [.rightParen]
      pure inner
  | _ => Attempt.fail (.unexpected token)

/-- The frames that a parenthesis takes: two for each group of operators, and three for the
expression, the unary operators and the primary around them. -/
def groupCost : Nat := 2 * 7 + 3

/-- A call takes one frame more than a parenthesis. -/
def callCost : Nat := groupCost + 1

def nestingBudget : Nat := Stack.frames - Stack.framesToOperand

def tooDeep : Parser Tree := do
  let token ← current
  Attempt.fail (.nestedTooDeeply token)

def unary (budget : Nat) : Parser Tree := do
  let token ← current
  match UnaryOperator.ofToken? token.kind with
  | some operator =>
      advance
      let operand ← if _ : 0 < budget then unary (budget - 1) else tooDeep
      pure (.node .unary (.text operator.symbol) token.place [operand])
  | none =>
      primary
        (if _ : groupCost ≤ budget then
          climb BinaryOperator.levels (unary (budget - groupCost)) else tooDeep)
        (if _ : callCost ≤ budget then
          climb BinaryOperator.levels (unary (budget - callCost)) else tooDeep)
termination_by budget
decreasing_by
  · omega
  · simp only [groupCost] at *
    omega
  · simp only [callCost, groupCost] at *
    omega

def expression (budget : Nat) : Parser Tree :=
  climb BinaryOperator.levels (unary budget)

def binding (budget : Nat) : Parser Tree := do
  let start ← expect [.binding]
  let name ← expect [.name]
  let _ ← expect [.assign]
  let value ← expression budget
  pure (.node .assign (.text name.text) start.place [value])

def statement (budget : Nat) : Parser Tree := do
  let token ← current
  if token.kind = .binding then binding budget else expression budget

def semicolon : Parser Unit := do
  let token ← current
  if token.kind = .semicolon then advance

/-- The last statement up to the closing token. No more statements are read than there are
tokens in `bound`. -/
def statementsFrom (budget : Nat) : List Token → Option Tree → Parser (Option Tree)
  | [], last => pure last
  | _ :: bound, last => do
      let token ← current
      if token.kind = .finish then
        pure last
      else
        let tree ← statement budget
        semicolon
        statementsFrom budget bound (some tree)

def program (budget : Nat) : Parser (Option Tree) := do
  let bound ← remaining
  statementsFrom budget bound none

end Parser

namespace Tree

def parse (tokens : List Token) : Except ParseError (Option Tree) :=
  (Parser.program Parser.nestingBudget tokens).1

end Tree

end Reckoner
