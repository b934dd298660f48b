import Reckoner.Evaluation
import Reckoner.Token.Scanner
import Reckoner.Tree.Json
import Reckoner.Tree.Parser

/-!
Lines of a session. A line is cut into tokens, its last statement is read, and that statement is
evaluated. A fault at any stage ends the line and leaves the session usable.
-/

namespace Reckoner

inductive Fault where
  | scan (error : ScanError)
  | parse (error : ParseError)
  | eval (error : EvalError)

namespace Fault

def message : Fault → String
  | .scan error => error.message
  | .parse error => error.message
  | .eval error => error.message

end Fault

namespace Line

def tokens (line : String) : Except Fault (List Token) :=
  (Token.scan line).mapError .scan

def tree (line : String) : Except Fault (Option Tree) := do
  let tokens ← tokens line
  (Tree.parse tokens).mapError .parse

def dump (limit : Nat) (line : String) : Except Fault String := do
  let tree ← tree line
  match Tree.dump? limit tree with
  | some document => pure document
  | none => throw (.parse .tooDeepToDump)

def value : Option Tree → Attempt Session Fault Value
  | none => pure .absent
  | some tree => (Evaluation.evaluate Builtin.standard tree).mapError .eval

def run (line : String) : Attempt Session Fault Value := do
  Attempt.modify (·.note (.lineRun line))
  let tree ← Attempt.ofExcept (tree line)
  value tree

/-- Prints the result of a line, which is nothing for the absent value. -/
def report (result : Value) (session : Session) : Session :=
  match result.result? with
  | some text => session.printLine text
  | none => session

end Line

end Reckoner
