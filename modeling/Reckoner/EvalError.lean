import Reckoner.Machine
import Reckoner.Tree.Basic
import Reckoner.Value

/-!
Why an evaluation fails. Trees read from text know all their kinds and operators and have all
their children; the causes about those come from trees that were built otherwise. A breakdown of
the machine is no error of the language.
-/

namespace Reckoner

inductive EvalError where
  | undefinedVariable (name : String)
  | unknownFunction (name : String)
  | missingArguments (name : String) (least given : Nat)
  | notNumeric (value : Value)
  | unknownKind (title : String) (place : Place)
  | unknownUnary (label : Label)
  | unknownBinary (label : Label)
  | nestedTooDeeply
  | missingChild
  | badNumber (label : Label)
  | breakdown (cause : Breakdown)

namespace EvalError

def message : EvalError → String
  | .undefinedVariable name => "Undefined variable '" ++ name ++ "'"
  | .unknownFunction name => "Unknown function '" ++ name ++ "'"
  | .missingArguments name least given =>
      name ++ " expects at least " ++ toString least ++ " argument(s), got " ++ toString given
  | .notNumeric value => "Cannot convert to number: " ++ value.described
  | .unknownKind title place =>
      "Unknown node kind '" ++ title ++ "' (" ++ place.described ++ ")"
  | .unknownUnary label => "Unknown unary operator '" ++ label.spelled ++ "'"
  | .unknownBinary label => "Unknown binary operator '" ++ label.spelled ++ "'"
  | .nestedTooDeeply => "Expression nested too deeply to evaluate"
  | .missingChild => "Missing operand"
  | .badNumber label => "could not convert string to float: " ++ label.shown
  | .breakdown cause => cause.message

end EvalError

end Reckoner
