import Reckoner.Tree.Parser

/-!
A list of tokens with a position in it, on which parsers are run one after another. The position
stays where a failure left it, and advancing may move it beyond the last token.
-/

namespace Reckoner

structure Desk where
  tokens : List Token
  position : Nat := 0

namespace Desk

def ahead (desk : Desk) : List Token :=
  desk.tokens.drop desk.position

def current (desk : Desk) : Token :=
  desk.ahead.headD (Token.finish .nowhere)

def advance (desk : Desk) : Desk :=
  { desk with position := desk.position + 1 }

/-- Takes a token of one of the given kinds; behind the last token there are closing ones. -/
def expect (kinds : List TokenKind) : Attempt Desk ParseError Token := fun desk =>
  if desk.current.kind ∈ kinds then (.ok desk.current, desk.advance)
  else (.error (.expected kinds desk.current), desk)

def run {α : Type} (parser : Parser α) : Attempt Desk ParseError α := fun desk =>
  let (outcome, rest) := parser desk.ahead
  (outcome, { desk with position := desk.position + (desk.ahead.length - rest.length) })

end Desk

end Reckoner
