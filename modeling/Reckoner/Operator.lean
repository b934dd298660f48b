import Reckoner.Token.Basic

/-!
The operators of expressions: their symbols, the tokens that stand for them, and how tightly
the binary ones bind.
-/

namespace Reckoner

inductive UnaryOperator where
  | negative
  | negation
  deriving DecidableEq, Repr

namespace UnaryOperator

def symbol : UnaryOperator → String
  | .negative => "-"
  | .negation => "!"

def ofSymbol? (symbol : String) : Option UnaryOperator :=
  [negative, negation].find? (·.symbol = symbol)

def ofToken? : TokenKind → Option UnaryOperator
  | .minus => some .negative
  | .negate => some .negation
  | _ => none

end UnaryOperator

inductive BinaryOperator where
  | disjunction
  | conjunction
  | equal
  | unequal
  | less
  | lessEqual
  | greater
  | greaterEqual
  | plus
  | minus
  | times
  | divide
  | power
  deriving DecidableEq, Repr

namespace BinaryOperator

def symbol : BinaryOperator → String
  | .disjunction => "or"
  | .conjunction => "and"
  | .equal => "=="
  | .unequal => "!="
  | .less => "<"
  | .lessEqual => "<="
  | .greater => ">"
  | .greaterEqual => ">="
  | .plus => "+"
  | .minus => "-"
  | .times => "*"
  | .divide => "/"
  | .power => "^"

/-- The operators in groups, the loosest first. Every group is left associative. -/
def levels : List (List BinaryOperator) := [
  [.disjunction],
  [.conjunction],
  [.equal, .unequal],
  [.less, .lessEqual, .greater, .greaterEqual],
  [.plus, .minus],
  [.times, .divide],
  [.power]]

def all : List BinaryOperator :=
  levels.flatten

def ofSymbol? (symbol : String) : Option BinaryOperator :=
  all.find? (·.symbol = symbol)

def ofToken? : TokenKind → Option BinaryOperator
  | .either => some .disjunction
  | .both => some .conjunction
  | .equal => some .equal
  | .unequal => some .unequal
  | .less => some .less
  | .lessEqual => some .lessEqual
  | .greater => some .greater
  | .greaterEqual => some .greaterEqual
  | .plus => some .plus
  | .minus => some .minus
  | .times => some .times
  | .divide => some .divide
  | .power => some .power
  | _ => none

end BinaryOperator

end Reckoner
