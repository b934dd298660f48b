import Reckoner.Proofs.Number.Numeral
import Reckoner.Proofs.Token.Spelling
import Reckoner.Proofs.Tree.Grammar

/-!
Expressions and clauses in themselves, and how they are written. Lexemes are set apart by single
spaces. An operand is put in parentheses only where it would be taken apart otherwise: to the left
of an operator if it binds looser, to the right also if it binds as tightly, and behind a unary
operator whenever a binary one joins it.
-/

namespace Reckoner

open Token Number Grammar

structure Identifier where
  first : Char
  rest : List Char
  starts : isNameStart first = true
  inside : ∀ c ∈ rest, isNameChar c = true
  free : keywords.lookup (first :: rest) = none

def Identifier.text (identifier : Identifier) : String :=
  String.ofList (identifier.first :: identifier.rest)

/-- An identifier that is no truth value. -/
structure Variable extends Identifier where
  plain : Parser.literal? toIdentifier.text = none

inductive Expression where
  | number (numeral : Numeral)
  | text (content : String)
  | truth (value : Bool)
  | name (word : Variable)
  | unary (operator : UnaryOperator) (operand : Expression)
  | binary (operator : BinaryOperator) (left right : Expression)
  | call (callee : Identifier) (arguments : List Expression)

inductive Clause where
  | bare (value : Expression)
  | binding (name : Identifier) (value : Expression)

namespace Expression

mutual

def tree : Expression → Tree
  | .number numeral => .node .number (.number numeral.value) .nowhere []
  | .text content => .node .text (.text content) .nowhere []
  | .truth value => .node .truth (.truth value) .nowhere []
  | .name word => .node .name (.text word.text) .nowhere []
  | .unary operator operand => .node .unary (.text operator.symbol) .nowhere [operand.tree]
  | .binary operator left right =>
      .node .binary (.text operator.symbol) .nowhere [left.tree, right.tree]
  | .call callee arguments => .node .call (.text callee.text) .nowhere (trees arguments)

def trees : List Expression → List Tree
  | [] => []
  | first :: rest => first.tree :: trees rest

end

def level : Expression → Nat
  | .binary operator _ _ => operator.level
  | _ => operandLevel

end Expression

def UnaryOperator.tokenKind : UnaryOperator → TokenKind
  | .negative => .minus
  | .negation => .negate

def BinaryOperator.tokenKind : BinaryOperator → TokenKind
  | .disjunction => .either
  | .conjunction => .both
  | .equal => .equal
  | .unequal => .unequal
  | .less => .less
  | .lessEqual => .lessEqual
  | .greater => .greater
  | .greaterEqual => .greaterEqual
  | .plus => .plus
  | .minus => .minus
  | .times => .times
  | .divide => .divide
  | .power => .power

theorem UnaryOperator.ofToken?_tokenKind (operator : UnaryOperator) :
    UnaryOperator.ofToken? operator.tokenKind = some operator := by
  cases operator <;> rfl

theorem BinaryOperator.ofToken?_tokenKind (operator : BinaryOperator) :
    BinaryOperator.ofToken? operator.tokenKind = some operator := by
  cases operator <;> rfl

theorem UnaryOperator.spelled (operator : UnaryOperator) :
    Spells operator.symbol.toList operator.tokenKind operator.symbol.toList := by
  cases operator <;> exact .symbol (by decide)

theorem BinaryOperator.spelled (operator : BinaryOperator) :
    Spells operator.symbol.toList operator.tokenKind operator.symbol.toList := by
  cases operator with
  | disjunction => exact @Spells.word 'o' ['r'] (by decide) (List.all_eq_true.mp (by decide))
  | conjunction => exact @Spells.word 'a' ['n', 'd'] (by decide) (List.all_eq_true.mp (by decide))
  | _ => exact .symbol (by decide)

theorem Number.Numeral.startsNumber (numeral : Numeral) :
    Token.startsNumber numeral.chars = true := by
  obtain ⟨whole, fraction, digits, filled, same⟩ := numeral.split
  cases whole with
  | cons c whole =>
      have digit := digits c (by simp)
      rcases same with ⟨same, _⟩ | same <;> simp [same, Token.startsNumber, digit]
  | nil =>
      cases fraction with
      | nil => exact absurd rfl filled
      | cons c fraction =>
          have digit := digits c (by simp)
          rcases same with ⟨_, impossible⟩ | same
          · simp at impossible
          · simp [same, Token.startsNumber, digit]

theorem Identifier.spelled (identifier : Identifier) :
    Spells (identifier.first :: identifier.rest) .name (identifier.first :: identifier.rest) := by
  have word := Spells.word identifier.starts identifier.inside
  rwa [identifier.free] at word

abbrev Quote := { quote : Char // isQuote quote = true }

def escape (quote : Quote) (chars : List Char) : List Char :=
  chars.flatMap fun c => if c = quote.val ∨ c = Text.backslash then [Text.backslash, c] else [c]

theorem quotes_escape (quote : Quote) (chars : List Char) :
    Quotes quote.val (escape quote chars) chars := by
  induction chars with
  | nil => exact .nil
  | cons c chars ih =>
      rw [escape, List.flatMap_cons]
      split
      next special => exact .escaped special ih
      next other =>
        rw [not_or] at other
        exact .plain other.1 other.2 ih

namespace Token.Lexeme

def number (numeral : Numeral) : Lexeme :=
  ⟨.number, numeral.chars, numeral.chars, .number numeral.startsNumber numeral.inside⟩

def quoted (quote : Quote) (content : String) : Lexeme :=
  ⟨.text, content.toList, quote.val :: escape quote content.toList ++ [quote.val],
    .text quote.property (quotes_escape quote content.toList)⟩

def identifier (identifier : Identifier) : Lexeme :=
  ⟨.name, identifier.first :: identifier.rest, identifier.first :: identifier.rest,
    identifier.spelled⟩

def truth : Bool → Lexeme
  | true => identifier
      ⟨'t', ['r', 'u', 'e'], by decide, List.all_eq_true.mp (by decide), by decide⟩
  | false => identifier
      ⟨'f', ['a', 'l', 's', 'e'], by decide, List.all_eq_true.mp (by decide), by decide⟩

def unary (operator : UnaryOperator) : Lexeme :=
  ⟨operator.tokenKind, operator.symbol.toList, operator.symbol.toList, operator.spelled⟩

def binary (operator : BinaryOperator) : Lexeme :=
  ⟨operator.tokenKind, operator.symbol.toList, operator.symbol.toList, operator.spelled⟩

def leftParen : Lexeme :=
  ⟨.leftParen, ['('], ['('], .symbol (by decide)⟩

def rightParen : Lexeme :=
  ⟨.rightParen, [')'], [')'], .symbol (by decide)⟩

def comma : Lexeme :=
  ⟨.comma, [','], [','], .symbol (by decide)⟩

def binding : Lexeme :=
  ⟨.binding, ['l', 'e', 't'], ['l', 'e', 't'], .word (by decide) (List.all_eq_true.mp (by decide))⟩

def assign : Lexeme :=
  ⟨.assign, ['='], ['='], .symbol (by decide)⟩

end Token.Lexeme

namespace Expression

def enclose (asked : Bool) (lexemes : List Lexeme) : List Lexeme :=
  if asked then .leftParen :: lexemes ++ [.rightParen] else lexemes

variable (quote : Quote)

mutual

def lexemes : Expression → List Lexeme
  | .number numeral => [.number numeral]
  | .text content => [.quoted quote content]
  | .truth value => [.truth value]
  | .name word => [.identifier word.toIdentifier]
  | .unary operator operand =>
      .unary operator :: enclose (operand.level < operandLevel) (lexemes operand)
  | .binary operator left right =>
      enclose (left.level < operator.level) (lexemes left) ++
        .binary operator :: enclose (right.level ≤ operator.level) (lexemes right)
  | .call callee arguments =>
      .identifier callee :: .leftParen :: argumentLexemes arguments ++ [.rightParen]

def argumentLexemes : List Expression → List Lexeme
  | [] => []
  | [last] => lexemes last
  | first :: second :: rest => lexemes first ++ .comma :: argumentLexemes (second :: rest)

end

def enclosedNesting (asked : Bool) (nesting : Nat) : Nat :=
  if asked then nesting + Parser.groupCost else nesting

mutual

/-- The part of the budget for nesting that the text of an expression takes. -/
def nesting : Expression → Nat
  | .number _ | .text _ | .truth _ | .name _ => 0
  | .unary _ operand => enclosedNesting (operand.level < operandLevel) operand.nesting + 1
  | .binary operator left right =>
      max (enclosedNesting (left.level < operator.level) left.nesting)
        (enclosedNesting (right.level ≤ operator.level) right.nesting)
  | .call _ [] => 0
  | .call _ (first :: rest) => max first.nesting (argumentNesting rest) + Parser.callCost

def argumentNesting : List Expression → Nat
  | [] => 0
  | first :: rest => max first.nesting (argumentNesting rest)

end

end Expression

namespace Clause

def tree : Clause → Tree
  | .bare value => value.tree
  | .binding name value => .node .assign (.text name.text) .nowhere [value.tree]

def lexemes (quote : Quote) : Clause → List Lexeme
  | .bare value => value.lexemes quote
  | .binding name value =>
      .binding :: .identifier name :: .assign :: value.lexemes quote

def nesting : Clause → Nat
  | .bare value | .binding _ value => value.nesting

def print (quote : Quote) (clause : Clause) : String :=
  String.ofList ([' '].intercalate ((clause.lexemes quote).map Lexeme.source))

end Clause

end Reckoner
