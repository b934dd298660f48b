import Reckoner.Place

/-!
Tokens, their kinds, and the table of fixed spellings.
-/

namespace Reckoner

inductive TokenKind where
  | number
  | text
  | name
  | plus
  | minus
  | times
  | divide
  | power
  | equal
  | unequal
  | less
  | lessEqual
  | greater
  | greaterEqual
  | both
  | either
  | negate
  | assign
  | leftParen
  | rightParen
  | comma
  | semicolon
  | binding
  | finish
  | other (title : String)
  deriving DecidableEq, Repr

namespace TokenKind

def titles : List (TokenKind × String) := [
  (.number, "NUMBER"), (.text, "STRING"), (.name, "IDENT"), (.plus, "PLUS"), (.minus, "SUB"),
  (.times, "MULT"), (.divide, "DIV"), (.power, "POW"), (.equal, "EQ"), (.unequal, "NE"),
  (.less, "LT"), (.lessEqual, "LE"), (.greater, "GT"), (.greaterEqual, "GE"), (.both, "AND"),
  (.either, "OR"), (.negate, "NOT"), (.assign, "ASSIGN"), (.leftParen, "LPAREN"),
  (.rightParen, "RPAREN"), (.comma, "COMMA"), (.semicolon, "SEMICOLON"), (.binding, "LET"),
  (.finish, "EOF")]

def title : TokenKind → String
  | .other title => title
  | kind => (titles.lookup kind).getD ""

/-- The kind with a given title; titles that no kind has make kinds of their own. -/
def ofTitle (title : String) : TokenKind :=
  match titles.find? (·.2 = title) with
  | some (kind, _) => kind
  | none => .other title

end TokenKind

structure Token where
  kind : TokenKind
  text : String
  place : Place
  deriving DecidableEq, Repr

namespace Token

def finish (place : Place) : Token :=
  ⟨.finish, "", place⟩

def shown (token : Token) : String :=
  "Token(" ++ token.kind.title ++ ", " ++ token.text ++ ")"

def symbols : List (List Char × TokenKind) := [
  (['+'], .plus), (['-'], .minus), (['*'], .times), (['/'], .divide), (['^'], .power),
  (['=', '='], .equal), (['!', '='], .unequal), (['<'], .less), (['<', '='], .lessEqual),
  (['>'], .greater), (['>', '='], .greaterEqual), (['&', '&'], .both), (['&'], .both),
  (['|', '|'], .either), (['|'], .either), (['!'], .negate), (['='], .assign),
  (['('], .leftParen), ([')'], .rightParen), ([','], .comma), ([';'], .semicolon)]

def keywords : List (List Char × TokenKind) := [
  (['l', 'e', 't'], .binding), (['a', 'n', 'd'], .both), (['o', 'r'], .either),
  (['n', 'o', 't'], .negate)]

def spellings : List (List Char × TokenKind) :=
  symbols ++ keywords

end Token

end Reckoner
