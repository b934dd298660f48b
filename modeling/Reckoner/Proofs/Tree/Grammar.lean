import Reckoner.Tree.Parser

/-!
The grammar of programs, written as derivations. A derivation relates a run of tokens to the trees
that it stands for, every node at the place of the token that introduced it. The binary operators
form seven levels, each folding to the left; unary operators bind tighter than all of them.

Derivations carry a budget. It bounds how deep unary operators, parentheses and calls nest, and
nothing else depends on it: what derives within one budget derives within every larger one.
-/

namespace Reckoner

/-- How tightly an operator binds, the loosest at zero. -/
def BinaryOperator.level : BinaryOperator → Nat
  | .disjunction => 0
  | .conjunction => 1
  | .equal | .unequal => 2
  | .less | .lessEqual | .greater | .greaterEqual => 3
  | .plus | .minus => 4
  | .times | .divide => 5
  | .power => 6

namespace Grammar

def operandLevel : Nat := 7

/-- What derivations start from. A chain of a level joins operands by operators of that level and
of the tighter ones. -/
inductive Phrase where
  | chain (level : Nat)
  | unary
  | primary
  | arguments

abbrev Phrase.expression : Phrase :=
  .chain 0

inductive Derives : Nat → Phrase → List Token → List Tree → Prop
  | operand {budget level tokens tree} : operandLevel ≤ level →
      Derives budget .unary tokens [tree] → Derives budget (.chain level) tokens [tree]
  | tighter {budget level tokens tree} : Derives budget (.chain (level + 1)) tokens [tree] →
      Derives budget (.chain level) tokens [tree]
  | joined {budget level token operator left right leftTree rightTree} :
      BinaryOperator.ofToken? token.kind = some operator → operator.level = level →
      Derives budget (.chain level) left [leftTree] →
      Derives budget (.chain (level + 1)) right [rightTree] →
      Derives budget (.chain level) (left ++ token :: right)
        [.node .binary (.text operator.symbol) token.place [leftTree, rightTree]]
  | signed {budget token operator tokens tree} :
      UnaryOperator.ofToken? token.kind = some operator →
      Derives budget .unary tokens [tree] →
      Derives (budget + 1) .unary (token :: tokens)
        [.node .unary (.text operator.symbol) token.place [tree]]
  | plain {budget tokens tree} : Derives budget .primary tokens [tree] →
      Derives budget .unary tokens [tree]
  | number {budget token x} : token.kind = .number → Number.readGrouped? token.text = some x →
      Derives budget .primary [token] [.node .number (.number x) token.place []]
  | text {budget token} : token.kind = .text →
      Derives budget .primary [token] [.node .text (.text token.text) token.place []]
  | truth {budget token b} : token.kind = .name → Parser.literal? token.text = some b →
      Derives budget .primary [token] [.node .truth (.truth b) token.place []]
  | name {budget token} : token.kind = .name → Parser.literal? token.text = none →
      Derives budget .primary [token] [.node .name (.text token.text) token.place []]
  | emptyCall {budget callee opening closing} : callee.kind = .name →
      opening.kind = .leftParen → closing.kind = .rightParen →
      Derives budget .primary [callee, opening, closing]
        [.node .call (.text callee.text) callee.place []]
  | call {budget callee opening closing tokens trees} : callee.kind = .name →
      opening.kind = .leftParen → closing.kind = .rightParen →
      Derives budget .arguments tokens trees →
      Derives (budget + Parser.callCost) .primary (callee :: opening :: tokens ++ [closing])
        [.node .call (.text callee.text) callee.place trees]
  | group {budget opening closing tokens tree} :
      opening.kind = .leftParen → closing.kind = .rightParen →
      Derives budget .expression tokens [tree] →
      Derives (budget + Parser.groupCost) .primary (opening :: tokens ++ [closing]) [tree]
  | argument {budget tokens tree} : Derives budget .expression tokens [tree] →
      Derives budget .arguments tokens [tree]
  | further {budget comma tokens tree rest trees} : comma.kind = .comma →
      Derives budget .expression tokens [tree] → Derives budget .arguments rest trees →
      Derives budget .arguments (tokens ++ comma :: rest) (tree :: trees)

inductive Statement (budget : Nat) : List Token → Tree → Prop
  | expression {tokens tree} : Derives budget .expression tokens [tree] →
      Statement budget tokens tree
  | binding {start name equals tokens value} : start.kind = .binding → name.kind = .name →
      equals.kind = .assign → Derives budget .expression tokens [value] →
      Statement budget (start :: name :: equals :: tokens)
        (.node .assign (.text name.text) start.place [value])

/-- Statements in a row, each with a semicolon behind it or without one, and all their trees. -/
inductive Program (budget : Nat) : List Token → List Tree → Prop
  | done : Program budget [] []
  | bare {first tree rest trees} : Statement budget first tree → Program budget rest trees →
      Program budget (first ++ rest) (tree :: trees)
  | closed {first tree semicolon rest trees} : Statement budget first tree →
      semicolon.kind = .semicolon → Program budget rest trees →
      Program budget (first ++ semicolon :: rest) (tree :: trees)

theorem Derives.weaken {budget larger : Nat} {phrase : Phrase} {tokens : List Token}
    {trees : List Tree} (derivation : Derives budget phrase tokens trees)
    (room : budget ≤ larger) : Derives larger phrase tokens trees := by
  induction derivation generalizing larger with
  | operand beyond _ ih => exact .operand beyond (ih room)
  | tighter _ ih => exact .tighter (ih room)
  | joined found same _ _ ihLeft ihRight => exact .joined found same (ihLeft room) (ihRight room)
  | signed found _ ih =>
      obtain ⟨rest, rfl⟩ : ∃ rest, larger = rest + 1 := ⟨larger - 1, by omega⟩
      exact .signed found (ih (by omega))
  | plain _ ih => exact .plain (ih room)
  | number kind read => exact .number kind read
  | text kind => exact .text kind
  | truth kind literal => exact .truth kind literal
  | name kind literal => exact .name kind literal
  | emptyCall callee opening closing => exact .emptyCall callee opening closing
  | call callee opening closing _ ih =>
      obtain ⟨rest, rfl⟩ : ∃ rest, larger = rest + Parser.callCost :=
        ⟨larger - Parser.callCost, by omega⟩
      exact .call callee opening closing (ih (by omega))
  | group opening closing _ ih =>
      obtain ⟨rest, rfl⟩ : ∃ rest, larger = rest + Parser.groupCost :=
        ⟨larger - Parser.groupCost, by omega⟩
      exact .group opening closing (ih (by omega))
  | argument _ ih => exact .argument (ih room)
  | further comma _ _ ihFirst ihRest => exact .further comma (ihFirst room) (ihRest room)

theorem Statement.weaken {budget larger : Nat} {tokens : List Token} {tree : Tree}
    (statement : Statement budget tokens tree) (room : budget ≤ larger) :
    Statement larger tokens tree := by
  cases statement with
  | expression derivation => exact .expression (derivation.weaken room)
  | binding start name equals derivation =>
      exact .binding start name equals (derivation.weaken room)

def opensPrimary : TokenKind → Bool
  | .number | .text | .name | .leftParen => true
  | _ => false

def opensExpression : TokenKind → Bool
  | .minus | .negate => true
  | kind => opensPrimary kind

theorem opensExpression_of_operator {kind : TokenKind} {operator : UnaryOperator}
    (found : UnaryOperator.ofToken? kind = some operator) : opensExpression kind = true := by
  cases kind <;> simp_all [UnaryOperator.ofToken?, opensExpression]

theorem not_operator_of_opensPrimary {kind : TokenKind} (opens : opensPrimary kind = true) :
    UnaryOperator.ofToken? kind = none := by
  cases kind <;> simp_all [UnaryOperator.ofToken?, opensPrimary]

theorem opens_and_joins {kind : TokenKind} {operator : BinaryOperator}
    (opens : opensExpression kind = true)
    (joins : BinaryOperator.ofToken? kind = some operator) : kind = .minus := by
  cases kind <;> simp_all [opensExpression, opensPrimary, BinaryOperator.ofToken?]

theorem Derives.start {budget : Nat} {phrase : Phrase} {tokens : List Token} {trees : List Tree}
    (derivation : Derives budget phrase tokens trees) :
    ∃ first rest, tokens = first :: rest ∧ opensExpression first.kind = true ∧
      (phrase = .primary → opensPrimary first.kind = true) := by
  induction derivation with
  | operand _ _ ih | tighter _ ih | argument _ ih =>
      obtain ⟨first, rest, rfl, opens, _⟩ := ih
      exact ⟨first, rest, rfl, opens, by simp⟩
  | joined _ _ _ _ ih _ | further _ _ _ ih _ =>
      obtain ⟨first, rest, rfl, opens, _⟩ := ih
      exact ⟨first, _, rfl, opens, by simp⟩
  | signed found => exact ⟨_, _, rfl, opensExpression_of_operator found, by simp⟩
  | plain _ ih =>
      obtain ⟨first, rest, rfl, opens, _⟩ := ih
      exact ⟨first, rest, rfl, opens, by simp⟩
  | number kind | text kind | truth kind | name kind | emptyCall kind | call kind | group kind =>
      exact ⟨_, _, rfl, by simp [kind, opensExpression, opensPrimary],
        fun _ => by simp [kind, opensPrimary]⟩

theorem Derives.nonempty {budget : Nat} {phrase : Phrase} {tokens : List Token}
    {trees : List Tree} (derivation : Derives budget phrase tokens trees) : tokens ≠ [] := by
  obtain ⟨first, rest, rfl, _⟩ := derivation.start
  exact List.cons_ne_nil first rest

theorem Statement.nonempty {budget : Nat} {tokens : List Token} {tree : Tree}
    (statement : Statement budget tokens tree) : tokens ≠ [] := by
  cases statement with
  | expression derivation => exact derivation.nonempty
  | binding => exact List.cons_ne_nil _ _

theorem Derives.length_le {budget : Nat} {phrase : Phrase} {tokens : List Token}
    {trees : List Tree} (derivation : Derives budget phrase tokens trees) :
    trees.length ≤ tokens.length := by
  induction derivation with
  | operand _ _ ih | tighter _ ih | plain _ ih | argument _ ih => exact ih
  | joined | further =>
      simp only [List.length_cons, List.length_append] at *
      omega
  | _ => simp

def Unfinished (tokens : List Token) : Prop :=
  ∀ token ∈ tokens, token.kind ≠ .finish

theorem unfinished_append {left right : List Token} :
    Unfinished (left ++ right) ↔ Unfinished left ∧ Unfinished right := by
  simp only [Unfinished, List.mem_append]
  constructor
  · intro all
    exact ⟨fun token member => all token (.inl member), fun token member => all token (.inr member)⟩
  · rintro ⟨allLeft, allRight⟩ token (member | member)
    · exact allLeft token member
    · exact allRight token member

theorem unfinished_cons {token : Token} {rest : List Token} :
    Unfinished (token :: rest) ↔ token.kind ≠ .finish ∧ Unfinished rest := by
  simp [Unfinished]

theorem unfinished_nil : Unfinished [] := by
  simp [Unfinished]

theorem kind_of_binary {kind : TokenKind} {operator : BinaryOperator}
    (found : BinaryOperator.ofToken? kind = some operator) : kind ≠ .finish := by
  rintro rfl
  simp [BinaryOperator.ofToken?] at found

theorem kind_of_unary {kind : TokenKind} {operator : UnaryOperator}
    (found : UnaryOperator.ofToken? kind = some operator) : kind ≠ .finish := by
  rintro rfl
  simp [UnaryOperator.ofToken?] at found

theorem Derives.unfinished {budget : Nat} {phrase : Phrase} {tokens : List Token}
    {trees : List Tree} (derivation : Derives budget phrase tokens trees) :
    Unfinished tokens := by
  induction derivation with
  | operand _ _ ih | tighter _ ih | plain _ ih | argument _ ih => exact ih
  | joined found _ _ _ ihLeft ihRight =>
      exact unfinished_append.mpr ⟨ihLeft, unfinished_cons.mpr ⟨kind_of_binary found, ihRight⟩⟩
  | signed found _ ih => exact unfinished_cons.mpr ⟨kind_of_unary found, ih⟩
  | number kind | text kind | truth kind | name kind =>
      simp [Unfinished, kind]
  | emptyCall callee opening closing => simp [Unfinished, callee, opening, closing]
  | call callee opening closing _ ih =>
      simp [unfinished_append, unfinished_cons, unfinished_nil, callee, opening, closing, ih]
  | group opening closing _ ih =>
      simp [unfinished_append, unfinished_cons, unfinished_nil, opening, closing, ih]
  | further comma _ _ ihFirst ihRest =>
      simp [unfinished_append, unfinished_cons, comma, ihFirst, ihRest]

theorem Statement.unfinished {budget : Nat} {tokens : List Token} {tree : Tree}
    (statement : Statement budget tokens tree) : Unfinished tokens := by
  cases statement with
  | expression derivation => exact derivation.unfinished
  | binding start name equals derivation =>
      simp [unfinished_cons, start, name, equals, derivation.unfinished]

theorem Program.unfinished {budget : Nat} {tokens : List Token} {trees : List Tree}
    (program : Program budget tokens trees) : Unfinished tokens := by
  induction program with
  | done => exact unfinished_nil
  | bare statement _ ih => exact unfinished_append.mpr ⟨statement.unfinished, ih⟩
  | closed statement semicolon _ ih =>
      simp [unfinished_append, unfinished_cons, statement.unfinished, semicolon, ih]

end Grammar

theorem BinaryOperator.level_lt (operator : BinaryOperator) :
    operator.level < Grammar.operandLevel := by
  cases operator <;> decide

end Reckoner
