import Reckoner.Proofs.Tree.Acceptance
import Reckoner.Proofs.Tree.Expression

/-!
Reading what was written gives it back. The lexemes of an expression derive its tree, at whatever
places they stand, so that cutting the text into tokens and parsing them answers with that tree.
-/

namespace Reckoner

open Token Number Grammar

namespace Tree

mutual

def unplaced : Tree → Tree
  | .node kind label _ children => .node kind label .nowhere (unplacedAll children)

def unplacedAll : List Tree → List Tree
  | [] => []
  | tree :: rest => tree.unplaced :: unplacedAll rest

end

end Tree

def TokensOf (lexemes : List Lexeme) (tokens : List Token) : Prop :=
  tokens.map Token.content = lexemes.map Lexeme.content

theorem tokensOf_nil {tokens : List Token} : TokensOf [] tokens ↔ tokens = [] := by
  simp [TokensOf]

theorem tokensOf_cons {lexeme : Lexeme} {rest : List Lexeme} {tokens : List Token} :
    TokensOf (lexeme :: rest) tokens ↔ ∃ token later, tokens = token :: later ∧
      (token.kind = lexeme.kind ∧ token.text = String.ofList lexeme.text) ∧
      TokensOf rest later := by
  simp only [TokensOf, List.map_cons, List.map_eq_cons_iff, Token.content, Lexeme.content,
    Prod.mk.injEq]

theorem tokensOf_append {left right : List Lexeme} {tokens : List Token} :
    TokensOf (left ++ right) tokens ↔ ∃ front back, tokens = front ++ back ∧
      TokensOf left front ∧ TokensOf right back := by
  simp only [TokensOf, List.map_append, List.map_eq_append_iff]

def Writes (budget : Nat) (phrase : Phrase) (lexemes : List Lexeme) (trees : List Tree) : Prop :=
  ∀ tokens, TokensOf lexemes tokens →
    ∃ placed, Derives budget phrase tokens placed ∧ Tree.unplacedAll placed = trees

namespace Writes

variable {budget larger : Nat} {phrase other : Phrase} {lexemes : List Lexeme} {tree : Tree}
  {trees : List Tree}

theorem single (writes : Writes budget phrase lexemes [tree]) {tokens : List Token}
    (same : TokensOf lexemes tokens) :
    ∃ placed, Derives budget phrase tokens [placed] ∧ placed.unplaced = tree := by
  obtain ⟨placed, derived, unplaced⟩ := writes tokens same
  match placed, unplaced with
  | [placed], unplaced => exact ⟨placed, derived, (List.cons.inj unplaced).1⟩

theorem imp (writes : Writes budget phrase lexemes [tree])
    (derives : ∀ tokens placed, Derives budget phrase tokens [placed] →
      Derives larger other tokens [placed]) : Writes larger other lexemes [tree] := by
  intro tokens same
  obtain ⟨placed, derived, rfl⟩ := writes.single same
  exact ⟨[placed], derives tokens placed derived, rfl⟩

theorem weaken (writes : Writes budget phrase lexemes trees) (room : budget ≤ larger) :
    Writes larger phrase lexemes trees := by
  intro tokens same
  obtain ⟨placed, derived, unplaced⟩ := writes tokens same
  exact ⟨placed, derived.weaken room, unplaced⟩

end Writes

theorem Grammar.Derives.loosen {budget looser level : Nat} {tokens : List Token} {tree : Tree}
    (derivation : Derives budget (.chain level) tokens [tree]) (bound : looser ≤ level) :
    Derives budget (.chain looser) tokens [tree] := by
  obtain ⟨steps, rfl⟩ := Nat.exists_eq_add_of_le bound
  induction steps with
  | zero => exact derivation
  | succ steps ih => exact ih (.tighter derivation) (Nat.le_add_right looser steps)

namespace Expression

def phrase : Expression → Phrase
  | .binary operator _ _ => .chain operator.level
  | .unary _ _ => .unary
  | _ => .primary

theorem derives_chain (expression : Expression) {budget level : Nat} {tokens : List Token}
    {tree : Tree} (derivation : Derives budget expression.phrase tokens [tree])
    (bound : level ≤ expression.level) : Derives budget (.chain level) tokens [tree] := by
  cases expression with
  | binary => exact derivation.loosen bound
  | unary => exact Derives.chain derivation level
  | number | text | truth | name | call => exact Derives.chain (.plain derivation) level

theorem derives_unary (expression : Expression) {budget : Nat} {tokens : List Token}
    {tree : Tree} (derivation : Derives budget expression.phrase tokens [tree])
    (alone : operandLevel ≤ expression.level) : Derives budget .unary tokens [tree] := by
  cases expression with
  | binary operator => exact absurd operator.level_lt (Nat.not_lt.mpr alone)
  | unary => exact derivation
  | number | text | truth | name | call => exact .plain derivation

end Expression

namespace Writes

variable {budget : Nat} {quote : Quote}

theorem group {lexemes : List Lexeme} {tree : Tree}
    (writes : Writes budget .expression lexemes [tree]) :
    Writes (budget + Parser.groupCost) .primary (.leftParen :: lexemes ++ [.rightParen])
      [tree] := by
  intro tokens same
  simp only [List.cons_append, tokensOf_cons, tokensOf_append, tokensOf_nil] at same
  obtain ⟨opening, _, rfl, ⟨opens, _⟩, inner, _, rfl, same, closing, _, rfl, ⟨closes, _⟩, rfl⟩ :=
    same
  obtain ⟨placed, derived, rfl⟩ := writes.single same
  exact ⟨[placed], .group opens closes derived, rfl⟩

section Operands

variable {expression : Expression} {asked : Bool}
  (writes : Writes expression.nesting expression.phrase (expression.lexemes quote)
    [expression.tree])

include writes

theorem enclosed : asked = true →
    Writes (Expression.enclosedNesting asked expression.nesting) .primary
      (Expression.enclose asked (expression.lexemes quote)) [expression.tree] := by
  rintro rfl
  exact group (writes.imp fun tokens placed derived =>
    expression.derives_chain derived (Nat.zero_le _))

theorem chain {level : Nat} (bound : asked = false → level ≤ expression.level) :
    Writes (Expression.enclosedNesting asked expression.nesting) (.chain level)
      (Expression.enclose asked (expression.lexemes quote)) [expression.tree] := by
  cases asked with
  | true =>
      exact (writes.enclosed rfl).imp fun tokens placed derived =>
        Derives.chain (.plain derived) level
  | false =>
      exact writes.imp fun tokens placed derived =>
        expression.derives_chain derived (bound rfl)

theorem signed (operator : UnaryOperator) :
    Writes (Expression.unary operator expression).nesting .unary
      ((Expression.unary operator expression).lexemes quote)
      [(Expression.unary operator expression).tree] := by
  have operand : Writes
      (Expression.enclosedNesting (expression.level < operandLevel) expression.nesting) .unary
      (Expression.enclose (expression.level < operandLevel) (expression.lexemes quote))
      [expression.tree] := by
    by_cases loose : expression.level < operandLevel
    · exact (writes.enclosed (decide_eq_true loose)).imp fun tokens placed derived =>
        .plain derived
    · rw [decide_eq_false loose]
      exact writes.imp fun tokens placed derived =>
        expression.derives_unary derived (Nat.not_lt.mp loose)
  intro tokens same
  simp only [Expression.lexemes, tokensOf_cons] at same
  obtain ⟨token, later, rfl, ⟨kind, _⟩, same⟩ := same
  have found : UnaryOperator.ofToken? token.kind = some operator := by
    rw [kind]
    exact operator.ofToken?_tokenKind
  obtain ⟨placed, derived, unplaced⟩ := operand.single same
  refine ⟨_, .signed found derived, ?_⟩
  simp [Tree.unplacedAll, Tree.unplaced, Expression.tree, unplaced]

end Operands

theorem joined {left right : Expression} (operator : BinaryOperator)
    (writesLeft : Writes left.nesting left.phrase (left.lexemes quote) [left.tree])
    (writesRight : Writes right.nesting right.phrase (right.lexemes quote) [right.tree]) :
    Writes (Expression.binary operator left right).nesting (.chain operator.level)
      ((Expression.binary operator left right).lexemes quote)
      [(Expression.binary operator left right).tree] := by
  have front := @chain _ left (left.level < operator.level) writesLeft operator.level
    (by simp)
  have back := @chain _ right (right.level ≤ operator.level) writesRight (operator.level + 1)
    (fun loose => Nat.lt_of_not_le (of_decide_eq_false loose))
  intro tokens same
  simp only [Expression.lexemes, tokensOf_append, tokensOf_cons] at same
  obtain ⟨leftTokens, _, rfl, sameLeft, token, rightTokens, rfl, ⟨kind, _⟩, sameRight⟩ := same
  have found : BinaryOperator.ofToken? token.kind = some operator := by
    rw [kind]
    exact operator.ofToken?_tokenKind
  obtain ⟨leftTree, derivedLeft, unplacedLeft⟩ :=
    (front.weaken (Nat.le_max_left _ _)).single sameLeft
  obtain ⟨rightTree, derivedRight, unplacedRight⟩ :=
    (back.weaken (Nat.le_max_right _ _)).single sameRight
  refine ⟨_, .joined found rfl derivedLeft derivedRight, ?_⟩
  simp [Tree.unplacedAll, Tree.unplaced, Expression.tree, unplacedLeft, unplacedRight]

theorem leaf {lexeme : Lexeme} {tree : Tree}
    (derives : ∀ token : Token, token.kind = lexeme.kind →
      token.text = String.ofList lexeme.text →
      ∃ placed, Derives 0 .primary [token] [placed] ∧ placed.unplaced = tree) :
    Writes 0 .primary [lexeme] [tree] := by
  intro tokens same
  simp only [tokensOf_cons, tokensOf_nil] at same
  obtain ⟨token, _, rfl, ⟨kind, text⟩, rfl⟩ := same
  obtain ⟨placed, derived, unplaced⟩ := derives token kind text
  exact ⟨[placed], derived, by simp [Tree.unplacedAll, unplaced]⟩

theorem number (numeral : Numeral) :
    Writes 0 .primary [.number numeral] [(Expression.number numeral).tree] := by
  apply leaf
  intro token kind text
  have read : readGrouped? token.text = some numeral.value := by
    rw [text]
    exact readGrouped?_numeral numeral
  exact ⟨_, .number kind read, rfl⟩

theorem text (content : String) :
    Writes 0 .primary [.quoted quote content] [(Expression.text content).tree] := by
  apply leaf
  intro token kind text
  refine ⟨_, .text kind, ?_⟩
  have same : token.text = content := by simpa [Lexeme.quoted] using text
  rw [same]
  rfl

theorem truth (value : Bool) : Writes 0 .primary [.truth value] [(Expression.truth value).tree] := by
  apply leaf
  intro token kind text
  have literal : Parser.literal? token.text = some value := by
    rw [text]
    cases value <;> rfl
  refine ⟨_, .truth ?_ literal, rfl⟩
  rw [kind]
  cases value <;> rfl

theorem name (word : Variable) :
    Writes 0 .primary [.identifier word.toIdentifier] [(Expression.name word).tree] := by
  apply leaf
  intro token kind text
  have plain : Parser.literal? token.text = none := by
    rw [text]
    exact word.plain
  refine ⟨_, .name kind plain, ?_⟩
  rw [text]
  rfl

theorem emptyCall (callee : Identifier) :
    Writes 0 .primary [.identifier callee, .leftParen, .rightParen]
      [(Expression.call callee []).tree] := by
  intro tokens same
  simp only [tokensOf_cons, tokensOf_nil] at same
  obtain ⟨token, _, rfl, ⟨kind, text⟩, opening, _, rfl, ⟨opens, _⟩, closing, _, rfl,
    ⟨closes, _⟩, rfl⟩ := same
  refine ⟨_, .emptyCall kind opens closes, ?_⟩
  rw [text]
  rfl

theorem call {arguments : List Expression} {lexemes : List Lexeme} (callee : Identifier)
    (writes : Writes budget .arguments lexemes (Expression.trees arguments)) :
    Writes (budget + Parser.callCost) .primary
      (.identifier callee :: .leftParen :: lexemes ++ [.rightParen])
      [(Expression.call callee arguments).tree] := by
  intro tokens same
  simp only [List.cons_append, tokensOf_cons, tokensOf_append, tokensOf_nil] at same
  obtain ⟨token, _, rfl, ⟨kind, text⟩, opening, _, rfl, ⟨opens, _⟩, inner, _, rfl, same,
    closing, _, rfl, ⟨closes, _⟩, rfl⟩ := same
  obtain ⟨placed, derived, unplaced⟩ := writes inner same
  refine ⟨_, .call kind opens closes derived, ?_⟩
  rw [text]
  simp [Tree.unplacedAll, Tree.unplaced, Expression.tree, unplaced, Identifier.text,
    Lexeme.identifier]

theorem argument {expression : Expression} {lexemes : List Lexeme}
    (writes : Writes budget expression.phrase lexemes [expression.tree]) :
    Writes budget .arguments lexemes [expression.tree] :=
  writes.imp fun _ _ derived => .argument (expression.derives_chain derived (Nat.zero_le _))

theorem further {expression : Expression} {first rest : List Lexeme} {trees : List Tree}
    (writesFirst : Writes budget expression.phrase first [expression.tree])
    (writesRest : Writes budget .arguments rest trees) :
    Writes budget .arguments (first ++ .comma :: rest) (expression.tree :: trees) := by
  intro tokens same
  simp only [tokensOf_append, tokensOf_cons] at same
  obtain ⟨front, _, rfl, sameFirst, comma, later, rfl, ⟨isComma, _⟩, sameRest⟩ := same
  obtain ⟨tree, derivedFirst, unplaced⟩ := writesFirst.single sameFirst
  obtain ⟨placed, derivedRest, unplacedRest⟩ := writesRest later sameRest
  refine ⟨_, .further isComma (expression.derives_chain derivedFirst (Nat.zero_le _))
    derivedRest, ?_⟩
  simp [Tree.unplacedAll, unplaced, unplacedRest]

end Writes

namespace Expression

variable (quote : Quote)

mutual

theorem writes : (expression : Expression) → Writes expression.nesting expression.phrase
    (expression.lexemes quote) [expression.tree]
  | .number numeral => Writes.number numeral
  | .text content => Writes.text content
  | .truth value => Writes.truth value
  | .name word => Writes.name word
  | .unary operator operand => (writes operand).signed operator
  | .binary operator left right => (writes left).joined operator (writes right)
  | .call callee [] => Writes.emptyCall callee
  | .call callee (first :: rest) =>
      (writesAll (first :: rest) (List.cons_ne_nil first rest)).call callee

theorem writesAll : (arguments : List Expression) → arguments ≠ [] →
    Writes (argumentNesting arguments) .arguments (argumentLexemes quote arguments)
      (trees arguments)
  | [], more => absurd rfl more
  | [last], _ => by
      simpa [argumentNesting, argumentLexemes, trees] using (writes last).argument
  | first :: second :: rest, _ => by
      have later := writesAll (second :: rest) (by simp)
      exact ((writes first).weaken (Nat.le_max_left _ _)).further
        (later.weaken (Nat.le_max_right _ _))

end

end Expression

theorem Clause.statement {quote : Quote} (clause : Clause) {tokens : List Token}
    (same : TokensOf (clause.lexemes quote) tokens) :
    ∃ tree, Statement clause.nesting tokens tree ∧ tree.unplaced = clause.tree := by
  have derive (value : Expression) {tokens : List Token}
      (same : TokensOf (value.lexemes quote) tokens) :
      ∃ tree, Derives value.nesting .expression tokens [tree] ∧ tree.unplaced = value.tree := by
    obtain ⟨tree, derived, unplaced⟩ := (value.writes quote).single same
    exact ⟨tree, value.derives_chain derived (Nat.zero_le _), unplaced⟩
  cases clause with
  | bare value =>
      obtain ⟨tree, derived, unplaced⟩ := derive value same
      exact ⟨tree, .expression derived, unplaced⟩
  | binding name value =>
      simp only [Clause.lexemes, tokensOf_cons] at same
      obtain ⟨start, _, rfl, ⟨isBinding, _⟩, target, _, rfl, ⟨isName, text⟩, equals, rest, rfl,
        ⟨isAssign, _⟩, same⟩ := same
      obtain ⟨tree, derived, unplaced⟩ := derive value same
      refine ⟨_, .binding isBinding isName isAssign derived, ?_⟩
      simp [Tree.unplaced, Tree.unplacedAll, Clause.tree, unplaced, text, Identifier.text,
        Lexeme.identifier]

theorem laid_spaced (lexemes : List Lexeme) :
    Apart (lexemes.flatMap fun lexeme => ' ' :: lexeme.source) ∧
      Laid (lexemes.flatMap fun lexeme => ' ' :: lexeme.source) lexemes := by
  have space : Gap [' '] := .blank (by decide) .nil
  induction lexemes with
  | nil => exact ⟨by simp [Apart], .done .nil⟩
  | cons lexeme rest ih =>
      refine ⟨?_, .item lexeme space ih.1 ih.2⟩
      intro c next
      obtain rfl : ' ' = c := Option.some.inj next
      decide

theorem intercalate_source (first : Lexeme) (rest : List Lexeme) :
    [' '].intercalate ((first :: rest).map Lexeme.source) =
      first.source ++ rest.flatMap fun lexeme => ' ' :: lexeme.source := by
  induction rest generalizing first with
  | nil => simp [List.intercalate]
  | cons second rest ih =>
      have later := ih second
      simp_all [List.intercalate]

theorem laid_intercalate (lexemes : List Lexeme) :
    Laid ([' '].intercalate (lexemes.map Lexeme.source)) lexemes := by
  cases lexemes with
  | nil => exact .done .nil
  | cons first rest =>
      obtain ⟨apart, laid⟩ := laid_spaced rest
      rw [intercalate_source]
      exact .item first .nil apart laid

theorem Clause.scan_print (quote : Quote) (clause : Clause) :
    ∃ tokens closing tree, Token.scan (clause.print quote) = .ok (tokens ++ [closing]) ∧
      closing.kind = .finish ∧ Separated clause.nesting tokens [tree] ∧
      tree.unplaced = clause.tree := by
  obtain ⟨tokens, closing, scanned, closes, same⟩ :=
    scanFrom_of_laid (laid_intercalate (clause.lexemes quote)) .start
  obtain ⟨tree, statement, unplaced⟩ := clause.statement same
  exact ⟨tokens, closing, tree, by simpa [Token.scan, Clause.print] using scanned, closes,
    statement.separated, unplaced⟩

/-- Reading the text of a clause gives back its tree, but for the places. Within the budget for
nesting this always succeeds, and beyond it the parser may only complain about nesting. -/
theorem Clause.parse_print (quote : Quote) (clause : Clause) :
    ∃ tokens, Token.scan (clause.print quote) = .ok tokens ∧
      (clause.nesting ≤ Parser.nestingBudget ∨
          (∀ found, Tree.parse tokens ≠ .error (.nestedTooDeeply found)) →
        ∃ tree, Tree.parse tokens = .ok (some tree) ∧ tree.unplaced = clause.tree) := by
  obtain ⟨tokens, closing, tree, scanned, closes, separated, unplaced⟩ := clause.scan_print quote
  refine ⟨tokens ++ [closing], scanned, ?_⟩
  rintro (room | shallow)
  · have parsed := Parser.program_complete (separated.weaken room) closes
    exact ⟨tree, by rw [Tree.parse, parsed]; rfl, unplaced⟩
  · rcases Parser.parse_of_separated separated closes with ⟨found, deep⟩ | parsed
    · exact absurd deep (shallow found)
    · exact ⟨tree, parsed, unplaced⟩

theorem Clause.parse_print_power :
    ∃ (quote : Quote) (clause : Clause), clause.nesting ≤ Parser.nestingBudget ∧
      clause.print quote = "let y = - x ^ ( x == \"\\\"\" )" ∧
      ∃ tokens tree, Token.scan (clause.print quote) = .ok tokens ∧
        Tree.parse tokens = .ok (some tree) ∧ tree.unplaced = clause.tree := by
  let x : Expression := .name ⟨⟨'x', [], by decide, by simp, by decide⟩, by decide⟩
  let y : Identifier := ⟨'y', [], by decide, by simp, by decide⟩
  let clause : Clause :=
    .binding y (.binary .power (.unary .negative x) (.binary .equal x (.text "\"")))
  obtain ⟨tokens, scanned, parsed⟩ := Clause.parse_print ⟨Text.doubleQuote, by decide⟩ clause
  obtain ⟨tree, read, unplaced⟩ := parsed (.inl (by decide))
  exact ⟨_, clause, by decide, by decide, tokens, tree, scanned, read, unplaced⟩

end Reckoner
