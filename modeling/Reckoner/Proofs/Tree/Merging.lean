import Reckoner.Proofs.Tree.Completeness

/-!
Statements need no separator, so that a program may derive in several ways: where one statement
could go on with the tokens of the next one, the two can be read as one. Taking every such chance
leaves statements that what follows cannot continue, as the parser reads them.

Whether a run of tokens derives at all does not depend on levels: an expression is a row of
operands with operators between them.
-/

namespace Reckoner

namespace Grammar

open Reckoner.Parser (ahead ahead_cons EndsInName endsInName_append endsInName_cons Stops)

def Derivable (phrase : Phrase) (tokens : List Token) : Prop :=
  ∃ budget tree, Derives budget phrase tokens [tree]

theorem Derives.chain {budget : Nat} {tokens : List Token} {tree : Tree}
    (derivation : Derives budget .unary tokens [tree]) (level : Nat) :
    Derives budget (.chain level) tokens [tree] := by
  generalize distance : operandLevel - level = steps
  induction steps generalizing level with
  | zero => exact .operand (by omega) derivation
  | succ steps ih => exact .tighter (ih (level + 1) (by omega))

theorem Derives.extend {budget level : Nat} {left right : List Token} {trees : List Tree}
    {rightTree : Tree} {token : Token} {operator : BinaryOperator}
    (derivation : Derives budget (.chain level) left trees)
    (found : BinaryOperator.ofToken? token.kind = some operator) (bound : level ≤ operator.level)
    (operand : Derives budget .unary right [rightTree]) :
    ∃ tree, Derives budget (.chain level) (left ++ token :: right) [tree] := by
  generalize same : Phrase.chain level = phrase at derivation
  induction derivation generalizing level with
  | operand beyond _ _ =>
      cases same
      have below := operator.level_lt
      omega
  | @tighter _ level _ _ derivation ih =>
      cases same
      by_cases here : operator.level = level
      · exact ⟨_, .joined found here (.tighter derivation) (operand.chain (level + 1))⟩
      · obtain ⟨tree, extended⟩ := ih (by omega) operand rfl
        exact ⟨tree, .tighter extended⟩
  | @joined _ level _ _ _ _ _ _ foundInner sameInner leftInner rightInner _ ihRight =>
      cases same
      by_cases here : operator.level = level
      · exact ⟨_, .joined found here (.joined foundInner sameInner leftInner rightInner)
          (operand.chain (level + 1))⟩
      · obtain ⟨tree, extended⟩ := ihRight (by omega) operand rfl
        rw [List.append_assoc, List.cons_append]
        exact ⟨_, .joined foundInner sameInner leftInner extended⟩
  | _ => cases same

inductive Tail : List Token → Prop
  | nil : Tail []
  | cons {token operator operand rest} : BinaryOperator.ofToken? token.kind = some operator →
      Derivable .unary operand → Tail rest → Tail (token :: operand ++ rest)

theorem Tail.append {left right : List Token} (tail : Tail left) (further : Tail right) :
    Tail (left ++ right) := by
  induction tail with
  | nil => exact further
  | cons found operand _ ih =>
      rw [List.append_assoc]
      exact .cons found operand ih

theorem Derivable.append_tail {left tail : List Token} (derivable : Derivable .expression left)
    (follows : Tail tail) : Derivable .expression (left ++ tail) := by
  induction follows generalizing left with
  | nil => simpa using derivable
  | @cons token operator operand rest found operandDerivable _ ih =>
      obtain ⟨budget, leftTree, derivation⟩ := derivable
      obtain ⟨larger, rightTree, operandDerivation⟩ := operandDerivable
      obtain ⟨tree, extended⟩ := (derivation.weaken (Nat.le_max_left budget larger)).extend found
        (Nat.zero_le _) (operandDerivation.weaken (Nat.le_max_right budget larger))
      have whole := ih ⟨_, tree, extended⟩
      simpa using whole

theorem Derives.first_tail {budget : Nat} {phrase : Phrase} {tokens : List Token}
    {trees : List Tree} (derivation : Derives budget phrase tokens trees) {level : Nat}
    (isChain : phrase = .chain level) :
    ∃ first tail, tokens = first ++ tail ∧ Derivable .unary first ∧ Tail tail := by
  induction derivation generalizing level with
  | operand _ derivation _ =>
      exact ⟨_, [], (List.append_nil _).symm, ⟨_, _, derivation⟩, .nil⟩
  | tighter _ ih => exact ih rfl
  | joined found _ _ _ ihLeft ihRight =>
      obtain ⟨first, tail, rfl, firstDerivable, follows⟩ := ihLeft rfl
      obtain ⟨second, further, rfl, secondDerivable, followsFurther⟩ := ihRight rfl
      exact ⟨first, _, List.append_assoc _ _ _, firstDerivable,
        follows.append (.cons found secondDerivable followsFurther)⟩
  | _ => cases isChain

theorem not_endsInName {tokens : List Token} {last : Token} (kind : last.kind ≠ .name) :
    ¬EndsInName (tokens ++ [last]) := by
  rintro ⟨found, isLast, isName⟩
  rw [List.getLast?_concat, Option.some.injEq] at isLast
  exact kind (isLast ▸ isName)

section Groups

variable {opening closing : Token} {inside : List Token}

theorem Derives.called {budget : Nat} {phrase : Phrase} {tokens : List Token} {trees : List Tree}
    (derivation : Derives budget phrase tokens trees)
    (isOperand : phrase = .unary ∨ phrase = .primary) (ends : EndsInName tokens)
    (opens : opening.kind = .leftParen) (closes : closing.kind = .rightParen)
    (inner : Derivable .expression inside) :
    Derivable phrase (tokens ++ opening :: (inside ++ [closing])) := by
  induction derivation with
  | signed found operand ih =>
      obtain ⟨_, _, derivation⟩ := ih (.inl rfl) ((endsInName_cons operand.nonempty).mp ends)
      exact ⟨_, _, .signed found derivation⟩
  | plain _ ih =>
      obtain ⟨_, _, derivation⟩ := ih (.inr rfl) ends
      exact ⟨_, _, .plain derivation⟩
  | truth kind _ | name kind _ =>
      obtain ⟨_, _, derivation⟩ := inner
      exact ⟨_, _, .call kind opens closes (.argument derivation)⟩
  | @number _ token _ kind | @text _ token kind =>
      exact absurd ends (@not_endsInName [] token (by simp [kind]))
  | @emptyCall _ callee opening closing _ _ closes =>
      exact absurd ends (@not_endsInName [callee, opening] closing (by simp [closes]))
  | call _ _ closes | group _ closes => exact absurd ends (not_endsInName (by simp [closes]))
  | _ => simp at isOperand

theorem Tail.called {tail : List Token} (follows : Tail tail) (ends : EndsInName tail)
    (opens : opening.kind = .leftParen) (closes : closing.kind = .rightParen)
    (inner : Derivable .expression inside) : Tail (tail ++ opening :: (inside ++ [closing])) := by
  induction follows with
  | nil => simp [EndsInName] at ends
  | @cons token operator operand rest found operandDerivable follows ih =>
      by_cases last : rest = []
      · subst last
        obtain ⟨_, _, derivation⟩ := operandDerivable
        rw [List.append_nil] at ends ⊢
        have extended := derivation.called (.inl rfl)
          ((endsInName_cons derivation.nonempty).mp ends) opens closes inner
        simpa using Tail.cons found extended .nil
      · rw [List.append_assoc]
        exact .cons found operandDerivable (ih ((endsInName_append last).mp ends))

theorem Derives.operand_of_minus {budget : Nat} {token : Token} {rest : List Token}
    {trees : List Tree} (derivation : Derives budget .unary (token :: rest) trees)
    (isMinus : token.kind = .minus) : Derivable .unary rest := by
  cases derivation with
  | signed _ operand => exact ⟨_, _, operand⟩
  | plain derivation =>
      obtain ⟨_, _, ⟨⟩, _, opens⟩ := derivation.start
      simp [isMinus, opensPrimary] at opens

theorem Derives.group_of_paren {budget : Nat} {token : Token} {rest : List Token}
    {trees : List Tree} (derivation : Derives budget .unary (token :: rest) trees)
    (opens : token.kind = .leftParen) :
    ∃ inside closing, rest = inside ++ [closing] ∧ closing.kind = .rightParen ∧
      Derivable .expression inside := by
  cases derivation with
  | signed found _ => simp [opens, UnaryOperator.ofToken?] at found
  | plain derivation =>
      cases derivation with
      | group _ closes inner => exact ⟨_, _, rfl, closes, _, _, inner⟩
      | number kind | text kind | truth kind | name kind | emptyCall kind | call kind =>
          simp [opens] at kind

end Groups

/-- Where a second expression could continue the first one, the two are one expression. It starts
with a minus, which is then taken as a binary operator, or with a parenthesis behind a name. -/
theorem Derivable.merge {left right : List Token} (leftDerivable : Derivable .expression left)
    (rightDerivable : Derivable .expression right) (continues : ¬Stops 0 left right) :
    Derivable .expression (left ++ right) := by
  obtain ⟨_, _, derivation⟩ := rightDerivable
  obtain ⟨first, tail, rfl, ⟨_, _, operand⟩, follows⟩ := derivation.first_tail rfl
  obtain ⟨token, rest, rfl, opens, _⟩ := operand.start
  cases found : BinaryOperator.ofToken? token.kind with
  | some operator =>
      have isMinus := opens_and_joins opens found
      exact leftDerivable.append_tail (.cons found (operand.operand_of_minus isMinus) follows)
  | none =>
      by_cases called : EndsInName left ∧ token.kind = .leftParen
      · obtain ⟨ends, opening⟩ := called
        obtain ⟨inside, closing, rfl, closes, inner⟩ := operand.group_of_paren opening
        obtain ⟨_, _, leftDerivation⟩ := leftDerivable
        obtain ⟨head, further, rfl, ⟨budget, tree, headDerivation⟩, furtherFollows⟩ :=
          leftDerivation.first_tail rfl
        rw [← List.append_assoc]
        apply Derivable.append_tail _ follows
        by_cases alone : further = []
        · subst alone
          rw [List.append_nil] at ends ⊢
          obtain ⟨larger, node, whole⟩ :=
            headDerivation.called (.inl rfl) ends opening closes inner
          exact ⟨larger, node, whole.chain 0⟩
        · rw [List.append_assoc]
          apply Derivable.append_tail ⟨budget, tree, headDerivation.chain 0⟩
          exact furtherFollows.called ((endsInName_append alone).mp ends) opening closes inner
      · refine absurd ?_ continues
        exact { looser := fun operator known => by simp [found] at known
                uncalled := fun ends opening => called ⟨ends, opening⟩ }

theorem Statement.merge_expression {budget : Nat} {first second : List Token} {tree : Tree}
    (statement : Statement budget first tree) (derivable : Derivable .expression second)
    (continues : ¬Stops 0 first second) :
    ∃ larger node, Statement larger (first ++ second) node := by
  cases statement with
  | expression derivation =>
      obtain ⟨larger, node, whole⟩ := Derivable.merge ⟨_, _, derivation⟩ derivable continues
      exact ⟨larger, node, .expression whole⟩
  | @binding start name equals tokens value isBinding isName isAssign derivation =>
      have continuesValue : ¬Stops 0 tokens second := by
        intro stops
        exact continues (@Stops.append 0 [start, name, equals] tokens second derivation.nonempty stops)
      obtain ⟨larger, node, whole⟩ := Derivable.merge ⟨_, _, derivation⟩ derivable continuesValue
      exact ⟨larger, _, .binding isBinding isName isAssign whole⟩

theorem Statement.merge {budget larger : Nat} {first second rest : List Token} {tree other : Tree}
    (statement : Statement budget first tree) (following : Statement larger second other)
    (continues : ¬Stops 0 first (second ++ rest)) :
    ∃ enough node, Statement enough (first ++ second) node := by
  have same := Parser.ahead_append following.nonempty rest
  cases following with
  | expression derivation =>
      apply statement.merge_expression ⟨_, _, derivation⟩
      intro stops
      exact continues (stops.congr (by rw [same]))
  | binding isBinding =>
      refine absurd (Stops.before_other ?_ ?_) continues
      · rw [same]
        simp [isBinding, BinaryOperator.ofToken?]
      · rw [same]
        simp [isBinding]

/-- A program whose statements are as long as they can be. -/
inductive Separated (budget : Nat) : List Token → List Tree → Prop
  | done : Separated budget [] []
  | bare {first tree rest trees} : Statement budget first tree → Stops 0 first rest →
      Separated budget rest trees → Separated budget (first ++ rest) (tree :: trees)
  | closed {first tree semicolon rest trees} : Statement budget first tree →
      semicolon.kind = .semicolon → Separated budget rest trees →
      Separated budget (first ++ semicolon :: rest) (tree :: trees)

theorem Separated.weaken {budget larger : Nat} {tokens : List Token} {trees : List Tree}
    (separated : Separated budget tokens trees) (room : budget ≤ larger) :
    Separated larger tokens trees := by
  induction separated with
  | done => exact .done
  | bare statement stops _ ih => exact .bare (statement.weaken room) stops ih
  | closed statement isSemicolon _ ih => exact .closed (statement.weaken room) isSemicolon ih

theorem Separated.prepend {budget : Nat} {first rest : List Token} {tree : Tree}
    {trees : List Tree} (separated : Separated budget rest trees)
    (statement : Statement budget first tree) :
    ∃ larger others, Separated larger (first ++ rest) others := by
  by_cases stops : Stops 0 first rest
  · exact ⟨budget, tree :: trees, .bare statement stops separated⟩
  · cases separated with
    | done => exact absurd (Stops.before_finish rfl) stops
    | @bare second other later trees following stopsSecond separated =>
        obtain ⟨larger, node, merged⟩ := statement.merge following stops
        refine ⟨max budget larger, node :: trees, ?_⟩
        rw [← List.append_assoc]
        exact .bare (merged.weaken (Nat.le_max_right ..))
          (stopsSecond.append following.nonempty) (separated.weaken (Nat.le_max_left ..))
    | @closed second other semicolon later trees following isSemicolon separated =>
        obtain ⟨larger, node, merged⟩ := statement.merge following stops
        refine ⟨max budget larger, node :: trees, ?_⟩
        rw [← List.append_assoc]
        exact .closed (merged.weaken (Nat.le_max_right ..)) isSemicolon
          (separated.weaken (Nat.le_max_left ..))

theorem Program.separate {budget : Nat} {tokens : List Token} {trees : List Tree}
    (program : Program budget tokens trees) : ∃ larger others, Separated larger tokens others := by
  induction program with
  | done => exact ⟨budget, [], .done⟩
  | bare statement _ ih =>
      obtain ⟨larger, others, separated⟩ := ih
      exact (separated.weaken (Nat.le_max_right budget larger)).prepend
        (statement.weaken (Nat.le_max_left budget larger))
  | closed statement isSemicolon _ ih =>
      obtain ⟨larger, others, separated⟩ := ih
      exact ⟨max budget larger, _, .closed (statement.weaken (Nat.le_max_left ..)) isSemicolon
        (separated.weaken (Nat.le_max_right ..))⟩

end Grammar

end Reckoner
