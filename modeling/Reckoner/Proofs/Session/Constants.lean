import Reckoner.Proofs.Evaluation.Recursion
import Reckoner.Proofs.Session.Faults
import Reckoner.Proofs.Tree.Places

/-!
Lines that bind constants. Where an expression has the same value in every session and changes none,
running the text of a clause that binds a name to it binds the name to that value.
-/

namespace Reckoner

open Token Grammar Evaluation

namespace Tree

theorem kind_unplaced (tree : Tree) : tree.unplaced.kind = tree.kind := by
  cases tree
  rfl

mutual

theorem nesting_unplaced : (tree : Tree) → tree.unplaced.nesting = tree.nesting
  | .node kind _ _ children => by
      have inner := innerNesting_unplacedAll children
      cases kind with
      | binary => exact chainNesting_unplacedAll children
      | _ => simpa [unplaced, nesting] using inner

theorem chainNesting_unplacedAll : (trees : List Tree) →
    chainNesting (unplacedAll trees) = chainNesting trees
  | [] => rfl
  | tree :: rest => by
      simp only [unplacedAll, chainNesting, kind_unplaced, nesting_unplaced tree,
        innerNesting_unplacedAll rest]

theorem innerNesting_unplacedAll : (trees : List Tree) →
    innerNesting (unplacedAll trees) = innerNesting trees
  | [] => rfl
  | tree :: rest => by
      simp only [unplacedAll, innerNesting, nesting_unplaced tree, innerNesting_unplacedAll rest]

end

end Tree

namespace Line

theorem tree_of_scan {line : String} {tokens : List Token} (scanned : scan line = .ok tokens) :
    tree line = (Tree.parse tokens).mapError .parse := by
  rw [tree, Line.tokens, scanned]
  rfl

theorem tree_of_separated {line : String} {tokens : List Token} {trees : List Tree}
    {closing : Token} (scanned : scan line = .ok (tokens ++ [closing]))
    (closes : closing.kind = .finish)
    (separated : Separated Parser.nestingBudget tokens trees) :
    tree line = .ok trees.getLast? := by
  rw [tree_of_scan scanned, Tree.parse, Parser.program_complete separated closes]
  rfl

theorem tree_print (quote : Quote) {clause : Clause}
    (shallow : clause.nesting ≤ Parser.nestingBudget) :
    ∃ tree, Line.tree (clause.print quote) = .ok (some tree) ∧ tree.unplaced = clause.tree := by
  obtain ⟨tokens, closing, tree, scanned, closes, separated, unplaced⟩ := clause.scan_print quote
  exact ⟨tree, tree_of_separated scanned closes (separated.weaken shallow), unplaced⟩

end Line

namespace Expression

/-- The expression has the value in every session and changes none, wherever it stands. -/
def Constant (expression : Expression) (value : Value) : Prop :=
  ∀ tree : Tree, tree.unplaced = expression.tree →
    plain Builtin.standard tree = (pure value : Evaluation Value)

theorem constant_text (content : String) : (text content).Constant (.text content) := by
  intro tree same
  rw [Expression.tree] at same
  obtain ⟨place, _, rfl, _⟩ := Tree.of_unplaced same
  rw [plain, Label.spelled]

theorem constant_truth (value : Bool) : (truth value).Constant (.truth value) := by
  intro tree same
  rw [Expression.tree] at same
  obtain ⟨place, _, rfl, _⟩ := Tree.of_unplaced same
  rw [plain, Label.isTrue]

theorem Constant.conjunction {left : Expression} {value : Value} (constant : left.Constant value)
    (decides : value.isTrue = false) (right : Expression) :
    (binary .conjunction left right).Constant (.truth false) := by
  intro tree same
  rw [Expression.tree] at same
  obtain ⟨place, parts, rfl, sameParts⟩ := Tree.of_unplaced same
  obtain ⟨first, others, rfl, sameLeft, sameOthers⟩ := Tree.of_unplacedAll sameParts
  obtain ⟨second, _, rfl, _, _⟩ := Tree.of_unplacedAll sameOthers
  rw [plain, plainFirst, constant first sameLeft, plainSecond, pure_bind]
  have known : binaryOperator? (.text BinaryOperator.conjunction.symbol) = some .conjunction := by
    decide
  have decided : decided? .conjunction value = some (.truth false) := by
    simp [decided?, decides]
  simp only [applyBinary, known, combine, decided]

end Expression

theorem Line.run_constant {expression : Expression} {value : Value}
    (constant : expression.Constant value)
    (shallow : expression.nesting ≤ Parser.nestingBudget)
    (room : expression.tree.nesting < nestingRoom) (name : Identifier) (quote : Quote)
    (session : Session) :
    run ((Clause.binding name expression).print quote) session =
      (.ok value, (session.note
        (.lineRun ((Clause.binding name expression).print quote))).bind name.text value) := by
  have within : (Clause.binding name expression).nesting ≤ Parser.nestingBudget := shallow
  obtain ⟨statement, read, same⟩ := tree_print quote within
  rw [Clause.tree] at same
  obtain ⟨place, parts, rfl, sameParts⟩ := Tree.of_unplaced same
  obtain ⟨tree, others, rfl, sameTree, _⟩ := Tree.of_unplacedAll sameParts
  have nested : (Tree.node .assign (.text name.text) place (tree :: others)).nesting ≤
      nestingRoom := by
    rw [← Tree.nesting_unplaced, same]
    simp only [Tree.nesting, Tree.innerNesting, Nat.max_zero]
    exact room
  rw [run_of_tree read, Line.value, evaluate_of_nesting nested, plain, plainFirst,
    constant tree sameTree, pure_bind]
  rfl

theorem Line.run_text (name : Identifier) (content : String) (quote : Quote) (session : Session) :
    run ((Clause.binding name (.text content)).print quote) session =
      (.ok (.text content), (session.note
        (.lineRun ((Clause.binding name (.text content)).print quote))).bind name.text
          (.text content)) := by
  have room : (Expression.text content).tree.nesting < nestingRoom :=
    show 0 < nestingRoom by decide
  exact run_constant (Expression.constant_text content) (Nat.zero_le _) room name quote session

end Reckoner
