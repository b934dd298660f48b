import Reckoner.Proofs.Tree.Soundness

/-!
The shape of trees that were read from tokens. Every node has the label and the children that its
kind asks for, its operator is known, and a binding can only be the root.
-/

namespace Reckoner

open Grammar

namespace Tree

theorem induction {motive : Tree → Prop}
    (node : ∀ kind label place children, (∀ child ∈ children, motive child) →
      motive (.node kind label place children)) (tree : Tree) : motive tree :=
  match tree with
  | .node kind label place children =>
      node kind label place children fun child _ => induction node child
termination_by sizeOf tree
decreasing_by
  have smaller := List.sizeOf_lt_of_mem ‹child ∈ children›
  simp only [Tree.node.sizeOf_spec]
  omega

mutual

def nodes : Tree → List Tree
  | .node kind label place children => .node kind label place children :: nodesAll children

def nodesAll : List Tree → List Tree
  | [] => []
  | tree :: rest => tree.nodes ++ nodesAll rest

end

theorem mem_nodes_self (tree : Tree) : tree ∈ tree.nodes := by
  obtain ⟨kind, label, place, children⟩ := tree
  simp [nodes]

theorem mem_nodesAll {node : Tree} {trees : List Tree} :
    node ∈ nodesAll trees ↔ ∃ tree ∈ trees, node ∈ tree.nodes := by
  induction trees with
  | nil => simp [nodesAll]
  | cons tree rest ih => simp [nodesAll, ih]

theorem mem_nodes_of_child {node child : Tree} {kind : NodeKind} {label : Label} {place : Place}
    {children : List Tree} (isChild : child ∈ children) (below : node ∈ child.nodes) :
    node ∈ (Tree.node kind label place children).nodes := by
  simp only [nodes, List.mem_cons, mem_nodesAll]
  exact .inr ⟨child, isChild, below⟩

/-- The label and the number of children that the kind of an expression asks for. -/
def WellShaped : Tree → Prop
  | .node .number (.number _) _ [] => True
  | .node .text (.text _) _ [] => True
  | .node .truth (.truth _) _ [] => True
  | .node .name (.text _) _ [] => True
  | .node .unary (.text symbol) _ [_] => (UnaryOperator.ofSymbol? symbol).isSome
  | .node .binary (.text symbol) _ [_, _] => (BinaryOperator.ofSymbol? symbol).isSome
  | .node .call (.text _) _ _ => True
  | _ => False

def Regular (tree : Tree) : Prop :=
  ∀ node ∈ tree.nodes, node.WellShaped

theorem regular_node {kind : NodeKind} {label : Label} {place : Place} {children : List Tree} :
    (Tree.node kind label place children).Regular ↔
      (Tree.node kind label place children).WellShaped ∧ ∀ child ∈ children, child.Regular := by
  simp only [Regular, nodes, List.mem_cons, mem_nodesAll, forall_eq_or_imp]
  constructor
  · rintro ⟨shaped, below⟩
    exact ⟨shaped, fun child isChild node member => below node ⟨child, isChild, member⟩⟩
  · rintro ⟨shaped, below⟩
    refine ⟨shaped, ?_⟩
    rintro node ⟨child, isChild, member⟩
    exact below child isChild node member

inductive IsStatement : Tree → Prop
  | expression {tree} : tree.Regular → IsStatement tree
  | binding {name place value} : value.Regular →
      IsStatement (.node .assign (.text name) place [value])

end Tree

theorem BinaryOperator.ofSymbol?_symbol (operator : BinaryOperator) :
    BinaryOperator.ofSymbol? operator.symbol = some operator := by
  cases operator <;> decide

theorem UnaryOperator.ofSymbol?_symbol (operator : UnaryOperator) :
    UnaryOperator.ofSymbol? operator.symbol = some operator := by
  cases operator <;> decide

theorem Grammar.Derives.regular {budget : Nat} {phrase : Phrase} {tokens : List Token}
    {trees : List Tree} (derivation : Derives budget phrase tokens trees) :
    ∀ tree ∈ trees, tree.Regular := by
  induction derivation with
  | operand _ _ ih | tighter _ ih | plain _ ih | argument _ ih | group _ _ _ ih => exact ih
  | @joined _ _ _ operator _ _ _ _ _ _ _ _ ihLeft ihRight =>
      simp only [List.mem_singleton, forall_eq] at ihLeft ihRight
      simp [Tree.regular_node, Tree.WellShaped, operator.ofSymbol?_symbol, ihLeft, ihRight]
  | @signed _ _ operator _ _ _ _ ih =>
      simp only [List.mem_singleton, forall_eq] at ih
      simp [Tree.regular_node, Tree.WellShaped, operator.ofSymbol?_symbol, ih]
  | number | text | truth | name | emptyCall => simp [Tree.regular_node, Tree.WellShaped]
  | call _ _ _ _ ih => simpa [Tree.regular_node, Tree.WellShaped] using ih
  | further _ _ _ ihFirst ihRest =>
      simp only [List.mem_singleton, forall_eq] at ihFirst
      simpa [ihFirst] using ihRest

theorem Grammar.Statement.isStatement {budget : Nat} {tokens : List Token} {tree : Tree}
    (statement : Statement budget tokens tree) : tree.IsStatement := by
  cases statement with
  | expression derivation => exact .expression (derivation.regular tree (by simp))
  | binding _ _ _ derivation => exact .binding (derivation.regular _ (by simp))

theorem Grammar.Program.isStatement {budget : Nat} {tokens : List Token} {trees : List Tree}
    (program : Program budget tokens trees) : ∀ tree ∈ trees, tree.IsStatement := by
  induction program with
  | done => simp
  | bare statement _ ih | closed statement _ _ ih =>
      rw [List.forall_mem_cons]
      exact ⟨statement.isStatement, ih⟩

theorem Tree.isStatement_of_parse {tokens : List Token} {tree : Tree}
    (parsed : Tree.parse tokens = .ok (some tree)) : tree.IsStatement := by
  have read : Parser.program Parser.nestingBudget tokens =
      (.ok (some tree), (Parser.program Parser.nestingBudget tokens).2) := Prod.ext parsed rfl
  rw [Parser.program, Parser.remaining_bind] at read
  obtain ⟨consumed, _, trees, program, last⟩ := Parser.statementsFrom_reads _ _ none read
  rw [Option.or_none] at last
  exact program.isStatement tree (List.mem_of_getLast? last.symm)

end Reckoner
