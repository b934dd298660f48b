import Reckoner.Proofs.Evaluation.Justification
import Reckoner.Proofs.Evaluation.Recursion
import Reckoner.Proofs.Tree.Acceptance

/-!
Length is no nesting. A row of operands with binary operators between them takes nothing from the
budget of the parser, however long it is, and its tree nests no deeper than there are levels of
operators. So neither the parser nor the evaluation complains about nesting.
-/

namespace Reckoner

open Grammar

namespace Grammar

/-- A token that is an operand by itself. A name may be a variable or a truth value. -/
inductive Operand : Token → Prop
  | number {token x} : token.kind = .number → Number.readGrouped? token.text = some x →
      Operand token
  | text {token} : token.kind = .text → Operand token
  | name {token} : token.kind = .name → Operand token

/-- Operands with binary operators between them. -/
inductive Row : List Token → Prop
  | single {operand} : Operand operand → Row [operand]
  | further {row token operator operand} : Row row →
      BinaryOperator.ofToken? token.kind = some operator → Operand operand →
      Row (row ++ [token, operand])

inductive Rows : List Token → Prop
  | done : Rows []
  | bare {row rest} : Row row → Rows rest → Rows (row ++ rest)
  | closed {row semicolon rest} : Row row → semicolon.kind = .semicolon → Rows rest →
      Rows (row ++ semicolon :: rest)

theorem Operand.derives {token : Token} (operand : Operand token) :
    ∃ tree, Derives 0 .unary [token] [tree] := by
  cases operand with
  | number kind read => exact ⟨_, .plain (.number kind read)⟩
  | text kind => exact ⟨_, .plain (.text kind)⟩
  | name kind =>
      cases literal : Parser.literal? token.text with
      | none => exact ⟨_, .plain (.name kind literal)⟩
      | some b => exact ⟨_, .plain (.truth kind literal)⟩

theorem Row.derives {tokens : List Token} (row : Row tokens) :
    ∃ tree, Derives 0 .expression tokens [tree] := by
  induction row with
  | single operand =>
      obtain ⟨tree, derivation⟩ := operand.derives
      exact ⟨tree, derivation.chain 0⟩
  | further _ found operand ih =>
      obtain ⟨left, derivation⟩ := ih
      obtain ⟨right, operandDerivation⟩ := operand.derives
      exact derivation.extend found (Nat.zero_le _) operandDerivation

theorem Row.start {tokens : List Token} (row : Row tokens) :
    ∃ first rest, tokens = first :: rest ∧ Operand first := by
  induction row with
  | @single operand isOperand => exact ⟨operand, [], rfl, isOperand⟩
  | further _ _ _ ih =>
      obtain ⟨first, rest, rfl, isOperand⟩ := ih
      exact ⟨first, _, rfl, isOperand⟩

theorem Rows.stops {tokens : List Token} (rows : Rows tokens) (level : Nat) (row : List Token) :
    Parser.Stops level row tokens := by
  cases rows with
  | done => exact .before_finish rfl
  | bare first | closed first =>
      obtain ⟨token, rest, rfl, operand⟩ := first.start
      rw [List.cons_append]
      cases operand with
      | number kind | text kind | name kind =>
          exact .before_other (by simp [kind, BinaryOperator.ofToken?]) (by simp [kind])

/-- The nesting that a phrase may reach without any budget. -/
def flatNesting : Phrase → Nat
  | .chain level => operandLevel - level
  | .arguments => operandLevel
  | .unary | .primary => 0

theorem Derives.nesting_le {budget : Nat} {phrase : Phrase} {tokens : List Token}
    {trees : List Tree} (derivation : Derives budget phrase tokens trees) (none : budget = 0) :
    ∀ tree ∈ trees, tree.nesting ≤ flatNesting phrase ∧
      (tree.kind = .binary ∨ tree.nesting = 0) := by
  induction derivation with
  | operand _ _ ih =>
      intro tree member
      obtain ⟨nesting, shape⟩ := ih none tree member
      exact ⟨Nat.le_trans nesting (Nat.zero_le _), shape⟩
  | tighter _ ih =>
      intro tree member
      obtain ⟨nesting, shape⟩ := ih none tree member
      simp only [flatNesting] at nesting ⊢
      exact ⟨by omega, shape⟩
  | @joined _ level token operator left right leftTree rightTree _ same _ _ ihLeft ihRight =>
      obtain ⟨leftNesting, leftShape⟩ := ihLeft none leftTree (by simp)
      obtain ⟨rightNesting, _⟩ := ihRight none rightTree (by simp)
      have below := operator.level_lt
      simp only [flatNesting] at leftNesting rightNesting ⊢
      have leftPart : (if leftTree.kind = .binary then leftTree.nesting
          else leftTree.nesting + 1) ≤ operandLevel - level := by
        split
        · exact leftNesting
        next other =>
          rcases leftShape with binary | zero
          · exact absurd binary other
          · omega
      simp only [List.mem_singleton, forall_eq]
      refine ⟨?_, .inl rfl⟩
      simp only [Tree.nesting, Tree.chainNesting, Tree.innerNesting]
      omega
  | plain _ ih => exact ih none
  | number | text | truth | name | emptyCall =>
      simp [Tree.nesting, Tree.innerNesting]
  | signed | call | group =>
      simp [Parser.callCost, Parser.groupCost] at none
  | argument _ ih => exact ih none
  | further _ _ _ ihFirst ihRest =>
      rw [List.forall_mem_cons]
      exact ⟨ihFirst none _ (by simp), ihRest none⟩

theorem Rows.separated {tokens : List Token} (rows : Rows tokens) :
    ∃ trees, Separated 0 tokens trees ∧
      ∀ tree ∈ trees, tree.Regular ∧ tree.nesting ≤ operandLevel := by
  have facts {row : List Token} {tree : Tree} (derivation : Derives 0 .expression row [tree]) :
      tree.Regular ∧ tree.nesting ≤ operandLevel :=
    ⟨derivation.regular tree (by simp), (derivation.nesting_le rfl tree (by simp)).1⟩
  induction rows with
  | done => exact ⟨[], .done, by simp⟩
  | @bare row _ first rest ih =>
      obtain ⟨tree, derivation⟩ := first.derives
      obtain ⟨trees, separated, all⟩ := ih
      exact ⟨tree :: trees, .bare (.expression derivation) (rest.stops 0 row) separated,
        List.forall_mem_cons.mpr ⟨facts derivation, all⟩⟩
  | closed first semicolon _ ih =>
      obtain ⟨tree, derivation⟩ := first.derives
      obtain ⟨trees, separated, all⟩ := ih
      exact ⟨tree :: trees, .closed (.expression derivation) semicolon separated,
        List.forall_mem_cons.mpr ⟨facts derivation, all⟩⟩

end Grammar

namespace Evaluation

abbrev Shallow (bindings : Bindings) (α : Type) (action : Evaluation α) : Prop :=
  Confined bindings (· ≠ .nestedTooDeeply) α action

section

variable {bindings : Bindings}

theorem shallow_lookUp (name : String) :
    Shallow bindings Value (lookUp name) := by
  intro session same
  rw [lookUp, Attempt.get_bind]
  cases session.bindings.get? name with
  | some value => exact confined_pure value session same
  | none => exact confined_fail (by simp) session same

theorem shallow_call (name : String) (place : Place) (arguments : List Value) :
    Shallow bindings Value (call Builtin.standard name place arguments) := by
  rw [call]
  cases found : Builtin.find? Builtin.standard name with
  | some builtin =>
      have member : builtin ∈ Builtin.standard := List.mem_of_find?_eq_some found
      exact confined_invoke (by simp) member (by simp)
  | none =>
      apply (confined_note _).bind
      intro _ _
      exact confined_fail (by simp)

theorem shallow_applyBinary {symbol : String} (known : (BinaryOperator.ofSymbol? symbol).isSome)
    {operand : Evaluation Value} (shallow : Shallow bindings Value operand) (left : Value) :
    Shallow bindings Value (applyBinary (.text symbol) (some operand) left) := by
  obtain ⟨operator, found⟩ := Option.isSome_iff_exists.mp known
  simp only [applyBinary, binaryOperator?, found, combine]
  split
  · exact confined_pure _
  · apply shallow.bind
    intro right _
    exact confined_applyOperator (by simp) operator left right

theorem shallow_plainAll {children : List Tree}
    (below : ∀ child ∈ children, Shallow bindings Value (plain Builtin.standard child)) :
    Shallow bindings (List Value) (plainAll Builtin.standard children) := by
  induction children with
  | nil => exact confined_pure []
  | cons child rest ih =>
      rw [plainAll]
      apply (below child (by simp)).bind
      intro value _
      apply (ih fun other member => below other (by simp [member])).bind
      intro values _
      exact confined_pure _

theorem shallow_plain {tree : Tree} (regular : tree.Regular) :
    Shallow bindings Value (plain Builtin.standard tree) := by
  induction tree using Tree.induction with
  | node kind label place children ih =>
      obtain ⟨shaped, below⟩ := Tree.regular_node.mp regular
      have inner : ∀ child ∈ children, Shallow bindings Value (plain Builtin.standard child) :=
        fun child member => ih child member (below child member)
      unfold Tree.WellShaped at shaped
      split at shaped
      next same =>
        cases same
        exact confined_pure _
      next same =>
        cases same
        exact confined_pure _
      next same =>
        cases same
        exact confined_pure _
      next same =>
        cases same
        exact shallow_lookUp _
      next same =>
        cases same
        rw [plain, plainFirst]
        apply (inner _ (by simp)).bind
        intro operand _
        exact confined_applyUnary (by simp) shaped operand
      next same =>
        cases same
        rw [plain, plainFirst, plainSecond]
        apply (inner _ (by simp)).bind
        intro left _
        exact shallow_applyBinary shaped (inner _ (by simp)) left
      next same =>
        cases same
        rw [plain]
        apply (shallow_plainAll inner).bind
        intro arguments _
        exact shallow_call _ place arguments
      next => exact shaped.elim

end

theorem evaluate_shallow {tree : Tree} (regular : tree.Regular)
    (room : tree.nesting ≤ nestingRoom) (session : Session) :
    (evaluate Builtin.standard tree session).1 ≠ .error .nestedTooDeeply := by
  rw [evaluate_of_nesting room]
  intro failed
  exact (shallow_plain regular session rfl).2 .nestedTooDeeply failed rfl

end Evaluation

/-- Rows of operands are read, however many and however long they are, and no session makes the
evaluation of what was read complain about nesting. -/
theorem Tree.parse_rows (tokens : List Token) (closing : Token) (rows : Rows tokens)
    (closes : closing.kind = .finish) :
    ∃ result, Tree.parse (tokens ++ [closing]) = .ok result ∧
      (result = none ↔ tokens = []) ∧
      ∀ tree, result = some tree → ∀ session,
        (Evaluation.evaluate Builtin.standard tree session).1 ≠ .error .nestedTooDeeply := by
  obtain ⟨trees, separated, all⟩ := rows.separated
  have enough := separated.weaken (Nat.zero_le Parser.nestingBudget)
  refine ⟨trees.getLast?, ?_, ?_, ?_⟩
  · rw [Tree.parse, Parser.program_complete enough closes]
  · rw [List.getLast?_eq_none_iff]
    cases separated with
    | done => simp
    | bare derived | closed derived => simp [derived.nonempty]
  · intro tree last
    obtain ⟨regular, nesting⟩ := all tree (List.mem_of_getLast? last)
    have room : operandLevel ≤ Evaluation.nestingRoom := by decide
    exact Evaluation.evaluate_shallow regular (Nat.le_trans nesting room)

theorem Tree.parse_rows_mixed :
    ∃ tree, Tree.parse [⟨.name, "x", ⟨1, 1⟩⟩, ⟨.either, "or", ⟨1, 3⟩⟩, ⟨.number, "1", ⟨1, 6⟩⟩,
        ⟨.power, "^", ⟨1, 8⟩⟩, ⟨.text, "a", ⟨1, 10⟩⟩, ⟨.name, "y", ⟨1, 14⟩⟩,
        Token.finish ⟨1, 15⟩] = .ok (some tree) ∧
      ∀ session,
        (Evaluation.evaluate Builtin.standard tree session).1 ≠ .error .nestedTooDeeply := by
  have first : Row [⟨.name, "x", ⟨1, 1⟩⟩, ⟨.either, "or", ⟨1, 3⟩⟩, ⟨.number, "1", ⟨1, 6⟩⟩,
      ⟨.power, "^", ⟨1, 8⟩⟩, ⟨.text, "a", ⟨1, 10⟩⟩] :=
    .further (.further (.single (.name rfl)) rfl (.number rfl rfl)) rfl (.text rfl)
  have second : Row [⟨.name, "y", ⟨1, 14⟩⟩] := .single (.name rfl)
  obtain ⟨result, parsed, absent, shallow⟩ :=
    Tree.parse_rows _ (Token.finish ⟨1, 15⟩) (.bare first (.bare second .done)) rfl
  cases result with
  | none => exact absurd (absent.mp rfl) (by simp)
  | some tree => exact ⟨tree, parsed, shallow tree rfl⟩

end Reckoner
