import Reckoner.Proofs.Tree.Grammar

/-!
What the parser reads is derivable. Every parser that succeeds has consumed a run of tokens from
which its result derives, within the budget that it was given.
-/

namespace Reckoner

namespace Parser

open Grammar

/-- Whenever the parser succeeds, what it consumed is related to its result. -/
def Reads {α : Type} (parser : Parser α) (relation : List Token → α → Prop) : Prop :=
  ∀ ⦃input : List Token⦄ ⦃result : α⦄ ⦃rest : List Token⦄, parser input = (.ok result, rest) →
    ∃ consumed, input = consumed ++ rest ∧ relation consumed result

def ahead (input : List Token) : Token :=
  input.headD (Token.finish .nowhere)

@[simp] theorem ahead_cons (token : Token) (rest : List Token) : ahead (token :: rest) = token :=
  rfl

theorem ahead_cons_tail {input : List Token} (more : (ahead input).kind ≠ .finish) :
    input = ahead input :: input.tail := by
  cases input with
  | nil => exact absurd rfl more
  | cons token rest => rfl

theorem current_bind {α : Type} (next : Token → Parser α) (input : List Token) :
    (current >>= next) input = next (ahead input) input :=
  rfl

theorem advance_bind {α : Type} (next : Unit → Parser α) (input : List Token) :
    (advance >>= next) input = next () input.tail :=
  rfl

theorem remaining_bind {α : Type} (next : List Token → Parser α) (input : List Token) :
    (remaining >>= next) input = next input input :=
  rfl

theorem expect_eq_ok {kinds : List TokenKind} {input rest : List Token} {token : Token}
    (inside : TokenKind.finish ∉ kinds) (taken : expect kinds input = (.ok token, rest)) :
    input = token :: rest ∧ token.kind ∈ kinds := by
  simp only [expect, current_bind] at taken
  by_cases member : (ahead input).kind ∈ kinds
  · simp only [member, if_true, advance_bind, Attempt.pure_apply, Prod.mk.injEq,
      Except.ok.injEq] at taken
    obtain ⟨rfl, rfl⟩ := taken
    exact ⟨ahead_cons_tail (ne_of_mem_of_not_mem member inside), member⟩
  · simp [member, Attempt.fail] at taken

theorem operatorOf?_eq_some {operators : List BinaryOperator} {token : Token}
    {operator : BinaryOperator} :
    operatorOf? operators token = some operator ↔
      BinaryOperator.ofToken? token.kind = some operator ∧ operator ∈ operators := by
  simp [operatorOf?, Option.filter_eq_some_iff]

section Chains

variable {operators : List BinaryOperator} {operand : Parser Tree} {budget level : Nat}

theorem chainFrom_reads (members : ∀ operator ∈ operators, operator.level = level)
    (reads : Reads operand fun tokens tree => Derives budget (.chain (level + 1)) tokens [tree])
    (bound : List Token) {left : Tree} {before : List Token}
    (derivation : Derives budget (.chain level) before [left]) :
    Reads (chainFrom operators operand bound left) fun tokens tree =>
      Derives budget (.chain level) (before ++ tokens) [tree] := by
  induction bound generalizing left before with
  | nil =>
      intro input result rest parsed
      simp only [chainFrom, Attempt.pure_apply, Prod.mk.injEq, Except.ok.injEq] at parsed
      obtain ⟨rfl, rfl⟩ := parsed
      exact ⟨[], rfl, by simpa using derivation⟩
  | cons _ bound ih =>
      intro input result rest parsed
      simp only [chainFrom, current_bind] at parsed
      cases found : operatorOf? operators (ahead input) with
      | none =>
          simp only [found, Attempt.pure_apply, Prod.mk.injEq, Except.ok.injEq] at parsed
          obtain ⟨rfl, rfl⟩ := parsed
          exact ⟨[], rfl, by simpa using derivation⟩
      | some operator =>
          simp only [found, advance_bind, Attempt.bind_eq_ok_iff] at parsed
          obtain ⟨right, middle, read, parsed⟩ := parsed
          obtain ⟨known, member⟩ := operatorOf?_eq_some.mp found
          obtain ⟨consumed, split, rightDerivation⟩ := reads read
          have joined := Derives.joined known (members operator member) derivation rightDerivation
          obtain ⟨further, splitFurther, whole⟩ := ih joined parsed
          refine ⟨_ :: consumed ++ further, ?_, by simpa using whole⟩
          rw [ahead_cons_tail (kind_of_binary known), split, splitFurther]
          simp

theorem chain_reads (members : ∀ operator ∈ operators, operator.level = level)
    (reads : Reads operand fun tokens tree => Derives budget (.chain (level + 1)) tokens [tree]) :
    Reads (chain operators operand) fun tokens tree =>
      Derives budget (.chain level) tokens [tree] := by
  intro input result rest parsed
  simp only [chain, remaining_bind, Attempt.bind_eq_ok_iff] at parsed
  obtain ⟨left, middle, read, parsed⟩ := parsed
  obtain ⟨first, rfl, derivation⟩ := reads read
  obtain ⟨further, rfl, whole⟩ := chainFrom_reads members reads middle (.tighter derivation) parsed
  exact ⟨first ++ further, by simp, whole⟩

end Chains

def operatorsOf (level : Nat) : List BinaryOperator :=
  BinaryOperator.levels.getD level []

theorem mem_operatorsOf {level : Nat} (below : level < operandLevel) (operator : BinaryOperator) :
    operator ∈ operatorsOf level ↔ operator.level = level := by
  revert level
  cases operator <;> decide

def levelParser (budget level : Nat) : Parser Tree :=
  climb (BinaryOperator.levels.drop level) (unary budget)

theorem levelParser_of_below {level : Nat} (budget : Nat) (below : level < operandLevel) :
    levelParser budget level = chain (operatorsOf level) (levelParser budget (level + 1)) := by
  have inside : level < BinaryOperator.levels.length := below
  have found : operatorsOf level = BinaryOperator.levels[level] := by
    simp [operatorsOf, List.getD_eq_getElem?_getD, inside]
  rw [levelParser, List.drop_eq_getElem_cons inside, found]
  rfl

theorem levelParser_of_beyond {level : Nat} (budget : Nat) (beyond : operandLevel ≤ level) :
    levelParser budget level = unary budget := by
  have outside : BinaryOperator.levels.length ≤ level := beyond
  simp [levelParser, climb, List.drop_eq_nil_of_le outside]

theorem levelParser_reads {budget : Nat}
    (reads : Reads (unary budget) fun tokens tree => Derives budget .unary tokens [tree])
    (level : Nat) :
    Reads (levelParser budget level) fun tokens tree =>
      Derives budget (.chain level) tokens [tree] := by
  generalize distance : operandLevel - level = steps
  induction steps generalizing level with
  | zero =>
      have beyond : operandLevel ≤ level := by omega
      rw [levelParser_of_beyond budget beyond]
      intro input result rest parsed
      obtain ⟨consumed, split, derivation⟩ := reads parsed
      exact ⟨consumed, split, .operand beyond derivation⟩
  | succ steps ih =>
      have below : level < operandLevel := by omega
      rw [levelParser_of_below budget below]
      apply chain_reads
      · intro operator member
        exact (mem_operatorsOf below operator).mp member
      · exact ih (level + 1) (by omega)

section Calls

variable {room : Prop} {argument : Parser Tree} {budget : Nat}

theorem argumentsFrom_reads
    (reads : Reads argument fun tokens tree => room ∧ Derives budget .expression tokens [tree])
    (bound : List Token) :
    Reads (argumentsFrom argument bound) fun tokens trees =>
      ∀ before first, Derives budget .expression before [first] →
        Derives budget .arguments (before ++ tokens) (first :: trees) := by
  induction bound with
  | nil =>
      intro input result rest parsed
      simp only [argumentsFrom, Attempt.pure_apply, Prod.mk.injEq, Except.ok.injEq] at parsed
      obtain ⟨rfl, rfl⟩ := parsed
      exact ⟨[], rfl, fun before first derivation => by simpa using .argument derivation⟩
  | cons _ bound ih =>
      intro input result rest parsed
      simp only [argumentsFrom, current_bind] at parsed
      by_cases comma : (ahead input).kind = .comma
      · simp only [comma, if_true, advance_bind, Attempt.bind_eq_ok_iff, Attempt.pure_apply,
          Prod.mk.injEq, Except.ok.injEq] at parsed
        obtain ⟨next, middle, read, others, _, readOthers, rfl, rfl⟩ := parsed
        obtain ⟨consumed, split, _, derivation⟩ := reads read
        obtain ⟨further, rfl, rest⟩ := ih readOthers
        refine ⟨ahead input :: consumed ++ further, ?_, ?_⟩
        · have more : (ahead input).kind ≠ .finish := by simp [comma]
          rw [ahead_cons_tail more, split]
          simp
        · intro before first firstDerivation
          exact .further comma firstDerivation (rest consumed next derivation)
      · simp only [comma, if_false, Attempt.pure_apply, Prod.mk.injEq, Except.ok.injEq] at parsed
        obtain ⟨rfl, rfl⟩ := parsed
        exact ⟨[], rfl, fun before first derivation => by simpa using .argument derivation⟩

theorem arguments_reads
    (reads : Reads argument fun tokens tree => room ∧ Derives budget .expression tokens [tree]) :
    Reads (arguments argument) fun tokens trees =>
      (tokens = [] ∧ trees = []) ∨ (room ∧ Derives budget .arguments tokens trees) := by
  intro input result rest parsed
  simp only [arguments, current_bind] at parsed
  by_cases closing : (ahead input).kind = .rightParen
  · simp only [closing, if_true, Attempt.pure_apply, Prod.mk.injEq, Except.ok.injEq] at parsed
    obtain ⟨rfl, rfl⟩ := parsed
    exact ⟨[], rfl, Or.inl ⟨rfl, rfl⟩⟩
  · simp only [closing, if_false, remaining_bind, Attempt.bind_eq_ok_iff, Attempt.pure_apply,
      Prod.mk.injEq, Except.ok.injEq] at parsed
    obtain ⟨first, middle, read, others, _, readOthers, rfl, rfl⟩ := parsed
    obtain ⟨consumed, rfl, enough, derivation⟩ := reads read
    obtain ⟨further, rfl, whole⟩ := argumentsFrom_reads reads middle readOthers
    exact ⟨consumed ++ further, by simp, Or.inr ⟨enough, whole consumed first derivation⟩⟩

end Calls

section Primaries

variable {group argument : Parser Tree} {budget : Nat}

theorem call_reads {callee : Token} (isName : callee.kind = .name)
    (reads : Reads argument fun tokens tree =>
      callCost ≤ budget ∧ Derives (budget - callCost) .expression tokens [tree]) :
    Reads (call argument callee) fun tokens tree =>
      Derives budget .primary (callee :: tokens) [tree] := by
  intro input result rest parsed
  simp only [call, Attempt.bind_eq_ok_iff, Attempt.pure_apply, Prod.mk.injEq,
    Except.ok.injEq] at parsed
  obtain ⟨opening, _, opened, children, _, readChildren, closing, _, closed, rfl, rfl⟩ := parsed
  obtain ⟨rfl, opens⟩ := expect_eq_ok (by simp) opened
  obtain ⟨rfl, closes⟩ := expect_eq_ok (by simp) closed
  obtain ⟨consumed, rfl, none | ⟨enough, derivation⟩⟩ := arguments_reads reads readChildren
  · obtain ⟨rfl, rfl⟩ := none
    exact ⟨[opening, closing], rfl,
      .emptyCall isName (List.mem_singleton.mp opens) (List.mem_singleton.mp closes)⟩
  · refine ⟨opening :: consumed ++ [closing], by simp, ?_⟩
    have whole := Derives.call isName (List.mem_singleton.mp opens) (List.mem_singleton.mp closes)
      derivation
    rwa [Nat.sub_add_cancel enough] at whole

theorem named_reads {token : Token} (isName : token.kind = .name)
    (reads : Reads argument fun tokens tree =>
      callCost ≤ budget ∧ Derives (budget - callCost) .expression tokens [tree]) :
    Reads (named argument token) fun tokens tree =>
      Derives budget .primary (token :: tokens) [tree] := by
  intro input result rest parsed
  simp only [named, current_bind] at parsed
  by_cases opening : (ahead input).kind = .leftParen
  · simp only [opening, if_true] at parsed
    exact call_reads isName reads parsed
  · simp only [opening, if_false] at parsed
    cases literal : literal? token.text with
    | some b =>
        simp only [literal, Attempt.pure_apply, Prod.mk.injEq, Except.ok.injEq] at parsed
        obtain ⟨rfl, rfl⟩ := parsed
        exact ⟨[], rfl, .truth isName literal⟩
    | none =>
        simp only [literal, Attempt.pure_apply, Prod.mk.injEq, Except.ok.injEq] at parsed
        obtain ⟨rfl, rfl⟩ := parsed
        exact ⟨[], rfl, .name isName literal⟩

theorem primary_reads
    (readsGroup : Reads group fun tokens tree =>
      groupCost ≤ budget ∧ Derives (budget - groupCost) .expression tokens [tree])
    (readsArgument : Reads argument fun tokens tree =>
      callCost ≤ budget ∧ Derives (budget - callCost) .expression tokens [tree]) :
    Reads (primary group argument) fun tokens tree => Derives budget .primary tokens [tree] := by
  intro input result rest parsed
  simp only [primary, current_bind] at parsed
  cases kind : (ahead input).kind
  case number =>
    have more : input = ahead input :: input.tail := ahead_cons_tail (by simp [kind])
    simp only [kind, advance_bind, number] at parsed
    cases read : Number.readGrouped? (ahead input).text with
    | some x =>
        simp only [read, Attempt.pure_apply, Prod.mk.injEq, Except.ok.injEq] at parsed
        obtain ⟨rfl, rfl⟩ := parsed
        exact ⟨[ahead input], more, .number kind read⟩
    | none => simp [read, Attempt.fail] at parsed
  case text =>
    have more : input = ahead input :: input.tail := ahead_cons_tail (by simp [kind])
    simp only [kind, advance_bind, Attempt.pure_apply, Prod.mk.injEq, Except.ok.injEq] at parsed
    obtain ⟨rfl, rfl⟩ := parsed
    exact ⟨[ahead input], more, .text kind⟩
  case name =>
    have more : input = ahead input :: input.tail := ahead_cons_tail (by simp [kind])
    simp only [kind, advance_bind] at parsed
    obtain ⟨consumed, split, derivation⟩ := named_reads kind readsArgument parsed
    refine ⟨ahead input :: consumed, ?_, derivation⟩
    rw [more, split]
    simp
  case leftParen =>
    have more : input = ahead input :: input.tail := ahead_cons_tail (by simp [kind])
    simp only [kind, advance_bind, Attempt.bind_eq_ok_iff, Attempt.pure_apply, Prod.mk.injEq,
      Except.ok.injEq] at parsed
    obtain ⟨inner, _, readInner, closing, _, closed, rfl, rfl⟩ := parsed
    obtain ⟨rfl, closes⟩ := expect_eq_ok (by simp) closed
    obtain ⟨consumed, split, enough, derivation⟩ := readsGroup readInner
    refine ⟨ahead input :: consumed ++ [closing], ?_, ?_⟩
    · rw [more, split]
      simp
    · have whole := Derives.group kind (List.mem_singleton.mp closes) derivation
      rwa [Nat.sub_add_cancel enough] at whole
  all_goals simp [kind, Attempt.fail] at parsed

end Primaries

theorem tooDeep_apply (input : List Token) :
    tooDeep input = (.error (.nestedTooDeeply (ahead input)), input) := rfl

def nested (cost budget : Nat) : Parser Tree :=
  if cost ≤ budget then expression (budget - cost) else tooDeep

def signed (budget : Nat) : Parser Tree :=
  if 0 < budget then unary (budget - 1) else tooDeep

def unaryLayer (operand group argument : Parser Tree) : Parser Tree := do
  let token ← current
  match UnaryOperator.ofToken? token.kind with
  | some operator =>
      advance
      let tree ← operand
      pure (.node .unary (.text operator.symbol) token.place [tree])
  | none => primary group argument

theorem unary_eq (budget : Nat) :
    unary budget =
      unaryLayer (signed budget) (nested groupCost budget) (nested callCost budget) := by
  funext input
  rw [unary, unaryLayer, current_bind, current_bind]
  cases UnaryOperator.ofToken? (ahead input).kind with
  | none => rfl
  | some operator =>
      by_cases positive : 0 < budget
      · simp only [signed, positive, dite_true, if_true]
      · simp only [signed, positive, dite_false, if_false]

theorem nested_reads {cost budget : Nat}
    (reads : ∀ smaller, smaller < budget →
      Reads (unary smaller) fun tokens tree => Derives smaller .unary tokens [tree])
    (positive : 0 < cost) :
    Reads (nested cost budget) fun tokens tree =>
      cost ≤ budget ∧ Derives (budget - cost) .expression tokens [tree] := by
  intro input result rest parsed
  simp only [nested] at parsed
  by_cases enough : cost ≤ budget
  · simp only [enough, if_true] at parsed
    obtain ⟨consumed, split, derivation⟩ :=
      levelParser_reads (reads (budget - cost) (by omega)) 0 parsed
    exact ⟨consumed, split, enough, derivation⟩
  · simp [enough, tooDeep_apply] at parsed

theorem unary_reads (budget : Nat) :
    Reads (unary budget) fun tokens tree => Derives budget .unary tokens [tree] := by
  induction budget using Nat.strongRecOn with
  | ind budget ih =>
      intro input result rest parsed
      simp only [unary_eq, unaryLayer, current_bind] at parsed
      cases found : UnaryOperator.ofToken? (ahead input).kind with
      | some operator =>
          simp only [found, advance_bind, Attempt.bind_eq_ok_iff, Attempt.pure_apply,
            Prod.mk.injEq, Except.ok.injEq] at parsed
          obtain ⟨operand, _, readOperand, rfl, rfl⟩ := parsed
          by_cases positive : 0 < budget
          · simp only [signed, positive, if_true] at readOperand
            obtain ⟨consumed, split, derivation⟩ := ih (budget - 1) (by omega) readOperand
            refine ⟨ahead input :: consumed, ?_, ?_⟩
            · rw [ahead_cons_tail (kind_of_unary found), split]
              simp
            · have whole := Derives.signed found derivation
              rwa [Nat.sub_add_cancel positive] at whole
          · simp [signed, positive, tooDeep_apply] at readOperand
      | none =>
          simp only [found] at parsed
          have readsGroup := nested_reads ih (by decide : 0 < groupCost)
          have readsArgument := nested_reads ih (by decide : 0 < callCost)
          obtain ⟨consumed, split, derivation⟩ := primary_reads readsGroup readsArgument parsed
          exact ⟨consumed, split, .plain derivation⟩

theorem expression_reads (budget : Nat) :
    Reads (expression budget) fun tokens tree => Derives budget .expression tokens [tree] :=
  levelParser_reads (unary_reads budget) 0

theorem statement_reads (budget : Nat) : Reads (statement budget) (Statement budget) := by
  intro input result rest parsed
  simp only [statement, current_bind] at parsed
  by_cases start : (ahead input).kind = .binding
  · simp only [start, if_true, binding, Attempt.bind_eq_ok_iff, Attempt.pure_apply,
      Prod.mk.injEq, Except.ok.injEq] at parsed
    obtain ⟨first, _, takeFirst, name, _, takeName, equals, _, takeEquals, value, _, readValue,
      rfl, rfl⟩ := parsed
    obtain ⟨rfl, isBinding⟩ := expect_eq_ok (by simp) takeFirst
    obtain ⟨rfl, isName⟩ := expect_eq_ok (by simp) takeName
    obtain ⟨rfl, isAssign⟩ := expect_eq_ok (by simp) takeEquals
    obtain ⟨consumed, rfl, derivation⟩ := expression_reads budget readValue
    exact ⟨first :: name :: equals :: consumed, rfl, .binding (List.mem_singleton.mp isBinding)
      (List.mem_singleton.mp isName) (List.mem_singleton.mp isAssign) derivation⟩
  · simp only [start, if_false] at parsed
    obtain ⟨consumed, split, derivation⟩ := expression_reads budget parsed
    exact ⟨consumed, split, .expression derivation⟩

theorem semicolon_bind {α : Type} (next : Unit → Parser α) (input : List Token) :
    (semicolon >>= next) input =
      next () (if (ahead input).kind = .semicolon then input.tail else input) := by
  simp only [semicolon, bind_assoc, current_bind]
  split <;> rfl

theorem getLast?_cons_or (tree : Tree) (trees : List Tree) (last : Option Tree) :
    (tree :: trees).getLast?.or last = trees.getLast?.or (some tree) := by
  rw [List.getLast?_cons]
  cases trees.getLast? <;> rfl

theorem statementsFrom_reads (budget : Nat) (bound : List Token) (last : Option Tree) :
    Reads (statementsFrom budget bound last) fun tokens result =>
      ∃ trees, Program budget tokens trees ∧ result = trees.getLast?.or last := by
  induction bound generalizing last with
  | nil =>
      intro input result rest parsed
      simp only [statementsFrom, Attempt.pure_apply, Prod.mk.injEq, Except.ok.injEq] at parsed
      obtain ⟨rfl, rfl⟩ := parsed
      exact ⟨[], rfl, [], .done, rfl⟩
  | cons _ bound ih =>
      intro input result rest parsed
      simp only [statementsFrom, current_bind] at parsed
      by_cases finished : (ahead input).kind = .finish
      · simp only [finished, if_true, Attempt.pure_apply, Prod.mk.injEq,
          Except.ok.injEq] at parsed
        obtain ⟨rfl, rfl⟩ := parsed
        exact ⟨[], rfl, [], .done, rfl⟩
      · simp only [finished, if_false, semicolon_bind, Attempt.bind_eq_ok_iff] at parsed
        obtain ⟨tree, middle, read, parsed⟩ := parsed
        obtain ⟨first, rfl, statement⟩ := statement_reads budget read
        obtain ⟨consumed, split, trees, program, rfl⟩ := ih (some tree) parsed
        by_cases semicolon : (ahead middle).kind = .semicolon
        · simp only [semicolon, if_true] at split
          refine ⟨first ++ ahead middle :: consumed, ?_, tree :: trees,
            .closed statement semicolon program, (getLast?_cons_or ..).symm⟩
          have more : (ahead middle).kind ≠ .finish := by simp [semicolon]
          rw [ahead_cons_tail more, split]
          simp
        · simp only [semicolon, if_false] at split
          exact ⟨first ++ consumed, by simp [split], tree :: trees, .bare statement program,
            (getLast?_cons_or ..).symm⟩

end Parser

end Reckoner
