import Reckoner.Proofs.Tree.Soundness

/-!
A budget only decides whether the parser complains about nesting. Unless it does, every larger
budget gives the same answer and leaves the same tokens.
-/

namespace Reckoner

namespace Parser

def Limits {α : Type} (tight loose : Parser α) : Prop :=
  ∀ input, (∃ found, (tight input).1 = .error (.nestedTooDeeply found)) ∨
    tight input = loose input

theorem Limits.refl {α : Type} (parser : Parser α) : Limits parser parser :=
  fun _ => .inr rfl

theorem tooDeep_limits (parser : Parser Tree) : Limits tooDeep parser :=
  fun input => .inl ⟨ahead input, rfl⟩

theorem Limits.bind {α β : Type} {tight loose : Parser α} {next further : α → Parser β}
    (first : Limits tight loose) (second : ∀ result, Limits (next result) (further result)) :
    Limits (tight >>= next) (loose >>= further) := by
  intro input
  rcases first input with ⟨found, deep⟩ | same
  · rcases answer : tight input with ⟨outcome, rest⟩
    rw [answer] at deep
    subst deep
    exact .inl ⟨found, by rw [Attempt.bind_error answer]⟩
  · rcases answer : loose input with ⟨error | result, rest⟩
    · rw [answer] at same
      exact .inr (by rw [Attempt.bind_error same, Attempt.bind_error answer])
    · rw [answer] at same
      rw [Attempt.bind_ok same, Attempt.bind_ok answer]
      exact second result rest

section Combinators

variable {tight loose : Parser Tree}

theorem chainFrom_limits (operators : List BinaryOperator) (limits : Limits tight loose)
    (bound : List Token) (left : Tree) :
    Limits (chainFrom operators tight bound left) (chainFrom operators loose bound left) := by
  induction bound generalizing left with
  | nil => exact .refl _
  | cons _ bound ih =>
      simp only [chainFrom]
      apply (Limits.refl _).bind
      intro token
      cases operatorOf? operators token with
      | none => exact .refl _
      | some operator =>
          apply (Limits.refl _).bind
          intro _
          apply limits.bind
          intro right
          exact ih _

theorem climb_limits (levels : List (List BinaryOperator)) (limits : Limits tight loose) :
    Limits (climb levels tight) (climb levels loose) := by
  induction levels with
  | nil => exact limits
  | cons operators levels ih =>
      change Limits (chain operators (climb levels tight)) (chain operators (climb levels loose))
      apply ih.bind
      intro left
      apply (Limits.refl _).bind
      intro bound
      exact chainFrom_limits operators ih bound left

theorem argumentsFrom_limits (limits : Limits tight loose) (bound : List Token) :
    Limits (argumentsFrom tight bound) (argumentsFrom loose bound) := by
  induction bound with
  | nil => exact .refl _
  | cons _ bound ih =>
      simp only [argumentsFrom]
      apply (Limits.refl _).bind
      intro token
      split
      · apply (Limits.refl _).bind
        intro _
        apply limits.bind
        intro first
        apply ih.bind
        intro others
        exact .refl _
      · exact .refl _

theorem call_limits (limits : Limits tight loose) (callee : Token) :
    Limits (call tight callee) (call loose callee) := by
  apply (Limits.refl _).bind
  intro _
  apply Limits.bind
  · apply (Limits.refl _).bind
    intro token
    split
    · exact .refl _
    · apply limits.bind
      intro first
      apply (Limits.refl _).bind
      intro bound
      apply (argumentsFrom_limits limits bound).bind
      intro others
      exact .refl _
  · intro children
    exact .refl _

theorem primary_limits {tightArgument looseArgument : Parser Tree} (limits : Limits tight loose)
    (argumentLimits : Limits tightArgument looseArgument) :
    Limits (primary tight tightArgument) (primary loose looseArgument) := by
  apply (Limits.refl _).bind
  intro token
  cases token.kind
  case name =>
    apply (Limits.refl _).bind
    intro _
    apply (Limits.refl _).bind
    intro following
    split
    · exact call_limits argumentLimits token
    · exact .refl _
  case leftParen =>
    apply (Limits.refl _).bind
    intro _
    apply limits.bind
    intro inner
    exact .refl _
  all_goals exact .refl _

end Combinators

theorem unary_limits {less more : Nat} (fewer : less ≤ more) :
    Limits (unary less) (unary more) := by
  induction less using Nat.strongRecOn generalizing more with
  | ind less ih =>
      have nestedLimits (cost : Nat) (positive : 0 < cost) :
          Limits (nested cost less) (nested cost more) := by
        by_cases room : cost ≤ less
        · simp only [nested, room, Nat.le_trans room fewer, if_true]
          exact climb_limits _ (ih (less - cost) (by omega) (by omega))
        · simp only [nested, room, if_false]
          exact tooDeep_limits _
      have signedLimits : Limits (signed less) (signed more) := by
        by_cases room : 0 < less
        · simp only [signed, room, Nat.lt_of_lt_of_le room fewer, if_true]
          exact ih (less - 1) (by omega) (by omega)
        · simp only [signed, room, if_false]
          exact tooDeep_limits _
      rw [unary_eq, unary_eq]
      apply (Limits.refl _).bind
      intro token
      cases UnaryOperator.ofToken? token.kind with
      | none =>
          exact primary_limits (nestedLimits groupCost (by decide)) (nestedLimits callCost (by decide))
      | some operator =>
          apply (Limits.refl _).bind
          intro _
          apply signedLimits.bind
          intro operand
          exact .refl _

theorem statement_limits {less more : Nat} (fewer : less ≤ more) :
    Limits (statement less) (statement more) := by
  have expressionLimits : Limits (expression less) (expression more) :=
    climb_limits _ (unary_limits fewer)
  apply (Limits.refl _).bind
  intro token
  split
  · apply (Limits.refl _).bind
    intro start
    apply (Limits.refl _).bind
    intro name
    apply (Limits.refl _).bind
    intro _
    apply expressionLimits.bind
    intro value
    exact .refl _
  · exact expressionLimits

theorem program_limits {less more : Nat} (fewer : less ≤ more) :
    Limits (program less) (program more) := by
  have statementsLimits (bound : List Token) (last : Option Tree) :
      Limits (statementsFrom less bound last) (statementsFrom more bound last) := by
    induction bound generalizing last with
    | nil => exact .refl _
    | cons _ bound ih =>
        simp only [statementsFrom]
        apply (Limits.refl _).bind
        intro token
        split
        · exact .refl _
        · apply (statement_limits fewer).bind
          intro tree
          apply (Limits.refl _).bind
          intro _
          exact ih (some tree)
  apply (Limits.refl _).bind
  intro bound
  exact statementsLimits bound none

end Parser

end Reckoner
