import Reckoner.Proofs.Evaluation.Output
import Reckoner.Proofs.Evaluation.Recursion

/-!
Chains of one logical operator. Their operands are evaluated from the left, up to and including the
first one that fails or decides, and none behind it. The chain folds to the left, so that the
remaining operators are still applied to what was decided, but they pass it on as it is.
-/

namespace Reckoner.Evaluation

inductive Connective where
  | conjunction
  | disjunction

namespace Connective

def operator : Connective → BinaryOperator
  | .conjunction => .conjunction
  | .disjunction => .disjunction

def unit : Connective → Bool
  | .conjunction => true
  | .disjunction => false

end Connective

/-- Operands joined from the left, each behind the place of its operator. -/
def chained (connective : Connective) (first : Tree) (rest : List (Place × Tree)) : Tree :=
  rest.foldl (fun left next =>
    .node .binary (.text connective.operator.symbol) next.1 [left, next.2]) first

/-- Evaluates operands in turn, with what each of them prints. The outcome is the first failure, the
first truth that decides, or the truth on which all of them have gone on. -/
inductive InTurn (table : List Builtin) (connective : Connective) :
    Session → List Tree → List String → Except EvalError Bool → Session → Prop
  | finished {session} : InTurn table connective session [] [] (.ok connective.unit) session
  | passing {session operand value text middle rest texts outcome after} :
      plain table operand session = (.ok value, middle) → value.isTrue = connective.unit →
      middle.printed = session.printed ++ text →
      InTurn table connective middle rest texts outcome after →
      InTurn table connective session (operand :: rest) (text :: texts) outcome after
  | deciding {session operand value text after later} :
      plain table operand session = (.ok value, after) → value.isTrue = !connective.unit →
      after.printed = session.printed ++ text →
      InTurn table connective session (operand :: later) [text] (.ok !connective.unit) after
  | failing {session operand error text after later} :
      plain table operand session = (.error error, after) →
      after.printed = session.printed ++ text →
      InTurn table connective session (operand :: later) [text] (.error error) after

theorem plain_prints (table : List Builtin) (tree : Tree) (session : Session) :
    ∃ text, (plain table tree session).2.printed = session.printed ++ text := by
  have same : (walk table tree tree.nesting).run = plain table tree := by
    funext session
    rcases walk_agrees table tree tree.nesting session with same | ⟨deep, _⟩
    · exact same
    · omega
  have appends : (plain table tree).Appends := by
    rw [← same]
    apply run_has appends_composes
    apply walk_has appends_composes
    intro node _
    exact nodeHas_of_effects appends_composes appends_effects table node
  rw [appends session]
  exact ⟨_, rfl⟩

theorem InTurn.printed {table : List Builtin} {connective : Connective} {session after : Session}
    {operands : List Tree} {texts : List String} {outcome : Except EvalError Bool}
    (inTurn : InTurn table connective session operands texts outcome after) :
    after.printed = session.printed ++ String.join texts := by
  induction inTurn with
  | finished => simp
  | passing _ _ printed _ ih => simp [ih, printed, String.append_assoc]
  | deciding _ _ printed | failing _ printed => simp [printed]

section

variable {table : List Builtin} (connective : Connective)

def carry (table : List Builtin) (value : Value) (operands : List Tree) : Evaluation Value :=
  operands.foldlM (fun left operand =>
    combine connective.operator left (plain table operand)) value

theorem plain_chained (first : Tree) (rest : List (Place × Tree)) :
    plain table (chained connective first rest) =
      plain table first >>= fun value => carry connective table value (rest.map Prod.snd) := by
  induction rest generalizing first with
  | nil => simp [chained, carry]
  | cons next rest ih =>
      have known : binaryOperator? (.text connective.operator.symbol) =
          some connective.operator := by
        cases connective <;> decide
      have joined := ih (.node .binary (.text connective.operator.symbol) next.1 [first, next.2])
      rw [plain, plainFirst, plainSecond, bind_assoc] at joined
      simpa [chained, carry, applyBinary, known] using joined

theorem combine_passing {left : Value} (passes : left.isTrue = connective.unit)
    (operand : Evaluation Value) :
    combine connective.operator left operand =
      operand >>= fun right => pure (.truth right.isTrue) := by
  cases connective <;>
    simp_all [combine, decided?, applyOperator, Connective.operator, Connective.unit]

theorem combine_deciding {left : Value} (decides : left.isTrue = !connective.unit)
    (operand : Evaluation Value) :
    combine connective.operator left operand = pure (.truth !connective.unit) := by
  cases connective <;>
    simp_all [combine, decided?, Connective.operator, Connective.unit]

theorem carry_decided (operands : List Tree) :
    carry connective table (.truth !connective.unit) operands =
      pure (.truth !connective.unit) := by
  induction operands with
  | nil => rfl
  | cons operand rest ih =>
      have decides : (Value.truth !connective.unit).isTrue = !connective.unit := rfl
      rw [carry, List.foldlM_cons, combine_deciding connective decides, pure_bind]
      exact ih

theorem carry_passing {left : Value} (passes : left.isTrue = connective.unit) (operand : Tree)
    (rest : List Tree) :
    carry connective table left (operand :: rest) =
      plain table operand >>= fun right => carry connective table (.truth right.isTrue) rest := by
  rw [carry, List.foldlM_cons, combine_passing connective passes]
  simp [carry]

theorem carry_truth (left : Value) (operand : Tree) (rest : List Tree) :
    carry connective table left (operand :: rest) =
      carry connective table (.truth left.isTrue) (operand :: rest) := by
  by_cases passes : left.isTrue = connective.unit
  · rw [carry_passing connective passes, carry_passing connective (by exact passes)]
  · have decides : left.isTrue = !connective.unit := Bool.eq_not_of_ne passes
    rw [decides, carry_decided, carry, List.foldlM_cons, combine_deciding connective decides,
      pure_bind]
    exact carry_decided connective rest

theorem plain_chained_truth (first : Tree) (second : Place × Tree) (rest : List (Place × Tree)) :
    plain table (chained connective first (second :: rest)) =
      carry connective table (.truth connective.unit)
        (first :: second.2 :: rest.map Prod.snd) := by
  have passes : (Value.truth connective.unit).isTrue = connective.unit := rfl
  rw [plain_chained, carry_passing connective passes, List.map_cons]
  simp only [← carry_truth]

theorem carry_inTurn (operands : List Tree) (session : Session) :
    ∃ texts outcome after, InTurn table connective session operands texts outcome after ∧
      carry connective table (.truth connective.unit) operands session =
        (outcome.map .truth, after) := by
  induction operands generalizing session with
  | nil => exact ⟨[], .ok connective.unit, session, .finished, rfl⟩
  | cons operand rest ih =>
      have passes : (Value.truth connective.unit).isTrue = connective.unit := rfl
      rw [carry_passing connective passes]
      obtain ⟨text, printed⟩ := plain_prints table operand session
      rcases ran : plain table operand session with ⟨error | value, middle⟩
      · rw [ran] at printed
        exact ⟨[text], .error error, middle, .failing ran printed, Attempt.bind_error ran⟩
      · rw [ran] at printed
        rw [Attempt.bind_ok ran]
        by_cases goesOn : value.isTrue = connective.unit
        · obtain ⟨texts, outcome, after, inTurn, carried⟩ := ih middle
          rw [goesOn]
          exact ⟨text :: texts, outcome, after, .passing ran goesOn printed inTurn, carried⟩
        · have decides : value.isTrue = !connective.unit := Bool.eq_not_of_ne goesOn
          rw [decides, carry_decided]
          exact ⟨[text], .ok !connective.unit, middle, .deciding ran decides printed, rfl⟩

end

/-- A chain of at least two operands evaluates them in turn. Its outcome is that of the operands
which are evaluated, it leaves the session where the last of them left it, and what they print comes
in their order behind what was printed before. -/
theorem evaluate_chained (table : List Builtin) (connective : Connective) (first : Tree)
    (second : Place × Tree) (rest : List (Place × Tree)) (session : Session) :
    (∃ texts outcome after,
      InTurn table connective session (first :: second.2 :: rest.map Prod.snd) texts outcome after ∧
      evaluate table (chained connective first (second :: rest)) session =
        (outcome.map .truth, after) ∧
      after.printed = session.printed ++ String.join texts) ∨
    nestingRoom < (chained connective first (second :: rest)).nesting ∧
      (evaluate table (chained connective first (second :: rest)) session).1 =
        .error .nestedTooDeeply := by
  rcases walk_agrees table (chained connective first (second :: rest)) nestingRoom session with
    same | deep
  · left
    obtain ⟨texts, outcome, after, inTurn, carried⟩ :=
      @carry_inTurn table connective (first :: second.2 :: rest.map Prod.snd) session
    refine ⟨texts, outcome, after, inTurn, ?_, inTurn.printed⟩
    rw [evaluate, same, plain_chained_truth, carried]
  · exact .inr deep

end Reckoner.Evaluation
