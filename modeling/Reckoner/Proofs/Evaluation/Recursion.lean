import Reckoner.Evaluation
import Reckoner.Proofs.Tree.Shape

/-!
Evaluation by plain recursion. A binary node evaluates its left operand, takes its right one and
combines the two, and nothing counts how deep trees are nested. Taking a chain apart first and
carrying its value along the steps comes to the same, unless there is no room for the nesting.
-/

namespace Reckoner

namespace Tree

mutual

/-- How often evaluation enters one part inside another. The left operands of a chain stand beside
each other in this count. -/
def nesting : Tree → Nat
  | .node .binary _ _ children => chainNesting children
  | .node _ _ _ children => innerNesting children

def chainNesting : List Tree → Nat
  | [] => 0
  | left :: rest =>
      max (if left.kind = .binary then left.nesting else left.nesting + 1) (innerNesting rest)

def innerNesting : List Tree → Nat
  | [] => 0
  | tree :: rest => max (tree.nesting + 1) (innerNesting rest)

end

end Tree

namespace Evaluation

mutual

def plain (table : List Builtin) : Tree → Evaluation Value
  | .node .number label _ _ => number label
  | .node .text label _ _ => pure (.text label.spelled)
  | .node .truth label _ _ => pure (.truth label.isTrue)
  | .node .name label _ _ => lookUp label.spelled
  | .node .assign label _ children => do
      let value ← plainFirst table children
      assign label.spelled value
  | .node .unary label _ children => do
      let operand ← plainFirst table children
      applyUnary label operand
  | .node .binary label _ children => do
      let left ← plainFirst table children
      applyBinary label (plainSecond table children) left
  | .node .call label place children => do
      let arguments ← plainAll table children
      call table label.spelled place arguments
  | .node (.other title) _ place _ => Attempt.fail (.unknownKind title place)

def plainFirst (table : List Builtin) : List Tree → Evaluation Value
  | [] => Attempt.fail .missingChild
  | child :: _ => plain table child

def plainSecond (table : List Builtin) : List Tree → Option (Evaluation Value)
  | _ :: child :: _ => some (plain table child)
  | _ => none

def plainAll (table : List Builtin) : List Tree → Evaluation (List Value)
  | [] => pure []
  | child :: rest => do
      let value ← plain table child
      let values ← plainAll table rest
      pure (value :: values)

end

def Limited (deep : Prop) {α : Type} (limited free : Evaluation α) : Prop :=
  ∀ session, limited session = free session ∨
    deep ∧ (limited session).1 = .error .nestedTooDeeply

section

variable {deep deeper : Prop} {α β : Type}

theorem Limited.refl (action : Evaluation α) : Limited deep action action :=
  fun _ => .inl rfl

theorem Limited.imp {limited free : Evaluation α} (agrees : Limited deep limited free)
    (implies : deep → deeper) : Limited deeper limited free := by
  intro session
  rcases agrees session with same | ⟨isDeep, failed⟩
  · exact .inl same
  · exact .inr ⟨implies isDeep, failed⟩

theorem Limited.bind {limited free : Evaluation α} {next further : α → Evaluation β}
    (first : Limited deep limited free)
    (second : ∀ result, Limited deep (next result) (further result)) :
    Limited deep (limited >>= next) (free >>= further) := by
  intro session
  rcases first session with same | ⟨isDeep, failed⟩
  · rcases ran : free session with ⟨error | result, after⟩
    · rw [ran] at same
      exact .inl (by rw [Attempt.bind_error same, Attempt.bind_error ran])
    · rw [ran] at same
      rw [Attempt.bind_ok same, Attempt.bind_ok ran]
      exact second result after
  · rcases ran : limited session with ⟨outcome, after⟩
    rw [ran] at failed
    subst failed
    exact .inr ⟨isDeep, by rw [Attempt.bind_error ran]⟩

end

theorem run_single (first : Evaluation Value) : (Chain.single first).run = first := by
  simp [Chain.run, Chain.single]

theorem run_cons (first : Evaluation Value) (step : Value → Evaluation Value)
    (steps : List (Value → Evaluation Value)) :
    (Chain.mk first (step :: steps)).run = (Chain.mk first steps).run >>= step := by
  simp [Chain.run, List.foldlM_append]

theorem applyBinary_limited {deep : Prop} (label : Label) {limited free : Evaluation Value}
    (operand : Limited deep limited free) (left : Value) :
    Limited deep (applyBinary label (some limited) left)
      (applyBinary label (some free) left) := by
  rw [applyBinary, applyBinary]
  split
  next operator _ =>
    rw [combine, combine]
    split
    · exact .refl _
    · apply operand.bind
      intro right
      exact .refl _
  next =>
    apply operand.bind
    intro _
    exact .refl _

section

variable {table : List Builtin}

def Agrees (table : List Builtin) (tree : Tree) : Prop :=
  ∀ room, Limited (room < tree.nesting) (walk table tree room).run (plain table tree)

theorem Agrees.enter {tree : Tree} (agrees : Agrees table tree) (room : Nat) :
    Limited (room < tree.nesting + 1) (enter room (walk table tree)) (plain table tree) := by
  cases room with
  | zero => exact fun session => .inr ⟨Nat.zero_lt_succ _, rfl⟩
  | succ room =>
      apply (agrees room).imp
      intro isDeep
      omega

variable {children : List Tree} (below : ∀ child ∈ children, Agrees table child)

include below

theorem walkFirst_limited (room : Nat) :
    Limited (room < Tree.innerNesting children) (walkFirst table children room)
      (plainFirst table children) := by
  cases children with
  | nil => exact .refl _
  | cons child rest =>
      apply ((below child (by simp)).enter room).imp
      intro isDeep
      rw [Tree.innerNesting]
      omega

theorem walkLeft_limited (room : Nat) :
    Limited (room < Tree.chainNesting children) (walkLeft table children room).run
      (plainFirst table children) := by
  cases children with
  | nil =>
      rw [walkLeft, run_single]
      exact .refl _
  | cons child rest =>
      have agrees := below child (by simp)
      rw [walkLeft, plainFirst, Tree.chainNesting]
      split
      · apply (agrees room).imp
        intro isDeep
        omega
      · rw [run_single]
        apply (agrees.enter room).imp
        intro isDeep
        omega

theorem walkSecond_limited (label : Label) (room : Nat) (left : Value) :
    Limited (room < Tree.chainNesting children)
      (applyBinary label (walkSecond table children room) left)
      (applyBinary label (plainSecond table children) left) := by
  match children with
  | [] => exact .refl _
  | [_] => exact .refl _
  | first :: child :: rest =>
      rw [walkSecond, plainSecond]
      apply applyBinary_limited
      apply ((below child (by simp)).enter room).imp
      intro isDeep
      rw [Tree.chainNesting, Tree.innerNesting]
      omega

theorem walkAll_limited (room : Nat) :
    Limited (room < Tree.innerNesting children) (walkAll table children room)
      (plainAll table children) := by
  induction children with
  | nil => exact .refl _
  | cons child rest ih =>
      have others := ih fun child member => below child (by simp [member])
      rw [walkAll, plainAll, Tree.innerNesting]
      apply Limited.bind
      · apply ((below child (by simp)).enter room).imp
        intro isDeep
        omega
      · intro value
        apply Limited.bind
        · apply others.imp
          intro isDeep
          omega
        · intro values
          exact .refl _

end

theorem walk_agrees (table : List Builtin) (tree : Tree) : Agrees table tree := by
  induction tree using Tree.induction with
  | node kind label place children below =>
      intro room
      cases kind with
      | number | text | truth | name | other =>
          rw [walk, plain, run_single]
          exact .refl _
      | assign | unary =>
          rw [walk, plain, run_single, Tree.nesting]
          · apply (walkFirst_limited below room).bind
            intro value
            exact .refl _
          · simp
      | call =>
          rw [walk, plain, run_single, Tree.nesting]
          · apply (walkAll_limited below room).bind
            intro arguments
            exact .refl _
          · simp
      | binary =>
          rw [walk, plain, run_cons, Tree.nesting]
          apply (walkLeft_limited below room).bind
          intro left
          exact walkSecond_limited below label room left

theorem evaluate_of_nesting {table : List Builtin} {tree : Tree}
    (room : tree.nesting ≤ nestingRoom) : evaluate table tree = plain table tree := by
  funext session
  rcases walk_agrees table tree nestingRoom session with same | ⟨deep, _⟩
  · exact same
  · omega

/-- Chains that are taken apart evaluate as plain recursion does, to the same outcome and with the
same session left behind. Only nesting that evaluation has no room for makes a difference. -/
theorem evaluate_eq_plain (table : List Builtin) (tree : Tree) :
    (∀ session, evaluate table tree session = plain table tree session ∨
      nestingRoom < tree.nesting ∧
        (evaluate table tree session).1 = .error .nestedTooDeeply) ∧
    ∀ spare, (walk table tree (tree.nesting + spare)).run = plain table tree := by
  refine ⟨walk_agrees table tree nestingRoom, ?_⟩
  intro spare
  funext session
  rcases walk_agrees table tree (tree.nesting + spare) session with same | ⟨isDeep, _⟩
  · exact same
  · omega

end Evaluation

end Reckoner
