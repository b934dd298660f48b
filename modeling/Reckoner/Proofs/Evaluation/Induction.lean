import Reckoner.Evaluation
import Reckoner.Proofs.Tree.Shape

/-!
An induction principle for evaluation. A property of actions that passes from two actions to their
composition, and that every node of a tree guarantees for what the node itself does, holds of the
evaluation of the whole tree. What the trees below a node do need not be looked at again.
-/

namespace Reckoner.Evaluation

def Returns {α : Type} (action : Evaluation α) (value : α) : Prop :=
  ∃ before after, action before = (.ok value, after)

structure Composes (P : (α : Type) → Evaluation α → Prop) : Prop where
  pure {α : Type} (value : α) : P α (pure value)
  bind {α β : Type} {first : Evaluation α} {next : α → Evaluation β} : P α first →
    (∀ value, Returns first value → P β (next value)) → P β (first >>= next)
  tooDeep : P Value (Attempt.fail .nestedTooDeeply)

/-- What a node does once its children are evaluated. -/
def NodeHas (P : (α : Type) → Evaluation α → Prop) (table : List Builtin) : Tree → Prop
  | .node .number label _ _ => P Value (number label)
  | .node .text _ _ _ => True
  | .node .truth _ _ _ => True
  | .node .name label _ _ => P Value (lookUp label.spelled)
  | .node .assign label _ children =>
      (children = [] → P Value (Attempt.fail .missingChild)) ∧
        ∀ value, P Value (assign label.spelled value)
  | .node .unary label _ children =>
      (children = [] → P Value (Attempt.fail .missingChild)) ∧
        ∀ operand, P Value (applyUnary label operand)
  | .node .binary label _ children =>
      (children.length < 2 → P Value (Attempt.fail .missingChild)) ∧
        match binaryOperator? label with
        | some operator => ∀ left right, P Value (applyOperator operator left right)
        | none => P Value (Attempt.fail (.unknownBinary label))
  | .node .call label place children =>
      ∀ arguments, arguments.length = children.length →
        P Value (call table label.spelled place arguments)
  | .node (.other title) _ place _ => P Value (Attempt.fail (.unknownKind title place))

def ChainHas (P : (α : Type) → Evaluation α → Prop) (chain : Chain) : Prop :=
  P Value chain.first ∧ ∀ step ∈ chain.steps, ∀ value, P Value (step value)

theorem length_of_returns {table : List Builtin} {children : List Tree} {room : Nat}
    {values : List Value} (returns : Returns (walkAll table children room) values) :
    values.length = children.length := by
  obtain ⟨before, after, done⟩ := returns
  induction children generalizing values before with
  | nil =>
      simp only [walkAll, Attempt.pure_apply, Prod.mk.injEq, Except.ok.injEq] at done
      simp [← done.1]
  | cons child rest ih =>
      simp only [walkAll, Attempt.bind_eq_ok_iff, Attempt.pure_apply, Prod.mk.injEq,
        Except.ok.injEq] at done
      obtain ⟨_, middle, _, others, _, doneRest, rfl, rfl⟩ := done
      simp [ih middle doneRest]

section

variable {P : (α : Type) → Evaluation α → Prop} (composes : Composes P) {table : List Builtin}

include composes

theorem run_has {chain : Chain} (has : ChainHas P chain) : P Value chain.run := by
  have fold (steps : List (Value → Evaluation Value))
      (all : ∀ step ∈ steps, ∀ value, P Value (step value)) (value : Value) :
      P Value (steps.foldlM (fun value step => step value) value) := by
    induction steps generalizing value with
    | nil => exact composes.pure value
    | cons step steps ih =>
        rw [List.foldlM_cons]
        apply composes.bind (all step (by simp) value)
        intro value _
        exact ih (fun step member => all step (by simp [member])) value
  apply composes.bind has.1
  intro value _
  exact fold chain.steps.reverse (by simpa using has.2) value

theorem enter_has {inner : Nat → Chain} (has : ∀ room, ChainHas P (inner room)) (room : Nat) :
    P Value (enter room inner) := by
  cases room with
  | zero => exact composes.tooDeep
  | succ room => exact run_has composes (has room)

variable {children : List Tree}
  (below : ∀ child ∈ children, ∀ room, ChainHas P (walk table child room))

include below

theorem walkFirst_has (missing : children = [] → P Value (Attempt.fail .missingChild))
    (room : Nat) : P Value (walkFirst table children room) := by
  cases children with
  | nil => exact missing rfl
  | cons child rest => exact enter_has composes (below child (by simp)) room

theorem walkLeft_has (missing : children = [] → P Value (Attempt.fail .missingChild))
    (room : Nat) : ChainHas P (walkLeft table children room) := by
  cases children with
  | nil => exact ⟨missing rfl, by simp [walkLeft, Chain.single]⟩
  | cons child rest =>
      have has := below child (by simp)
      rw [walkLeft]
      split
      · exact has room
      · exact ⟨enter_has composes has room, by simp [Chain.single]⟩

theorem walkAll_has (room : Nat) : P (List Value) (walkAll table children room) := by
  induction children with
  | nil => exact composes.pure []
  | cons child rest ih =>
      apply composes.bind (enter_has composes (below child (by simp)) room)
      intro value _
      apply composes.bind (ih fun child member => below child (by simp [member]))
      intro values _
      exact composes.pure (value :: values)

theorem applyBinary_has {label : Label} {place : Place}
    (own : NodeHas P table (.node .binary label place children)) (room : Nat) (left : Value) :
    P Value (applyBinary label (walkSecond table children room) left) := by
  obtain ⟨missing, apply⟩ := own
  match children with
  | [] => exact missing (by simp)
  | [_] => exact missing (by simp)
  | _ :: child :: _ =>
      have operand := enter_has composes (below child (by simp)) room
      rw [walkSecond, applyBinary]
      split
      next operator known =>
        rw [known] at apply
        rw [combine]
        split
        · exact composes.pure _
        · apply composes.bind operand
          intro right _
          exact apply left right
      next unknown =>
        rw [unknown] at apply
        apply composes.bind operand
        intro _ _
        exact apply

end

theorem walk_has {P : (α : Type) → Evaluation α → Prop} (composes : Composes P)
    {table : List Builtin} {tree : Tree} (nodes : ∀ node ∈ tree.nodes, NodeHas P table node)
    (room : Nat) : ChainHas P (walk table tree room) := by
  induction tree using Tree.induction generalizing room with
  | node kind label place children ih =>
      have own := nodes _ (Tree.mem_nodes_self _)
      have below : ∀ child ∈ children, ∀ room, ChainHas P (walk table child room) :=
        fun child isChild room =>
          ih child isChild (fun node member => nodes node (Tree.mem_nodes_of_child isChild member)) room
      cases kind with
      | number => exact ⟨own, by simp [walk, Chain.single]⟩
      | text => exact ⟨composes.pure _, by simp [walk, Chain.single]⟩
      | truth => exact ⟨composes.pure _, by simp [walk, Chain.single]⟩
      | name => exact ⟨own, by simp [walk, Chain.single]⟩
      | unary =>
          refine ⟨?_, by simp [walk, Chain.single]⟩
          apply composes.bind (walkFirst_has composes below own.1 room)
          intro operand _
          exact own.2 operand
      | binary =>
          have left := walkLeft_has composes below (fun none => own.1 (by simp [none])) room
          refine ⟨left.1, ?_⟩
          rw [walk, List.forall_mem_cons]
          exact ⟨applyBinary_has composes below own room, left.2⟩
      | call =>
          refine ⟨?_, by simp [walk, Chain.single]⟩
          apply composes.bind (walkAll_has composes below room)
          intro arguments returns
          exact own arguments (length_of_returns returns)
      | assign =>
          refine ⟨?_, by simp [walk, Chain.single]⟩
          apply composes.bind (walkFirst_has composes below own.1 room)
          intro value _
          exact own.2 value
      | other title => exact ⟨own, by simp [walk, Chain.single]⟩

structure Replies (P : (α : Type) → Evaluation α → Prop) : Prop where
  fail {α : Type} (error : EvalError) : P α (Attempt.fail error)
  note (event : Event) : P Unit (Attempt.modify (·.note event))
  print (text : String) : P Unit (Attempt.modify (·.print text))

structure Effects (P : (α : Type) → Evaluation α → Prop) : Prop extends Replies P where
  lookUp (name : String) : P Value (lookUp name)
  bind (name : String) (value : Value) : P Unit (Attempt.modify (·.bind name value))

section

variable {P : (α : Type) → Evaluation α → Prop} (composes : Composes P)

include composes

theorem assign_has {name : String}
    (bind : ∀ value, P Unit (Attempt.modify (·.bind name value))) (value : Value) :
    P Value (assign name value) := by
  apply composes.bind (bind value)
  intro _ _
  exact composes.pure value

section

variable (fail : ∀ {α : Type} (error : EvalError), P α (Attempt.fail error))

include fail

theorem ofExcept_has {α : Type} (result : Except EvalError α) :
    P α (Attempt.ofExcept result) := by
  cases result with
  | ok value => exact composes.pure value
  | error error => exact fail error

theorem number_has (label : Label) : P Value (number label) := by
  cases label with
  | number | truth => exact composes.pure _
  | text s =>
      rw [number]
      split
      · exact composes.pure _
      · exact fail _
  | blank => exact fail _

theorem applyUnary_has (label : Label) (operand : Value) : P Value (applyUnary label operand) := by
  rw [applyUnary]
  split
  · apply composes.bind (ofExcept_has composes fail _)
    intro x _
    exact composes.pure _
  · exact composes.pure _
  · exact fail _

theorem add_has (left right : Value) : P Value (add left right) := by
  rw [add]
  split
  · exact composes.pure _
  · apply composes.bind (ofExcept_has composes fail _)
    intro x _
    apply composes.bind (ofExcept_has composes fail _)
    intro y _
    exact composes.pure _

theorem arithmetic_has (apply : Float → Float → Except Breakdown Float) (left right : Value) :
    P Value (arithmetic apply left right) := by
  apply composes.bind (ofExcept_has composes fail _)
  intro x _
  apply composes.bind (ofExcept_has composes fail _)
  intro y _
  apply composes.bind (ofExcept_has composes fail _)
  intro result _
  exact composes.pure _

theorem applyOperator_has (operator : BinaryOperator) (left right : Value) :
    P Value (applyOperator operator left right) := by
  cases operator with
  | minus | times | divide | power => exact arithmetic_has composes fail _ left right
  | plus => exact add_has composes fail left right
  | _ => exact composes.pure _

theorem nodeHas_of_fail (table : List Builtin) {node : Tree}
    (looksUp : node.kind = .name → P Value (lookUp node.label.spelled))
    (binds : node.kind = .assign →
      ∀ value, P Unit (Attempt.modify (·.bind node.label.spelled value)))
    (calls : node.kind = .call →
      ∀ arguments, P Value (call table node.label.spelled node.place arguments)) :
    NodeHas P table node := by
  obtain ⟨kind, label, place, children⟩ := node
  cases kind with
  | number => exact number_has composes fail label
  | text | truth => trivial
  | name => exact looksUp rfl
  | assign => exact ⟨fun _ => fail _, assign_has composes (binds rfl)⟩
  | unary => exact ⟨fun _ => fail _, applyUnary_has composes fail label⟩
  | binary =>
      refine ⟨fun _ => fail _, ?_⟩
      split
      next operator _ => exact applyOperator_has composes fail operator
      next => exact fail _
  | call => exact fun arguments _ => calls rfl arguments
  | other title => exact fail _

end

variable (replies : Replies P)

include replies

theorem invoke_has (builtin : Builtin) (arguments : List Value) :
    P Value (invoke builtin arguments) := by
  rw [invoke]
  split
  · exact replies.fail _
  · apply composes.bind (replies.note _)
    intro _ _
    apply composes.bind (ofExcept_has composes replies.fail _)
    intro reply _
    apply composes.bind (replies.print _)
    intro _ _
    exact composes.pure _

theorem call_has (table : List Builtin) (name : String) (place : Place)
    (arguments : List Value) : P Value (call table name place arguments) := by
  rw [call]
  split
  · exact invoke_has composes replies _ arguments
  · apply composes.bind (replies.note _)
    intro _ _
    exact replies.fail _

theorem nodeHas_of_replies (table : List Builtin) {node : Tree}
    (looksUp : node.kind = .name → P Value (lookUp node.label.spelled))
    (binds : node.kind = .assign →
      ∀ value, P Unit (Attempt.modify (·.bind node.label.spelled value))) :
    NodeHas P table node :=
  nodeHas_of_fail composes replies.fail table looksUp binds fun _ =>
    call_has composes replies table node.label.spelled node.place

end

theorem evaluate_of_nodes {P : (α : Type) → Evaluation α → Prop} (composes : Composes P)
    {table : List Builtin} {tree : Tree} (nodes : ∀ node ∈ tree.nodes, NodeHas P table node) :
    P Value (evaluate table tree) :=
  run_has composes (walk_has composes nodes nestingRoom)

section

variable {P : (α : Type) → Evaluation α → Prop} (composes : Composes P) (effects : Effects P)

include composes effects

theorem nodeHas_of_effects (table : List Builtin) (node : Tree) : NodeHas P table node :=
  nodeHas_of_replies composes effects.toReplies table (fun _ => effects.lookUp _)
    fun _ => effects.bind _

/-- What holds of all effects and passes to compositions holds of every evaluation. -/
theorem evaluate_has (table : List Builtin) (tree : Tree) : P Value (evaluate table tree) :=
  evaluate_of_nodes composes fun node _ => nodeHas_of_effects composes effects table node

end

end Reckoner.Evaluation
