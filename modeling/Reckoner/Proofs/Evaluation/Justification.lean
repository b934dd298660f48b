import Reckoner.Proofs.Builtin.Contract
import Reckoner.Proofs.Evaluation.Induction

/-!
Why the evaluation of a statement fails, and what it leaves behind. An error names something in the
tree that is really missing, or a value that is no number. The bindings stay as they are, but for
the one that a binding makes when all the rest has succeeded.
-/

namespace Reckoner

namespace Builtin

def Coerces {α : Type} (result : Except EvalError α) : Prop :=
  ∀ error, result = .error error → ∃ value : Value, error = .notNumeric value ∧
    value.toNumber? = none

theorem coerces_ok {α : Type} (value : α) : Coerces (.ok value) := by
  intro error failed
  cases failed

theorem coerces_toNumber (value : Value) : Coerces (toNumber value) := by
  intro error failed
  cases number : value.toNumber? with
  | some x => simp [toNumber, number] at failed
  | none =>
      simp only [toNumber, number, Except.error.injEq] at failed
      exact ⟨value, failed.symm, number⟩

theorem coerces_onMachine {α : Type} {outcome : Except Breakdown α}
    (answers : ∃ value, outcome = .ok value) : Coerces (onMachine outcome) := by
  obtain ⟨value, rfl⟩ := answers
  exact coerces_ok value

theorem coerces_standard {builtin : Builtin} (known : builtin ∈ standard)
    {arguments : List Value} (enough : builtin.least ≤ arguments.length) :
    Coerces (builtin.reply arguments) := by
  have counts := counts_standard builtin known arguments enough
  cases blamed : blamed? (countedPlaces builtin.name) arguments with
  | some value =>
      rw [blamed] at counts
      intro error failed
      rw [counts] at failed
      exact ⟨value, (Except.error.inj failed).symm,
        Value.toNumber?_eq_none_iff.mpr (List.find?_some blamed)⟩
  | none =>
      rw [blamed] at counts
      obtain ⟨value, replied⟩ := counts
      rw [replied]
      exact coerces_ok _

end Builtin

namespace Evaluation

open Builtin (Coerces coerces_toNumber)

def Confined (bindings : Bindings) (allowed : EvalError → Prop) (α : Type)
    (action : Evaluation α) : Prop :=
  ∀ session, session.bindings = bindings → (action session).2.bindings = bindings ∧
    ∀ error, (action session).1 = .error error → allowed error

section

variable {bindings : Bindings} {allowed : EvalError → Prop} {α β : Type}

theorem confined_pure (value : α) : Confined bindings allowed α (pure value) := by
  intro session same
  refine ⟨same, ?_⟩
  intro error failed
  cases failed

theorem confined_fail {error : EvalError} (reason : allowed error) :
    Confined bindings allowed α (Attempt.fail error) := by
  intro session same
  refine ⟨same, ?_⟩
  intro other failed
  cases failed
  exact reason

theorem confined_modify {change : Session → Session}
    (keeps : ∀ session, (change session).bindings = session.bindings) :
    Confined bindings allowed Unit (Attempt.modify change) := by
  intro session same
  refine ⟨(keeps session).trans same, ?_⟩
  intro error failed
  cases failed

theorem confined_note (event : Event) :
    Confined bindings allowed Unit (Attempt.modify (·.note event)) :=
  confined_modify fun _ => rfl

theorem confined_print (text : String) :
    Confined bindings allowed Unit (Attempt.modify (·.print text)) :=
  confined_modify fun _ => rfl

theorem confined_ofExcept {result : Except EvalError α}
    (reasons : ∀ error, result = .error error → allowed error) :
    Confined bindings allowed α (Attempt.ofExcept result) := by
  cases result with
  | ok value => exact confined_pure value
  | error error => exact confined_fail (reasons error rfl)

theorem Confined.bind {first : Evaluation α} {next : α → Evaluation β}
    (confined : Confined bindings allowed α first)
    (others : ∀ value, Returns first value → Confined bindings allowed β (next value)) :
    Confined bindings allowed β (first >>= next) := by
  intro session same
  obtain ⟨keeps, reasons⟩ := confined session same
  rcases ran : first session with ⟨error | value, after⟩
  · rw [Attempt.bind_error ran]
    rw [ran] at keeps reasons
    refine ⟨keeps, ?_⟩
    intro other failed
    exact reasons other (congrArg Except.error (Except.error.inj failed))
  · rw [Attempt.bind_ok ran]
    rw [ran] at keeps
    exact others value ⟨session, after, ran⟩ after keeps

theorem confined_composes (deep : allowed .nestedTooDeeply) :
    Composes (Confined bindings allowed) where
  pure := confined_pure
  bind := Confined.bind
  tooDeep := confined_fail deep

variable (numbers : ∀ value : Value, value.toNumber? = none → allowed (.notNumeric value))

include numbers

theorem confined_of_coerces {result : Except EvalError α} (coerces : Coerces result) :
    Confined bindings allowed α (Attempt.ofExcept result) := by
  apply confined_ofExcept
  intro error failed
  obtain ⟨value, rfl, notNumeric⟩ := coerces error failed
  exact numbers value notNumeric

theorem confined_toNumber (value : Value) : Confined bindings allowed Float (toNumber value) :=
  confined_of_coerces numbers (coerces_toNumber value)

theorem confined_add (left right : Value) : Confined bindings allowed Value (add left right) := by
  rw [add]
  split
  · exact confined_pure _
  · apply (confined_toNumber numbers left).bind
    intro x _
    apply (confined_toNumber numbers right).bind
    intro y _
    exact confined_pure _

theorem confined_arithmetic {apply : Float → Float → Except Breakdown Float}
    (answers : ∀ x y, ∃ z, apply x y = .ok z) (left right : Value) :
    Confined bindings allowed Value (arithmetic apply left right) := by
  apply (confined_toNumber numbers left).bind
  intro x _
  apply (confined_toNumber numbers right).bind
  intro y _
  apply (confined_of_coerces numbers (Builtin.coerces_onMachine (answers x y))).bind
  intro result _
  exact confined_pure _

theorem confined_applyOperator (operator : BinaryOperator) (left right : Value) :
    Confined bindings allowed Value (applyOperator operator left right) := by
  cases operator with
  | minus | times => exact confined_arithmetic numbers (fun _ _ => ⟨_, rfl⟩) left right
  | divide => exact confined_arithmetic numbers Number.divide_answers left right
  | power => exact confined_arithmetic numbers Number.power_answers left right
  | plus => exact confined_add numbers left right
  | _ => exact confined_pure _

theorem confined_applyUnary {symbol : String}
    (known : (UnaryOperator.ofSymbol? symbol).isSome) (operand : Value) :
    Confined bindings allowed Value (applyUnary (.text symbol) operand) := by
  obtain ⟨operator, found⟩ := Option.isSome_iff_exists.mp known
  rw [applyUnary, unaryOperator?, found]
  cases operator with
  | negative =>
      apply (confined_toNumber numbers operand).bind
      intro x _
      exact confined_pure _
  | negation => exact confined_pure _

theorem confined_invoke {builtin : Builtin} (member : builtin ∈ Builtin.standard)
    {arguments : List Value}
    (missing : arguments.length < builtin.least →
      allowed (.missingArguments builtin.name builtin.least arguments.length)) :
    Confined bindings allowed Value (invoke builtin arguments) := by
  rw [invoke]
  split
  next few => exact confined_fail (missing few)
  next more =>
    have enough : builtin.least ≤ arguments.length := Nat.le_of_not_lt more
    apply (confined_note _).bind
    intro _ _
    apply (confined_of_coerces numbers (Builtin.coerces_standard member enough)).bind
    intro reply _
    apply (confined_print _).bind
    intro _ _
    exact confined_pure _

end

/-- What an error says is so: the tree holds what the error names, and it is missing. -/
def Justified (table : List Builtin) (tree : Tree) (bindings : Bindings) : EvalError → Prop
  | .undefinedVariable name =>
      (∃ node ∈ tree.nodes, node.kind = .name ∧ node.label = .text name) ∧
        bindings.contains name = false
  | .unknownFunction name =>
      (∃ node ∈ tree.nodes, node.kind = .call ∧ node.label = .text name) ∧
        Builtin.find? table name = none
  | .missingArguments name least given =>
      ∃ node ∈ tree.nodes, node.kind = .call ∧ ∃ callee builtin, node.label = .text callee ∧
        Builtin.find? table callee = some builtin ∧ builtin.name = name ∧
        builtin.least = least ∧ node.children.length = given ∧ given < least
  | .notNumeric value => value.toNumber? = none
  | .nestedTooDeeply => True
  | .unknownKind _ _ | .unknownUnary _ | .unknownBinary _ | .missingChild | .badNumber _ => False
  | .breakdown _ => False

section

variable {tree : Tree} {bindings : Bindings}

theorem confined_lookUp {name : String}
    (occurs : ∃ node ∈ tree.nodes, node.kind = .name ∧ node.label = .text name) :
    Confined bindings (Justified Builtin.standard tree bindings) Value (lookUp name) := by
  intro session same
  rw [lookUp, Attempt.get_bind]
  cases found : session.bindings.get? name with
  | some value => exact confined_pure value session same
  | none =>
      have unbound : bindings.contains name = false := by
        simp [Bindings.contains, ← same, found]
      exact confined_fail ⟨occurs, unbound⟩ session same

theorem confined_call {name : String} {place : Place} {children : List Tree}
    (occurs : .node .call (.text name) place children ∈ tree.nodes) {arguments : List Value}
    (size : arguments.length = children.length) :
    Confined bindings (Justified Builtin.standard tree bindings) Value
      (call Builtin.standard name place arguments) := by
  rw [call]
  cases found : Builtin.find? Builtin.standard name with
  | some builtin =>
      have member : builtin ∈ Builtin.standard := List.mem_of_find?_eq_some found
      apply confined_invoke (fun _ notNumeric => notNumeric) member
      intro few
      exact ⟨_, occurs, rfl, name, builtin, rfl, found, rfl, rfl, size.symm, few⟩
  | none =>
      apply (confined_note _).bind
      intro _ _
      exact confined_fail ⟨⟨_, occurs, rfl, rfl⟩, found⟩

theorem nodeHas_confined {node : Tree} (occurs : node ∈ tree.nodes)
    (shaped : node.WellShaped) :
    NodeHas (Confined bindings (Justified Builtin.standard tree bindings)) Builtin.standard
      node := by
  have numbers (value : Value) (notNumeric : value.toNumber? = none) :
      Justified Builtin.standard tree bindings (.notNumeric value) := notNumeric
  unfold Tree.WellShaped at shaped
  split at shaped
  next => exact confined_pure _
  next => trivial
  next => trivial
  next => exact confined_lookUp ⟨_, occurs, rfl, rfl⟩
  next => exact ⟨by simp, confined_applyUnary numbers shaped⟩
  next =>
    obtain ⟨operator, found⟩ := Option.isSome_iff_exists.mp shaped
    simp only [NodeHas, binaryOperator?, found]
    exact ⟨by simp, confined_applyOperator numbers operator⟩
  next => exact fun arguments size => confined_call occurs size
  next => exact shaped.elim

theorem walk_confined {part : Tree} (regular : part.Regular)
    (inside : ∀ node ∈ part.nodes, node ∈ tree.nodes) (room : Nat) :
    ChainHas (Confined bindings (Justified Builtin.standard tree bindings))
      (walk Builtin.standard part room) :=
  walk_has (confined_composes trivial)
    (fun node member => nodeHas_confined (inside node member) (regular node member)) room

end

end Evaluation

def Tree.target? : Tree → Option String
  | .node .assign label _ _ => some label.spelled
  | _ => none

theorem Tree.Regular.target? {tree : Tree} (regular : tree.Regular) : tree.target? = none := by
  have shaped := regular tree tree.mem_nodes_self
  obtain ⟨kind, label, place, children⟩ := tree
  cases kind with
  | assign => exact shaped.elim
  | _ => rfl

namespace Evaluation

theorem evaluate_binding (table : List Builtin) (label : Label) (place : Place) (value : Tree) :
    evaluate table (.node .assign label place [value]) =
      enter nestingRoom (walk table value) >>= assign label.spelled := by
  simp [evaluate, walk, walkFirst, Chain.run, Chain.single]

/-- The bindings that a statement leaves, given how its evaluation ends. -/
def leaves (tree : Tree) (bindings : Bindings) (outcome : Except EvalError Value) : Bindings :=
  match tree.target?, outcome with
  | some name, .ok value => bindings.set name value
  | _, _ => bindings

theorem evaluate_statement {tree : Tree} (statement : tree.IsStatement) (session : Session) :
    (evaluate Builtin.standard tree session).2.bindings =
        leaves tree session.bindings (evaluate Builtin.standard tree session).1 ∧
      ∀ error, (evaluate Builtin.standard tree session).1 = .error error →
        Justified Builtin.standard tree session.bindings error := by
  have composes : Composes
      (Confined session.bindings (Justified Builtin.standard tree session.bindings)) :=
    confined_composes trivial
  cases statement with
  | expression regular =>
      have confined := run_has composes
        (walk_confined regular (fun node member => member) nestingRoom) session rfl
      refine ⟨confined.1.trans ?_, confined.2⟩
      simp only [leaves, regular.target?]
  | @binding name place value regular =>
      have inside : ∀ node ∈ value.nodes,
          node ∈ (Tree.node .assign (.text name) place [value]).nodes :=
        fun node member => Tree.mem_nodes_of_child (by simp) member
      have confined := enter_has composes (walk_confined regular inside) nestingRoom session rfl
      rw [evaluate_binding]
      rcases ran : enter nestingRoom (walk Builtin.standard value) session with
        ⟨error | result, after⟩
      · rw [ran] at confined
        rw [Attempt.bind_error ran]
        exact confined
      · rw [ran] at confined
        rw [Attempt.bind_ok ran]
        refine ⟨congrArg (·.set name result) confined.1, ?_⟩
        intro error failed
        cases failed

end Evaluation

end Reckoner
