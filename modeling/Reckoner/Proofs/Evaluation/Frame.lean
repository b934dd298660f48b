import Reckoner.Proofs.Builtin.Contract
import Reckoner.Proofs.Evaluation.Dependence

/-!
What an evaluation leaves alone, whether it succeeds or fails. It binds the names of the assignments
in the tree and no others, it takes no binding away, and without a call of the builtin that prints it
prints nothing.
-/

namespace Reckoner

def Tree.Binds (tree : Tree) (key : String) : Prop :=
  ∃ node ∈ tree.nodes, node.kind = .assign ∧ Bindings.key node.label.spelled = key

def Tree.Calls (tree : Tree) (name : String) : Prop :=
  ∃ node ∈ tree.nodes, node.kind = .call ∧ Text.lowercase node.label.spelled = name

/-- The later bindings have all keys of the earlier ones, and the same values but at some keys. -/
structure Bindings.Extends (changed : String → Prop) (earlier later : Bindings) : Prop where
  kept (key : String) : ¬ changed key → later.entries.lookup key = earlier.entries.lookup key
  bound (key : String) : (earlier.entries.lookup key).isSome → (later.entries.lookup key).isSome

namespace Bindings

variable {changed : String → Prop}

theorem Extends.refl (bindings : Bindings) : Extends changed bindings bindings :=
  ⟨fun _ _ => rfl, fun _ bound => bound⟩

theorem Extends.trans {first second third : Bindings} (here : Extends changed first second)
    (there : Extends changed second third) : Extends changed first third where
  kept key unchanged := (there.kept key unchanged).trans (here.kept key unchanged)
  bound key isBound := there.bound key (here.bound key isBound)

theorem extends_set {name : String} (changes : changed (key name)) (bindings : Bindings)
    (value : Value) : Extends changed bindings (bindings.set name value) where
  kept other unchanged := by
    have different : key name ≠ other := fun same => unchanged (same ▸ changes)
    rw [set, lookup_setEntry, if_neg different]
  bound other isBound := by
    rw [set, lookup_setEntry]
    split
    · rfl
    · exact isBound

theorem Extends.agreeOn {earlier later : Bindings} (extends_ : Extends changed earlier later)
    (nothing : ∀ key, ¬ changed key) (names : List String) : AgreeOn names later earlier :=
  fun name _ => extends_.kept (key name) (nothing _)

end Bindings

namespace Evaluation

structure Passes (related : Session → Session → Prop) : Prop where
  refl (session : Session) : related session session
  trans {first second third : Session} : related first second → related second third →
    related first third

/-- The session behind the action, successful or not, is related to the one in front of it. -/
def Moves (related : Session → Session → Prop) {α : Type} (action : Evaluation α) : Prop :=
  ∀ session, related session (action session).2

section

variable {related : Session → Session → Prop} (passes : Passes related)

include passes

theorem moves_fail {α : Type} (error : EvalError) :
    Moves related (Attempt.fail error : Evaluation α) :=
  passes.refl

theorem moves_lookUp (name : String) : Moves related (lookUp name) := by
  intro session
  rw [lookUp, Attempt.get_bind]
  cases session.bindings.get? name with
  | some value => exact passes.refl session
  | none => exact passes.refl session

theorem moves_composes : Composes fun _ action => Moves related action where
  pure _ := passes.refl
  bind {_ _ first next} moves others session := by
    have here := moves session
    rcases ran : first session with ⟨error | value, after⟩
    · rw [ran] at here
      rw [Attempt.bind_error ran]
      exact here
    · rw [ran] at here
      rw [Attempt.bind_ok ran]
      exact passes.trans here (others value ⟨session, after, ran⟩ after)
  tooDeep := moves_fail passes _

end

theorem evaluate_extends (table : List Builtin) (tree : Tree) (session : Session) :
    Bindings.Extends tree.Binds session.bindings (evaluate table tree session).2.bindings := by
  have passes : Passes fun earlier later =>
      Bindings.Extends tree.Binds earlier.bindings later.bindings :=
    ⟨fun _ => .refl _, .trans⟩
  have composes := moves_composes passes
  refine evaluate_of_nodes composes ?_ session
  intro node below
  apply nodeHas_of_replies composes
  · exact ⟨moves_fail passes, fun _ _ => .refl _, fun _ _ => .refl _⟩
  · exact fun _ => moves_lookUp passes _
  · intro isAssign value session
    exact Bindings.extends_set ⟨node, below, isAssign, rfl⟩ session.bindings value

theorem printed_call {table : List Builtin} (known : table ⊆ Builtin.standard) {name : String}
    (other : Text.lowercase name ≠ "print") (place : Place) (arguments : List Value)
    (session : Session) :
    (call table name place arguments session).2.printed = session.printed := by
  rw [call]
  cases found : Builtin.find? table name with
  | none => rfl
  | some builtin =>
      have isNamed : builtin.name = Text.lowercase name := by
        simpa using List.find?_some found
      have member : builtin ∈ Builtin.standard := known (List.mem_of_find?_eq_some found)
      have printed := printed_invoke member arguments session
      rw [Builtin.shows, isNamed, if_neg other, String.append_empty] at printed
      exact printed

theorem evaluate_printed {table : List Builtin} (known : table ⊆ Builtin.standard) {tree : Tree}
    (quiet : ¬ tree.Calls "print") (session : Session) :
    (evaluate table tree session).2.printed = session.printed := by
  have passes : Passes fun earlier later => later.printed = earlier.printed :=
    ⟨fun _ => rfl, fun here there => there.trans here⟩
  have composes := moves_composes passes
  refine evaluate_of_nodes composes ?_ session
  intro node below
  apply nodeHas_of_fail composes (moves_fail passes)
  · exact fun _ => moves_lookUp passes _
  · exact fun _ _ _ => rfl
  · intro isCall arguments session
    have other : Text.lowercase node.label.spelled ≠ "print" :=
      fun prints => quiet ⟨node, below, isCall, prints⟩
    exact printed_call known other node.place arguments session

/-- What an evaluation leaves alone, however it ends: the keys that no assignment of the tree binds,
that a key is bound, and without a call of `print` what is printed. So a tree without assignments has
the same outcome again. -/
theorem evaluate_leaves (table : List Builtin) (tree : Tree) (session : Session) :
    (∀ key, ¬ tree.Binds key →
      (evaluate table tree session).2.bindings.entries.lookup key =
        session.bindings.entries.lookup key) ∧
    (∀ key, (session.bindings.entries.lookup key).isSome →
      ((evaluate table tree session).2.bindings.entries.lookup key).isSome) ∧
    (table ⊆ Builtin.standard → ¬ tree.Calls "print" →
      (evaluate table tree session).2.printed = session.printed) ∧
    ((∀ key, ¬ tree.Binds key) →
      (evaluate table tree (evaluate table tree session).2).1 =
        (evaluate table tree session).1) := by
  have extends_ := evaluate_extends table tree session
  refine ⟨extends_.kept, extends_.bound, fun known quiet => evaluate_printed known quiet session, ?_⟩
  intro nothing
  exact outcome_of_agree table (extends_.agreeOn nothing tree.names)

theorem evaluate_leaves_negated :
    let inner : Tree := .node .unary (.text "!") ⟨1, 9⟩ [.node .name (.text "Y") ⟨1, 10⟩ []]
    let tree : Tree := .node .unary (.text "-") ⟨1, 1⟩
      [.node .binary (.text "+") ⟨1, 7⟩ [.node .text (.text "") ⟨1, 5⟩ [],
        .node .assign (.text "X") ⟨1, 2⟩ [inner]]]
    let session : Session := ⟨⟨[("y", .text "b")]⟩, "c", []⟩
    ¬ tree.Binds "y" ∧ ¬ tree.Calls "print" ∧ (∀ key, ¬ inner.Binds key) ∧
      (evaluate Builtin.standard tree session).1 = .error (.notNumeric (.text "false")) ∧
      (evaluate Builtin.standard tree session).2.bindings.entries.lookup "y" =
        some (.text "b") ∧
      (evaluate Builtin.standard tree session).2.printed = "c" ∧
      (evaluate Builtin.standard inner (evaluate Builtin.standard inner session).2).1 =
        .ok (.truth false) := by
  intro inner tree session
  have other : ¬ tree.Binds "y" := by
    have different : Bindings.key "X" ≠ "y" := by decide +kernel
    simp [Tree.Binds, tree, inner, Tree.nodes, Tree.nodesAll, Tree.kind, Tree.label,
      Label.spelled, different]
  have quiet : ¬ tree.Calls "print" := by
    simp [Tree.Calls, tree, inner, Tree.nodes, Tree.nodesAll, Tree.kind]
  have nothing : ∀ key, ¬ inner.Binds key := by
    simp [Tree.Binds, inner, Tree.nodes, Tree.nodesAll, Tree.kind]
  obtain ⟨kept, _, printed, _⟩ := evaluate_leaves Builtin.standard tree session
  obtain ⟨_, _, _, again⟩ := evaluate_leaves Builtin.standard inner session
  refine ⟨other, quiet, nothing, rfl, ?_, printed (fun _ known => known) quiet, ?_⟩
  · rw [kept "y" other]
    rfl
  · rw [again nothing]
    rfl

end Evaluation

end Reckoner
