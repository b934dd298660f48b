import Reckoner.Proofs.Bindings
import Reckoner.Proofs.Evaluation.Output

/-!
What an evaluation depends on. A tree reads the names of its name nodes and no others. In two
sessions that agree on these names it has the same outcome and prints the same, and afterwards the
sessions still agree on them, since what the tree binds it binds in both.
-/

namespace Reckoner

def Tree.names (tree : Tree) : List String :=
  (tree.nodes.filter (·.kind = .name)).map (·.label.spelled)

theorem Tree.mem_names {tree node : Tree} (below : node ∈ tree.nodes) (isName : node.kind = .name) :
    node.label.spelled ∈ tree.names :=
  List.mem_map_of_mem (List.mem_filter.mpr ⟨below, by simpa using isName⟩)

structure Session.AgreeOn (names : List String) (first second : Session) : Prop where
  bindings : Bindings.AgreeOn names first.bindings second.bindings
  printed : first.printed = second.printed
  events : first.events = second.events

namespace Evaluation

/-- The action does the same in all sessions that agree on the names. -/
def DependsOn (names : List String) {α : Type} (action : Evaluation α) : Prop :=
  ∀ first second, Session.AgreeOn names first second →
    (action first).1 = (action second).1 ∧ Session.AgreeOn names (action first).2 (action second).2

variable {names : List String} {α β : Type}

theorem dependsOn_pure (value : α) : DependsOn names (pure value : Evaluation α) :=
  fun _ _ agree => ⟨rfl, agree⟩

theorem dependsOn_fail (error : EvalError) :
    DependsOn names (Attempt.fail error : Evaluation α) :=
  fun _ _ agree => ⟨rfl, agree⟩

theorem DependsOn.bind {first : Evaluation α} {next : α → Evaluation β}
    (depends : DependsOn names first)
    (others : ∀ value, Returns first value → DependsOn names (next value)) :
    DependsOn names (first >>= next) := by
  intro left right agree
  obtain ⟨same, agreeAfter⟩ := depends left right agree
  rcases ran : first left with ⟨outcome, after⟩
  rcases ranRight : first right with ⟨outcomeRight, afterRight⟩
  rw [ran, ranRight] at same agreeAfter
  obtain rfl : outcome = outcomeRight := same
  cases outcome with
  | error error =>
      rw [Attempt.bind_error ran, Attempt.bind_error ranRight]
      exact ⟨rfl, agreeAfter⟩
  | ok value =>
      rw [Attempt.bind_ok ran, Attempt.bind_ok ranRight]
      exact others value ⟨left, after, ran⟩ after afterRight agreeAfter

theorem dependsOn_composes : Composes fun _ action => DependsOn names action where
  pure := dependsOn_pure
  bind := DependsOn.bind
  tooDeep := dependsOn_fail _

theorem dependsOn_replies : Replies fun _ action => DependsOn names action where
  fail := dependsOn_fail
  note _ _ _ agree := ⟨rfl, agree.bindings, agree.printed, congrArg (· ++ _) agree.events⟩
  print _ _ _ agree := ⟨rfl, agree.bindings, congrArg (· ++ _) agree.printed, agree.events⟩

theorem dependsOn_bind (name : String) (value : Value) :
    DependsOn names (Attempt.modify (·.bind name value)) :=
  fun _ _ agree =>
    ⟨rfl, agree.bindings.set name value, agree.printed, congrArg (· ++ _) agree.events⟩

theorem dependsOn_lookUp {name : String} (member : name ∈ names) :
    DependsOn names (lookUp name) := by
  intro first second agree
  have same := agree.bindings name member
  rw [lookUp, Attempt.get_bind, Attempt.get_bind, same]
  cases second.bindings.get? name with
  | some value => exact dependsOn_pure value first second agree
  | none => exact dependsOn_fail _ first second agree

theorem evaluate_dependsOn (table : List Builtin) (tree : Tree) :
    DependsOn tree.names (evaluate table tree) := by
  apply evaluate_of_nodes dependsOn_composes
  intro node below
  exact nodeHas_of_replies dependsOn_composes dependsOn_replies table
    (fun isName => dependsOn_lookUp (Tree.mem_names below isName))
    fun _ => dependsOn_bind node.label.spelled

theorem outcome_of_agree (table : List Builtin) {tree : Tree} {first second : Session}
    (agree : Bindings.AgreeOn tree.names first.bindings second.bindings) :
    (evaluate table tree first).1 = (evaluate table tree second).1 := by
  have appends := evaluate_has appends_composes appends_effects table tree
  rw [appends first, appends second]
  exact (evaluate_dependsOn table tree first.silent second.silent ⟨agree, rfl, rfl⟩).1

/-- Evaluation reads only the names that occur in the tree. In sessions that agree on them it has
the same outcome, prints the same, and leaves sessions that agree on them again. -/
theorem evaluate_agree (table : List Builtin) (tree : Tree) (first second : Session)
    (agree : Bindings.AgreeOn tree.names first.bindings second.bindings) :
    ∃ outcome text events bindings others,
      evaluate table tree first =
        (outcome, ⟨bindings, first.printed ++ text, first.events ++ events⟩) ∧
      evaluate table tree second =
        (outcome, ⟨others, second.printed ++ text, second.events ++ events⟩) ∧
      Bindings.AgreeOn tree.names bindings others := by
  obtain ⟨outcome, agreeAfter⟩ :=
    evaluate_dependsOn table tree first.silent second.silent ⟨agree, rfl, rfl⟩
  have appends := evaluate_has appends_composes appends_effects table tree
  refine ⟨_, _, _, _, _, appends first, ?_, agreeAfter.bindings⟩
  rw [appends second, ← outcome, Session.before, ← agreeAfter.printed, ← agreeAfter.events]

theorem evaluate_agree_negation :
    let tree : Tree := .node .unary (.text "!") ⟨1, 1⟩ [.node .name (.text "X") ⟨1, 2⟩ []]
    let other : Bindings := (Bindings.empty.set "y" (.text "b")).set "X" (.truth true)
    (evaluate Builtin.standard tree ⟨other, "c", []⟩).1 = .ok (.truth false) := by
  intro tree other
  let alone : Bindings := Bindings.empty.set "x" (.truth true)
  have names : tree.names = ["X"] := by with_unfolding_all rfl
  have key : Bindings.key "x" = Bindings.key "X" := by decide +kernel
  have agree : Bindings.AgreeOn tree.names alone other := by
    rw [names, Bindings.AgreeOn, List.forall_mem_singleton, Bindings.get?_set, Bindings.get?_set,
      if_pos key, if_pos rfl]
  have known : (evaluate Builtin.standard tree ⟨alone, "", []⟩).1 = .ok (.truth false) :=
    rfl
  obtain ⟨_, _, _, _, _, here, there, _⟩ :=
    evaluate_agree Builtin.standard tree ⟨alone, "", []⟩ ⟨other, "c", []⟩ agree
  rw [here] at known
  rw [there]
  exact known

end Evaluation

end Reckoner
