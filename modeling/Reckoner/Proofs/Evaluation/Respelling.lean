import Mathlib.Data.List.Forall2
import Reckoner.Proofs.Evaluation.Output
import Reckoner.Proofs.Evaluation.Recursion

/-!
Evaluation does not see how names are spelled. In trees that differ at most in the case of the names
they assign, read and call, the evaluations bind and print the same and have the same outcome; if they
fail, the errors differ at most in the name that they quote.
-/

namespace Reckoner

def SameName (name other : String) : Prop :=
  Text.lowercase name = Text.lowercase other

instance (name other : String) : Decidable (SameName name other) :=
  inferInstanceAs (Decidable (_ = _))

def NodeKind.Respelled : NodeKind → Label → Label → Prop
  | .name, label, again | .assign, label, again | .call, label, again =>
      SameName label.spelled again.spelled
  | _, label, again => label = again

inductive Tree.Respelled : Tree → Tree → Prop
  | node {kind label again place children others} : kind.Respelled label again →
      List.Forall₂ Respelled children others →
      Respelled (.node kind label place children) (.node kind again place others)

inductive EvalError.Respelled : EvalError → EvalError → Prop
  | same (error) : Respelled error error
  | undefinedVariable {name other} : SameName name other →
      Respelled (.undefinedVariable name) (.undefinedVariable other)
  | unknownFunction {name other} : SameName name other →
      Respelled (.unknownFunction name) (.unknownFunction other)

theorem EvalError.Respelled.message {error again : EvalError} (respelled : error.Respelled again) :
    error.message = again.message ∨ ∃ front name other, SameName name other ∧
      error.message = front ++ name ++ "'" ∧ again.message = front ++ other ++ "'" := by
  cases respelled with
  | same => exact .inl rfl
  | undefinedVariable same => exact .inr ⟨"Undefined variable '", _, _, same, rfl, rfl⟩
  | unknownFunction same => exact .inr ⟨"Unknown function '", _, _, same, rfl, rfl⟩

namespace Evaluation

inductive Alike {α : Type} : Except EvalError α → Except EvalError α → Prop
  | ok (result) : Alike (.ok result) (.ok result)
  | error {error other} : error.Respelled other → Alike (.error error) (.error other)

/-- In sessions with the same bindings and the same output the actions do the same, but for the
spelling of names in errors and in the trace of events. -/
def Mirrors {α : Type} (action other : Evaluation α) : Prop :=
  ∀ first second : Session, first.bindings = second.bindings → first.printed = second.printed →
    Alike (action first).1 (other second).1 ∧
      (action first).2.bindings = (other second).2.bindings ∧
      (action first).2.printed = (other second).2.printed

section

variable {α β : Type}

theorem Mirrors.bind {action other : Evaluation α} {next further : α → Evaluation β}
    (mirrors : Mirrors action other) (rest : ∀ result, Mirrors (next result) (further result)) :
    Mirrors (action >>= next) (other >>= further) := by
  intro first second bindings printed
  obtain ⟨alike, boundAfter, printedAfter⟩ := mirrors first second bindings printed
  rcases ran : action first with ⟨outcome, after⟩
  rcases ranOther : other second with ⟨outcomeOther, afterOther⟩
  rw [ran, ranOther] at alike boundAfter printedAfter
  cases alike with
  | ok result =>
      rw [Attempt.bind_ok ran, Attempt.bind_ok ranOther]
      exact rest result after afterOther boundAfter printedAfter
  | error respelled =>
      rw [Attempt.bind_error ran, Attempt.bind_error ranOther]
      exact ⟨.error respelled, boundAfter, printedAfter⟩

theorem Alike.refl (outcome : Except EvalError α) : Alike outcome outcome := by
  cases outcome with
  | ok result => exact .ok result
  | error error => exact .error (.same error)

theorem Alike.ok_iff {first second : Except EvalError α} (alike : Alike first second)
    (result : α) : first = .ok result ↔ second = .ok result := by
  cases alike with
  | ok => exact Iff.rfl
  | error => simp

theorem Alike.of_error {first second : Except EvalError α} (alike : Alike first second)
    {error : EvalError} (failed : first = .error error) :
    ∃ again, second = .error again ∧ error.Respelled again := by
  cases alike with
  | ok => cases failed
  | error respelled =>
      cases failed
      exact ⟨_, rfl, respelled⟩

theorem mirrors_of_appends {action : Evaluation α} (appends : action.Appends) :
    Mirrors action action := by
  intro first second bindings printed
  have silent : first.silent = second.silent := by simp [Session.silent, bindings]
  rw [appends first, appends second, silent]
  exact ⟨.refl _, rfl, by simp [Session.before, printed]⟩

theorem mirrors_fail {error again : EvalError} (respelled : error.Respelled again) :
    Mirrors (Attempt.fail error : Evaluation α) (Attempt.fail again) :=
  fun _ _ bindings printed => ⟨.error respelled, bindings, printed⟩

theorem mirrors_note (event again : Event) :
    Mirrors (Attempt.modify (·.note event)) (Attempt.modify (·.note again)) :=
  fun _ _ bindings printed => ⟨.refl _, bindings, printed⟩

end

section

variable {name other : String} (same : SameName name other)

include same

theorem mirrors_lookUp : Mirrors (lookUp name) (lookUp other) := by
  intro first second bindings printed
  have found : first.bindings.get? name = second.bindings.get? other := by
    rw [bindings, Bindings.get?, Bindings.get?, Bindings.key, Bindings.key, same]
  rw [lookUp, lookUp, Attempt.get_bind, Attempt.get_bind, found]
  cases second.bindings.get? other with
  | some value => exact ⟨.ok value, bindings, printed⟩
  | none => exact mirrors_fail (.undefinedVariable same) first second bindings printed

theorem mirrors_assign (value : Value) : Mirrors (assign name value) (assign other value) := by
  intro first second bindings printed
  refine ⟨.ok value, ?_, printed⟩
  change first.bindings.set name value = second.bindings.set other value
  rw [bindings, Bindings.set, Bindings.set, Bindings.key, Bindings.key, same]

theorem mirrors_call (table : List Builtin) (place : Place) (arguments : List Value) :
    Mirrors (call table name place arguments) (call table other place arguments) := by
  have found : Builtin.find? table name = Builtin.find? table other := by
    rw [Builtin.find?, Builtin.find?, same]
  rw [call, call, found]
  cases Builtin.find? table other with
  | some builtin =>
      exact mirrors_of_appends
        (invoke_has appends_composes appends_effects.toReplies builtin arguments)
  | none =>
      apply (mirrors_note _ _).bind
      intro _
      exact mirrors_fail (.unknownFunction same)

end

structure Counterparts (table : List Builtin) (tree again : Tree) : Prop where
  kind : tree.kind = again.kind
  run (room : Nat) : Mirrors (walk table tree room).run (walk table again room).run

theorem Counterparts.enter {table : List Builtin} {tree again : Tree}
    (counterparts : Counterparts table tree again) (room : Nat) :
    Mirrors (Evaluation.enter room (walk table tree)) (Evaluation.enter room (walk table again)) := by
  cases room with
  | zero => exact mirrors_fail (.same _)
  | succ room => exact counterparts.run room

section

variable {table : List Builtin} {children others : List Tree}
  (below : List.Forall₂ (Counterparts table) children others)

include below

theorem walkFirst_mirrors (room : Nat) :
    Mirrors (walkFirst table children room) (walkFirst table others room) := by
  cases below with
  | nil => exact mirrors_fail (.same _)
  | cons first _ => exact first.enter room

theorem walkLeft_mirrors (room : Nat) :
    Mirrors (walkLeft table children room).run (walkLeft table others room).run := by
  cases below with
  | nil =>
      rw [walkLeft, run_single]
      exact mirrors_fail (.same _)
  | cons first _ =>
      rw [walkLeft, walkLeft, first.kind]
      split
      · exact first.run room
      · rw [run_single, run_single]
        exact first.enter room

theorem applyBinary_mirrors (label : Label) (room : Nat) (left : Value) :
    Mirrors (applyBinary label (walkSecond table children room) left)
      (applyBinary label (walkSecond table others room) left) := by
  have missing : Mirrors (Attempt.fail .missingChild : Evaluation Value)
      (Attempt.fail .missingChild) := mirrors_fail (.same _)
  match below with
  | .nil => exact missing
  | .cons _ .nil => exact missing
  | .cons _ (.cons second _) =>
      rw [walkSecond, walkSecond, applyBinary, applyBinary]
      split
      next operator _ =>
        rw [combine, combine]
        split
        · exact mirrors_of_appends (Attempt.appends_pure _)
        · apply (second.enter room).bind
          intro right
          exact mirrors_of_appends
            (applyOperator_has appends_composes Attempt.appends_fail operator left right)
      next =>
        apply (second.enter room).bind
        intro _
        exact mirrors_fail (.same _)

theorem walkAll_mirrors (room : Nat) :
    Mirrors (walkAll table children room) (walkAll table others room) := by
  induction below with
  | nil => exact mirrors_of_appends (Attempt.appends_pure _)
  | cons first _ ih =>
      apply (first.enter room).bind
      intro value
      apply ih.bind
      intro values
      exact mirrors_of_appends (Attempt.appends_pure _)

end

theorem counterparts_of_respelled (table : List Builtin) {tree again : Tree}
    (respelled : tree.Respelled again) : Counterparts table tree again := by
  induction tree using Tree.induction generalizing again with
  | node kind label place children ih =>
      cases respelled with
      | @node _ _ again _ _ others labels respelled =>
          have below : List.Forall₂ (Counterparts table) children others := by
            induction respelled with
            | nil => exact .nil
            | cons first _ further =>
                exact .cons (ih _ (by simp) first)
                  (further fun child member => ih child (by simp [member]))
          refine ⟨rfl, fun room => ?_⟩
          cases kind with
          | number =>
              obtain rfl : label = again := labels
              rw [walk, walk, run_single]
              exact mirrors_of_appends (number_has appends_composes Attempt.appends_fail label)
          | text | truth =>
              obtain rfl : label = again := labels
              rw [walk, walk, run_single]
              exact mirrors_of_appends (Attempt.appends_pure _)
          | name =>
              rw [walk, walk, run_single, run_single]
              exact mirrors_lookUp labels
          | assign =>
              rw [walk, walk, run_single, run_single]
              apply (walkFirst_mirrors below room).bind
              intro value
              exact mirrors_assign labels value
          | unary =>
              obtain rfl : label = again := labels
              rw [walk, walk, run_single, run_single]
              apply (walkFirst_mirrors below room).bind
              intro operand
              exact mirrors_of_appends
                (applyUnary_has appends_composes Attempt.appends_fail label operand)
          | binary =>
              obtain rfl : label = again := labels
              rw [walk, walk, run_cons, run_cons]
              apply (walkLeft_mirrors below room).bind
              intro left
              exact applyBinary_mirrors below label room left
          | call =>
              rw [walk, walk, run_single, run_single]
              apply (walkAll_mirrors below room).bind
              intro arguments
              exact mirrors_call labels table place arguments
          | other title =>
              obtain rfl : label = again := labels
              rw [walk, walk]
              exact mirrors_fail (.same _)

/-- Trees that differ at most in the case of names have the same value or fail both, leave the same
bindings and print the same. Their errors differ at most in the name that they quote. -/
theorem evaluate_respelled (table : List Builtin) {tree again : Tree}
    (respelled : tree.Respelled again) (session : Session) :
    (∀ value, (evaluate table tree session).1 = .ok value ↔
      (evaluate table again session).1 = .ok value) ∧
    (∀ error, (evaluate table tree session).1 = .error error →
      ∃ spelled, (evaluate table again session).1 = .error spelled ∧ error.Respelled spelled ∧
        (error.message = spelled.message ∨ ∃ front name other, SameName name other ∧
          error.message = front ++ name ++ "'" ∧ spelled.message = front ++ other ++ "'")) ∧
    (evaluate table tree session).2.bindings = (evaluate table again session).2.bindings ∧
    (evaluate table tree session).2.printed = (evaluate table again session).2.printed := by
  have counterparts := counterparts_of_respelled table respelled
  obtain ⟨alike, bindings, printed⟩ := counterparts.run nestingRoom session session rfl rfl
  refine ⟨alike.ok_iff, ?_, bindings, printed⟩
  intro error failed
  obtain ⟨spelled, failedAgain, respelled⟩ := alike.of_error failed
  exact ⟨spelled, failedAgain, respelled, respelled.message⟩

theorem evaluate_respelled_shouted :
    let tree (bound callee read unbound : String) : Tree :=
      .node .binary (.text "+") ⟨1, 13⟩ [
        .node .assign (.text bound) ⟨1, 1⟩ [.node .text (.text "a") ⟨1, 9⟩ []],
        .node .call (.text callee) ⟨1, 15⟩ [
          .node .name (.text read) ⟨1, 22⟩ [], .node .name (.text unbound) ⟨1, 25⟩ []]]
    (tree "x" "concat" "x" "y").Respelled (tree "X" "CONCAT" "x" "Y") ∧
      (evaluate Builtin.standard (tree "x" "concat" "x" "y") .fresh).1 =
        .error (.undefinedVariable "y") ∧
      (∃ error, (evaluate Builtin.standard (tree "X" "CONCAT" "x" "Y") .fresh).1 = .error error ∧
        (EvalError.undefinedVariable "y").Respelled error) ∧
      (evaluate Builtin.standard (tree "X" "CONCAT" "x" "Y") .fresh).2.bindings.entries =
        [("x", .text "a")] := by
  intro tree
  have leaf (kind : NodeKind) (label : Label) (place : Place) (same : kind.Respelled label label) :
      (Tree.node kind label place []).Respelled (.node kind label place []) := .node same .nil
  have bound : SameName "x" "X" := by decide +kernel
  have callee : SameName "concat" "CONCAT" := by decide +kernel
  have unbound : SameName "y" "Y" := by decide +kernel
  have respelled : (tree "x" "concat" "x" "y").Respelled (tree "X" "CONCAT" "x" "Y") :=
    .node rfl (.cons (.node bound (.cons (leaf _ _ _ rfl) .nil))
      (.cons (.node callee (.cons (leaf _ _ _ rfl) (.cons (.node unbound .nil) .nil))) .nil))
  have failed : (evaluate Builtin.standard (tree "x" "concat" "x" "y") .fresh).1 =
      .error (.undefinedVariable "y") := rfl
  obtain ⟨_, fails, bindings, _⟩ := evaluate_respelled Builtin.standard respelled .fresh
  obtain ⟨error, failedAgain, alike, _⟩ := fails _ failed
  refine ⟨respelled, failed, ⟨error, failedAgain, alike⟩, ?_⟩
  rw [← bindings]
  rfl

end Evaluation

end Reckoner
