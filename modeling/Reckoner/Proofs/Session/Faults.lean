import Reckoner.Proofs.Evaluation.Justification
import Reckoner.Session.Line

/-!
How a line ends. It has a value, or it cannot be cut into tokens, or no statement can be read from
the tokens, or the statement cannot be evaluated. In the last case the error is justified by the
tree and the bindings; if nothing is missing from them, only a value that is no number remains.
-/

namespace Reckoner

open Evaluation

namespace Line

theorem tree_cases (line : String) :
    (∃ error, Token.scan line = .error error ∧ tree line = .error (.scan error)) ∨
    (∃ tokens error, Token.scan line = .ok tokens ∧ Tree.parse tokens = .error error ∧
      tree line = .error (.parse error)) ∨
    ∃ tokens statement, Token.scan line = .ok tokens ∧ Tree.parse tokens = .ok statement ∧
      tree line = .ok statement := by
  rw [tree, Line.tokens]
  cases scanned : Token.scan line with
  | error error => exact .inl ⟨error, rfl, rfl⟩
  | ok tokens =>
      cases parsed : Tree.parse tokens with
      | error error =>
          refine .inr (.inl ⟨tokens, error, rfl, parsed, ?_⟩)
          change (Tree.parse tokens).mapError Fault.parse = _
          rw [parsed]
          rfl
      | ok statement =>
          refine .inr (.inr ⟨tokens, statement, rfl, parsed, ?_⟩)
          change (Tree.parse tokens).mapError Fault.parse = _
          rw [parsed]
          rfl

theorem isStatement_of_tree {line : String} {statement : Tree}
    (read : tree line = .ok (some statement)) : statement.IsStatement := by
  rcases tree_cases line with ⟨_, _, failed⟩ | ⟨_, _, _, _, failed⟩ | ⟨_, result, _, parsed, same⟩
  · simp [read] at failed
  · simp [read] at failed
  · rw [read, Except.ok.injEq] at same
    rw [← same] at parsed
    exact Tree.isStatement_of_parse parsed

theorem tree_question_mark : tree "?" = .error (.scan (.unrecognized '?' .start)) := by
  rw [tree, Line.tokens, Token.scan, Token.scanFrom]
  rfl

theorem run_of_unread {line : String} {fault : Fault} (unread : tree line = .error fault)
    (session : Session) : run line session = (.error fault, session.note (.lineRun line)) := by
  change (Attempt.ofExcept (tree line) >>= value) (session.note (.lineRun line)) = _
  rw [unread]
  rfl

theorem run_of_tree {line : String} {statement : Option Tree} (read : tree line = .ok statement)
    (session : Session) : run line session = value statement (session.note (.lineRun line)) := by
  change (Attempt.ofExcept (tree line) >>= value) (session.note (.lineRun line)) = _
  rw [read]
  rfl

theorem run_of_statement {line : String} {statement : Tree}
    (read : tree line = .ok (some statement)) (session : Session) :
    ∃ outcome after, run line session = (outcome.mapError .eval, after) ∧
      after.bindings = leaves statement session.bindings outcome ∧
      ∀ error, outcome = .error error →
        Justified Builtin.standard statement session.bindings error := by
  have spec := evaluate_statement (isStatement_of_tree read) (session.note (.lineRun line))
  rcases ran : evaluate Builtin.standard statement (session.note (.lineRun line)) with
    ⟨outcome, after⟩
  rw [ran] at spec
  refine ⟨outcome, after, ?_, spec⟩
  rw [run_of_tree read, value, Attempt.mapError, ran]
  cases outcome with
  | error error => rfl
  | ok result => rfl

end Line

/-- All variables are bound, and all calls name builtins and give them enough arguments. -/
def Tree.Complete (table : List Builtin) (bindings : Bindings) (tree : Tree) : Prop :=
  ∀ node ∈ tree.nodes,
    (∀ name, node.kind = .name → node.label = .text name → bindings.contains name = true) ∧
    ∀ name, node.kind = .call → node.label = .text name →
      ∃ builtin, Builtin.find? table name = some builtin ∧
        builtin.least ≤ node.children.length

theorem Tree.Complete.error {table : List Builtin} {bindings : Bindings} {tree : Tree}
    (complete : tree.Complete table bindings) {error : EvalError}
    (justified : Justified table tree bindings error) :
    error = .nestedTooDeeply ∨
      ∃ value : Value, error = .notNumeric value ∧ value.toNumber? = none := by
  cases error with
  | nestedTooDeeply => exact .inl rfl
  | notNumeric value => exact .inr ⟨value, rfl, justified⟩
  | undefinedVariable name =>
      obtain ⟨⟨node, member, kind, label⟩, unbound⟩ := justified
      have bound := (complete node member).1 name kind label
      simp [unbound] at bound
  | unknownFunction name =>
      obtain ⟨⟨node, member, kind, label⟩, unknown⟩ := justified
      obtain ⟨builtin, found, _⟩ := (complete node member).2 name kind label
      simp [unknown] at found
  | missingArguments name least given =>
      obtain ⟨node, member, kind, callee, builtin, label, found, _, rfl, rfl, few⟩ := justified
      obtain ⟨other, again, enough⟩ := (complete node member).2 callee kind label
      obtain rfl : builtin = other := Option.some.inj (found.symm.trans again)
      omega
  | unknownKind | unknownUnary | unknownBinary | missingChild | badNumber | breakdown =>
      exact justified.elim

end Reckoner
