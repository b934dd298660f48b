import Reckoner.Proofs.Session.History

/-!
Reading a variable back. A line that binds a name to an expression leaves the value that it answers
with; the name alone, in any spelling that differs in case only, then answers with that value until
the name is bound again. The two spellings of truth values are the exception: they may be bound, but
they are never read as variables.
-/

namespace Reckoner

open Token Grammar

def Token.Names (source name : String) : Prop :=
  ∃ place closing, scan source = .ok [⟨.name, name, place⟩, finish closing]

/-- The text is one expression and nothing else. -/
def Line.IsExpression (source : String) : Prop :=
  ∃ tokens closing, scan source = .ok (tokens ++ [finish closing]) ∧ Derivable .expression tokens

theorem Token.scan_single {source : String} {token : Token} {closing : Place}
    {after last : Reading} (read : next ⟨.start, source.toList⟩ = (.ok token, after))
    (more : token.kind ≠ .finish) (ended : next after = (.ok (finish closing), last)) :
    scan source = .ok [token, finish closing] := by
  rw [scan, scanFrom_of_next read, if_neg more, scanFrom_of_next ended]
  rfl

theorem Token.Cut.identifier {rest source text : List Char} (cut : Cut rest source .name text) :
    ∃ identifier : Identifier, identifier.text = String.ofList text := by
  generalize isName : TokenKind.name = kind at cut
  cases cut with
  | number | text => simp at isName
  | @word c run starts inside =>
      have free : keywords.lookup (c :: run) = none := by
        have all : ∀ entry ∈ keywords, entry.2 ≠ .name := by decide
        cases found : keywords.lookup (c :: run) with
        | none => rfl
        | some kind =>
            rw [found] at isName
            exact absurd isName.symm (all (c :: run, kind) (mem_of_lookup found))
      exact ⟨⟨c, run, starts, inside, free⟩, rfl⟩
  | symbol listed =>
      have all : ∀ entry ∈ symbols, entry.2 ≠ .name := by decide
      exact absurd isName.symm (all (source, kind) listed)

theorem Token.Names.identifier {source name : String} (names : Names source name) :
    ∃ identifier : Identifier, identifier.text = name := by
  obtain ⟨place, closing, scanned⟩ := names
  obtain ⟨token, after, read⟩ := next_of_scanFrom scanned
  have first : token = ⟨.name, name, place⟩ := by
    rw [scan, scanFrom_of_next read] at scanned
    split at scanned
    · simp at scanned
    · cases rest : scanFrom after with
      | error error => simp [rest, Except.map] at scanned
      | ok tokens => simp_all [Except.map]
  subst first
  rcases next_cases read with ⟨_, same⟩ | ⟨gap, lexeme, rest, text, _, _, _, cut, same, _⟩
  · simp [finish] at same
  · obtain ⟨identifier, spelled⟩ := cut.identifier
    exact ⟨identifier, spelled.trans (congrArg Token.text same).symm⟩

namespace Line

theorem tree_of_names {line name : String} (names : Names line name)
    (noTruth : Parser.literal? name = none) :
    ∃ place, tree line = .ok (some (.node .name (.text name) place [])) := by
  obtain ⟨place, closing, scanned⟩ := names
  have statement : Statement Parser.nestingBudget [⟨.name, name, place⟩] _ :=
    .expression (Derives.chain (.plain (.name rfl noTruth)) 0)
  exact ⟨place, tree_of_separated scanned rfl statement.separated⟩

def binding (name value : String) : String :=
  "let " ++ name ++ " = " ++ value

theorem scan_binding {value : String} {tokens : List Token} (name : Identifier)
    (scanned : scan value = .ok tokens) :
    ∃ start target equals others,
      scan (binding name.text value) = .ok (start :: target :: equals :: others) ∧
      start.kind = .binding ∧ target.kind = .name ∧ target.text = name.text ∧
      equals.kind = .assign ∧ Moved tokens others := by
  obtain ⟨front, others, cut, same, moved⟩ :=
    scanFrom_spaced [.binding, .identifier name, .assign] scanned .start
  have source : (binding name.text value).toList =
      ([Lexeme.binding, .identifier name, .assign].flatMap fun lexeme => lexeme.source ++ [' ']) ++
        value.toList := by
    simp [binding, Identifier.text, Lexeme.binding, Lexeme.identifier, Lexeme.assign]
  have spelled : TokensOf [.binding, .identifier name, .assign] front := same
  simp only [tokensOf_cons, tokensOf_nil] at spelled
  obtain ⟨start, _, rfl, ⟨isBinding, _⟩, target, _, rfl, ⟨isName, text⟩, equals, _, rfl,
    ⟨isAssign, _⟩, rfl⟩ := spelled
  exact ⟨start, target, equals, others, by rw [scan, source]; exact cut, isBinding, isName, text,
    isAssign, moved⟩

theorem binds_binding {value : String} (name : Identifier) (single : IsExpression value) :
    Binds (binding name.text value) name.text := by
  obtain ⟨tokens, place, scanned, budget, tree, derivation⟩ := single
  obtain ⟨start, target, equals, others, cut, isBinding, isName, text, isAssign, moved⟩ :=
    scan_binding name scanned
  simp only [moved_append, moved_cons, moved_nil] at moved
  obtain ⟨others, _, rfl, moved, closing, _, rfl, ⟨closes, _⟩, rfl⟩ := moved
  obtain ⟨placed, derived, _⟩ := Tree.exists_single (derivation.moved moved)
  have statement : Statement budget (start :: target :: equals :: others) _ :=
    .binding isBinding isName isAssign derived
  rw [text] at statement
  exact ⟨start.place, placed, _, closing, budget, [], cut, closes, statement.separated⟩

theorem run_of_names {line name : String} (names : Names line name)
    (noTruth : Parser.literal? name = none) {session : Session} {value : Value}
    (bound : session.bindings.get? name = some value) :
    run line session = (.ok value, session.note (.lineRun line)) := by
  obtain ⟨place, read⟩ := tree_of_names names noTruth
  have kept : (session.note (.lineRun line)).bindings.get? name = some value := bound
  have found : Evaluation.lookUp name (session.note (.lineRun line)) =
      (.ok value, session.note (.lineRun line)) := by
    rw [Evaluation.lookUp, Attempt.get_bind, kept]
    rfl
  rw [run_of_tree read, Line.value, Attempt.mapError, Evaluation.evaluate, Evaluation.walk,
    Evaluation.run_single, Label.spelled, found]

theorem get?_run_of_unset {line name : String} {session : Session}
    (unset : ∀ value, ¬Session.Entry.Sets (line, (run line session).1) name value) :
    (run line session).2.bindings.get? name = session.bindings.get? name := by
  rcases run_bindings line session with ⟨written, value, binds, succeeded, left⟩ | ⟨_, left⟩
  · have other : Bindings.key written ≠ Bindings.key name :=
      fun same => unset value ⟨written, binds, same, succeeded⟩
    rw [left, Bindings.get?_set, if_neg other]
  · rw [left]

end Line

namespace Session

theorem get?_runLines_of_unset {session : Session} {lines : List String} {name : String}
    (unset : ∀ entry ∈ (session.runLines lines).1, ∀ value, ¬entry.Sets name value) :
    (session.runLines lines).2.bindings.get? name = session.bindings.get? name := by
  induction lines using List.reverseRecOn with
  | nil => rfl
  | append_singleton lines line ih =>
      rw [runLines_concat] at unset ⊢
      simp only [List.mem_append, List.mem_singleton] at unset
      rw [Line.get?_run_of_unset (unset _ (.inr rfl))]
      exact ih fun entry member => unset entry (.inl member)

/-- A successful binding can be read back. -/
theorem binding_read_back (session : Session) (name value line spelling : String)
    (result : Value) (further : List String) (isName : Names name name)
    (single : Line.IsExpression value)
    (succeeds : (Line.run (Line.binding name value) session).1 = .ok result)
    (unset : ∀ entry ∈ ((Line.run (Line.binding name value) session).2.runLines further).1,
      ∀ again, ¬entry.Sets name again)
    (isSpelling : Names line spelling) (same : Bindings.key spelling = Bindings.key name)
    (noTruth : spelling ≠ "true" ∧ spelling ≠ "false") :
    Line.run line ((Line.run (Line.binding name value) session).2.runLines further).2 =
      (.ok result,
        ((Line.run (Line.binding name value) session).2.runLines further).2.note
          (.lineRun line)) := by
  obtain ⟨identifier, rfl⟩ := isName.identifier
  have binds := Line.binds_binding identifier single
  have bound : (Line.run (Line.binding identifier.text value) session).2.bindings.get?
      identifier.text = some result := by
    rcases Line.run_bindings (Line.binding identifier.text value) session with
      ⟨written, answer, bindsWritten, succeeded, left⟩ | ⟨failed, _⟩
    · obtain rfl : identifier.text = written := binds.unique bindsWritten
      obtain rfl : result = answer := Except.ok.inj (succeeds.symm.trans succeeded)
      rw [left, Bindings.get?_set, if_pos rfl]
    · exact absurd succeeds (failed _ result binds)
  apply Line.run_of_names isSpelling (Parser.literal?.eq_3 _ noTruth.1 noTruth.2)
  rw [Bindings.get?, same, ← Bindings.get?, get?_runLines_of_unset unset, bound]

theorem binding_read_back_uppercase :
    ∃ after, (Session.fresh.runLines ["let x = 'a'", "?"]).2 = after ∧
      Line.run " X" after = (.ok (.text "a"), after.note (.lineRun " X")) := by
  let x : Identifier := ⟨'x', [], by decide, by simp, by decide⟩
  have scannedName : scan "x" = .ok [⟨.name, "x", ⟨1, 1⟩⟩, finish ⟨1, 2⟩] :=
    scan_single rfl (by decide) rfl
  have scannedLine : scan " X" = .ok [⟨.name, "X", ⟨1, 2⟩⟩, finish ⟨1, 3⟩] :=
    scan_single rfl (by decide) rfl
  have scannedValue : scan "'a'" = .ok [⟨.text, "a", ⟨1, 1⟩⟩, finish ⟨1, 4⟩] :=
    scan_single rfl (by decide) rfl
  have single : Line.IsExpression "'a'" :=
    ⟨_, _, scannedValue, 0, _, Derives.chain (.plain (.text rfl)) 0⟩
  have text : Line.binding "x" "'a'" =
      (Clause.binding x (.text "a")).print ⟨'\'', by decide⟩ := by decide
  have succeeds : (Line.run (Line.binding "x" "'a'") .fresh).1 = .ok (.text "a") := by
    rw [text, Line.run_text]
  have back := binding_read_back .fresh "x" "'a'" " X" "X" (.text "a") ["?"] ⟨_, _, scannedName⟩
    single succeeds ?_ ⟨_, _, scannedLine⟩ (by decide +kernel) (by decide)
  · exact ⟨_, rfl, back⟩
  · intro entry member again sets
    obtain ⟨_, ⟨_, _, ends⟩, _⟩ := sets
    obtain rfl := List.mem_singleton.mp member
    rcases ends.tree_cases with ⟨_, failed⟩ | read
    · simp [Line.tree_question_mark] at failed
    · simp [Line.tree_question_mark] at read

/-- The spelling of a truth value can be bound, but it still reads as the truth value. -/
theorem binding_of_truth_unread :
    Names "true" "true" ∧ Line.IsExpression "'a'" ∧
      (Line.run (Line.binding "true" "'a'") .fresh).1 = .ok (.text "a") ∧
      (Line.run "true" (Line.run (Line.binding "true" "'a'") .fresh).2).1 = .ok (.truth true) := by
  let word : Identifier :=
    ⟨'t', ['r', 'u', 'e'], by decide, List.all_eq_true.mp (by decide), by decide⟩
  have scannedName : scan "true" = .ok [⟨.name, "true", ⟨1, 1⟩⟩, finish ⟨1, 5⟩] :=
    scan_single rfl (by decide) rfl
  have scannedValue : scan "'a'" = .ok [⟨.text, "a", ⟨1, 1⟩⟩, finish ⟨1, 4⟩] :=
    scan_single rfl (by decide) rfl
  have text : Line.binding "true" "'a'" =
      (Clause.binding word (.text "a")).print ⟨'\'', by decide⟩ := by decide
  have statement : Statement Parser.nestingBudget [⟨.name, "true", ⟨1, 1⟩⟩] _ :=
    .expression (Derives.chain (.plain (.truth rfl rfl)) 0)
  have read : Line.tree "true" = .ok (some _) :=
    Line.tree_of_separated scannedName rfl statement.separated
  refine ⟨⟨_, _, scannedName⟩, ⟨_, _, scannedValue, 0, _, Derives.chain (.plain (.text rfl)) 0⟩,
    ?_, ?_⟩
  · rw [text, Line.run_text]
  · rw [Line.run_of_tree read]
    rfl

end Session

end Reckoner
