import Reckoner.Proofs.Session.Dialogue
import Reckoner.Proofs.Session.Recall
import Reckoner.Proofs.Tree.Document

/-!
What verbose mode changes. It shows tokens and tree of a line and then treats the line as it would
be treated without. A tree that is too deep for a document is the exception: it is reported in place
of running the line. So the bindings that a console leaves do not depend on the mode, as long as
every tree has a document.
-/

namespace Reckoner

open Token Grammar

def Tree.document : Option Tree → String
  | none => "null"
  | some tree => String.ofList tree.record.json

theorem Tree.dump?_eq_document {limit : Nat} {statement : Option Tree} {written : String}
    (dumped : dump? limit statement = some written) : written = document statement := by
  cases statement with
  | none => exact (Option.some.inj dumped).symm
  | some tree => exact (Record.dump?_eq_some_iff.mp dumped).2.symm

namespace Line

variable {limit : Nat}

/-- What is read from the line, if it can be read, has a document. -/
def Dumpable (limit : Nat) (line : String) : Prop :=
  ∀ statement, Line.tree line = .ok statement → (Tree.dump? limit statement).isSome

theorem tokens_of_tree {line : String} {statement : Option Tree}
    (read : tree line = .ok statement) : ∃ tokens, Line.tokens line = .ok tokens := by
  cases scanned : Line.tokens line with
  | ok tokens => exact ⟨tokens, rfl⟩
  | error fault =>
      rw [tree, scanned] at read
      cases read

theorem dump_of_unread {line : String} {fault : Fault} (unread : tree line = .error fault) :
    dump limit line = .error fault := by
  rw [dump, unread]
  rfl

theorem dump_of_tree {line : String} {statement : Option Tree}
    (read : tree line = .ok statement) :
    dump limit line = match Tree.dump? limit statement with
      | some document => .ok document
      | none => .error (.parse .tooDeepToDump) := by
  rw [dump, read]
  rfl

theorem Dumpable.dump {line : String} (dumpable : Dumpable limit line) {statement : Option Tree}
    (read : tree line = .ok statement) : dump limit line = .ok (Tree.document statement) := by
  obtain ⟨written, dumped⟩ := Option.isSome_iff_exists.mp (dumpable statement read)
  rw [dump_of_tree read, dumped, Tree.dump?_eq_document dumped]

theorem dump_of_deep {line : String} {statement : Option Tree} (read : tree line = .ok statement)
    (deep : Tree.dump? limit statement = none) :
    dump limit line = .error (.parse .tooDeepToDump) := by
  rw [dump_of_tree read, deep]

end Line

namespace Console

variable {limit : Nat}

def preview (line : String) : String :=
  match Line.tokens line with
  | .error _ => ""
  | .ok tokens => showTokens tokens ++ "\n" ++
      match Line.tree line with
      | .error _ => ""
      | .ok statement => "[ast] >>> " ++ Tree.document statement ++ "\n"

theorem dump_of_tokens {line : String} {tokens : List Token}
    (scanned : Line.tokens line = .ok tokens) (session : Session) :
    dump limit line session = match Line.dump limit line with
      | .ok document => (.ok (), session.print (showTokens tokens ++ "\n" ++
          ("[ast] >>> " ++ document ++ "\n")))
      | .error fault => (.error fault, session.print (showTokens tokens ++ "\n")) := by
  rw [dump, scanned]
  cases Line.dump limit line with
  | error fault => rfl
  | ok document =>
      change (Except.ok (), ((session.print (showTokens tokens ++ "\n")).print
        ("[ast] >>> " ++ document ++ "\n"))) = _
      simp only [Session.print, String.append_assoc]

theorem dump_of_unread {line : String} {fault : Fault} (unread : Line.tree line = .error fault)
    (session : Session) :
    dump limit line session = (.error fault, session.print (preview line)) := by
  cases scanned : Line.tokens line with
  | error error =>
      obtain rfl : error = fault := by
        rw [Line.tree, scanned] at unread
        exact Except.error.inj unread
      have empty : preview line = "" := by rw [preview, scanned]
      rw [dump, scanned, empty]
      simp only [Session.print, String.append_empty]
      rfl
  | ok tokens =>
      rw [dump_of_tokens scanned, Line.dump_of_unread unread, preview, scanned, unread]
      simp only [String.append_empty]

theorem dump_of_dumpable {line : String} {statement : Option Tree}
    (read : Line.tree line = .ok statement) (dumpable : Line.Dumpable limit line)
    (session : Session) :
    dump limit line session = (.ok (), session.print (preview line)) := by
  obtain ⟨tokens, scanned⟩ := Line.tokens_of_tree read
  rw [dump_of_tokens scanned, dumpable.dump read, preview, scanned, read]

theorem attempt_verbose (line : String) (session : Session) :
    attempt limit standard true line session =
      ((dump limit line).mapError Trouble.fault >>= fun _ => standard line) session := rfl

theorem handle_of_dump_ok {line : String} {session shown : Session}
    (dumped : dump limit line session = (.ok (), shown)) :
    handle limit standard true line session = handle limit standard false line shown := by
  have done : (dump limit line).mapError Trouble.fault session = (.ok (), shown) := by
    rw [Attempt.mapError, dumped]
  rw [handle, attempt_verbose, Attempt.bind_ok done]
  rfl

theorem handle_of_dump_error {line : String} {session shown : Session} {fault : Fault}
    (dumped : dump limit line session = (.error fault, shown)) :
    handle limit standard true line session = shown.print (explain (.fault fault)) := by
  have failed : (dump limit line).mapError Trouble.fault session =
      (.error (.fault fault), shown) := by
    rw [Attempt.mapError, dumped]
  rw [handle, attempt_verbose, Attempt.bind_error failed]

theorem handle_preview {line : String} (filled : Text.isAllBlank line = false)
    (dumpable : Line.Dumpable limit line) (session : Session) :
    session.Leads (preview line ++ (Line.answer line session.bindings).1.text)
      (Line.answer line session.bindings).2 (handle limit standard true line session) := by
  cases read : Line.tree line with
  | error fault =>
      rw [handle_of_dump_error (dump_of_unread read session), Line.answer_of_unread filled read]
      refine ⟨?_, by simp only [Session.print]⟩
      rw [text_eq_explain rfl, String.empty_append]
      simp only [Session.print, String.append_assoc]
  | ok statement =>
      have leads := @handle_answer limit line filled (session.print (preview line))
      have kept : (session.print (preview line)).bindings = session.bindings := by
        simp only [Session.print]
      rw [handle_of_dump_ok (dump_of_dumpable read dumpable session)]
      rw [kept] at leads
      refine ⟨?_, leads.bound⟩
      rw [leads.printed]
      exact String.append_assoc

theorem handle_bindings {line : String} (filled : Text.isAllBlank line = false)
    (dumpable : Line.Dumpable limit line) (verbose : Bool) (session : Session) :
    (handle limit standard verbose line session).bindings =
      (Line.answer line session.bindings).2 := by
  cases verbose with
  | false => exact (handle_answer filled session).bound
  | true => exact (handle_preview filled dumpable session).bound

theorem handle_deep {line : String} {statement : Option Tree}
    (read : Line.tree line = .ok statement) (deep : Tree.dump? limit statement = none)
    (session : Session) :
    ∃ tokens, Line.tokens line = .ok tokens ∧
      handle limit standard true line session = session.print (showTokens tokens ++ "\n" ++
        "Error: Expression nested too deeply to print as JSON\n") := by
  obtain ⟨tokens, scanned⟩ := Line.tokens_of_tree read
  have dumped : dump limit line session = (.error (.parse .tooDeepToDump),
      session.print (showTokens tokens ++ "\n")) := by
    rw [dump_of_tokens scanned, Line.dump_of_deep read deep]
  refine ⟨tokens, scanned, ?_⟩
  rw [handle_of_dump_error dumped]
  simp only [Session.print, String.append_assoc]
  rfl

theorem filled_of_run {line : String} (runs : command line = .run) :
    Text.isAllBlank line = false := by
  cases blank : Text.isAllBlank line with
  | false => rfl
  | true =>
      simp only [command, blank, if_true] at runs
      split at runs <;> cases runs

-- The induction is over the lines for all modes at once, because a line may change both.
theorem loop_modes {lines : List String}
    (dumpable : ∀ line ∈ entered lines, Line.Dumpable limit line) (verbose other : Bool)
    {first second : Session} (same : first.bindings = second.bindings) :
    (loop limit standard verbose lines first).bindings =
      (loop limit standard other lines second).bindings := by
  induction lines generalizing verbose other first second with
  | nil => exact same
  | cons line rest ih =>
      by_cases leaves : Text.lowercase (Text.trim line) = "exit"
      · have isLeave : command line = .leave := by simp [command, leaves]
        simp only [loop, respond, isLeave]
        exact same
      · have goesOn : entered (line :: rest) = line :: entered rest :=
          List.takeWhile_cons_of_pos (by simpa using leaves)
        rw [goesOn, List.forall_mem_cons] at dumpable
        rw [loop, loop, respond, respond]
        cases kind : command line with
        | leave => exact same
        | ignore => exact ih dumpable.2 verbose other same
        | toggle => exact ih dumpable.2 (!verbose) (!other) same
        | run =>
            have filled := filled_of_run kind
            apply ih dumpable.2 verbose other
            rw [handle_bindings filled dumpable.1, handle_bindings filled dumpable.1]
            exact congrArg (fun bindings => (Line.answer line bindings).2) same

/-- Verbose mode only shows more. A line leaves the same bindings and writes the same as without,
behind what is shown of it; if its tree has no document, a report of that is all. So the bindings at
the end are the same, unless there was such a line. -/
theorem verbose_adds_preview (limit : Nat) :
    (∀ line session, command line = .run → Line.Dumpable limit line →
      (handle limit standard true line session).bindings =
        (handle limit standard false line session).bindings ∧
      ∃ written, (handle limit standard false line session).printed = session.printed ++ written ∧
        (handle limit standard true line session).printed =
          session.printed ++ preview line ++ written) ∧
    (∀ line session statement, Line.tree line = .ok statement →
        Tree.dump? limit statement = none →
      (handle limit standard true line session).bindings = session.bindings ∧
      ∃ tokens, Line.tokens line = .ok tokens ∧
        (handle limit standard true line session).printed = session.printed ++ showTokens tokens ++
          "\n" ++ "Error: Expression nested too deeply to print as JSON\n") ∧
    ∀ lines session, (∀ line ∈ entered lines, Line.Dumpable limit line) →
      (run limit standard true lines session).bindings =
        (run limit standard false lines session).bindings := by
  refine ⟨?_, ?_, ?_⟩
  · intro line session runs dumpable
    have filled := filled_of_run runs
    have quiet := @handle_answer limit line filled session
    have verbose := handle_preview filled dumpable session
    refine ⟨verbose.bound.trans quiet.bound.symm, _, quiet.printed, ?_⟩
    rw [verbose.printed, String.append_assoc]
  · intro line session statement read deep
    obtain ⟨tokens, scanned, handled⟩ := handle_deep read deep session
    rw [handled]
    refine ⟨rfl, tokens, scanned, ?_⟩
    simp only [Session.print, String.append_assoc]
  · intro lines session dumpable
    exact loop_modes dumpable true false rfl

theorem verbose_adds_preview_of_text :
    command "'a'" = .run ∧ Line.Dumpable Stack.levels "'a'" ∧
      (handle Stack.levels standard false "'a'" .fresh).printed = "a\n" ∧
      (handle Stack.levels standard true "'a'" .fresh).printed =
        "[tokens] >>> [Token(STRING, a), Token(EOF, )]\n" ++
        "[ast] >>> \x7b\"kind\": \"string\", \"value\": \"a\", \"line\": 1, \"col\": 1, " ++
          "\"children\": []\x7d\n" ++ "a\n" := by
  have scanned : scan "'a'" = .ok [⟨.text, "a", ⟨1, 1⟩⟩, finish ⟨1, 4⟩] :=
    scan_single rfl (by decide) rfl
  have statement : Statement Parser.nestingBudget [⟨.text, "a", ⟨1, 1⟩⟩] _ :=
    .expression (Derives.chain (.plain (.text rfl)) 0)
  have read : Line.tree "'a'" = .ok (some (.node .text (.text "a") ⟨1, 1⟩ [])) :=
    Line.tree_of_separated scanned rfl statement.separated
  have runs : command "'a'" = .run := by
    have word : Text.lowercase (Text.trim "'a'") = "'a'" := by decide +kernel
    simp only [command, word]
    rfl
  have dumpable : Line.Dumpable Stack.levels "'a'" := by
    intro statement again
    obtain rfl : some (Tree.node .text (.text "a") ⟨1, 1⟩ []) = statement := by
      simpa [read] using again
    decide +kernel
  have quiet : (handle Stack.levels standard false "'a'" .fresh).printed = "a\n" := by
    have ran : Line.run "'a'" .fresh = (.ok (.text "a"), Session.fresh.note (.lineRun "'a'")) := by
      rw [Line.run_of_tree read]
      rfl
    rw [handle_of_ok ran]
    rfl
  have tokens : Line.tokens "'a'" = .ok [⟨.text, "a", ⟨1, 1⟩⟩, finish ⟨1, 4⟩] := by
    rw [Line.tokens, scanned]
    rfl
  obtain ⟨_, written, same, verbose⟩ :=
    (verbose_adds_preview Stack.levels).1 "'a'" .fresh runs dumpable
  obtain rfl : written = "a\n" := by
    rw [quiet] at same
    simpa [Session.fresh] using same.symm
  refine ⟨runs, dumpable, quiet, ?_⟩
  rw [verbose, preview, tokens, read]
  decide +kernel

end Console

theorem Text.stripEnds_cons {drop : Char → Bool} {c : Char} (kept : drop c = false)
    (rest : List Char) : ∃ others, stripEnds drop (c :: rest) = c :: others := by
  rw [stripEnds, List.dropWhile_cons_of_neg (by simp [kept]), List.reverse_cons,
    List.dropWhile_append]
  split
  · exact ⟨[], by simp [kept]⟩
  · exact ⟨_, by rw [List.reverse_concat]⟩

theorem Console.command_binding (name value : String) :
    command (Line.binding name value) = .run := by
  have start : (Line.binding name value).toList =
      'l' :: ("et ".toList ++ (name.toList ++ (" = ".toList ++ value.toList))) := by
    simp [Line.binding]
  have visible : Text.isBlank 'l' = false := by decide
  have filled : Text.isAllBlank (Line.binding name value) = false := by
    rw [Text.isAllBlank, start, List.all_cons, visible, Bool.false_and]
  obtain ⟨others, trimmed⟩ := Text.stripEnds_cons visible
    ("et ".toList ++ (name.toList ++ (" = ".toList ++ value.toList)))
  have small : Text.lower 'l' = ['l'] := by decide +kernel
  have word : Text.lowercase (Text.trim (Line.binding name value)) =
      String.ofList ('l' :: Text.lowerAfter ['l'] others) := by
    rw [Text.trim, start, trimmed, Text.lowercase, String.toList_ofList, Text.lowerAfter,
      if_neg (by decide), small]
    rfl
  have other (text : String) (differs : text.toList.head? ≠ some 'l') :
      Text.lowercase (Text.trim (Line.binding name value)) ≠ text := by
    rintro rfl
    simp [word] at differs
  simp [command, other "exit" (by decide), other "verbose-mode" (by decide), filled]

namespace Expression

/-- A chain of conjunctions, as deep as it is long but without nesting. -/
def conjoined : Nat → Expression
  | 0 => .truth false
  | count + 1 => .binary .conjunction (conjoined count) (.truth false)

theorem constant_conjoined (count : Nat) : (conjoined count).Constant (.truth false) := by
  induction count with
  | zero => exact constant_truth false
  | succ count ih => exact ih.conjunction rfl _

theorem depth_conjoined (count : Nat) : (conjoined count).tree.record.depth = count + 1 := by
  induction count with
  | zero => rfl
  | succ count ih =>
      simp only [conjoined, tree, Tree.record, Tree.recordAll, Record.depth, Record.depthAll, ih]
      omega

theorem room_conjoined (count : Nat) : (conjoined count).tree.nesting ≤ 1 := by
  induction count with
  | zero => decide
  | succ count ih =>
      have left : (if (conjoined count).tree.kind = .binary then (conjoined count).tree.nesting
          else (conjoined count).tree.nesting + 1) ≤ 1 := by
        cases count with
        | zero => decide
        | succ count => exact ih
      simp only [conjoined, tree, Tree.nesting, Tree.chainNesting, Tree.innerNesting]
      omega

theorem loose_conjoined (count : Nat) :
    decide ((conjoined count).level < BinaryOperator.conjunction.level) = false := by
  cases count with
  | zero => rfl
  | succ count => exact decide_eq_false (Nat.lt_irrefl _)

theorem lexemes_conjoined (quote : Quote) (count : Nat) :
    (conjoined count).lexemes quote =
      .truth false :: (List.replicate count [.binary .conjunction, .truth false]).flatten := by
  induction count with
  | zero => rfl
  | succ count ih =>
      rw [conjoined, lexemes, loose_conjoined, List.replicate_succ', List.flatten_append,
        ← List.cons_append, ← ih]
      rfl

theorem nesting_conjoined (count : Nat) : (conjoined count).nesting = 0 := by
  induction count with
  | zero => rfl
  | succ count ih =>
      rw [conjoined, nesting, loose_conjoined, ih]
      rfl

end Expression

def Line.chained (name : String) (count : Nat) : String :=
  binding name ("false" ++ String.join (List.replicate count " and false"))

theorem Clause.print_conjoined (quote : Quote) (name : Identifier) (count : Nat) :
    (Clause.binding name (.conjoined count)).print quote = Line.chained name.text count := by
  have links : (List.replicate count [Lexeme.binary .conjunction, .truth false]).flatten.flatMap
      (fun lexeme => ' ' :: lexeme.source) =
        (String.join (List.replicate count " and false")).toList := by
    induction count with
    | zero => simp
    | succ count ih =>
        rw [List.replicate_succ, List.flatten_cons, List.flatMap_append, ih, List.replicate_succ,
          String.join_cons, String.toList_append]
        rfl
  rw [Clause.print, Clause.lexemes, intercalate_source, Expression.lexemes_conjoined]
  apply String.toList_inj.mp
  simp only [List.flatMap_cons, links]
  simp [Line.chained, Line.binding, Identifier.text, Lexeme.binding, Lexeme.identifier,
    Lexeme.assign, Lexeme.truth]

namespace Line

theorem run_chained (name : Identifier) (count : Nat) (session : Session) :
    run (chained name.text count) session = (.ok (.truth false),
      (session.note (.lineRun (chained name.text count))).bind name.text (.truth false)) := by
  have room : (Expression.conjoined count).tree.nesting < Evaluation.nestingRoom :=
    Nat.lt_of_le_of_lt (Expression.room_conjoined count) (by decide)
  have shallow : (Expression.conjoined count).nesting ≤ Parser.nestingBudget := by
    rw [Expression.nesting_conjoined]
    exact Nat.zero_le _
  rw [← Clause.print_conjoined ⟨Text.doubleQuote, by decide⟩]
  exact run_constant (Expression.constant_conjoined count) shallow room name _ session

theorem tree_chained (name : Identifier) (count : Nat) :
    ∃ tree, Line.tree (chained name.text count) = .ok (some tree) ∧
      tree.record.depth = count + 2 := by
  have shallow : (Clause.binding name (.conjoined count)).nesting ≤ Parser.nestingBudget := by
    rw [Clause.nesting, Expression.nesting_conjoined]
    exact Nat.zero_le _
  rw [← Clause.print_conjoined ⟨Text.doubleQuote, by decide⟩]
  obtain ⟨tree, read, same⟩ := tree_print ⟨Text.doubleQuote, by decide⟩ shallow
  refine ⟨tree, read, ?_⟩
  rw [← Tree.depth_unplaced, same, Clause.tree, Tree.record, Tree.recordAll, Tree.recordAll,
    Record.depth, Record.depthAll, Record.depthAll, Expression.depth_conjoined, Nat.max_zero]

end Line

theorem Console.verbose_loses_binding :
    command (Line.chained "x" 800) = .run ∧
      (handle Stack.levels standard false (Line.chained "x" 800) .fresh).bindings.get? "x" =
        some (.truth false) ∧
      (handle Stack.levels standard true (Line.chained "x" 800) .fresh).bindings.get? "x" =
        none := by
  let x : Identifier := ⟨'x', [], by decide, by simp, by decide⟩
  have spelled : x.text = "x" := by decide
  refine ⟨command_binding _ _, ?_, ?_⟩
  · have left := (@handle_alike Stack.levels (Line.chained "x" 800) .fresh).bindings
    have ran := Line.run_chained x 800 .fresh
    rw [spelled] at ran
    rw [ran] at left
    rw [left]
    exact (Bindings.get?_set _ _ _ _).trans (if_pos rfl)
  · obtain ⟨tree, read, depth⟩ := Line.tree_chained x 800
    rw [spelled] at read
    have deep : Tree.dump? Stack.levels (some tree) = none := by
      rw [Tree.dump?, Record.dump?, if_neg (by rw [depth]; decide)]
    obtain ⟨tokens, _, handled⟩ := handle_deep read deep .fresh
    rw [handled]
    rfl

end Reckoner
