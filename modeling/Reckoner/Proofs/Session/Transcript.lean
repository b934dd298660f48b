import Reckoner.Proofs.Evaluation.Output
import Reckoner.Proofs.Session.Faults
import Reckoner.Proofs.Text.Lines
import Reckoner.Proofs.Token.Pieces
import Reckoner.Proofs.Tree.Acceptance
import Reckoner.Session.Batch
import Reckoner.Session.Console

/-!
The transcript of a session: what each line is answered with. The console writes the answers one
after the other, each behind a prompt, and reports the fault of a line as a part of its answer. A
batch writes the same answers without prompts and ends with the first fault.
-/

namespace Reckoner

/-- What a line writes, and the fault that ends it. -/
structure Answer where
  written : String
  fault : Option Fault

def Answer.text (answer : Answer) : String :=
  match answer.fault with
  | none => answer.written
  | some fault => answer.written ++ "Error: " ++ fault.message ++ "\n"

theorem Answer.text_of_fault {answer : Answer} {fault : Fault} (fails : answer.fault = some fault) :
    answer.text = answer.written ++ "Error: " ++ fault.message ++ "\n" := by
  rw [text, fails]

namespace Line

def answer (line : String) (bindings : Bindings) : Answer × Bindings :=
  if Text.isAllBlank line then (⟨"", none⟩, bindings)
  else
    match run line { bindings } with
    | (.ok result, after) => (⟨(report result after).printed, none⟩, after.bindings)
    | (.error fault, after) => (⟨after.printed, some fault⟩, after.bindings)

def answers : List String → Bindings → List Answer
  | [], _ => []
  | line :: rest, bindings =>
      (answer line bindings).1 :: answers rest (answer line bindings).2

theorem report_before (result : Value) (session later : Session) :
    report result (session.before later) = session.before (report result later) := by
  rw [report, report]
  split
  · simp [Session.printLine, Session.print, Session.before, String.append_assoc]
  · rfl

theorem report_bindings (result : Value) (session : Session) :
    (report result session).bindings = session.bindings := by
  rw [report]
  split
  · rfl
  · rfl

end Line

structure Session.Leads (session : Session) (text : String) (bindings : Bindings)
    (later : Session) : Prop where
  printed : later.printed = session.printed ++ text
  bound : later.bindings = bindings

namespace Line

theorem answer_of_blank {line : String} (blank : Text.isAllBlank line = true)
    (bindings : Bindings) : answer line bindings = (⟨"", none⟩, bindings) := by
  rw [answer, if_pos blank]

theorem answer_of_unread {line : String} {fault : Fault} (filled : Text.isAllBlank line = false)
    (unread : tree line = .error fault) (bindings : Bindings) :
    answer line bindings = (⟨"", some fault⟩, bindings) := by
  rw [answer, filled, run_of_unread unread]
  rfl

theorem run_answer {line : String} (filled : Text.isAllBlank line = false) (session : Session) :
    (∃ result after, run line session = (.ok result, after) ∧
      (answer line session.bindings).1.fault = none ∧
      session.Leads (answer line session.bindings).1.text (answer line session.bindings).2
        (report result after)) ∨
    ∃ fault after, run line session = (.error fault, after) ∧
      (answer line session.bindings).1.fault = some fault ∧
      session.Leads (answer line session.bindings).1.written (answer line session.bindings).2
        after := by
  have ran := appends_run line session
  have alone : session.silent = { bindings := session.bindings } := rfl
  rw [alone] at ran
  rw [answer, filled]
  rcases outcome : run line { bindings := session.bindings } with ⟨fault | result, after⟩
  · rw [outcome] at ran
    exact .inr ⟨fault, session.before after, ran, rfl, rfl, rfl⟩
  · rw [outcome] at ran
    refine .inl ⟨result, session.before after, ran, rfl, ?_⟩
    rw [report_before]
    exact ⟨rfl, report_bindings result after⟩

end Line

namespace Console

variable {limit : Nat}

/-- The line is no command of the console. -/
def Plain (line : String) : Prop :=
  Text.lowercase (Text.trim line) ≠ "exit" ∧ Text.lowercase (Text.trim line) ≠ "verbose-mode"

theorem handle_of_ok {line : String} {session after : Session} {result : Value}
    (ran : Line.run line session = (.ok result, after)) :
    handle limit standard false line session = Line.report result after := by
  have quiet : attempt limit standard false line session =
      (Line.run line).mapError .fault session := rfl
  simp only [handle, quiet, Attempt.mapError, ran]

theorem handle_of_fault {line : String} {session after : Session} {fault : Fault}
    (ran : Line.run line session = (.error fault, after)) :
    handle limit standard false line session = after.print (explain (.fault fault)) := by
  have quiet : attempt limit standard false line session =
      (Line.run line).mapError .fault session := rfl
  simp only [handle, quiet, Attempt.mapError, ran]

theorem text_eq_explain {answer : Answer} {fault : Fault} (fails : answer.fault = some fault) :
    answer.text = answer.written ++ explain (.fault fault) := by
  have explained : explain (.fault fault) = "Error: " ++ fault.message ++ "\n" := rfl
  rw [Answer.text_of_fault fails, explained]
  simp only [String.append_assoc]

theorem handle_answer {line : String} (filled : Text.isAllBlank line = false)
    (session : Session) :
    session.Leads (Line.answer line session.bindings).1.text (Line.answer line session.bindings).2
      (handle limit standard false line session) := by
  rcases Line.run_answer filled session with
    ⟨result, after, ran, _, leads⟩ | ⟨fault, after, ran, failed, leads⟩
  · rwa [handle_of_ok ran]
  · rw [handle_of_fault ran]
    refine ⟨?_, leads.bound⟩
    rw [text_eq_explain failed, ← String.append_assoc, ← leads.printed, Session.print]

theorem respond_plain {line : String} (plain : Plain line) (session : Session) :
    respond limit standard false line session = .goOn false
      (if Text.isAllBlank line then session else handle limit standard false line session) := by
  cases blank : Text.isAllBlank line with
  | true =>
      have ignored : command line = .ignore := by simp [command, plain.1, blank]
      rw [respond, ignored]
      rfl
  | false =>
      have runs : command line = .run := by simp [command, plain.1, plain.2, blank]
      rw [respond, runs]
      rfl

def serve (limit : Nat) (session : Session) (line : String) : Session :=
  if Text.isAllBlank line then session.print prompt
  else handle limit standard false line (session.print prompt)

theorem loop_append {front : List String} (plain : ∀ line ∈ front, Plain line)
    (rest : List String) (session : Session) :
    loop limit standard false (front ++ rest) session =
      loop limit standard false rest (front.foldl (serve limit) session) := by
  induction front generalizing session with
  | nil => rfl
  | cons line front ih =>
      rw [List.forall_mem_cons] at plain
      rw [List.cons_append, loop, respond_plain plain.1]
      exact ih plain.2 (serve limit session line)

theorem serve_leads (session : Session) (line : String) :
    session.Leads (prompt ++ (Line.answer line session.bindings).1.text)
      (Line.answer line session.bindings).2 (serve limit session line) := by
  cases blank : Text.isAllBlank line with
  | true =>
      rw [serve, if_pos blank, Line.answer_of_blank blank]
      exact ⟨by simp [Session.print, Answer.text], rfl⟩
  | false =>
      have leads := @handle_answer limit line blank (session.print prompt)
      rw [serve, if_neg (by simp [blank])]
      refine ⟨?_, leads.bound⟩
      rw [leads.printed]
      exact String.append_assoc

theorem foldl_serve_printed (lines : List String) (session : Session) :
    (lines.foldl (serve limit) session).printed =
      session.printed ++ String.join ((Line.answers lines session.bindings).map
        fun answer => prompt ++ answer.text) := by
  induction lines generalizing session with
  | nil => simp [Line.answers]
  | cons line rest ih =>
      have leads := @serve_leads limit session line
      rw [List.foldl_cons, ih, leads.printed, leads.bound]
      simp [Line.answers, String.append_assoc]

theorem loop_answers {lines : List String} (plain : ∀ line ∈ lines, Plain line)
    (session : Session) :
    (loop limit standard false lines session).printed =
      session.printed ++ String.join ((Line.answers lines session.bindings).map
        fun answer => prompt ++ answer.text) ++ prompt ++ "\n" ++ farewell := by
  have whole := @loop_append limit lines plain [] session
  rw [List.append_nil] at whole
  rw [whole, loop]
  simp only [Session.print, foldl_serve_printed, String.append_assoc]

end Console

namespace Batch

theorem runLines_blank {mode : Mode} {line : String} (blank : Text.isAllBlank line = true)
    (number : Nat) (rest : List String) :
    runLines mode number (line :: rest) = runLines mode (number + 1) rest := by
  rw [runLines, if_pos blank]

theorem runLines_concat_blank (mode : Mode) (number : Nat) (lines : List String) :
    runLines mode number (lines ++ [""]) = runLines mode number lines := by
  induction lines generalizing number with
  | nil => rfl
  | cons line rest ih => simp only [List.cons_append, runLines, ih]

theorem run_intercalate {lines : List String}
    (unbroken : ∀ line ∈ lines, ∀ c ∈ line.toList, Text.isLineBreak c = false) (mode : Mode) :
    run mode ("\n".intercalate lines) = runLines mode 1 lines := by
  rw [run]
  rcases Text.splitLines_intercalate unbroken with same | same
  · rw [← same]
  · have dropped := runLines_concat_blank mode 1 (Text.splitLines ("\n".intercalate lines))
    rw [← same] at dropped
    exact dropped.symm

theorem runLines_filled {line : String} (filled : Text.isAllBlank line = false) (number : Nat)
    (rest : List String) (session : Session) :
    runLines .result number (line :: rest) session =
      match Line.run line (session.note (.lineRead number line)) with
      | (.ok result, after) => runLines .result (number + 1) rest (Line.report result after)
      | (.error fault, after) => (.error fault, after) := by
  have noted : (Attempt.modify (·.note (.lineRead number line)) : Attempt Session Fault Unit)
      session = (.ok (), session.note (.lineRead number line)) := rfl
  rw [runLines, if_neg (by simp [filled]), Attempt.bind_ok noted, runLine]
  rcases ran : Line.run line (session.note (.lineRead number line)) with
    ⟨fault | result, after⟩
  · rw [Attempt.bind_error (Attempt.bind_error ran)]
  · have reported : (Line.run line >>= fun result => Attempt.modify (Line.report result))
        (session.note (.lineRead number line)) = (.ok (), Line.report result after) := by
      rw [Attempt.bind_ok ran]
      rfl
    rw [Attempt.bind_ok reported]

theorem runLines_of_success {line : String} {session : Session}
    (succeeds : (Line.answer line session.bindings).1.fault = none) (number : Nat)
    (rest : List String) :
    ∃ after, runLines .result number (line :: rest) session =
        runLines .result (number + 1) rest after ∧
      session.Leads (Line.answer line session.bindings).1.text
        (Line.answer line session.bindings).2 after := by
  cases blank : Text.isAllBlank line with
  | true =>
      rw [runLines_blank blank, Line.answer_of_blank blank]
      exact ⟨session, rfl, by simp [Answer.text], rfl⟩
  | false =>
      rw [runLines_filled blank]
      rcases Line.run_answer blank (session.note (.lineRead number line)) with
        ⟨result, after, ran, _, leads⟩ | ⟨fault, after, _, failed, _⟩
      · rw [ran]
        exact ⟨Line.report result after, rfl, leads.printed, leads.bound⟩
      · exact absurd (failed.symm.trans succeeds) (by simp)

theorem runLines_of_fault {line : String} {session : Session} {fault : Fault}
    (fails : (Line.answer line session.bindings).1.fault = some fault) (number : Nat)
    (rest : List String) :
    ∃ after, runLines .result number (line :: rest) session = (.error fault, after) ∧
      after.printed = session.printed ++ (Line.answer line session.bindings).1.written := by
  cases blank : Text.isAllBlank line with
  | true =>
      rw [Line.answer_of_blank blank] at fails
      exact absurd fails (by simp)
  | false =>
      rw [runLines_filled blank]
      rcases Line.run_answer blank (session.note (.lineRead number line)) with
        ⟨_, _, _, succeeded, _⟩ | ⟨other, after, ran, failed, leads⟩
      · exact absurd (succeeded.symm.trans fails) (by simp)
      · obtain rfl : other = fault := Option.some.inj (failed.symm.trans fails)
        rw [ran]
        exact ⟨after, rfl, leads.printed⟩

theorem runLines_complete {lines : List String} {session : Session}
    (succeed : ∀ answer ∈ Line.answers lines session.bindings, answer.fault = none)
    (number : Nat) :
    ∃ after, runLines .result number lines session = (.ok (), after) ∧
      after.printed = session.printed ++
        String.join ((Line.answers lines session.bindings).map Answer.text) := by
  induction lines generalizing session number with
  | nil => exact ⟨session, rfl, by simp [Line.answers]⟩
  | cons line rest ih =>
      rw [Line.answers, List.forall_mem_cons] at succeed
      obtain ⟨middle, step, leads⟩ := runLines_of_success succeed.1 number rest
      rw [← leads.bound] at succeed
      obtain ⟨after, ran, printed⟩ := ih succeed.2 (number + 1)
      refine ⟨after, step.trans ran, ?_⟩
      rw [printed, leads.printed, leads.bound]
      simp [Line.answers, String.append_assoc]

theorem runLines_stopped {lines : List String} {session : Session} {earlier later : List Answer}
    {last : Answer} {fault : Fault}
    (split : Line.answers lines session.bindings = earlier ++ last :: later)
    (succeed : ∀ answer ∈ earlier, answer.fault = none) (fails : last.fault = some fault)
    (number : Nat) :
    ∃ after, runLines .result number lines session = (.error fault, after) ∧
      after.printed = session.printed ++ String.join (earlier.map Answer.text) ++ last.written := by
  induction lines generalizing session number earlier with
  | nil => simp [Line.answers] at split
  | cons line rest ih =>
      rw [Line.answers] at split
      cases earlier with
      | nil =>
          obtain ⟨rfl, _⟩ := List.cons.inj split
          obtain ⟨after, ran, printed⟩ := runLines_of_fault fails number rest
          exact ⟨after, ran, by simp [printed]⟩
      | cons first earlier =>
          obtain ⟨rfl, others⟩ := List.cons.inj split
          rw [List.forall_mem_cons] at succeed
          obtain ⟨middle, step, leads⟩ := runLines_of_success succeed.1 number rest
          rw [← leads.bound] at others
          obtain ⟨after, ran, printed⟩ := ih others succeed.2 (number + 1)
          refine ⟨after, step.trans ran, ?_⟩
          rw [printed, leads.printed]
          simp [String.append_assoc]

end Batch

/-- A batch writes what the console writes for the same lines, but for the banner, the prompts and
the farewell. If a line fails, the batch ends with the fault that the console reports first, and has
written the answers before it and what the failing line wrote itself. -/
theorem Batch.run_agrees_with_console (limit : Nat) (lines : List String)
    (unbroken : ∀ line ∈ lines, ∀ c ∈ line.toList, Text.isLineBreak c = false)
    (plain : ∀ line ∈ lines, Console.Plain line) :
    (Console.run limit Console.standard false lines .fresh).printed =
      Console.banner ++ String.join ((Line.answers lines .empty).map
        fun answer => Console.prompt ++ answer.text) ++
        Console.prompt ++ "\n" ++ Console.farewell ∧
    ((∀ answer ∈ Line.answers lines .empty, answer.fault = none) →
      ∃ after, Batch.run .result ("\n".intercalate lines) .fresh = (.ok (), after) ∧
        after.printed = String.join ((Line.answers lines .empty).map Answer.text)) ∧
    ∀ earlier last later fault, Line.answers lines .empty = earlier ++ last :: later →
      (∀ answer ∈ earlier, answer.fault = none) → last.fault = some fault →
      ∃ after, Batch.run .result ("\n".intercalate lines) .fresh = (.error fault, after) ∧
        after.printed = String.join (earlier.map Answer.text) ++ last.written := by
  rw [Batch.run_intercalate unbroken]
  refine ⟨?_, ?_, ?_⟩
  · have written := @Console.loop_answers limit _ plain (Session.fresh.print Console.banner)
    simpa [Console.run, Session.print, Session.fresh] using written
  · intro succeed
    obtain ⟨after, ran, printed⟩ := @Batch.runLines_complete lines .fresh succeed 1
    exact ⟨after, ran, by simpa [Session.fresh] using printed⟩
  · intro earlier last later fault split succeed fails
    obtain ⟨after, ran, printed⟩ :=
      @Batch.runLines_stopped lines .fresh earlier later last fault split succeed fails 1
    exact ⟨after, ran, by simpa [Session.fresh] using printed⟩

theorem Batch.run_stopped_after_text :
    (Console.run Stack.levels Console.standard false ["'a'", "", "?"] .fresh).printed =
      Console.banner ++ "> a\n> > Error: Unrecognized char: '?' at line 1, col 1\n> \n" ++
        Console.farewell ∧
    ∃ after, Batch.run .result "'a'\n\n?" .fresh =
        (.error (.scan (.unrecognized '?' .start)), after) ∧ after.printed = "a\n" := by
  have quoted : Line.tree "'a'" = .ok (some (.node .text (.text "a") ⟨1, 1⟩ [])) := by
    have scanned : Token.scan "'a'" = .ok [⟨.text, "a", ⟨1, 1⟩⟩, Token.finish ⟨1, 4⟩] := by
      rw [Token.scan, Token.scanFrom_of_next rfl, if_neg (by decide), Token.scanFrom_of_next rfl]
      rfl
    have derived : Grammar.Statement Parser.nestingBudget [⟨.text, "a", ⟨1, 1⟩⟩] _ :=
      .expression (Grammar.Derives.chain (.plain (.text rfl)) 0)
    have parsed : Tree.parse [⟨.text, "a", ⟨1, 1⟩⟩, Token.finish ⟨1, 4⟩] = .ok (some _) :=
      congrArg Prod.fst (Parser.program_complete
        (.bare derived (Parser.Stops.before_finish rfl) .done) rfl)
    rw [Line.tree, Line.tokens, scanned]
    exact congrArg (Except.mapError Fault.parse) parsed
  have first : Line.answer "'a'" .empty = (⟨"a\n", none⟩, .empty) := by
    rw [Line.answer, if_neg (by decide), Line.run_of_tree quoted]
    rfl
  have last : Line.answer "?" .empty = (⟨"", some (.scan (.unrecognized '?' .start))⟩, .empty) := by
    rw [Line.answer, if_neg (by decide), Line.run_of_unread Line.tree_question_mark]
    rfl
  have blank : Line.answer "" .empty = (⟨"", none⟩, .empty) :=
    Line.answer_of_blank (by decide) .empty
  have answers : Line.answers ["'a'", "", "?"] .empty =
      [⟨"a\n", none⟩, ⟨"", none⟩, ⟨"", some (.scan (.unrecognized '?' .start))⟩] := by
    simp only [Line.answers, first, last, blank]
  have unbroken : ∀ line ∈ ["'a'", "", "?"], line.toList.any Text.isLineBreak = false := by decide
  have plain : ∀ line ∈ ["'a'", "", "?"], Text.lowercase (Text.trim line) ≠ "exit" ∧
      Text.lowercase (Text.trim line) ≠ "verbose-mode" := by decide +kernel
  obtain ⟨console, _, stopped⟩ := Batch.run_agrees_with_console Stack.levels ["'a'", "", "?"]
    (by simpa only [List.any_eq_false, Bool.not_eq_true] using unbroken) plain
  constructor
  · rw [console, answers]
    decide +kernel
  · exact stopped [⟨"a\n", none⟩, ⟨"", none⟩] _ [] _ answers (by simp) rfl

end Reckoner
