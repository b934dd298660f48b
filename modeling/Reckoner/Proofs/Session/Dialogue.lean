import Reckoner.Proofs.Session.Constants
import Reckoner.Proofs.Session.History
import Reckoner.Proofs.Session.Transcript

/-!
The console as a fold over its lines. Up to the line that leaves it, it runs the lines that are not
blank, one after the other and whether they fail or not. What it writes in between has no influence
on them, so that it leaves the session as running the same lines without it does.
-/

namespace Reckoner

structure Session.Alike (first second : Session) : Prop where
  bindings : first.bindings = second.bindings
  events : first.events = second.events

theorem Session.Alike.trans {first second third : Session} (alike : first.Alike second)
    (further : second.Alike third) : first.Alike third :=
  ⟨alike.bindings.trans further.bindings, alike.events.trans further.events⟩

theorem Session.alike_print (session : Session) (text : String) :
    (session.print text).Alike session :=
  ⟨rfl, rfl⟩

theorem Line.alike_report (result : Value) (session : Session) :
    (report result session).Alike session := by
  rw [report]
  split
  · exact session.alike_print _
  · exact ⟨rfl, rfl⟩

theorem Line.run_alike (line : String) {first second : Session} (alike : first.Alike second) :
    (run line first).1 = (run line second).1 ∧ (run line first).2.Alike (run line second).2 := by
  have silent : first.silent = second.silent := by simp [Session.silent, alike.bindings]
  rw [appends_run line first, appends_run line second, silent]
  exact ⟨rfl, rfl, by simp [Session.before, alike.events]⟩

namespace Session

theorem runLines_cons (session : Session) (line : String) (rest : List String) :
    session.runLines (line :: rest) =
      ((line, (Line.run line session).1) :: ((Line.run line session).2.runLines rest).1,
        ((Line.run line session).2.runLines rest).2) := by
  induction rest using List.reverseRecOn with
  | nil => rfl
  | append_singleton rest last ih =>
      rw [← List.cons_append, runLines_concat, ih, runLines_concat]
      rfl

theorem runLines_alike (lines : List String) {first second : Session}
    (alike : first.Alike second) :
    (first.runLines lines).1 = (second.runLines lines).1 ∧
      (first.runLines lines).2.Alike (second.runLines lines).2 := by
  induction lines generalizing first second with
  | nil => exact ⟨rfl, alike⟩
  | cons line rest ih =>
      obtain ⟨outcome, after⟩ := Line.run_alike line alike
      obtain ⟨entries, last⟩ := ih after
      rw [runLines_cons, runLines_cons, outcome, entries]
      exact ⟨rfl, last⟩

end Session

namespace Console

variable {limit : Nat}

theorem handle_alike (line : String) (session : Session) :
    (handle limit standard false line session).Alike (Line.run line session).2 := by
  rcases ran : Line.run line session with ⟨fault | result, after⟩
  · rw [handle_of_fault ran]
    exact after.alike_print _
  · rw [handle_of_ok ran]
    exact Line.alike_report result after

theorem foldl_serve_alike (lines : List String) (session : Session) :
    (lines.foldl (serve limit) session).Alike
      (session.runLines (lines.filter fun line => !Text.isAllBlank line)).2 := by
  induction lines generalizing session with
  | nil => exact ⟨rfl, rfl⟩
  | cons line rest ih =>
      rw [List.foldl_cons, serve]
      cases blank : Text.isAllBlank line with
      | true =>
          rw [if_pos rfl, List.filter_cons_of_neg (by simp [blank])]
          exact (ih _).trans (Session.runLines_alike _ (session.alike_print prompt)).2
      | false =>
          rw [if_neg (by simp), List.filter_cons_of_pos (by simp [blank]), Session.runLines_cons]
          have served : (handle limit standard false line (session.print prompt)).Alike
              (Line.run line session).2 :=
            (handle_alike line _).trans (Line.run_alike line (session.alike_print prompt)).2
          exact (ih _).trans (Session.runLines_alike _ served).2

/-- The lines before the first one that leaves the console. -/
def entered (lines : List String) : List String :=
  lines.takeWhile fun line => Text.lowercase (Text.trim line) ≠ "exit"

def ran (lines : List String) : List String :=
  (entered lines).filter fun line => !Text.isAllBlank line

theorem plain_of_entered {lines : List String}
    (quiet : ∀ line ∈ lines, Text.lowercase (Text.trim line) ≠ "verbose-mode") :
    ∀ line ∈ entered lines, Plain line := by
  intro line member
  have inside := List.mem_takeWhile_imp member
  exact ⟨by simpa using inside, quiet line (List.takeWhile_subset _ member)⟩

theorem loop_entered {lines : List String}
    (quiet : ∀ line ∈ lines, Text.lowercase (Text.trim line) ≠ "verbose-mode")
    (session : Session) :
    loop limit standard false lines session = ((entered lines).foldl (serve limit) session).print
      (prompt ++ (if entered lines = lines then "\n" else "") ++ farewell) := by
  have split : lines = entered lines ++
      lines.dropWhile fun line => Text.lowercase (Text.trim line) ≠ "exit" :=
    List.takeWhile_append_dropWhile.symm
  have served := @loop_append limit _ (plain_of_entered quiet)
    (lines.dropWhile fun line => Text.lowercase (Text.trim line) ≠ "exit") session
  rw [← split] at served
  rw [served]
  cases rest : lines.dropWhile fun line => Text.lowercase (Text.trim line) ≠ "exit" with
  | nil =>
      rw [rest, List.append_nil] at split
      rw [if_pos split.symm, loop]
      simp only [Session.print, String.append_assoc]
  | cons line later =>
      have word : Text.lowercase (Text.trim line) = "exit" := by
        have stop := List.head?_dropWhile_not
          (fun line => decide (Text.lowercase (Text.trim line) ≠ "exit")) lines
        rw [rest] at stop
        simpa using stop
      have leaves : command line = .leave := by simp [command, word]
      have more : entered lines ≠ lines := by
        intro same
        rw [same, rest] at split
        simp at split
      rw [if_neg more, loop, respond, leaves]
      simp only [Session.print, String.append_assoc, String.append_empty]

end Console

/-- The console is the fold of running lines over what it reads. Just the lines that are not blank
and stand before the one that leaves it are run, in their order, and whether they fail makes no
difference to that. The output has the answer to each line behind its prompt, and a last prompt
before the farewell. -/
theorem Console.run_eq_fold (limit : Nat) (lines : List String) (session : Session)
    (quiet : ∀ line ∈ lines, Text.lowercase (Text.trim line) ≠ "verbose-mode") :
    (run limit standard false lines session).bindings = (session.runLines (ran lines)).2.bindings ∧
    (run limit standard false lines session).events = (session.runLines (ran lines)).2.events ∧
    (run limit standard false lines session).printed =
      session.printed ++ banner ++
        String.join ((Line.answers (entered lines) session.bindings).map
          fun answer => prompt ++ answer.text) ++
        prompt ++ (if entered lines = lines then "\n" else "") ++ farewell := by
  have served := @loop_entered limit lines quiet (session.print banner)
  have alike := (@foldl_serve_alike limit (entered lines) (session.print banner)).trans
    (Session.runLines_alike (ran lines) (session.alike_print banner)).2
  have printed := @foldl_serve_printed limit (entered lines) (session.print banner)
  rw [run, served]
  refine ⟨alike.bindings, alike.events, ?_⟩
  have written (text : String) :
      (((entered lines).foldl (serve limit) (session.print banner)).print text).printed =
        ((entered lines).foldl (serve limit) (session.print banner)).printed ++ text := rfl
  rw [written, printed]
  simp only [Session.print, String.append_assoc]

theorem Console.run_left_after_fault :
    (run Stack.levels standard false ["let x = 'a'", "", "?", " Exit", "'b'"] .fresh).printed =
      banner ++ "> a\n> > Error: Unrecognized char: '?' at line 1, col 1\n> " ++ farewell ∧
    (run Stack.levels standard false ["let x = 'a'", "", "?", " Exit", "'b'"]
      .fresh).bindings.get? "X" = some (.text "a") := by
  let lines := ["let x = 'a'", "", "?", " Exit", "'b'"]
  let x : Identifier := ⟨'x', [], by decide, by simp, by decide⟩
  have quiet : ∀ line ∈ lines, Text.lowercase (Text.trim line) ≠ "verbose-mode" := by
    decide +kernel
  have front : entered lines = ["let x = 'a'", "", "?"] := by decide +kernel
  have filled : ran lines = ["let x = 'a'", "?"] := by
    rw [ran, front]
    decide
  have text : "let x = 'a'" = (Clause.binding x (.text "a")).print ⟨'\'', by decide⟩ := by decide
  have bound (session : Session) : Line.run "let x = 'a'" session = (.ok (.text "a"),
      (session.note (.lineRun "let x = 'a'")).bind "x" (.text "a")) := by
    rw [text]
    exact Line.run_text x "a" _ session
  have first : Line.answer "let x = 'a'" .empty =
      (⟨"a\n", none⟩, Bindings.empty.set "x" (.text "a")) := by
    rw [Line.answer, if_neg (by decide), bound]
    rfl
  have blank : Text.isAllBlank "" = true := by decide
  have more : Text.isAllBlank "?" = false := by decide
  have answers : Line.answers ["let x = 'a'", "", "?"] .empty =
      [⟨"a\n", none⟩, ⟨"", none⟩, ⟨"", some (.scan (.unrecognized '?' .start))⟩] := by
    simp only [Line.answers, first, Line.answer_of_blank blank, Line.answer_of_unread more Line.tree_question_mark]
  obtain ⟨left, _, printed⟩ := Console.run_eq_fold Stack.levels lines .fresh quiet
  constructor
  · rw [printed, front, if_neg (by decide)]
    change _ ++ String.join ((Line.answers _ .empty).map _) ++ _ ++ _ ++ _ = _
    rw [answers]
    decide +kernel
  · rw [left, filled, Session.runLines_cons, Session.runLines_cons, bound,
      Line.run_of_unread Line.tree_question_mark]
    change (Bindings.empty.set "x" (.text "a")).get? "X" = _
    rw [Bindings.get?_set, if_pos (by decide +kernel)]

end Reckoner
