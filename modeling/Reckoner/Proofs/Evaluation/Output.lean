import Reckoner.Proofs.Evaluation.Induction
import Reckoner.Session.Line

/-!
What was printed and noted before has no influence. Evaluation reads nothing of a session but its
bindings, and what it prints and notes comes behind what was there. So every evaluation does in any
session what it does in a silent one with the same bindings.
-/

namespace Reckoner

namespace Session

def silent (session : Session) : Session :=
  { bindings := session.bindings }

def before (session later : Session) : Session :=
  ⟨later.bindings, session.printed ++ later.printed, session.events ++ later.events⟩

theorem before_silent (session : Session) : session.before session.silent = session := by
  simp [before, silent]

theorem silent_before (session later : Session) : (session.before later).silent = later.silent :=
  rfl

theorem before_before (first second third : Session) :
    (first.before second).before third = first.before (second.before third) := by
  simp [before, String.append_assoc]

end Session

/-- An action that acts in every session as in a silent one. -/
def Attempt.Appends {ε α : Type} (action : Attempt Session ε α) : Prop :=
  ∀ session, action session =
    ((action session.silent).1, session.before (action session.silent).2)

namespace Attempt

variable {ε ε' α β : Type}

theorem appends_pure (value : α) : Appends (pure value : Attempt Session ε α) := by
  intro session
  simp [pure_apply, session.before_silent]

theorem appends_fail (error : ε) : Appends (fail error : Attempt Session ε α) := by
  intro session
  simp [fail, session.before_silent]

theorem appends_modify {change : Session → Session}
    (appends : ∀ session, change session = session.before (change session.silent)) :
    Appends (modify change : Attempt Session ε Unit) := by
  intro session
  simp [modify, ← appends session]

theorem appends_note (event : Event) :
    Appends (modify (·.note event) : Attempt Session ε Unit) := by
  apply appends_modify
  intro session
  simp [Session.note, Session.before, Session.silent]

theorem appends_print (text : String) :
    Appends (modify (·.print text) : Attempt Session ε Unit) := by
  apply appends_modify
  intro session
  simp [Session.print, Session.before, Session.silent]

theorem appends_ofExcept (result : Except ε α) :
    Appends (ofExcept result : Attempt Session ε α) := by
  cases result with
  | ok value => exact appends_pure value
  | error error => exact appends_fail error

theorem Appends.bind {first : Attempt Session ε α} {next : α → Attempt Session ε β}
    (appends : Appends first)
    (others : ∀ value before after, first before = (.ok value, after) → Appends (next value)) :
    Appends (first >>= next) := by
  intro session
  have ran := appends session
  rcases alone : first session.silent with ⟨error | value, middle⟩
  · rw [alone] at ran
    rw [bind_error ran, bind_error alone]
  · rw [alone] at ran
    have later := others value session.silent middle alone
    rw [bind_ok ran, bind_ok alone, later, later middle, Session.silent_before,
      Session.before_before]

theorem Appends.mapError {action : Attempt Session ε α} (appends : Appends action)
    (wrap : ε → ε') : Appends (action.mapError wrap) := by
  intro session
  have ran := appends session
  rcases alone : action session.silent with ⟨error | value, after⟩
  · rw [alone] at ran
    simp [Attempt.mapError, ran, alone]
  · rw [alone] at ran
    simp [Attempt.mapError, ran, alone]

end Attempt

namespace Evaluation

open Attempt

theorem appends_composes : Composes fun _ action => Appends action where
  pure := appends_pure
  bind first others := first.bind fun value before after ran => others value ⟨before, after, ran⟩
  tooDeep := appends_fail _

theorem appends_lookUp (name : String) : Appends (lookUp name) := by
  intro session
  have same : session.silent.bindings = session.bindings := rfl
  rw [lookUp, get_bind, get_bind, same]
  cases session.bindings.get? name with
  | some value => exact appends_pure value session
  | none => exact appends_fail _ session

theorem appends_effects : Effects fun _ action => Appends action where
  fail := appends_fail
  lookUp := appends_lookUp
  bind name value := by
    apply appends_modify
    intro session
    simp [Session.bind, Session.note, Session.before, Session.silent]
  note := appends_note
  print := appends_print

end Evaluation

theorem Line.appends_run (line : String) : (Line.run line).Appends := by
  apply (Attempt.appends_note _).bind
  intro _ _ _ _
  apply (Attempt.appends_ofExcept _).bind
  intro statement _ _ _
  cases statement with
  | none => exact Attempt.appends_pure _
  | some tree =>
      apply Attempt.Appends.mapError
      exact Evaluation.evaluate_has Evaluation.appends_composes Evaluation.appends_effects _ tree

end Reckoner
