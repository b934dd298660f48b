import Reckoner.Attempt
import Reckoner.Bindings
import Reckoner.Place

/-!
The state that successive lines share: the bindings, what was printed, and a trace of events
for those who debug their lines.
-/

namespace Reckoner

inductive Event where
  | lineRead (number : Nat) (line : String)
  | lineRun (line : String)
  | bound (name : String) (value : Value)
  | called (name : String) (count : Nat)
  | calleeMissing (name : String) (place : Place)

namespace Event

/-- The part of the program that reports the event. -/
def source : Event → String
  | .lineRead _ _ => "seals.seals_cli"
  | .lineRun _ => "seals.seals_session"
  | .bound _ _ => "seals.seals_env"
  | .called _ _ => "seals.seals_builtins"
  | .calleeMissing _ _ => "seals.seals_eval"

def message : Event → String
  | .lineRead number line => "line " ++ toString number ++ ": " ++ line
  | .lineRun line => "run " ++ Text.quoted line
  | .bound name value => "bind " ++ name ++ " = " ++ value.shown
  | .called name count =>
      "call " ++ name ++ " with " ++ toString count ++ " argument(s)"
  | .calleeMissing name place =>
      "no builtin named " ++ name ++ " (" ++ place.described ++ ")"

def logged (event : Event) : String :=
  "DEBUG " ++ event.source ++ ": " ++ event.message ++ "\n"

end Event

structure Session where
  bindings : Bindings := .empty
  printed : String := ""
  events : List Event := []

namespace Session

def fresh : Session := {}

def print (session : Session) (text : String) : Session :=
  { session with printed := session.printed ++ text }

def printLine (session : Session) (text : String) : Session :=
  session.print (text ++ "\n")

def note (session : Session) (event : Event) : Session :=
  { session with events := session.events ++ [event] }

def bind (session : Session) (name : String) (value : Value) : Session :=
  { session.note (.bound name value) with bindings := session.bindings.set name value }

def log (session : Session) : String :=
  String.join (session.events.map Event.logged)

end Session

end Reckoner
