import Reckoner.Session.Line
import Reckoner.Text.Blank

/-!
The interactive console. It prompts for lines, runs them in one session and goes on after every
fault. In verbose mode it shows the tokens and the tree of a line before running it, unless the tree
is deeper than a limit.
-/

namespace Reckoner.Console

def banner : String :=
  "########################\n" ++
  "##   SEALS LANGUAGE   ##\n" ++
  "########################\n" ++
  "Seals REPL v1.0: expressions with math, logic and text functions.\n" ++
  "Type 'exit' to leave.\n"

def prompt : String := "> "

def farewell : String := "Exiting Seals REPL.\n"

/-- Why a line that was run has no result: a fault of the line, or a breakdown of whatever runs
it, with a report. -/
inductive Trouble where
  | fault (fault : Fault)
  | breakdown (report : String)

abbrev Runner := String → Attempt Session Trouble Value

def standard : Runner :=
  fun line => (Line.run line).mapError .fault

inductive Command where
  | leave
  | ignore
  | toggle
  | run

def command (line : String) : Command :=
  let word := Text.lowercase (Text.trim line)
  if word = "exit" then .leave
  else if Text.isAllBlank line then .ignore
  else if word = "verbose-mode" then .toggle
  else .run

def showTokens (tokens : List Token) : String :=
  "[tokens] >>> [" ++ ", ".intercalate (tokens.map Token.shown) ++ "]"

section

variable (limit : Nat)

def dump (line : String) : Attempt Session Fault Unit := do
  let tokens ← Attempt.ofExcept (Line.tokens line)
  Attempt.modify (·.printLine (showTokens tokens))
  let document ← Attempt.ofExcept (Line.dump limit line)
  Attempt.modify (·.printLine ("[ast] >>> " ++ document))

def attempt (runner : Runner) (verbose : Bool) (line : String) :
    Attempt Session Trouble Value := do
  if verbose then (dump limit line).mapError .fault
  runner line

def explain : Trouble → String
  | .fault fault => "Error: " ++ fault.message ++ "\n"
  | .breakdown report => "[error] >>>\nTraceback (most recent call last):\n" ++ report ++ "\n\n"

def handle (runner : Runner) (verbose : Bool) (line : String) (session : Session) : Session :=
  match attempt limit runner verbose line session with
  | (.ok result, after) => Line.report result after
  | (.error trouble, after) => after.print (explain trouble)

def modeNotice (verbose : Bool) : String :=
  "[mode] >>> Verbose mode " ++ (if verbose then "ON" else "OFF")

inductive Reply where
  | goOn (verbose : Bool) (session : Session)
  | left (session : Session)

def respond (runner : Runner) (verbose : Bool) (line : String) (session : Session) : Reply :=
  match command line with
  | .leave => .left (session.print farewell)
  | .ignore => .goOn verbose session
  | .toggle => .goOn (!verbose) (session.printLine (modeNotice (!verbose)))
  | .run => .goOn verbose (handle limit runner verbose line session)

def loop (runner : Runner) (verbose : Bool) : List String → Session → Session
  | [], session => (session.print prompt).print ("\n" ++ farewell)
  | line :: rest, session =>
      match respond limit runner verbose line (session.print prompt) with
      | .goOn verbose session => loop runner verbose rest session
      | .left session => session

def run (runner : Runner) (verbose : Bool) (lines : List String) (session : Session) : Session :=
  loop limit runner verbose lines (session.print banner)

end

end Reckoner.Console
