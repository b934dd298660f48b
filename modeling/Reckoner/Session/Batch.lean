import Reckoner.Session.Line
import Reckoner.Text.Blank
import Reckoner.Text.Lines

/-!
Running a whole text, line by line in one session. Blank lines are passed over, and the first
fault ends the run.
-/

namespace Reckoner.Batch

/-- What is printed for a line: its tokens, its tree up to a depth, or its result. -/
inductive Mode where
  | tokens
  | tree (limit : Nat)
  | result
  deriving DecidableEq, Repr

def showTokens (tokens : List Token) : String :=
  " ".intercalate (tokens.map Token.shown)

def runLine (mode : Mode) (line : String) : Attempt Session Fault Unit :=
  match mode with
  | .tokens => do
      let tokens ← Attempt.ofExcept (Line.tokens line)
      Attempt.modify (·.printLine (showTokens tokens))
  | .tree limit => do
      let document ← Attempt.ofExcept (Line.dump limit line)
      Attempt.modify (·.printLine document)
  | .result => do
      let result ← Line.run line
      Attempt.modify (Line.report result)

def runLines (mode : Mode) : Nat → List String → Attempt Session Fault Unit
  | _, [] => pure ()
  | number, line :: rest =>
      if Text.isAllBlank line then runLines mode (number + 1) rest
      else do
        Attempt.modify (·.note (.lineRead number line))
        runLine mode line
        runLines mode (number + 1) rest

def run (mode : Mode) (source : String) : Attempt Session Fault Unit :=
  runLines mode 1 (Text.splitLines source)

end Reckoner.Batch
