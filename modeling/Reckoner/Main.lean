import Reckoner.CommandLine

/-!
The program: arguments, files and standard input are read, and what the library answers is
written.
-/

namespace Reckoner.Program

/-- Writes what the session printed and logged, and clears both. -/
def deliver (verbose : Bool) (session : Session) : IO Session := do
  let out ← IO.getStdout
  out.putStr session.printed
  out.flush
  let err ← IO.getStderr
  err.putStr (CommandLine.logOf verbose session)
  err.flush
  pure { session with printed := "", events := [] }

/-- Reads lines until the input ends or the console is left. -/
partial def converse (logging verbose : Bool) (session : Session) : IO Unit := do
  let session ← deliver logging (session.print Console.prompt)
  let line ← (← IO.getStdin).getLine
  if line.isEmpty then
    discard <| deliver logging (session.print ("\n" ++ Console.farewell))
  else
    let chars := line.toList
    let text := if chars.getLast? = some '\n' then String.ofList chars.dropLast else line
    match Console.respond Stack.levels Console.standard verbose text session with
    | .goOn verbose session => converse logging verbose session
    | .left session => discard <| deliver logging session

def readBytes? (name : String) : IO (Option ByteArray) := do
  try
    return some (← IO.FS.readBinFile name)
  catch _ =>
    return none

def conclude (outcome : CommandLine.Outcome) : IO UInt32 := do
  IO.print outcome.out
  IO.eprint outcome.err
  match outcome.ending with
  | .exit code => return UInt32.ofNat code
  | .refused refusal =>
      IO.eprintln refusal.message
      return 1

end Reckoner.Program

open Reckoner Program in
def main (arguments : List String) : IO UInt32 := do
  match CommandLine.plan arguments with
  | .console verbose =>
      converse verbose verbose (Session.fresh.print Console.banner)
      return 0
  | .batch mode (.file name) verbose =>
      let bytes ← readBytes? name
      conclude (CommandLine.runSource (fun _ => bytes) mode (.file name) verbose)
  | _ => conclude (CommandLine.execute arguments (fun _ => none) [])
