import Reckoner.CommandLine.Arguments
import Reckoner.Session.Batch
import Reckoner.Session.Console

/-!
The command line. Without arguments, or without a source, it opens the console; otherwise it
runs the source, which is the text given or the file named.
-/

namespace Reckoner.CommandLine

inductive Refusal where
  | wrongSuffix
  | missingFile
  | undecodable
  deriving DecidableEq, Repr

namespace Refusal

def message : Refusal → String
  | .wrongSuffix => "Only .seals files are supported."
  | .missingFile => "No such file."
  | .undecodable => "The file is not UTF-8."

end Refusal

inductive Source where
  | text (text : String)
  | file (name : String)

inductive Plan where
  | console (verbose : Bool)
  | batch (mode : Batch.Mode) (source : Source) (verbose : Bool)
  | help
  | complaint (message : String)

def mode (options : Options) : Batch.Mode :=
  if options.tokens then .tokens
  else if options.tree then .tree Stack.levels
  else .result

def planOf (options : Options) : Plan :=
  match options.source with
  | none => .console options.verbose
  | some source =>
      if options.console then .console options.verbose
      else
        .batch (mode options) (if options.literal then .text source else .file source)
          options.verbose

def plan (arguments : List String) : Plan :=
  match Options.read arguments with
  | .ok options => planOf options
  | .error .help => .help
  | .error (.complaint message) => .complaint message

def suffix : String := ".seals"

/-- The text of a file with the given bytes, if there is one. -/
def decode : Option ByteArray → Except Refusal String
  | none => .error .missingFile
  | some bytes =>
      match String.fromUTF8? bytes with
      | some text => .ok (Text.unifyNewlines text)
      | none => .error .undecodable

def load (file? : String → Option ByteArray) : Source → Except Refusal String
  | .text text => .ok text
  | .file name =>
      if suffix.toList.isSuffixOf name.toList then decode (file? name)
      else .error .wrongSuffix

inductive Ending where
  | exit (code : Nat)
  | refused (refusal : Refusal)
  deriving DecidableEq, Repr

/-- How a run ends and what it writes on its two channels. -/
structure Outcome where
  ending : Ending
  out : String
  err : String

def logOf (verbose : Bool) (session : Session) : String :=
  if verbose then session.log else ""

def runText (mode : Batch.Mode) (verbose : Bool) (text : String) : Outcome :=
  match Batch.run mode text .fresh with
  | (.ok (), after) => ⟨.exit 0, after.printed, logOf verbose after⟩
  | (.error fault, after) =>
      ⟨.exit 1, after.printed, logOf verbose after ++ "Error: " ++ fault.message ++ "\n"⟩

def runSource (file? : String → Option ByteArray) (mode : Batch.Mode) (source : Source)
    (verbose : Bool) : Outcome :=
  match load file? source with
  | .ok text => runText mode verbose text
  | .error refusal => ⟨.refused refusal, "", ""⟩

def runConsole (verbose : Bool) (lines : List String) : Outcome :=
  let after := Console.run Stack.levels Console.standard verbose lines .fresh
  ⟨.exit 0, after.printed, logOf verbose after⟩

def execute (arguments : List String) (file? : String → Option ByteArray)
    (lines : List String) : Outcome :=
  match plan arguments with
  | .console verbose => runConsole verbose lines
  | .batch mode source verbose => runSource file? mode source verbose
  | .help => ⟨.exit 0, help, ""⟩
  | .complaint message => ⟨.exit 2, "", usage ++ "seals: error: " ++ message ++ "\n"⟩

end Reckoner.CommandLine
