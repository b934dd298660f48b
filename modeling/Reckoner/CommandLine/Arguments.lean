import Reckoner.Text.Digit
import Reckoner.Text.Quoted

/-!
Command-line arguments. Every argument is first taken for a word, an option or something
unknown; then they act in order. One word is the source. Whatever has no use is reported when
all have acted.
-/

namespace Reckoner.CommandLine

def usage : String :=
  "usage: seals [-h] [-s] [--tokens | --ast] [--repl] [--verbose] [source]\n"

def help : String :=
  usage ++
  "\n" ++
  "positional arguments:\n" ++
  "  source        Filename or raw source (with -s)\n" ++
  "\n" ++
  "options:\n" ++
  "  -h, --help    show this help message and exit\n" ++
  "  -s, --string  Interpret source as literal string\n" ++
  "  --tokens      Print tokens instead of evaluating\n" ++
  "  --ast         Print the AST as JSON instead of evaluating\n" ++
  "  --repl        Launch interactive REPL instead of running source\n" ++
  "  --verbose     Verbose REPL mode and debug logging\n"

inductive Flag where
  | help
  | literal
  | tokens
  | tree
  | console
  | verbose
  deriving DecidableEq, Repr

namespace Flag

def spellings : List (String × Flag) := [
  ("-h", .help), ("--help", .help), ("-s", .literal), ("--string", .literal),
  ("--tokens", .tokens), ("--ast", .tree), ("--repl", .console), ("--verbose", .verbose)]

def title (flag : Flag) : String :=
  "/".intercalate ((spellings.filter (·.2 = flag)).map Prod.fst)

def short? (letter : Char) : Option Flag :=
  spellings.lookup (String.ofList ['-', letter])

end Flag

/-- One argument by itself. A short option is followed by the letters joined to it, a long one
by the value joined to it. -/
inductive Argument where
  | word (text : String)
  | separator
  | short (flag : Flag) (joined : Option (List Char))
  | long (flag : Flag) (joined : Option (List Char))
  | unknown (text : String)

namespace Argument

def isNegativeWhole (chars : List Char) : Bool :=
  !chars.isEmpty && chars.all (Text.digitValue? · |>.isSome)

def isMagnitude (chars : List Char) : Bool :=
  isNegativeWhole chars ||
    match chars.dropWhile (Text.digitValue? · |>.isSome) with
    | '.' :: rest => isNegativeWhole rest
    | _ => false

/-- A minus and a magnitude; a line feed may follow. -/
def isNegativeNumber : List Char → Bool
  | '-' :: rest =>
      isMagnitude rest || rest.getLast? = some '\n' && isMagnitude rest.dropLast
  | _ => false

def cutValue (chars : List Char) : List Char × Option (List Char) :=
  match chars.dropWhile (· ≠ '=') with
  | [] => (chars, none)
  | _ :: value => (chars.takeWhile (· ≠ '='), some value)

def isLong (chars : List Char) : Bool :=
  chars.take 2 = ['-', '-']

def option (flag : Flag) (spelling : List Char) (joined : Option (List Char)) : Argument :=
  if isLong spelling then .long flag joined else .short flag joined

def abbreviated (start : List Char) : List (String × Flag) :=
  Flag.spellings.filter (start.isPrefixOf ·.1.toList)

def ambiguous (text : String) (candidates : List (String × Flag)) : String :=
  "ambiguous option: " ++ text ++ " could match " ++
    ", ".intercalate (candidates.map Prod.fst)

/-- What has a minus in front and is no option as it stands: a negative number or a text with
a space is a word. -/
def plain (text : String) : Argument :=
  if isNegativeNumber text.toList || text.toList.contains ' ' then .word text
  else .unknown text

def readAbbreviated (text : String) : Except String Argument :=
  let (start, joined) := cutValue text.toList
  match abbreviated start with
  | [] => .ok (plain text)
  | [(_, flag)] => .ok (.long flag joined)
  | candidates => .error (ambiguous text candidates)

def readCluster (text : String) : Argument :=
  match text.toList with
  | _ :: letter :: joined =>
      match Flag.short? letter with
      | some flag => .short flag (some joined)
      | none => plain text
  | _ => plain text

def readOption (text : String) : Except String Argument :=
  let (start, joined) := cutValue text.toList
  match Flag.spellings.lookup (String.ofList start) with
  | some flag => .ok (option flag start joined)
  | none => if isLong text.toList then readAbbreviated text else .ok (readCluster text)

/-- Takes an argument for a word, an option or something unknown; a long option that could be
several is an error. -/
def read (text : String) : Except String Argument :=
  match text.toList with
  | '-' :: _ :: _ => readOption text
  | _ => .ok (.word text)

/-- Takes all arguments. Everything behind two dashes is a word. -/
def readAll : List String → Except String (List Argument)
  | [] => .ok []
  | text :: rest =>
      if text = "--" then .ok (.separator :: rest.map .word)
      else do
        let first ← read text
        let others ← readAll rest
        pure (first :: others)

end Argument

structure Options where
  source : Option String := none
  literal : Bool := false
  tokens : Bool := false
  tree : Bool := false
  console : Bool := false
  verbose : Bool := false

inductive Stop where
  | help
  | complaint (message : String)

namespace Options

/-- Options being gathered: whether a source may still come, and what had no use so far. -/
structure Gathering where
  options : Options := {}
  sourceOpen : Bool := true
  surplus : List String := []

def excluded (flag other : Flag) : Stop :=
  .complaint ("argument " ++ flag.title ++ ": not allowed with argument " ++ other.title)

def ignored (flag : Flag) (joined : List Char) : Stop :=
  .complaint ("argument " ++ flag.title ++ ": ignored explicit argument " ++
    Text.quoted (String.ofList joined))

def raise (options : Options) : Flag → Except Stop Options
  | .help => .error .help
  | .literal => .ok { options with literal := true }
  | .tokens =>
      if options.tree then .error (excluded .tokens .tree)
      else .ok { options with tokens := true }
  | .tree =>
      if options.tokens then .error (excluded .tree .tokens)
      else .ok { options with tree := true }
  | .console => .ok { options with console := true }
  | .verbose => .ok { options with verbose := true }

/-- The flags of short options that are joined together. -/
def cluster (flag : Flag) : List Char → Except Stop (List Flag)
  | [] => .error (ignored flag [])
  | letter :: rest =>
      match Flag.short? letter with
      | none => .error (ignored flag (letter :: rest))
      | some second =>
          if rest.isEmpty then .ok [flag, second]
          else do
            let others ← cluster second rest
            pure (flag :: others)

def raiseAll (gathering : Gathering) (flags : List Flag) : Except Stop Gathering := do
  let options ← flags.foldlM raise gathering.options
  pure { gathering with options }

def takeSource (gathering : Gathering) (source : Option String) : Gathering :=
  { gathering with
    options := { gathering.options with source }
    sourceOpen := false }

def leaveOver (gathering : Gathering) (text : String) : Gathering :=
  { gathering with surplus := gathering.surplus ++ [text] }

/-- Lets the arguments act in order. The first word is the source, and two dashes next to it
belong to it. -/
def gather (gathering : Gathering) : List Argument → Except Stop Gathering
  | [] => .ok gathering
  | .word text :: .separator :: rest =>
      if gathering.sourceOpen then gather (takeSource gathering (some text)) rest
      else gather (leaveOver (leaveOver gathering text) "--") rest
  | .word text :: rest =>
      if gathering.sourceOpen then gather (takeSource gathering (some text)) rest
      else gather (leaveOver gathering text) rest
  | .separator :: .word text :: rest =>
      if gathering.sourceOpen then gather (takeSource gathering (some text)) rest
      else gather (leaveOver (leaveOver gathering "--") text) rest
  | .separator :: rest =>
      if gathering.sourceOpen then gather (takeSource gathering none) rest
      else gather (leaveOver gathering "--") rest
  | .short flag none :: rest => do
      let gathering ← raiseAll gathering [flag]
      gather gathering rest
  | .short flag (some joined) :: rest => do
      let flags ← cluster flag joined
      let gathering ← raiseAll gathering flags
      gather gathering rest
  | .long flag none :: rest => do
      let gathering ← raiseAll gathering [flag]
      gather gathering rest
  | .long flag (some joined) :: _ => .error (ignored flag joined)
  | .unknown text :: rest => gather (leaveOver gathering text) rest

def close (gathering : Gathering) : Except Stop Options :=
  if gathering.surplus.isEmpty then .ok gathering.options
  else
    .error (.complaint ("unrecognized arguments: " ++ " ".intercalate gathering.surplus))

/-- The options that the arguments ask for. -/
def read (arguments : List String) : Except Stop Options := do
  let arguments ← (Argument.readAll arguments).mapError .complaint
  let gathering ← gather {} arguments
  close gathering

end Options

end Reckoner.CommandLine
