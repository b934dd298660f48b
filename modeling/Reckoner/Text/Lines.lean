/-!
Line ends. A text is cut at every line break, a carriage return with its line feed counting as
one; a file is read with every carriage return, alone or before a line feed, as a line feed.
-/

namespace Reckoner.Text

def lineBreakCodes : List Nat :=
  [0xA, 0xB, 0xC, 0xD, 0x1C, 0x1D, 0x1E, 0x85, 0x2028, 0x2029]

def isLineBreak (c : Char) : Bool :=
  lineBreakCodes.contains c.toNat

/-- Cuts into lines; `line` holds what is read of the first one, last character first. -/
def linesAfter (line : List Char) : List Char → List (List Char)
  | [] => if line.isEmpty then [] else [line.reverse]
  | '\r' :: '\n' :: rest => line.reverse :: linesAfter [] rest
  | c :: rest =>
      if isLineBreak c then line.reverse :: linesAfter [] rest
      else linesAfter (c :: line) rest

def splitLines (text : String) : List String :=
  (linesAfter [] text.toList).map String.ofList

def unifyBreaks : List Char → List Char
  | [] => []
  | '\r' :: '\n' :: rest => '\n' :: unifyBreaks rest
  | c :: rest => (if c = '\r' then '\n' else c) :: unifyBreaks rest

def unifyNewlines (text : String) : String :=
  String.ofList (unifyBreaks text.toList)

end Reckoner.Text
