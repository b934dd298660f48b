import Reckoner.Text.CaseContext
import Reckoner.Text.CaseTable

/-!
Case mapping, in two strengths. `upperEach` and `lowerEach` map the characters of a text one by one
and keep every character whose mapping is longer, so texts keep their lengths. `lowercase` is the
full mapping of a whole text, with the two small forms of sigma told apart by context.
-/

namespace Reckoner.Text

def caseMapping (runs : List CaseRun) (expansions : List (Nat × List Nat)) (c : Char) :
    List Char :=
  match expansions.lookup c.toNat with
  | some codes => codes.map Char.ofNat
  | none => [Char.ofNat (mapCase runs c.toNat)]

def upper : Char → List Char :=
  caseMapping upperRuns upperExpansions

def lower : Char → List Char :=
  caseMapping lowerRuns lowerExpansions

/-- What a mapping makes of a character, unless that is more than one character. -/
def convertChar (convert : Char → List Char) (c : Char) : List Char :=
  let mapped := convert c
  if mapped.length = 1 then mapped else [c]

def convertEach (convert : Char → List Char) (text : String) : String :=
  String.ofList (text.toList.flatMap (convertChar convert))

def upperEach : String → String :=
  convertEach upper

def lowerEach : String → String :=
  convertEach lower

def sigma : Char := '\u03a3'

/-- A sigma that ends a word is written in its final form. -/
def smallSigma (before after : List Char) : Char :=
  if meetsCased before && !meetsCased after then '\u03c2' else '\u03c3'

/-- Lower-cases what follows `before`, which holds the characters already passed, last first. -/
def lowerAfter (before : List Char) : List Char → List Char
  | [] => []
  | c :: rest =>
      let mapped := if c = sigma then [smallSigma before rest] else lower c
      mapped ++ lowerAfter (c :: before) rest

def lowercase (text : String) : String :=
  String.ofList (lowerAfter [] text.toList)

end Reckoner.Text
