import Reckoner.Attempt
import Reckoner.Text.Blank
import Reckoner.Text.Letter
import Reckoner.Text.Quoted
import Reckoner.Token.Basic

/-!
Cutting a text into tokens. Blanks and comments between tokens form gaps. A piece is what one
token is read from: a run of digits and points, a word, a quoted text, or the longest symbol.
Gaps and pieces are cut from the remaining characters alone; places follow from what was passed.
-/

namespace Reckoner

inductive ScanError where
  | unrecognized (c : Char) (place : Place)
  | pastEnd (place : Place)
  deriving DecidableEq, Repr

namespace ScanError

def message : ScanError → String
  | .unrecognized c place =>
      "Unrecognized char: " ++ Text.quoted (String.singleton c) ++ " at " ++ place.described
  | .pastEnd place => "Attempted to read past end of source at " ++ place.described

end ScanError

namespace Token

/-- Splits off blanks and comments. A comment starts with two slashes and ends before the next
line feed, which is a blank again. -/
def takeGap (inComment : Bool) : List Char → List Char × List Char
  | [] => ([], [])
  | c :: rest =>
      if inComment && c ≠ '\n' || Text.isBlank c then
        let (gap, after) := takeGap (inComment && c ≠ '\n') rest
        (c :: gap, after)
      else if c = '/' && rest.head? = some '/' then
        let (gap, after) := takeGap true rest
        (c :: gap, after)
      else ([], c :: rest)

structure Piece where
  kind : TokenKind
  text : List Char
  source : List Char
  rest : List Char

def isNumberChar (c : Char) : Bool :=
  c.isDigit || c = '.'

def isNameStart (c : Char) : Bool :=
  Text.isLetter c || c = '_'

def isNameChar (c : Char) : Bool :=
  Text.isLetter c || c.isDigit || c = '_'

def isQuote (c : Char) : Bool :=
  c = Text.doubleQuote || c = Text.apostrophe

def numberPiece (chars : List Char) : Piece :=
  let run := chars.takeWhile isNumberChar
  ⟨.number, run, run, chars.dropWhile isNumberChar⟩

def namePiece (chars : List Char) : Piece :=
  let run := chars.takeWhile isNameChar
  ⟨(keywords.lookup run).getD .name, run, run, chars.dropWhile isNameChar⟩

def unescape (c : Char) : Char :=
  if c = 'n' then '\n' else if c = 't' then '\t' else c

/-- Reads up to the closing quote, or to the end if there is none; a backslash at the very end
is dropped. -/
def textBody (quote : Char) : List Char → Piece
  | [] => ⟨.text, [], [], []⟩
  | c :: rest =>
      if c = quote then ⟨.text, [], [c], rest⟩
      else if c = Text.backslash then
        match rest with
        | [] => ⟨.text, [], [c], []⟩
        | escaped :: rest =>
            let body := textBody quote rest
            ⟨.text, unescape escaped :: body.text, c :: escaped :: body.source, body.rest⟩
      else
        let body := textBody quote rest
        ⟨.text, c :: body.text, c :: body.source, body.rest⟩

/-- Reads a quoted text; its first character is the quote, whatever it is. -/
def textPiece? : List Char → Option Piece
  | [] => none
  | quote :: rest =>
      let body := textBody quote rest
      some { body with source := quote :: body.source }

def symbolOf? (size : Nat) (chars : List Char) : Option Piece :=
  (spellings.lookup (chars.take size)).map fun kind =>
    ⟨kind, chars.take size, chars.take size, chars.drop size⟩

/-- The longest symbol in front; none has more than two characters. -/
def symbolPiece? (chars : List Char) : Option Piece :=
  (symbolOf? 2 chars).or (symbolOf? 1 chars)

def startsNumber : List Char → Bool
  | [] => false
  | c :: rest => c.isDigit || c = '.' && rest.head?.any Char.isDigit

def readPiece? : List Char → Option Piece
  | [] => none
  | c :: rest =>
      if startsNumber (c :: rest) then some (numberPiece (c :: rest))
      else if isQuote c then textPiece? (c :: rest)
      else if isNameStart c then some (namePiece (c :: rest))
      else symbolPiece? (c :: rest)

/-- A text being read: the place reached and the characters that follow it. -/
structure Reading where
  place : Place
  rest : List Char

def ofPiece (place : Place) (piece : Piece) : Token :=
  ⟨piece.kind, String.ofList piece.text, place⟩

/-- Passes the gap and the next token. At the end there is always one more closing token. -/
def next : Attempt Reading ScanError Token := fun reading =>
  let (gap, rest) := takeGap false reading.rest
  let place := reading.place.passing gap
  match rest with
  | [] => (.ok (finish place), ⟨place, []⟩)
  | c :: _ =>
      match readPiece? rest with
      | some piece => (.ok (ofPiece place piece), ⟨place.passing piece.source, piece.rest⟩)
      | none => (.error (.unrecognized c place), ⟨place, rest⟩)

theorem takeGap_append (inComment : Bool) (chars : List Char) :
    (takeGap inComment chars).1 ++ (takeGap inComment chars).2 = chars := by
  induction chars generalizing inComment with
  | nil => rfl
  | cons c rest ih =>
      simp only [takeGap]
      split
      · simp [ih]
      · split
        · simp [ih]
        · rfl

theorem textBody_append (quote : Char) (chars : List Char) :
    (textBody quote chars).source ++ (textBody quote chars).rest = chars := by
  fun_induction textBody quote chars <;> simp_all +zetaDelta

theorem symbolOf?_append {size : Nat} {chars : List Char} {piece : Piece}
    (found : symbolOf? size chars = some piece) :
    piece.source ++ piece.rest = chars ∧ piece.source ≠ [] := by
  simp only [symbolOf?, Option.map_eq_some_iff] at found
  obtain ⟨kind, listed, rfl⟩ := found
  refine ⟨by simp, fun empty => ?_⟩
  have unlisted : spellings.lookup [] = none := by rfl
  simp only at empty
  simp [empty, unlisted] at listed

theorem readPiece?_append {chars : List Char} {piece : Piece}
    (found : readPiece? chars = some piece) :
    piece.source ++ piece.rest = chars ∧ piece.source ≠ [] := by
  cases chars with
  | nil => simp [readPiece?] at found
  | cons c rest =>
      simp only [readPiece?] at found
      split at found
      · rename_i start
        have first : isNumberChar c = true := by
          simp only [startsNumber, Bool.or_eq_true, Bool.and_eq_true] at start
          simp only [isNumberChar, Bool.or_eq_true]
          exact start.imp id And.left
        cases found
        simp [numberPiece, List.takeWhile_append_dropWhile, first]
      · split at found
        · simp only [textPiece?, Option.some.injEq] at found
          subst found
          simp [textBody_append]
        · split at found
          · rename_i start
            have first : isNameChar c = true := by
              simp only [isNameStart, Bool.or_eq_true] at start
              simp only [isNameChar, Bool.or_eq_true]
              exact start.imp Or.inl id
            cases found
            simp [namePiece, List.takeWhile_append_dropWhile, first]
          · simp only [symbolPiece?, Option.or_eq_some_iff] at found
            rcases found with long | ⟨_, short⟩
            · exact symbolOf?_append long
            · exact symbolOf?_append short

theorem readPiece?_shorter {chars : List Char} {piece : Piece}
    (found : readPiece? chars = some piece) : piece.rest.length < chars.length := by
  obtain ⟨whole, filled⟩ := readPiece?_append found
  have size := congrArg List.length whole
  have positive := List.length_pos_iff.mpr filled
  simp only [List.length_append] at size
  omega

theorem next_shorter {reading after : Reading} {token : Token}
    (read : next reading = (.ok token, after)) (more : token.kind ≠ .finish) :
    after.rest.length < reading.rest.length := by
  have whole := congrArg List.length (takeGap_append false reading.rest)
  simp only [List.length_append] at whole
  simp only [next] at read
  split at read
  · simp only [Prod.mk.injEq, Except.ok.injEq] at read
    exact absurd (read.1 ▸ rfl) more
  · rename_i c rest remaining
    split at read
    · rename_i piece found
      simp only [Prod.mk.injEq, Except.ok.injEq] at read
      have shorter := readPiece?_shorter found
      rw [← read.2]
      simp only [remaining] at *
      omega
    · simp at read

def scanFrom (reading : Reading) : Except ScanError (List Token) :=
  match read : next reading with
  | (.error error, _) => .error error
  | (.ok token, after) =>
      if more : token.kind = .finish then .ok [token]
      else
        have := next_shorter read more
        (scanFrom after).map (token :: ·)
termination_by reading.rest.length

def scan (source : String) : Except ScanError (List Token) :=
  scanFrom ⟨.start, source.toList⟩

end Token

end Reckoner
