import Reckoner.Token.Scanner

/-!
A position in a whole text. A cursor moves over the text by single characters, by gaps and by
pieces, and looks at the characters around it.
-/

namespace Reckoner

structure Cursor where
  source : List Char
  position : Nat := 0
  place : Place := .start

namespace Cursor

def ofText (text : String) : Cursor :=
  { source := text.toList }

def ahead (cursor : Cursor) : List Char :=
  cursor.source.drop cursor.position

def atEnd (cursor : Cursor) : Bool :=
  cursor.source.length ≤ cursor.position

/-- The character at a distance, which may be negative. -/
def peek? (cursor : Cursor) (offset : Int) : Option Char :=
  match (cursor.position : Int) + offset with
  | .ofNat index => cursor.source[index]?
  | .negSucc _ => none

def pass (cursor : Cursor) (chars : List Char) : Cursor :=
  { cursor with
    position := cursor.position + chars.length
    place := cursor.place.passing chars }

def reading (cursor : Cursor) : Token.Reading :=
  ⟨cursor.place, cursor.ahead⟩

def next : Attempt Cursor ScanError Char := fun cursor =>
  match cursor.ahead with
  | [] => (.error (.pastEnd cursor.place), cursor)
  | c :: _ => (.ok c, cursor.pass [c])

def skipGap (cursor : Cursor) : Cursor :=
  cursor.pass (Token.takeGap false cursor.ahead).1

def skipComment (cursor : Cursor) : Cursor :=
  cursor.pass (cursor.ahead.takeWhile (· ≠ '\n'))

def take (cursor : Cursor) (piece : Token.Piece) : Token × Cursor :=
  (Token.ofPiece cursor.place piece, cursor.pass piece.source)

def takeNumber (cursor : Cursor) : Token × Cursor :=
  cursor.take (Token.numberPiece cursor.ahead)

def takeName (cursor : Cursor) : Token × Cursor :=
  cursor.take (Token.namePiece cursor.ahead)

def takeSymbol? (cursor : Cursor) : Option (Token × Cursor) :=
  (Token.symbolPiece? cursor.ahead).map cursor.take

/-- Takes a quoted text, whose quote is the character at the cursor. -/
def takeText : Attempt Cursor ScanError Token := fun cursor =>
  match Token.textPiece? cursor.ahead with
  | some piece => let (token, after) := cursor.take piece; (.ok token, after)
  | none => (.error (.pastEnd cursor.place), cursor)

def startsNumber (cursor : Cursor) : Bool :=
  (cursor.peek? 0).any Char.isDigit ||
    cursor.peek? 0 = some '.' && (cursor.peek? 1).any Char.isDigit

def succeed (taken : Token × Cursor) : Except ScanError Token × Cursor :=
  (.ok taken.1, taken.2)

def nextToken : Attempt Cursor ScanError Token := fun cursor =>
  let start := cursor.skipGap
  match start.peek? 0 with
  | none => (.ok (Token.finish start.place), start)
  | some c =>
      if start.startsNumber then succeed start.takeNumber
      else if Token.isQuote c then takeText start
      else if Token.isNameStart c then succeed start.takeName
      else
        match start.takeSymbol? with
        | some taken => succeed taken
        | none => (.error (.unrecognized c start.place), start)

end Cursor

end Reckoner
