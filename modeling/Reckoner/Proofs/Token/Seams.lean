import Reckoner.Proofs.Token.Places
import Reckoner.Proofs.Token.Unreadable

/-!
Cutting a text line by line. A line feed ends every token and every comment, unless it stands in a
quoted text, and then the text that is read differs. So tokens in front of a line feed are what
they were at the end, and behind it the scanner does what it does at the start of a text, with
higher line numbers.
-/

namespace Reckoner

open Text

def Place.lowered (lines : Nat) (place : Place) : Place :=
  { place with line := place.line + lines }

theorem Place.next_lowered (lines : Nat) (place : Place) (c : Char) :
    (place.lowered lines).next c = (place.next c).lowered lines := by
  by_cases feed : c = '\n'
  · have line : place.line + lines + 1 = place.line + 1 + lines := by omega
    simp [next, lowered, feed, line]
  · simp [next, lowered, feed]

theorem Place.passing_lowered (lines : Nat) (place : Place) (chars : List Char) :
    (place.lowered lines).passing chars = (place.passing chars).lowered lines := by
  induction chars generalizing place with
  | nil => rfl
  | cons c chars ih =>
      change ((place.lowered lines).next c).passing chars = ((place.next c).passing chars).lowered _
      rw [next_lowered, ih]

theorem Place.behind_line (before : List Char) :
    behind (before ++ ['\n']) = start.lowered (1 + before.count '\n') := by
  simp [behind, start, lowered, Int.add_comm]

def ScanError.lowered (lines : Nat) : ScanError → ScanError
  | .unrecognized c place => .unrecognized c (place.lowered lines)
  | .pastEnd place => .pastEnd (place.lowered lines)

namespace Token

def lowered (lines : Nat) (token : Token) : Token :=
  { token with place := token.place.lowered lines }

theorem kind_lowered (lines : Nat) (token : Token) : (token.lowered lines).kind = token.kind :=
  rfl

def Reading.lowered (lines : Nat) (reading : Reading) : Reading :=
  { reading with place := reading.place.lowered lines }

theorem next_lowered (lines : Nat) (reading : Reading) :
    next (reading.lowered lines) =
      (((next reading).1.map (lowered lines)).mapError (.lowered lines),
        (next reading).2.lowered lines) := by
  simp only [next, Reading.lowered, Place.passing_lowered]
  cases (takeGap false reading.rest).2 with
  | nil => rfl
  | cons c rest => cases readPiece? (c :: rest) <;> rfl

theorem scanFrom_lowered (lines : Nat) (reading : Reading) :
    scanFrom (reading.lowered lines) =
      ((scanFrom reading).map (·.map (lowered lines))).mapError (.lowered lines) := by
  have readLowered := next_lowered lines reading
  fun_induction scanFrom reading with
  | case1 reading error after failed =>
      rw [failed] at readLowered
      exact scanFrom_of_error readLowered
  | case2 reading token after read last =>
      rw [read] at readLowered
      rw [scanFrom_of_next readLowered, kind_lowered, if_pos last]
      rfl
  | case3 reading token after read more _ ih =>
      rw [read] at readLowered
      rw [scanFrom_of_next readLowered, kind_lowered, if_neg more, ih (next_lowered lines after)]
      cases scanFrom after <;> rfl

theorem Skipped.line {gap : List Char} (skipped : Skipped [] gap) (later : List Char) :
    Skipped later (gap ++ ['\n']) := by
  have feed : isBlank '\n' = true := by decide
  induction skipped with
  | nil => exact .blank feed .nil
  | blank blank _ ih => exact .blank blank ih
  | @comment remark gap inside ends _ ih =>
      rw [List.append_assoc]
      refine .comment inside ?_ ih
      intro c first
      cases gap with
      | nil => simpa using first.symm
      | cons d gap => exact ends c (by simpa using first)

theorem Body.append {quote : Char} {written text more further : List Char}
    (body : Body quote written text) (later : Body quote more further) :
    Body quote (written ++ more) (text ++ further) := by
  induction body with
  | nil => exact later
  | plain notQuote notBackslash _ ih => exact .plain notQuote notBackslash ih
  | lineFeed _ ih => exact .lineFeed ih
  | tab _ ih => exact .tab ih
  | literal notFeed notTab _ ih => exact .literal notFeed notTab ih

/-- A lexeme at the end is one in front of every blank. Otherwise a quoted text is open, and a line
feed behind it belongs to the text. -/
theorem Cut.apart_or_open {lexeme text : List Char} {kind : TokenKind}
    (cut : Cut [] lexeme kind text) :
    (∀ other, Apart other → Cut other lexeme kind text) ∨
      Cut [] (lexeme ++ ['\n']) kind (text ++ ['\n']) := by
  cases cut with
  | number starts inside => exact .inl fun _ apart => (Spells.number starts inside).cut apart
  | word start inside => exact .inl fun _ apart => (Spells.word start inside).cut apart
  | symbol listed => exact .inl fun _ apart => (Spells.symbol listed).cut apart
  | @text quote written text ending isQuote body ends =>
      have notQuote : '\n' ≠ quote := by
        rcases quote_eq isQuote with rfl | rfl <;> decide
      rcases ends with rfl | ⟨_, rfl | rfl⟩
      · exact .inl fun _ _ => .text isQuote body (.inl rfl)
      · right
        have longer := body.append (.plain notQuote (by decide) .nil)
        simpa using Cut.text isQuote longer (.inr ⟨rfl, .inl rfl⟩)
      · right
        have longer := body.append (@Body.literal quote '\n' [] [] (by decide) (by decide) .nil)
        simpa using Cut.text isQuote longer (.inr ⟨rfl, .inl rfl⟩)

def Tile.prolonged (tile : Tile) : Tile :=
  { tile with
    lexeme := tile.lexeme ++ ['\n']
    token := { tile.token with text := tile.token.text ++ "\n" } }

theorem Tile.Fits.before_line {before rest : List Char} {tile : Tile}
    (fits : tile.Fits before rest) :
    (∀ later, tile.Fits before (rest ++ '\n' :: later)) ∨
      rest = [] ∧ tile.prolonged.Fits before [] := by
  obtain ⟨c, tail, starts, _⟩ := fits.cut.start
  cases rest with
  | cons d rest =>
      left
      intro later
      exact fits.before (fits.cut.closed fits.notComment (by simp)) fun e first => .inl first
  | nil =>
      rcases fits.cut.apart_or_open with anywhere | opened
      · left
        intro later
        have feed : isBlank '\n' = true := by decide
        have apart : Apart ('\n' :: later) := by simpa [Apart] using feed
        have cut := anywhere _ apart
        exact ⟨fits.gap.mono (by simp [starts]), cut.notComment_apart apart, fits.filled, cut,
          fits.place⟩
      · right
        have single : ¬['/', '/'] <+: tile.lexeme ++ ['\n'] ++ [] :=
          opened.notComment_apart (by simp [Apart])
        exact ⟨rfl, fits.gap.mono (by simp [Tile.prolonged, starts]), single,
          by simp [Tile.prolonged], by simpa [Tile.prolonged] using opened, fits.place⟩

theorem scanFrom_line {before source last : List Char} {tiles : List Tile} {closing : Token}
    {others : List Token} (tiling : Tiling before source tiles last)
    (scanned : scanFrom ⟨.behind before, source ++ ['\n']⟩ = .ok others)
    (moved : Moved (tiles.map Tile.token ++ [closing]) others) (later : List Char) :
    scanFrom ⟨.behind before, source ++ '\n' :: later⟩ =
      (scanFrom ⟨.behind (before ++ source ++ ['\n']), later⟩).map (tiles.map Tile.token ++ ·) := by
  induction tiles generalizing before source others with
  | nil =>
      obtain ⟨rfl, skipped⟩ := tiling_nil.mp tiling
      have passed := scanFrom_gap (skipped.line later) (.behind before)
      rw [Place.behind_passing] at passed
      change _ = Except.map id _
      rw [Except.map_id]
      simpa using passed
  | cons tile tiles ih =>
      obtain ⟨rest, rfl, fits, further⟩ := tiling_cons.mp tiling
      rcases fits.before_line with follows | ⟨rfl, prolonged⟩
      · have alone := (follows []).next
        rw [List.append_assoc] at scanned ⊢
        obtain ⟨more, behind, rfl⟩ := scanFrom_uncons alone fits.cut.kind_ne scanned
        obtain ⟨_, _, same, _, movedRest⟩ := moved_cons.mp moved
        obtain ⟨rfl, rfl⟩ := List.cons.inj same
        rw [scanFrom_of_next (follows later).next, if_neg fits.cut.kind_ne,
          ih further behind movedRest]
        simp only [List.append_assoc, List.map_cons, List.cons_append]
        cases scanFrom ⟨.behind (before ++ (tile.source ++ (rest ++ ['\n']))), later⟩ <;> rfl
      · -- A text that the line feed prolongs is not the one that was read in front of it.
        have read := prolonged.next
        have source : tile.prolonged.source ++ [] = tile.source ++ [] ++ ['\n'] := by
          simp [Tile.prolonged, Tile.source]
        rw [source] at read
        obtain ⟨more, _, rfl⟩ := scanFrom_uncons read prolonged.cut.kind_ne scanned
        obtain ⟨_, _, same, ⟨_, text⟩, _⟩ := moved_cons.mp moved
        obtain ⟨rfl, _⟩ := List.cons.inj same
        have size := congrArg String.length text
        simp [Tile.prolonged] at size

/-- Cutting goes line by line. Let a text give the same tokens with a line feed behind it. Then any
text may follow in the next line: there are the tokens of the first text, without the closing one,
and then those of the second, or its error, as many lines further down as the first text and the
line feed take, and in the same columns. -/
theorem scan_line (front back : String) (tokens others : List Token)
    (scanned : scan front = .ok tokens) (scannedLine : scan (front ++ "\n") = .ok others)
    (moved : Moved tokens others) :
    let lines := 1 + front.toList.count '\n'
    scan (front ++ "\n" ++ back) =
      match scan back with
      | .ok later => .ok (tokens.filter (·.kind ≠ .finish) ++ later.map (lowered lines))
      | .error error => .error (error.lowered lines) := by
  intro lines
  obtain ⟨tiles, last, tiling, rfl⟩ := @tiling_of_scanFrom [] _ _ scanned
  rw [scan, String.toList_append] at scannedLine
  have kinds : ∀ token ∈ tiles.map Tile.token, token.kind ≠ .finish := by
    intro token member
    obtain ⟨tile, isTile, rfl⟩ := List.mem_map.mp member
    obtain ⟨earlier, rest, split⟩ := List.append_of_mem isTile
    exact (tiling.fits earlier tile rest split).cut.kind_ne
  have body : (tiles.map Tile.token ++ [finish (.behind front.toList)]).filter
      (·.kind ≠ .finish) = tiles.map Tile.token := by
    rw [List.filter_append, List.filter_eq_self.mpr (by simpa using kinds)]
    simp [finish]
  have seam := scanFrom_line tiling scannedLine moved back.toList
  rw [List.nil_append, Place.behind_line] at seam
  have below := scanFrom_lowered lines ⟨.start, back.toList⟩
  have whole : (front ++ "\n" ++ back).toList = front.toList ++ '\n' :: back.toList := by simp
  rw [List.nil_append, body, scan, whole]
  rw [show scan back = scanFrom ⟨.start, back.toList⟩ from rfl]
  refine seam.trans ?_
  change Except.map _ (scanFrom (Reading.lowered lines ⟨.start, back.toList⟩)) = _
  rw [below]
  cases scanFrom ⟨.start, back.toList⟩ <;> rfl

theorem scan_line_comment :
    let before (back : String) := scan ("'a' // b" ++ "\n" ++ back)
    before " x" = .ok [⟨.text, "a", ⟨1, 1⟩⟩, ⟨.name, "x", ⟨2, 2⟩⟩, finish ⟨2, 3⟩] ∧
      before "x ?" = .error (.unrecognized '?' ⟨2, 3⟩) := by
  intro before
  have scanned : scan "'a' // b" = .ok [⟨.text, "a", ⟨1, 1⟩⟩, finish ⟨1, 9⟩] := by
    decide +kernel
  have scannedLine : scan ("'a' // b" ++ "\n") = .ok [⟨.text, "a", ⟨1, 1⟩⟩, finish ⟨2, 1⟩] := by
    decide +kernel
  have name : scan " x" = .ok [⟨.name, "x", ⟨1, 2⟩⟩, finish ⟨1, 3⟩] := by decide +kernel
  have failed : scan "x ?" = .error (.unrecognized '?' ⟨1, 3⟩) := by decide +kernel
  have whole (back : String) := scan_line "'a' // b" back _ _ scanned scannedLine rfl
  constructor
  · have line := whole " x"
    rw [name] at line
    exact line
  · have line := whole "x ?"
    rw [failed] at line
    exact line

end Token

end Reckoner
