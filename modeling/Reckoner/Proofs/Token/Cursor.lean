import Reckoner.Proofs.Token.Pieces
import Reckoner.Token.Cursor

/-!
Reading at a cursor. A cursor takes the token that reading what follows it takes, and goes as far;
so taking tokens up to the closing one is scanning. Only a single character can be asked for where
nothing follows, and this alone reads past the end.
-/

namespace Reckoner.Cursor

theorem ahead_pass {cursor : Cursor} {chars rest : List Char}
    (front : cursor.ahead = chars ++ rest) : (cursor.pass chars).ahead = rest := by
  have passed : (cursor.pass chars).ahead = cursor.ahead.drop chars.length := by
    simp [ahead, pass]
  rw [passed, front, List.drop_left]

theorem peek?_natCast (cursor : Cursor) (index : Nat) :
    cursor.peek? index = cursor.ahead[index]? := by
  have inside : (cursor.position : Int) + index = .ofNat (cursor.position + index) := rfl
  rw [peek?, inside, ahead, List.getElem?_drop]

theorem atEnd_iff {cursor : Cursor} : cursor.atEnd = true ↔ cursor.ahead = [] := by
  simp [atEnd, ahead]

theorem next_eq_error_iff {cursor after : Cursor} {error : ScanError} :
    next cursor = (.error error, after) ↔
      cursor.atEnd = true ∧ error = .pastEnd cursor.place ∧ after = cursor := by
  rw [next, atEnd_iff]
  cases cursor.ahead with
  | nil => simp [eq_comm]
  | cons c rest => simp

def nextChars : Nat → Attempt Cursor ScanError (List Char)
  | 0 => pure []
  | count + 1 => do
      let c ← next
      let chars ← nextChars count
      pure (c :: chars)

/-- To pass characters is to take them one by one. -/
theorem nextChars_eq_pass {cursor : Cursor} {chars rest : List Char}
    (front : cursor.ahead = chars ++ rest) :
    nextChars chars.length cursor = (.ok chars, cursor.pass chars) := by
  induction chars generalizing cursor with
  | nil => rfl
  | cons c chars ih =>
      have one : next cursor = (.ok c, cursor.pass [c]) := by rw [next, front, List.cons_append]
      have later := ih (@ahead_pass cursor [c] (chars ++ rest) front)
      have passed : (cursor.pass [c]).pass chars = cursor.pass (c :: chars) := by
        simp [pass, Place.passing, Nat.add_assoc, Nat.add_comm 1]
      rw [List.length_cons, nextChars, Attempt.bind_ok one, Attempt.bind_ok later, passed]
      rfl

theorem startsNumber_eq (cursor : Cursor) :
    cursor.startsNumber = Token.startsNumber cursor.ahead := by
  have first := cursor.peek?_natCast 0
  have second := cursor.peek?_natCast 1
  rw [startsNumber]
  cases front : cursor.ahead with
  | nil => simp_all [Token.startsNumber]
  | cons c rest => simp_all [Token.startsNumber, List.head?_eq_getElem?]

theorem peek?_zero (cursor : Cursor) : cursor.peek? 0 = cursor.ahead.head? :=
  (cursor.peek?_natCast 0).trans List.head?_eq_getElem?.symm

theorem takeGap_inside (remark : List Char) :
    Token.takeGap true remark =
      (remark.takeWhile (· ≠ '\n') ++ (Token.takeGap false (remark.dropWhile (· ≠ '\n'))).1,
        (Token.takeGap false (remark.dropWhile (· ≠ '\n'))).2) := by
  induction remark with
  | nil => rfl
  | cons c rest ih =>
      by_cases feed : c = '\n'
      · subst feed
        rfl
      · simp [Token.takeGap, feed, ih]

/-- A comment is passed with the rest of its line, and then the gap goes on. -/
theorem skipGap_of_comment {cursor : Cursor} {rest : List Char}
    (front : cursor.ahead = '/' :: '/' :: rest) :
    cursor.skipGap = cursor.skipComment.skipGap := by
  have behind : cursor.skipComment.ahead = rest.dropWhile (· ≠ '\n') := by
    apply ahead_pass
    rw [front]
    simp [List.takeWhile_append_dropWhile]
  rw [skipGap, skipGap, behind, skipComment, front]
  have slash : Text.isBlank '/' = false := by decide
  simp [Token.takeGap, slash, takeGap_inside, pass, Place.passing, Nat.add_assoc]
  omega

theorem nextToken_of_nil {cursor : Cursor} (front : cursor.skipGap.ahead = []) :
    nextToken cursor = (.ok (Token.finish cursor.skipGap.place), cursor.skipGap) := by
  rw [nextToken, peek?_zero, front]
  rfl

theorem nextToken_of_piece {cursor : Cursor} {c : Char} {rest : List Char} {piece : Token.Piece}
    (front : cursor.skipGap.ahead = c :: rest)
    (found : Token.readPiece? (c :: rest) = some piece) :
    nextToken cursor =
      (.ok (Token.ofPiece cursor.skipGap.place piece), cursor.skipGap.pass piece.source) := by
  rw [Token.readPiece?] at found
  simp only [nextToken, peek?_zero, startsNumber_eq, takeNumber, takeText, takeName, takeSymbol?,
    front, List.head?_cons]
  split at found
  next number =>
    cases found
    rw [if_pos number]
    rfl
  next notNumber =>
    rw [if_neg notNumber]
    split at found
    next quote =>
      rw [if_pos quote, found]
      rfl
    next notQuote =>
      rw [if_neg notQuote]
      split at found
      next name =>
        cases found
        rw [if_pos name]
        rfl
      next notName =>
        rw [if_neg notName, found]
        rfl

theorem nextToken_of_none {cursor : Cursor} {c : Char} {rest : List Char}
    (front : cursor.skipGap.ahead = c :: rest)
    (unread : Token.readPiece? (c :: rest) = none) :
    nextToken cursor = (.error (.unrecognized c cursor.skipGap.place), cursor.skipGap) := by
  rw [Token.readPiece?] at unread
  simp only [nextToken, peek?_zero, startsNumber_eq, takeSymbol?, front, List.head?_cons]
  split at unread
  next => cases unread
  next notNumber =>
    rw [if_neg notNumber]
    split at unread
    next => cases unread
    next notQuote =>
      rw [if_neg notQuote]
      split at unread
      next => cases unread
      next notName =>
        rw [if_neg notName, unread]
        rfl

/-- Taking a token is reading one from what follows, and the cursor goes as far. -/
theorem nextToken_eq_next (cursor : Cursor) :
    ((nextToken cursor).1, (nextToken cursor).2.reading) = Token.next cursor.reading := by
  have skipped : cursor.skipGap.ahead = (Token.takeGap false cursor.ahead).2 :=
    ahead_pass (Token.takeGap_append false cursor.ahead).symm
  rw [Token.next]
  cases front : cursor.skipGap.ahead with
  | nil =>
      rw [nextToken_of_nil front, reading, front]
      simp only [reading, ← skipped, front]
      rfl
  | cons c rest =>
      simp only [reading, ← skipped, front]
      cases found : Token.readPiece? (c :: rest) with
      | none =>
          rw [nextToken_of_none front found, front]
          rfl
      | some piece =>
          have whole := (Token.readPiece?_append found).1
          rw [nextToken_of_piece front found, ahead_pass (front.trans whole.symm)]
          rfl

/-- Tokens are taken up to the closing one, or until one cannot be taken. -/
inductive Drains : Cursor → Except ScanError (List Token) → Prop
  | closes {cursor after : Cursor} {token : Token}
      (taken : nextToken cursor = (.ok token, after)) (last : token.kind = .finish) :
      Drains cursor (.ok [token])
  | fails {cursor after : Cursor} {error : ScanError}
      (failed : nextToken cursor = (.error error, after)) : Drains cursor (.error error)
  | goesOn {cursor after : Cursor} {token : Token} {result : Except ScanError (List Token)}
      (taken : nextToken cursor = (.ok token, after)) (more : token.kind ≠ .finish)
      (others : Drains after result) : Drains cursor (result.map (token :: ·))

theorem next_of_nextToken {cursor after : Cursor} {outcome : Except ScanError Token}
    (taken : nextToken cursor = (outcome, after)) :
    Token.next cursor.reading = (outcome, after.reading) := by
  rw [← nextToken_eq_next, taken]

theorem Drains.scanFrom {cursor : Cursor} {result : Except ScanError (List Token)}
    (drains : Drains cursor result) : Token.scanFrom cursor.reading = result := by
  induction drains with
  | closes taken last => rw [Token.scanFrom_of_next (next_of_nextToken taken), if_pos last]
  | fails failed => exact Token.scanFrom_of_error (next_of_nextToken failed)
  | goesOn taken more others ih =>
      rw [Token.scanFrom_of_next (next_of_nextToken taken), if_neg more, ih]

theorem exists_drains (cursor : Cursor) : ∃ result, Drains cursor result := by
  induction size : cursor.ahead.length using Nat.strong_induction_on generalizing cursor with
  | h size ih =>
      subst size
      rcases taken : nextToken cursor with ⟨error | token, after⟩
      · exact ⟨_, .fails taken⟩
      · by_cases last : token.kind = .finish
        · exact ⟨_, .closes taken last⟩
        · have shorter := Token.next_shorter (next_of_nextToken taken) last
          obtain ⟨result, others⟩ := ih _ shorter after rfl
          exact ⟨_, .goesOn taken last others⟩

/-- To take the tokens of a text at a cursor, one after the other, is to scan the text. -/
theorem drains_ofText_iff {text : String} {result : Except ScanError (List Token)} :
    Drains (ofText text) result ↔ Token.scan text = result := by
  have start : (ofText text).reading = ⟨.start, text.toList⟩ := rfl
  constructor
  · intro drains
    exact drains.scanFrom
  · rintro rfl
    obtain ⟨result, drains⟩ := exists_drains (ofText text)
    rw [Token.scan, ← start, drains.scanFrom]
    exact drains

theorem nextToken_ne_pastEnd (cursor : Cursor) (place : Place) :
    (nextToken cursor).1 ≠ .error (.pastEnd place) := by
  cases front : cursor.skipGap.ahead with
  | nil => simp [nextToken_of_nil front]
  | cons c rest =>
      cases found : Token.readPiece? (c :: rest) with
      | none => simp [nextToken_of_none front found]
      | some piece => simp [nextToken_of_piece front found]

end Reckoner.Cursor
