import Reckoner.Proofs.Number.Bits
import Reckoner.Proofs.Number.Nearest
import Reckoner.Proofs.Number.Numeral
import Reckoner.Proofs.Session.Recall

/-!
Lines that consist of one literal. Of digits and points the scanner makes one token, however many
points there are, and only the parser asks for a number. So the line has the number as its value, or
it is refused as a whole for a second point.
-/

namespace Reckoner

open Token Grammar

/-- Digits and points that start with a digit or with a point and a digit. -/
structure Token.IsLiteral (text : String) : Prop where
  starts : ∃ c rest, c.isDigit = true ∧ (text.toList = c :: rest ∨ text.toList = '.' :: c :: rest)
  inside : ∀ c ∈ text.toList, c.isDigit = true ∨ c = '.'

namespace Token.IsLiteral

variable {text : String}

theorem startsNumber (literal : IsLiteral text) : startsNumber text.toList = true := by
  obtain ⟨c, rest, digit, same | same⟩ := literal.starts
  · simp [same, Token.startsNumber, digit]
  · simp [same, Token.startsNumber, digit]

theorem numberChars (literal : IsLiteral text) : ∀ c ∈ text.toList, isNumberChar c = true := by
  simpa [isNumberChar] using literal.inside

theorem filled (literal : IsLiteral text) : ∃ c ∈ text.toList, c.isDigit = true := by
  obtain ⟨c, rest, digit, same | same⟩ := literal.starts
  · exact ⟨c, by simp [same], digit⟩
  · exact ⟨c, by simp [same], digit⟩

theorem scan (literal : IsLiteral text) :
    ∃ closing, Token.scan text = .ok [⟨.number, text, .start⟩, finish closing] := by
  have cut : Cut [] text.toList .number text.toList :=
    .number literal.startsNumber literal.numberChars (by simp)
  have read := next_of_cut .nil (cut.notComment_apart (by simp [Apart])) cut .start
  rw [String.ofList_toList, List.nil_append, List.append_nil] at read
  exact ⟨_, scan_single read (by simp) (next_of_skipped .nil _)⟩

end Token.IsLiteral

theorem ParseError.message_of_malformed (text : String) :
    (malformedNumber ⟨.number, text, .start⟩).message =
      "Invalid number literal '" ++ text ++ "' at line 1, col 1" := by
  have described : "' at " ++ Place.start.described = "' at line 1, col 1" := by rfl
  change "Invalid number literal '" ++ text ++ "' at " ++ Place.start.described = _
  rw [String.append_assoc, described]

theorem Number.Numeral.plain_value (numeral : Numeral) :
    numeral.value.isNaN = false ∧ isNegative numeral.value = false :=
  ⟨isNaN_ofBits numeral.decimal.bits_le, isNegative_ofBits numeral.decimal.bits_le⟩

namespace Parser

theorem climb_of_error {operand : Parser Tree} {input after : List Token} {error : ParseError}
    (failed : operand input = (.error error, after)) (levels : List (List BinaryOperator)) :
    climb levels operand input = (.error error, after) := by
  induction levels with
  | nil => exact failed
  | cons operators levels ih =>
      change chain operators (climb levels operand) input = _
      rw [chain, Attempt.bind_error ih]

variable {token : Token}

theorem unary_of_number (isNumber : token.kind = .number) (budget : Nat) (rest : List Token) :
    unary budget (token :: rest) = number token rest := by
  rw [unary_eq, unaryLayer, current_bind, ahead_cons, isNumber]
  change primary _ _ (token :: rest) = _
  rw [primary, current_bind, ahead_cons, isNumber]
  rfl

theorem number_of_malformed (unread : Number.readGrouped? token.text = none) (rest : List Token) :
    number token rest = (.error (.malformedNumber token), rest) := by
  rw [number, unread]
  rfl

theorem statement_of_malformed (isNumber : token.kind = .number)
    (unread : Number.readGrouped? token.text = none) (budget : Nat) (rest : List Token) :
    statement budget (token :: rest) = (.error (.malformedNumber token), rest) := by
  have operand := unary_of_number isNumber budget rest
  rw [number_of_malformed unread] at operand
  rw [statement, current_bind, ahead_cons, if_neg (by simp [isNumber])]
  exact climb_of_error operand _

end Parser

theorem Tree.parse_of_malformed {token : Token} (isNumber : token.kind = .number)
    (unread : Number.readGrouped? token.text = none) (rest : List Token) :
    Tree.parse (token :: rest) = .error (.malformedNumber token) := by
  rw [Tree.parse, Parser.program, Parser.remaining_bind, Parser.statementsFrom,
    Parser.current_bind, Parser.ahead_cons, if_neg (by simp [isNumber]),
    Attempt.bind_error (Parser.statement_of_malformed isNumber unread _ _)]

namespace Line

theorem run_of_number {text : String} (literal : IsLiteral text) {x : Float}
    (read : Number.readGrouped? text = some x) (session : Session) :
    run text session = (.ok (.number x), session.note (.lineRun text)) := by
  obtain ⟨closing, scanned⟩ := literal.scan
  let token : Token := ⟨.number, text, .start⟩
  have derived : Derives Parser.nestingBudget .primary [token]
      [.node .number (.number x) token.place []] := .number rfl read
  have statement := Statement.expression (Derives.chain (.plain derived) 0)
  rw [run_of_tree (tree_of_separated scanned rfl statement.separated)]
  rfl

theorem run_of_malformed {text : String} (literal : IsLiteral text)
    (unread : Number.readGrouped? text = none) (session : Session) :
    run text session = (.error (.parse (.malformedNumber ⟨.number, text, .start⟩)),
      session.note (.lineRun text)) := by
  obtain ⟨closing, scanned⟩ := literal.scan
  have refused := @Tree.parse_of_malformed ⟨.number, text, .start⟩ rfl unread [finish closing]
  apply run_of_unread
  rw [tree_of_scan scanned, refused]
  rfl

/-- A literal with one point at most has the number that it reads as for its value, and any other
literal is refused as a whole. -/
theorem run_literal (session : Session) {text : String} (literal : IsLiteral text) :
    (text.toList.count '.' ≤ 1 → ∃ numeral : Number.Numeral, numeral.chars = text.toList ∧
      Number.readGrouped? text = some numeral.value ∧
      numeral.value.isNaN = false ∧ Number.isNegative numeral.value = false ∧
      run text session = (.ok (.number numeral.value), session.note (.lineRun text))) ∧
    (2 ≤ text.toList.count '.' → ∃ error,
      run text session = (.error (.parse error), session.note (.lineRun text)) ∧
      error.message = "Invalid number literal '" ++ text ++ "' at line 1, col 1") := by
  constructor
  · intro points
    obtain ⟨numeral, chars⟩ : ∃ numeral : Number.Numeral, numeral.chars = text.toList :=
      ⟨⟨text.toList, literal.numberChars, literal.filled, points⟩, rfl⟩
    have read := Number.readGrouped?_numeral numeral
    rw [chars, String.ofList_toList] at read
    obtain ⟨isNumber, positive⟩ := numeral.plain_value
    exact ⟨numeral, chars, read, isNumber, positive, run_of_number literal read session⟩
  · intro points
    have unread := Number.readGrouped?_of_points literal.numberChars points
    rw [String.ofList_toList] at unread
    exact ⟨_, run_of_malformed literal unread session, ParseError.message_of_malformed text⟩

theorem run_literal_points :
    run ".5" .fresh = (.ok (.number 0.5), Session.fresh.note (.lineRun ".5")) ∧
    ∃ error, run "1.2.3" .fresh = (.error (.parse error), Session.fresh.note (.lineRun "1.2.3")) ∧
      error.message = "Invalid number literal '1.2.3' at line 1, col 1" := by
  have pointed : IsLiteral ".5" := ⟨⟨'5', [], by decide, .inr (by decide)⟩, by simp⟩
  have doubled : IsLiteral "1.2.3" :=
    ⟨⟨'1', ['.', '2', '.', '3'], by decide, .inl (by decide)⟩, by simp⟩
  have half : Number.readGrouped? ".5" = some 0.5 := by decide +kernel
  obtain ⟨numeral, _, read, _, _, ran⟩ := (run_literal .fresh pointed).1 (by decide)
  rw [half, Option.some.injEq] at read
  rw [← read] at ran
  obtain ⟨error, refused, message⟩ := (run_literal .fresh doubled).2 (by decide)
  exact ⟨ran, error, refused, message⟩

end Line

end Reckoner
