import Reckoner.Proofs.Tree.Lookahead

/-!
Where the parser halts. It takes tokens one after another, none of them a closing one, until it
answers or fails. What comes out is decided by the tokens that it took and by the one that it halts
at. So a closing token is looked at but never taken, and nothing behind it has any influence.
-/

namespace Reckoner

namespace Parser

open Grammar

/-- The parser takes some tokens of the input and halts in front of the rest. It does the same in
front of any other rest that begins with the same token. -/
def Halts {α : Type} (parser : Parser α) (input : List Token) : Prop :=
  ∃ passed rest outcome, input = passed ++ rest ∧ Unfinished passed ∧
    ∀ other, ahead other = ahead rest → parser (passed ++ other) = (outcome, other)

namespace Halts

variable {α β : Type} {parser : Parser α} {input : List Token}

theorem here {outcome : Except ParseError α}
    (answers : ∀ other, ahead other = ahead input → parser other = (outcome, other)) :
    Halts parser input :=
  ⟨[], input, outcome, rfl, unfinished_nil, answers⟩

theorem pure (result : α) (input : List Token) : Halts (Pure.pure result) input :=
  here fun _ _ => rfl

theorem fail (error : ParseError) (input : List Token) :
    Halts (Attempt.fail error : Parser α) input :=
  here fun _ _ => rfl

theorem look {next : Parser α} (halts : Halts next input)
    (looks : ∀ other, ahead other = ahead input → parser other = next other) :
    Halts parser input := by
  obtain ⟨passed, rest, outcome, rfl, unfinished, answers⟩ := halts
  refine ⟨passed, rest, outcome, rfl, unfinished, fun other same => ?_⟩
  rw [looks _ (ahead_append_congr same passed), answers other same]

theorem current {next : Token → Parser α} (halts : Halts (next (ahead input)) input) :
    Halts (Parser.current >>= next) input :=
  halts.look fun other same => by rw [current_bind, same]

theorem tooDeep (input : List Token) : Halts Parser.tooDeep input :=
  current (fail _ input)

theorem take {next : Parser α} {token : Token} {rest : List Token} (inside : token.kind ≠ .finish)
    (halts : Halts next rest) (takes : ∀ other, parser (token :: other) = next other) :
    Halts parser (token :: rest) := by
  obtain ⟨passed, rest, outcome, rfl, unfinished, answers⟩ := halts
  refine ⟨token :: passed, rest, outcome, rfl, unfinished_cons.mpr ⟨inside, unfinished⟩,
    fun other same => ?_⟩
  rw [List.cons_append, takes, answers other same]

theorem advance {next : Unit → Parser α} {token : Token} {rest : List Token}
    (inside : token.kind ≠ .finish) (halts : Halts (next ()) rest) :
    Halts (Parser.advance >>= next) (token :: rest) :=
  halts.take inside fun _ => rfl

theorem bind {next : α → Parser β} (halts : Halts parser input)
    (follows : ∀ result rest, parser input = (.ok result, rest) → Halts (next result) rest) :
    Halts (parser >>= next) input := by
  obtain ⟨passed, rest, error | result, rfl, unfinished, answers⟩ := halts
  · exact ⟨passed, rest, .error error, rfl, unfinished,
      fun other same => Attempt.bind_error (answers other same)⟩
  · obtain ⟨further, behind, outcome, rfl, unfinishedFurther, answersNext⟩ :=
      follows result rest (answers rest rfl)
    refine ⟨passed ++ further, behind, outcome, by simp,
      unfinished_append.mpr ⟨unfinished, unfinishedFurther⟩, fun other same => ?_⟩
    have ready := answers (further ++ other) (ahead_append_congr same further)
    rw [List.append_assoc, Attempt.bind_ok ready, answersNext other same]

theorem map (halts : Halts parser input) (build : α → β) :
    Halts (parser >>= fun result => Pure.pure (build result)) input :=
  halts.bind fun result rest _ => .pure (build result) rest

theorem passes (halts : Halts parser input) :
    ∃ passed, Unfinished passed ∧ input = passed ++ (parser input).2 := by
  obtain ⟨passed, rest, outcome, rfl, unfinished, answers⟩ := halts
  exact ⟨passed, unfinished, by rw [answers rest rfl]⟩

theorem length_le (halts : Halts parser input) : (parser input).2.length ≤ input.length := by
  obtain ⟨passed, _, split⟩ := halts.passes
  have total := congrArg List.length split
  rw [List.length_append] at total
  omega

theorem answers {outcome : Except ParseError α} {taken rest other : List Token}
    (halts : Halts parser (taken ++ rest)) (parsed : parser (taken ++ rest) = (outcome, rest))
    (same : ahead other = ahead rest) : parser (taken ++ other) = (outcome, other) := by
  obtain ⟨passed, behind, reached, split, _, answers⟩ := halts
  rw [split, answers behind rfl] at parsed
  obtain ⟨rfl, rfl⟩ := Prod.mk.inj parsed
  obtain rfl := List.append_cancel_right split
  exact answers other same

theorem append {extra : List Token} (halts : Halts parser input)
    (ends : ¬Unfinished input ∨ ahead extra = Token.finish .nowhere) :
    (parser (input ++ extra)).1 = (parser input).1 := by
  obtain ⟨passed, rest, outcome, rfl, unfinished, answers⟩ := halts
  have same : ahead (rest ++ extra) = ahead rest := by
    cases rest with
    | nil =>
        rw [List.append_nil] at ends
        exact ends.resolve_left (not_not_intro unfinished)
    | cons token rest => rfl
  rw [List.append_assoc, answers _ same, answers rest rfl]

end Halts

theorem expect_halts {kinds : List TokenKind} (inside : TokenKind.finish ∉ kinds)
    (input : List Token) : Halts (expect kinds) input := by
  apply Halts.current
  split
  next expected =>
    have more : (ahead input).kind ≠ .finish := ne_of_mem_of_not_mem expected inside
    obtain ⟨token, rest, rfl⟩ := exists_cons_of_ahead more
    exact .advance more (.pure token rest)
  next => exact .fail _ input

section Parts

variable {relation : List Token → Tree → Prop} {operand group argument : Parser Tree}

theorem chainRest_halts (reads : Reads operand relation) (halts : ∀ input, Halts operand input)
    (operators : List BinaryOperator) (left : Tree) (input : List Token) :
    Halts (chainRest operators operand left) input := by
  induction count : input.length using Nat.strongRecOn generalizing input left with
  | ind size ih =>
      cases found : operatorOf? operators (ahead input) with
      | none =>
          refine .here fun other same => chainRest_none ?_ left
          rwa [same]
      | some operator =>
          have inside := kind_of_binary (operatorOf?_eq_some.mp found).1
          obtain ⟨token, rest, rfl⟩ := exists_cons_of_ahead inside
          refine .take inside ?_ fun _ => chainRest_some reads found left
          refine (halts rest).bind fun right after parsed => ?_
          have shorter := reads.length_le parsed
          rw [List.length_cons] at count
          exact ih after.length (by omega) _ after rfl

theorem chain_halts (reads : Reads operand relation) (halts : ∀ input, Halts operand input)
    (operators : List BinaryOperator) (input : List Token) :
    Halts (chain operators operand) input :=
  (halts input).bind fun left rest _ => chainRest_halts reads halts operators left rest

theorem argumentsRest_halts (reads : Reads argument relation)
    (halts : ∀ input, Halts argument input) (input : List Token) :
    Halts (argumentsRest argument) input := by
  induction count : input.length using Nat.strongRecOn generalizing input with
  | ind size ih =>
      by_cases comma : (ahead input).kind = .comma
      · obtain ⟨token, rest, rfl, isComma⟩ := exists_cons_of_kind comma (by decide)
        refine .take (by simp [isComma]) ?_ fun _ => argumentsRest_comma reads isComma
        refine (halts rest).bind fun first after parsed => ?_
        have shorter := reads.length_le parsed
        rw [List.length_cons] at count
        exact (ih after.length (by omega) after rfl).map (first :: ·)
      · exact .here fun other same => argumentsRest_stop (by rwa [same])

theorem arguments_halts (reads : Reads argument relation) (halts : ∀ input, Halts argument input)
    (input : List Token) : Halts (arguments argument) input := by
  apply Halts.current
  split
  · exact .pure [] input
  · exact (halts input).bind fun first rest _ =>
      (argumentsRest_halts reads halts rest).map (first :: ·)

theorem call_halts (reads : Reads argument relation) (halts : ∀ input, Halts argument input)
    (callee : Token) (input : List Token) : Halts (call argument callee) input := by
  refine (expect_halts (by decide) input).bind fun _ rest _ => ?_
  refine (arguments_halts reads halts rest).bind fun children behind _ => ?_
  exact (expect_halts (by decide) behind).map _

theorem named_halts (reads : Reads argument relation) (halts : ∀ input, Halts argument input)
    (token : Token) (input : List Token) : Halts (named argument token) input := by
  apply Halts.current
  split
  · exact call_halts reads halts token input
  · split
    · exact .pure _ input
    · exact .pure _ input

theorem number_halts (token : Token) (input : List Token) : Halts (number token) input := by
  rw [number]
  split
  · exact .pure _ input
  · exact .fail _ input

theorem primary_halts (reads : Reads argument relation) (halts : ∀ input, Halts argument input)
    (haltsGroup : ∀ input, Halts group input) (input : List Token) :
    Halts (primary group argument) input := by
  apply Halts.current
  cases found : (ahead input).kind
  case number =>
    obtain ⟨token, rest, rfl, kind⟩ := exists_cons_of_kind found (by decide)
    exact .advance (by simp [kind]) (number_halts token rest)
  case text =>
    obtain ⟨token, rest, rfl, kind⟩ := exists_cons_of_kind found (by decide)
    exact .advance (by simp [kind]) (.pure _ rest)
  case name =>
    obtain ⟨token, rest, rfl, kind⟩ := exists_cons_of_kind found (by decide)
    exact .advance (by simp [kind]) (named_halts reads halts token rest)
  case leftParen =>
    obtain ⟨token, rest, rfl, kind⟩ := exists_cons_of_kind found (by decide)
    refine .advance (by simp [kind]) ((haltsGroup rest).bind fun inner behind _ => ?_)
    exact (expect_halts (by decide) behind).map fun _ => inner
  all_goals exact .fail _ input

end Parts

section Levels

variable {budget : Nat}

theorem levelParser_halts (halts : ∀ input, Halts (unary budget) input) (level : Nat)
    (input : List Token) : Halts (levelParser budget level) input := by
  generalize distance : operandLevel - level = steps
  induction steps generalizing level input with
  | zero =>
      rw [levelParser_of_beyond budget (by omega)]
      exact halts input
  | succ steps ih =>
      rw [levelParser_of_below budget (by omega)]
      exact chain_halts (levelParser_reads (unary_reads budget) (level + 1))
        (fun input => ih (level + 1) input (by omega)) _ input

theorem nested_halts {cost : Nat} (positive : 0 < cost)
    (halts : ∀ smaller, smaller < budget → ∀ input, Halts (unary smaller) input)
    (input : List Token) : Halts (nested cost budget) input := by
  rw [nested]
  split
  next enough => exact levelParser_halts (halts (budget - cost) (by omega)) 0 input
  next => exact .tooDeep input

theorem enclosed_halts
    (halts : ∀ smaller, smaller < budget → ∀ input, Halts (unary smaller) input)
    (input : List Token) :
    Halts (primary (nested groupCost budget) (nested callCost budget)) input :=
  primary_halts (nested_reads (fun smaller _ => unary_reads smaller) (by decide))
    (nested_halts (by decide) halts) (nested_halts (by decide) halts) input

end Levels

theorem unary_halts (budget : Nat) (input : List Token) : Halts (unary budget) input := by
  induction budget using Nat.strongRecOn generalizing input with
  | ind budget ih =>
      rw [unary_eq]
      apply Halts.current
      cases found : UnaryOperator.ofToken? (ahead input).kind with
      | none => exact enclosed_halts ih input
      | some operator =>
          have inside := kind_of_unary found
          obtain ⟨token, rest, rfl⟩ := exists_cons_of_ahead inside
          refine .advance inside (Halts.map ?_ _)
          rw [signed]
          split
          next positive => exact ih (budget - 1) (by omega) rest
          next => exact .tooDeep rest

theorem expression_halts (budget : Nat) (input : List Token) : Halts (expression budget) input :=
  levelParser_halts (unary_halts budget) 0 input

theorem binding_halts (budget : Nat) (input : List Token) : Halts (binding budget) input := by
  refine (expect_halts (by decide) input).bind fun start rest _ => ?_
  refine (expect_halts (by decide) rest).bind fun name rest _ => ?_
  refine (expect_halts (by decide) rest).bind fun _ rest _ => ?_
  exact (expression_halts budget rest).map _

theorem statement_halts (budget : Nat) (input : List Token) : Halts (statement budget) input := by
  apply Halts.current
  split
  · exact binding_halts budget input
  · exact expression_halts budget input

theorem semicolon_halts (input : List Token) : Halts semicolon input := by
  apply Halts.current
  split
  next closed =>
    obtain ⟨token, rest, rfl, isSemicolon⟩ := exists_cons_of_kind closed (by decide)
    exact .take (by simp [isSemicolon]) (.pure () rest) fun _ => rfl
  next => exact .pure () input

theorem statementsRest_halts (budget : Nat) (last : Option Tree) (input : List Token) :
    Halts (statementsRest budget last) input := by
  induction count : input.length using Nat.strongRecOn generalizing input last with
  | ind size ih =>
      by_cases finished : (ahead input).kind = .finish
      · exact .here fun other same => statementsRest_finish (by rwa [same]) last
      · refine Halts.look ?_ fun other same => statementsRest_more (by rwa [same]) last
        refine (statement_halts budget input).bind fun tree after parsed => ?_
        obtain ⟨token, rest, rfl⟩ := exists_cons_of_ahead finished
        have shorter := statement_shorter parsed
        rw [List.length_cons] at count
        refine (semicolon_halts after).bind fun _ behind passed => ?_
        have fewer : behind.length ≤ after.length := by
          have bound := (semicolon_halts after).length_le
          rwa [passed] at bound
        exact ih behind.length (by omega) (some tree) behind rfl

theorem program_halts (budget : Nat) (input : List Token) : Halts (program budget) input :=
  statementsRest_halts budget none input

end Parser

end Reckoner
