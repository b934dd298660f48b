import Reckoner.Proofs.Tree.Completeness

/-!
The parser looks one token ahead. What it answers hangs on the tokens that it consumes and on the
one behind them, and never on how many more there are: a loop that counts the remaining tokens
takes none of its decisions by the count.

A failure is foreseen where it names the first token that was not consumed. The tokens before that
one are then judged by a predicate on what the parser could still have been given.
-/

namespace Reckoner

namespace Attempt

variable {σ ε α β : Type}

theorem bind_congr_of_ok {first : Attempt σ ε α} {next others : α → Attempt σ ε β} {state : σ}
    (same : ∀ result after, first state = (.ok result, after) →
      next result after = others result after) :
    (first >>= next) state = (first >>= others) state := by
  rcases answer : first state with ⟨error | result, after⟩
  · rw [bind_error answer, bind_error answer]
  · rw [bind_ok answer, bind_ok answer, same result after answer]

theorem bind_congr_left {first others : Attempt σ ε α} {state : σ}
    (same : first state = others state) (next : α → Attempt σ ε β) :
    (first >>= next) state = (others >>= next) state := by
  simp only [bind, andThen, same]

end Attempt

/-- The token that an error blames. It is none where nesting is too deep. -/
def ParseError.found? : ParseError → Option Token
  | .expected _ found | .unexpected found | .malformedNumber found => some found
  | .nestedTooDeeply _ | .tooDeepToDump => none

namespace Parser

open Grammar

theorem ahead_append_congr {right others : List Token} (same : ahead right = ahead others)
    (left : List Token) : ahead (left ++ right) = ahead (left ++ others) := by
  cases left with
  | nil => exact same
  | cons token rest => rfl

theorem exists_cons_of_ahead {input : List Token} (more : (ahead input).kind ≠ .finish) :
    ∃ token rest, input = token :: rest :=
  ⟨ahead input, input.tail, ahead_cons_tail more⟩

theorem exists_cons_of_kind {input : List Token} {kind : TokenKind}
    (found : (ahead input).kind = kind) (more : kind ≠ .finish) :
    ∃ token rest, input = token :: rest ∧ token.kind = kind :=
  ⟨ahead input, input.tail, ahead_cons_tail (found ▸ more), found⟩

theorem Reads.length_le {α : Type} {parser : Parser α} {relation : List Token → α → Prop}
    (reads : Reads parser relation) {input rest : List Token} {result : α}
    (parsed : parser input = (.ok result, rest)) : rest.length ≤ input.length := by
  obtain ⟨consumed, rfl, _⟩ := reads parsed
  simp

theorem Reads.of_append {α : Type} {parser : Parser α} {relation : List Token → α → Prop}
    (reads : Reads parser relation) {taken rest : List Token} {result : α}
    (parsed : parser (taken ++ rest) = (.ok result, rest)) : relation taken result := by
  obtain ⟨consumed, split, related⟩ := reads parsed
  rwa [List.append_cancel_right split]

/-- The answer of a parser to an input is decided by the tokens up to the one behind the last
consumed one. A failure names this one, unless nesting is too deep, and what stands before it is
`viable`. -/
inductive Foreseen {α : Type} (parser : Parser α) (viable : List Token → Prop)
    (input : List Token) : Prop
  | succeeds (taken rest : List Token) (result : α) (split : input = taken ++ rest)
      (answers : ∀ other, ahead other = ahead rest → parser (taken ++ other) = (.ok result, other))
  | fails (front rest : List Token) (error : ParseError) (split : input = front ++ rest)
      (named : error.found? = some (ahead rest)) (completes : viable front)
      (answers : ∀ other, ahead other = ahead rest → (parser (front ++ other)).1 = .error error)
  | deep (place : Token) (answer : (parser input).1 = .error (.nestedTooDeeply place))

namespace Foreseen

variable {α β : Type} {parser : Parser α} {viable : List Token → Prop} {input : List Token}

theorem imp_of_append {weaker : List Token → Prop} (foreseen : Foreseen parser viable input)
    (implies : ∀ front rest, input = front ++ rest → viable front → weaker front) :
    Foreseen parser weaker input := by
  cases foreseen with
  | succeeds taken rest result split answers => exact .succeeds taken rest result split answers
  | fails front rest error split named completes answers =>
      exact .fails front rest error split named (implies front rest split completes) answers
  | deep place answer => exact .deep place answer

theorem imp {weaker : List Token → Prop} (foreseen : Foreseen parser viable input)
    (implies : ∀ front, viable front → weaker front) : Foreseen parser weaker input :=
  foreseen.imp_of_append fun front _ _ => implies front

theorem pure (result : α) : Foreseen (Pure.pure result) viable input :=
  .succeeds [] input result rfl fun _ _ => rfl

theorem fail {error : ParseError} (named : error.found? = some (ahead input))
    (completes : viable []) : Foreseen (Attempt.fail error : Parser α) viable input :=
  .fails [] input error rfl named completes fun _ _ => rfl

theorem look {next : Parser α} (foreseen : Foreseen next viable input)
    (looks : ∀ other, ahead other = ahead input → parser other = next other) :
    Foreseen parser viable input := by
  cases foreseen with
  | succeeds taken rest result split answers =>
      refine .succeeds taken rest result split fun other same => ?_
      rw [looks _ (by rw [split, ahead_append_congr same]), answers other same]
  | fails front rest error split named completes answers =>
      refine .fails front rest error split named completes fun other same => ?_
      rw [looks _ (by rw [split, ahead_append_congr same]), answers other same]
  | deep place answer => exact .deep place (by rw [looks input rfl, answer])

theorem current {next : Token → Parser α} (foreseen : Foreseen (next (ahead input)) viable input) :
    Foreseen (Parser.current >>= next) viable input :=
  foreseen.look fun other same => by rw [current_bind, same]

theorem take {next : Parser α} {token : Token} {rest : List Token}
    (foreseen : Foreseen next (fun front => viable (token :: front)) rest)
    (takes : ∀ other, parser (token :: other) = next other) :
    Foreseen parser viable (token :: rest) := by
  cases foreseen with
  | succeeds taken rest result split answers =>
      refine .succeeds (token :: taken) rest result (by rw [split]; rfl) fun other same => ?_
      rw [List.cons_append, takes, answers other same]
  | fails front rest error split named completes answers =>
      refine .fails (token :: front) rest error (by rw [split]; rfl) named completes
        fun other same => ?_
      rw [List.cons_append, takes, answers other same]
  | deep place answer => exact .deep place (by rw [takes, answer])

theorem advance {next : Unit → Parser α} {token : Token} {rest : List Token}
    (foreseen : Foreseen (next ()) (fun front => viable (token :: front)) rest) :
    Foreseen (Parser.advance >>= next) viable (token :: rest) :=
  foreseen.take fun _ => rfl

theorem bind {next : α → Parser β} (foreseen : Foreseen parser viable input)
    (follows : ∀ taken rest result, input = taken ++ rest →
      (∀ other, ahead other = ahead rest → parser (taken ++ other) = (.ok result, other)) →
      Foreseen (next result) (fun front => viable (taken ++ front)) rest) :
    Foreseen (parser >>= next) viable input := by
  cases foreseen with
  | succeeds taken rest result split answers =>
      subst split
      cases follows taken rest result rfl answers with
      | succeeds further behind last split answersNext =>
          refine .succeeds (taken ++ further) behind last (by simp [split]) fun other same => ?_
          have ready := answers (further ++ other) (by rw [split, ahead_append_congr same])
          rw [List.append_assoc, Attempt.bind_ok ready, answersNext other same]
      | fails front behind error split named completes answersNext =>
          refine .fails (taken ++ front) behind error (by simp [split]) named completes
            fun other same => ?_
          have ready := answers (front ++ other) (by rw [split, ahead_append_congr same])
          rw [List.append_assoc, Attempt.bind_ok ready, answersNext other same]
      | deep place answer =>
          exact .deep place (by rw [Attempt.bind_ok (answers rest rfl), answer])
  | fails front rest error split named completes answers =>
      refine .fails front rest error split named completes fun other same => ?_
      rw [Attempt.bind_error (Prod.ext (answers other same) rfl)]
  | deep place answer => exact .deep place (by rw [Attempt.bind_error (Prod.ext answer rfl)])

theorem bind_reads {relation : List Token → α → Prop} {next : α → Parser β}
    (foreseen : Foreseen parser viable input) (reads : Reads parser relation)
    (follows : ∀ taken rest result, input = taken ++ rest → relation taken result →
      Foreseen (next result) (fun front => viable (taken ++ front)) rest) :
    Foreseen (parser >>= next) viable input :=
  foreseen.bind fun taken rest result split answers =>
    follows taken rest result split (reads.of_append (answers rest rfl))

theorem map (foreseen : Foreseen parser viable input) (build : α → β) :
    Foreseen (parser >>= fun result => Pure.pure (build result)) viable input :=
  foreseen.bind fun _ _ result _ _ => .pure (build result)

theorem bind_expect {kind : TokenKind} {next : Token → Parser α} (inside : kind ≠ .finish)
    (completes : viable [])
    (follows : ∀ token rest, input = token :: rest → token.kind = kind →
      Foreseen (next token) (fun front => viable (token :: front)) rest) :
    Foreseen (Parser.expect [kind] >>= next) viable input := by
  by_cases expected : (ahead input).kind = kind
  · obtain ⟨token, rest, rfl, same⟩ := exists_cons_of_kind expected inside
    refine (follows token rest rfl same).take fun other => ?_
    exact Attempt.bind_ok (expect_of_mem (List.mem_singleton.mpr same) other)
  · refine .fails [] input (.expected [kind] (ahead input)) rfl rfl completes fun other same => ?_
    have refused : Parser.expect [kind] other =
        (.error (.expected [kind] (ahead input)), other) := by
      rw [Parser.expect, current_bind, same, if_neg (by simpa using expected)]
      rfl
    rw [List.nil_append, Attempt.bind_error refused]

end Foreseen

/-! A loop that is bounded by the number of remaining tokens never reaches its bound, so that it
can be unrolled without one. -/

section Loops

variable {relation : List Token → Tree → Prop} {bound other input : List Token}

theorem exists_cons_of_operator {operators : List BinaryOperator} {operator : BinaryOperator}
    (found : operatorOf? operators (ahead input) = some operator) :
    ∃ token rest, input = token :: rest :=
  exists_cons_of_ahead (kind_of_binary (operatorOf?_eq_some.mp found).1)

theorem chainFrom_none {operators : List BinaryOperator} {operand : Parser Tree}
    (found : operatorOf? operators (ahead input) = none) (left : Tree) :
    chainFrom operators operand bound left input = (.ok left, input) := by
  apply chainFrom_stop
  intro operator member known
  simp [operatorOf?_eq_some.mpr ⟨known, member⟩] at found

theorem chainFrom_covered {operand : Parser Tree} (reads : Reads operand relation)
    (operators : List BinaryOperator) (covers : input.length ≤ bound.length)
    (covered : input.length ≤ other.length) (left : Tree) :
    chainFrom operators operand bound left input =
      chainFrom operators operand other left input := by
  induction bound generalizing other input left with
  | nil =>
      obtain rfl := List.length_eq_zero_iff.mp (Nat.le_zero.mp covers)
      exact (chainFrom_stop other (by simp [ahead, Token.finish, BinaryOperator.ofToken?])).symm
  | cons extra bound ih =>
      cases found : operatorOf? operators (ahead input) with
      | none => rw [chainFrom_none found, chainFrom_none found]
      | some operator =>
          obtain ⟨token, rest, rfl⟩ := exists_cons_of_operator found
          obtain ⟨further, other, rfl⟩ : ∃ further more, other = further :: more :=
            List.exists_cons_of_length_pos (Nat.lt_of_lt_of_le (Nat.succ_pos _) covered)
          simp only [List.length_cons, Nat.add_le_add_iff_right] at covers covered
          simp only [chainFrom, current_bind, found, advance_bind, List.tail_cons]
          apply Attempt.bind_congr_of_ok
          intro right after parsed
          have shorter := reads.length_le parsed
          exact ih (by omega) (by omega) _

theorem argumentsFrom_covered {argument : Parser Tree} (reads : Reads argument relation)
    (covers : input.length ≤ bound.length) (covered : input.length ≤ other.length) :
    argumentsFrom argument bound input = argumentsFrom argument other input := by
  induction bound generalizing other input with
  | nil =>
      obtain rfl := List.length_eq_zero_iff.mp (Nat.le_zero.mp covers)
      exact (argumentsFrom_stop other (by simp [ahead, Token.finish])).symm
  | cons extra bound ih =>
      by_cases comma : (ahead input).kind = .comma
      · obtain ⟨token, rest, rfl, isComma⟩ := exists_cons_of_kind comma (by decide)
        obtain ⟨further, other, rfl⟩ : ∃ further more, other = further :: more :=
          List.exists_cons_of_length_pos (Nat.lt_of_lt_of_le (Nat.succ_pos _) covered)
        simp only [List.length_cons, Nat.add_le_add_iff_right] at covers covered
        simp only [argumentsFrom, current_bind, comma, if_true, advance_bind, List.tail_cons]
        apply Attempt.bind_congr_of_ok
        intro first after parsed
        have shorter := reads.length_le parsed
        exact Attempt.bind_congr_left (ih (by omega) (by omega)) _
      · rw [argumentsFrom_stop _ comma, argumentsFrom_stop _ comma]

theorem statementsFrom_finish {budget : Nat} (finished : (ahead input).kind = .finish)
    (last : Option Tree) : statementsFrom budget bound last input = (.ok last, input) := by
  cases bound with
  | nil => rfl
  | cons extra bound =>
      rw [statementsFrom, current_bind, if_pos finished]
      rfl

theorem statement_shorter {budget : Nat} {token : Token} {rest after : List Token} {tree : Tree}
    (parsed : statement budget (token :: rest) = (.ok tree, after)) :
    after.length ≤ rest.length := by
  obtain ⟨consumed, split, derived⟩ := statement_reads budget parsed
  have positive := List.length_pos_iff.mpr derived.nonempty
  have total := congrArg List.length split
  simp only [List.length_cons, List.length_append] at total
  omega

theorem statementsFrom_covered {budget : Nat} (covers : input.length ≤ bound.length)
    (covered : input.length ≤ other.length) (last : Option Tree) :
    statementsFrom budget bound last input = statementsFrom budget other last input := by
  induction bound generalizing other input last with
  | nil =>
      obtain rfl := List.length_eq_zero_iff.mp (Nat.le_zero.mp covers)
      exact (statementsFrom_finish rfl last).symm
  | cons extra bound ih =>
      by_cases finished : (ahead input).kind = .finish
      · rw [statementsFrom_finish finished, statementsFrom_finish finished]
      · obtain ⟨token, rest, rfl⟩ := exists_cons_of_ahead finished
        obtain ⟨further, other, rfl⟩ : ∃ further more, other = further :: more :=
          List.exists_cons_of_length_pos (Nat.lt_of_lt_of_le (Nat.succ_pos _) covered)
        simp only [statementsFrom, current_bind, finished, if_false]
        apply Attempt.bind_congr_of_ok
        intro tree after parsed
        have shorter := statement_shorter parsed
        simp only [List.length_cons, Nat.add_le_add_iff_right] at covers covered
        rw [semicolon_bind, semicolon_bind]
        split
        · exact ih (by rw [List.length_tail]; omega) (by rw [List.length_tail]; omega) _
        · exact ih (by omega) (by omega) _

def chainRest (operators : List BinaryOperator) (operand : Parser Tree) (left : Tree) :
    Parser Tree := do
  let bound ← remaining
  chainFrom operators operand bound left

def argumentsRest (argument : Parser Tree) : Parser (List Tree) := do
  let bound ← remaining
  argumentsFrom argument bound

def statementsRest (budget : Nat) (last : Option Tree) : Parser (Option Tree) := do
  let bound ← remaining
  statementsFrom budget bound last

theorem chainRest_none {operators : List BinaryOperator} {operand : Parser Tree}
    (found : operatorOf? operators (ahead input) = none) (left : Tree) :
    chainRest operators operand left input = (.ok left, input) := by
  rw [chainRest, remaining_bind, chainFrom_none found]

theorem chainRest_some {operators : List BinaryOperator} {operand : Parser Tree}
    {operator : BinaryOperator} {token : Token} (reads : Reads operand relation)
    (found : operatorOf? operators token = some operator) (left : Tree) :
    chainRest operators operand left (token :: input) =
      (operand >>= fun right => chainRest operators operand
        (.node .binary (.text operator.symbol) token.place [left, right])) input := by
  simp only [chainRest, remaining_bind, chainFrom, current_bind, ahead_cons, found, advance_bind,
    List.tail_cons]
  apply Attempt.bind_congr_of_ok
  intro right after parsed
  rw [remaining_bind]
  exact chainFrom_covered reads operators (reads.length_le parsed) (Nat.le_refl _) _

theorem argumentsRest_comma {argument : Parser Tree} {token : Token}
    (reads : Reads argument relation) (comma : token.kind = .comma) :
    argumentsRest argument (token :: input) =
      (argument >>= fun first => argumentsRest argument >>= fun others =>
        pure (first :: others)) input := by
  simp only [argumentsRest, remaining_bind, argumentsFrom, current_bind, ahead_cons, comma,
    if_true, advance_bind, List.tail_cons]
  apply Attempt.bind_congr_of_ok
  intro first after parsed
  apply Attempt.bind_congr_left
  rw [remaining_bind]
  exact argumentsFrom_covered reads (reads.length_le parsed) (Nat.le_refl _)

theorem argumentsRest_stop {argument : Parser Tree} (stops : (ahead input).kind ≠ .comma) :
    argumentsRest argument input = (.ok [], input) := by
  rw [argumentsRest, remaining_bind, argumentsFrom_stop _ stops]

theorem statementsRest_finish {budget : Nat} (finished : (ahead input).kind = .finish)
    (last : Option Tree) : statementsRest budget last input = (.ok last, input) := by
  rw [statementsRest, remaining_bind, statementsFrom_finish finished]

theorem statementsRest_more {budget : Nat} (more : (ahead input).kind ≠ .finish)
    (last : Option Tree) :
    statementsRest budget last input =
      (statement budget >>= fun tree => semicolon >>= fun _ =>
        statementsRest budget (some tree)) input := by
  obtain ⟨token, rest, rfl⟩ := exists_cons_of_ahead more
  simp only [statementsRest, remaining_bind, statementsFrom, current_bind, more, if_false]
  apply Attempt.bind_congr_of_ok
  intro tree after parsed
  have shorter := statement_shorter parsed
  rw [semicolon_bind, semicolon_bind, remaining_bind]
  apply statementsFrom_covered _ (Nat.le_refl _)
  split
  · rw [List.length_tail]
    omega
  · exact shorter

end Loops

end Parser

end Reckoner
