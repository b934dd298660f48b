import Reckoner.Proofs.Tree.Halting
import Reckoner.Tree.Desk

/-!
How far the parser gets. Whatever is read on a desk, its position moves forward only, and never
beyond the first closing token. Every statement that is read moves it, so that reading a line ends
after no more statements than there are tokens in front of the closing one.
-/

namespace Reckoner

open Grammar Reckoner.Parser

def Parser.reach (tokens : List Token) : Nat :=
  tokens.findIdx (·.kind = .finish)

def Desk.limit (desk : Desk) : Nat :=
  reach desk.tokens

namespace Parser

theorem reach_append {front : List Token} (unfinished : Unfinished front) (back : List Token) :
    reach (front ++ back) = front.length + reach back := by
  induction front with
  | nil => simp
  | cons token front ih =>
      obtain ⟨inside, others⟩ := unfinished_cons.mp unfinished
      have step := ih others
      simp only [reach] at step ⊢
      simp only [List.cons_append, List.findIdx_cons, inside, decide_false, cond_false, step,
        List.length_cons]
      omega

theorem reach_eq_zero {input : List Token} :
    reach input = 0 ↔ (ahead input).kind = .finish := by
  cases input with
  | nil => exact iff_of_true rfl rfl
  | cons token rest =>
      rw [ahead_cons, reach, List.findIdx_cons]
      by_cases finished : token.kind = .finish <;> simp [finished]

theorem unfinished_take {tokens : List Token} {count : Nat} (within : count ≤ reach tokens) :
    Unfinished (tokens.take count) := by
  intro token member
  obtain ⟨index, bound, rfl⟩ := List.mem_take_iff_getElem.mp member
  have below : index < reach tokens := by omega
  simpa using List.not_of_lt_findIdx below

inductive Part : {α : Type} → Parser α → Prop
  | expect {kinds : List TokenKind} : TokenKind.finish ∉ kinds → Part (expect kinds)
  | operands (budget level : Nat) : Part (levelParser budget level)
  | primary (budget : Nat) : Part (primary (nested groupCost budget) (nested callCost budget))
  | call (budget : Nat) (callee : Token) : Part (call (nested callCost budget) callee)
  | binding (budget : Nat) : Part (binding budget)
  | statement (budget : Nat) : Part (statement budget)
  | program (budget : Nat) : Part (program budget)

theorem Part.halts {α : Type} {parser : Parser α} (part : Part parser) (input : List Token) :
    Halts parser input := by
  have unaries (budget smaller : Nat) (_ : smaller < budget) := unary_halts smaller
  cases part with
  | expect inside => exact expect_halts inside input
  | operands budget level => exact levelParser_halts (unary_halts budget) level input
  | primary budget => exact enclosed_halts (unaries budget) input
  | call budget callee =>
      exact call_halts (nested_reads (fun smaller _ => unary_reads smaller) (by decide))
        (nested_halts (by decide) (unaries budget)) callee input
  | binding budget => exact binding_halts budget input
  | statement budget => exact statement_halts budget input
  | program budget => exact program_halts budget input

end Parser

namespace Desk

theorem limit_eq {desk : Desk} (within : desk.position ≤ desk.limit) :
    desk.limit = desk.position + reach desk.ahead := by
  have bound : desk.position ≤ desk.tokens.length :=
    Nat.le_trans within List.findIdx_le_length
  have split := reach_append (unfinished_take within) desk.ahead
  rwa [ahead, List.take_append_drop, List.length_take, Nat.min_eq_left bound] at split

theorem run_halts {α : Type} {parser : Parser α} {desk : Desk} (halts : Halts parser desk.ahead) :
    ∃ passed, Unfinished passed ∧ desk.ahead = passed ++ (parser desk.ahead).2 ∧
      (desk.run parser).2.position = desk.position + passed.length ∧
      (desk.run parser).2.ahead = (parser desk.ahead).2 := by
  obtain ⟨passed, unfinished, split⟩ := halts.passes
  have total := congrArg List.length split
  rw [List.length_append] at total
  have moved : (desk.run parser).2.position = desk.position + passed.length := by
    change desk.position + (desk.ahead.length - (parser desk.ahead).2.length) = _
    omega
  refine ⟨passed, unfinished, split, moved, ?_⟩
  change desk.tokens.drop (desk.run parser).2.position = _
  rw [moved, ← List.drop_drop]
  change desk.ahead.drop passed.length = _
  rw [split, List.drop_left, ← split]

/-- What can be done with a desk: parsers are run one after another, whatever comes of them, and
tokens that are not closing are taken in between. -/
inductive Reaches (start : Desk) : Desk → Prop
  | here : Reaches start start
  | advance {desk : Desk} : Reaches start desk → desk.current.kind ≠ .finish →
      Reaches start desk.advance
  | run {desk : Desk} {α : Type} {parser : Parser α} : Reaches start desk → Part parser →
      Reaches start (desk.run parser).2

theorem advance_within {desk : Desk} (within : desk.position ≤ desk.limit)
    (inside : desk.current.kind ≠ .finish) : desk.advance.position ≤ desk.limit := by
  have positive : reach desk.ahead ≠ 0 := fun none => inside (reach_eq_zero.mp none)
  rw [limit_eq within]
  change desk.position + 1 ≤ _
  omega

theorem run_within {α : Type} {parser : Parser α} {desk : Desk}
    (halts : Halts parser desk.ahead) (within : desk.position ≤ desk.limit) :
    (desk.run parser).2.position ≤ desk.limit := by
  obtain ⟨passed, unfinished, split, moved, _⟩ := run_halts halts
  rw [limit_eq within, split, reach_append unfinished, moved]
  omega

theorem Reaches.position {start desk : Desk} (reaches : start.Reaches desk)
    (within : start.position ≤ start.limit) :
    desk.tokens = start.tokens ∧ start.position ≤ desk.position ∧ desk.position ≤ start.limit := by
  induction reaches with
  | here => exact ⟨rfl, Nat.le_refl _, within⟩
  | @advance desk _ inside ih =>
      obtain ⟨same, lower, upper⟩ := ih
      have limits : desk.limit = start.limit := congrArg reach same
      rw [← limits] at upper ⊢
      exact ⟨same, Nat.le_succ_of_le lower, advance_within upper inside⟩
  | @run desk α parser _ part ih =>
      obtain ⟨same, lower, upper⟩ := ih
      have limits : desk.limit = start.limit := congrArg reach same
      have halts := part.halts desk.ahead
      obtain ⟨passed, _, _, moved, _⟩ := run_halts halts
      rw [← limits] at upper ⊢
      exact ⟨same, by omega, run_within halts upper⟩

theorem run_statement {budget : Nat} {desk after : Desk} {tree : Tree}
    (read : desk.run (statement budget) = (.ok tree, after)) : desk.position < after.position := by
  obtain ⟨passed, _, split, moved, _⟩ := run_halts (statement_halts budget desk.ahead)
  have outcome : (statement budget desk.ahead).1 = .ok tree := congrArg Prod.fst read
  have parsed : statement budget (passed ++ (statement budget desk.ahead).2) =
      (.ok tree, (statement budget desk.ahead).2) := by
    rw [← split]
    exact Prod.ext outcome rfl
  have derived := (statement_reads budget).of_append parsed
  have positive := List.length_pos_iff.mpr derived.nonempty
  rw [read] at moved
  simp only at moved
  omega

end Desk

namespace Parser

theorem statementsFrom_rounds {budget : Nat} {bound input : List Token} (last : Option Tree)
    (enough : reach input ≤ bound.length) :
    statementsFrom budget bound last input = statementsRest budget last input := by
  induction bound generalizing input last with
  | nil =>
      have finished := reach_eq_zero.mp (Nat.le_zero.mp enough)
      rw [statementsFrom_finish finished, statementsRest_finish finished]
  | cons extra bound ih =>
      by_cases finished : (ahead input).kind = .finish
      · rw [statementsFrom_finish finished, statementsRest_finish finished]
      · rw [statementsRest_more finished]
        simp only [statementsFrom, current_bind, finished, if_false]
        apply Attempt.bind_congr_of_ok
        intro tree after parsed
        obtain ⟨first, rfl, derived⟩ := statement_reads budget parsed
        have positive := List.length_pos_iff.mpr derived.nonempty
        rw [reach_append derived.unfinished, List.length_cons] at enough
        rw [semicolon_bind, semicolon_bind]
        apply ih
        split
        next closed =>
          obtain ⟨token, rest, rfl, isSemicolon⟩ := exists_cons_of_kind closed (by decide)
          have rest := @reach_append [token] (by simp [Unfinished, isSemicolon]) rest
          rw [List.singleton_append, List.length_singleton] at rest
          rw [List.tail_cons]
          omega
        next => omega

end Parser

/-- The parser looks at no token behind the first closing one, and at a closing token of its own
if there is none. Whatever is read on a desk, its position moves forward only and never beyond the
first closing token. A statement that is read moves it, so that statements are read in no more rounds
than there are tokens in front of the closing one. -/
theorem Tree.parse_to_finish (tokens : List Token) :
    (∀ closing junk, closing.kind = .finish →
      Tree.parse (tokens ++ closing :: junk) = Tree.parse (tokens ++ [closing])) ∧
    Tree.parse tokens = Tree.parse (tokens ++ [Token.finish .nowhere]) ∧
    (∀ start desk : Desk, start.Reaches desk → start.position ≤ start.limit →
      start.position ≤ desk.position ∧ desk.position ≤ start.limit ∧
      ∀ {α : Type} (parser : Parser α), Part parser →
        (desk.run parser).2.ahead = (parser desk.ahead).2) ∧
    (∀ budget (desk after : Desk) tree,
      desk.run (Parser.statement budget) = (.ok tree, after) → desk.position < after.position) ∧
    ∀ budget bound last input, reach input ≤ bound.length →
      statementsFrom budget bound last input = statementsFrom budget input last input := by
  have halts (input : List Token) := program_halts nestingBudget input
  refine ⟨?_, ?_, ?_, ?_, ?_⟩
  · intro closing junk closes
    have finished : ¬Unfinished (tokens ++ [closing]) := fun all =>
      all closing (by simp) closes
    rw [List.append_cons]
    exact (halts (tokens ++ [closing])).append (.inl finished)
  · exact ((halts tokens).append (.inr rfl)).symm
  · intro start desk reaches within
    obtain ⟨_, lower, upper⟩ := reaches.position within
    refine ⟨lower, upper, fun parser part => ?_⟩
    obtain ⟨_, _, _, _, arrived⟩ := Desk.run_halts (part.halts desk.ahead)
    exact arrived
  · intro budget desk after tree read
    exact Desk.run_statement read
  · intro budget bound last input enough
    exact statementsFrom_rounds last enough

theorem Tree.parse_to_finish_parenthesis :
    let tokens : List Token :=
      [⟨.name, "x", ⟨1, 1⟩⟩, Token.finish ⟨1, 2⟩, ⟨.rightParen, ")", ⟨1, 3⟩⟩]
    Tree.parse tokens = .ok (some (.node .name (.text "x") ⟨1, 1⟩ [])) ∧
      ((Desk.mk tokens 0).run (Parser.program nestingBudget)).2.position ≤ 1 ∧
      0 < ((Desk.mk tokens 0).run (Parser.statement nestingBudget)).2.position ∧
      statementsFrom nestingBudget [Token.finish .nowhere] none tokens =
        statementsFrom nestingBudget tokens none tokens := by
  intro tokens
  obtain ⟨stops, _, positions, moves, rounds⟩ := Tree.parse_to_finish [⟨.name, "x", ⟨1, 1⟩⟩]
  have alone : Tree.parse [⟨.name, "x", ⟨1, 1⟩⟩, Token.finish ⟨1, 2⟩] =
      .ok (some (.node .name (.text "x") ⟨1, 1⟩ [])) := by
    with_unfolding_all rfl
  have read : (Desk.mk tokens 0).run (Parser.statement nestingBudget) =
      (.ok (.node .name (.text "x") ⟨1, 1⟩ []), ⟨tokens, 1⟩) := by
    with_unfolding_all rfl
  refine ⟨?_, ?_, ?_, ?_⟩
  · exact (stops (Token.finish ⟨1, 2⟩) [⟨.rightParen, ")", ⟨1, 3⟩⟩] rfl).trans alone
  · exact (positions ⟨tokens, 0⟩ _ (.run .here (.program nestingBudget)) (by decide)).2.1
  · rw [read]
    exact moves nestingBudget ⟨tokens, 0⟩ ⟨tokens, 1⟩ _ read
  · exact rounds nestingBudget [Token.finish .nowhere] none tokens (by decide)

end Reckoner
