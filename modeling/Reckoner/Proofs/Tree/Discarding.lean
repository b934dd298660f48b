import Reckoner.Proofs.Tree.Blame
import Reckoner.Proofs.Tree.Halting

/-!
Statements that a semicolon ends are read and then forgotten. Up to the semicolon the parser does
what it does in front of a closing token, and behind it what it does at the start of a line. Only
the tree that was read last is kept, for the case that no other one follows.
-/

namespace Reckoner

open Grammar Reckoner.Parser

namespace Parser

/-- No semicolon stands at the end. -/
def Bare (tokens : List Token) : Prop :=
  ∀ token ∈ tokens.getLast?, token.kind ≠ .semicolon

theorem Bare.of_append {front back : List Token} (bare : Bare (front ++ back)) :
    Bare back := by
  intro token isLast
  refine bare token ?_
  rw [Option.mem_def] at isLast ⊢
  rw [List.getLast?_append, isLast, Option.some_or]

theorem ahead_unfinished {front : List Token} (unfinished : Unfinished front) (filled : front ≠ [])
    (back : List Token) : (ahead (front ++ back)).kind ≠ .finish := by
  obtain ⟨token, tail, rfl⟩ := List.exists_cons_of_ne_nil filled
  exact (unfinished_cons.mp unfinished).1

theorem exists_later {front first after : List Token} {closing : Token}
    (unfinished : Unfinished first) (closes : closing.kind = .finish)
    (split : front ++ [closing] = first ++ after) :
    ∃ later, front = first ++ later ∧ after = later ++ [closing] := by
  rcases List.append_eq_append_iff.mp split with ⟨extra, rfl, ends⟩ | ⟨later, same, rest⟩
  · cases extra with
    | nil => exact ⟨[], by simp, ends.symm⟩
    | cons token extra =>
        obtain ⟨rfl, _⟩ := List.cons.inj ends
        exact absurd closes (unfinished closing (by simp))
  · exact ⟨later, same, rest⟩

theorem statementsRest_behind {budget : Nat} {front rest : List Token} {closing : Token}
    {last result : Option Tree} (unfinished : Unfinished front) (filled : front ≠ [])
    (bare : Bare front) (closes : closing.kind = .finish)
    (parsed : (statementsRest budget last (front ++ [closing])).1 = .ok result)
    (stops : ∀ tokens, Stops 0 tokens rest) (other : Option Tree) :
    statementsRest budget other (front ++ rest) =
      statementsRest budget result (if (ahead rest).kind = .semicolon then rest.tail else rest) := by
  induction count : front.length using Nat.strongRecOn generalizing front last other with
  | ind size ih =>
      have more := ahead_unfinished unfinished filled [closing]
      rcases ran : statement budget (front ++ [closing]) with ⟨error | tree, after⟩
      · rw [statementsRest_more more, Attempt.bind_error ran] at parsed
        cases parsed
      · obtain ⟨first, split, derived⟩ := statement_reads budget ran
        obtain ⟨later, rfl, rfl⟩ := exists_later derived.unfinished closes split
        have positive := List.length_pos_iff.mpr derived.nonempty
        obtain ⟨_, unfinishedLater⟩ := unfinished_append.mp unfinished
        rw [List.append_assoc] at ran parsed
        rw [statementsRest_step ran] at parsed
        rw [List.length_append] at count
        rw [List.append_assoc]
        by_cases ends : later = []
        · -- The last statement: no semicolon stands behind it but that of the rest.
          subst ends
          have finished : (ahead [closing]).kind = .finish := closes
          rw [List.nil_append, if_neg (by simp [closes]), statementsRest_finish finished,
            Except.ok.injEq] at parsed
          subst parsed
          exact statementsRest_step (statement_complete derived (stops first)) other
        · have same : ahead (later ++ rest) = ahead (later ++ [closing]) := by
            rw [ahead_append ends, ahead_append ends]
          have answer := (statement_halts budget _).answers ran same
          have bareLater := bare.of_append
          rw [statementsRest_step answer, same]
          by_cases closed : (ahead (later ++ [closing])).kind = .semicolon
          · rw [if_pos closed] at parsed ⊢
            obtain ⟨token, behind, rfl⟩ := List.exists_cons_of_ne_nil ends
            have filledBehind : behind ≠ [] := by
              rintro rfl
              exact bareLater token rfl closed
            rw [List.length_cons] at count
            exact ih behind.length (by omega) (unfinished_cons.mp unfinishedLater).2 filledBehind
              (@Bare.of_append [token] behind bareLater) parsed (some tree) rfl
          · rw [if_neg closed] at parsed ⊢
            exact ih later.length (by omega) unfinishedLater ends bareLater parsed (some tree) rfl

end Parser

/-- Statements in front of a semicolon have no influence on what is read behind it. The answer is
that for the tokens behind the semicolon, a tree or an error; or, if there are none, the answer for
the tokens in front of it. -/
theorem Tree.parse_discarded (discarded kept : List Token) (closing separator last : Token)
    (unfinished : Unfinished discarded) (filled : discarded ≠ []) (bare : Bare discarded)
    (closes : closing.kind = .finish)
    (parsed : ∃ result, Tree.parse (discarded ++ [closing]) = .ok result)
    (isSemicolon : separator.kind = .semicolon) (unfinishedKept : Unfinished kept)
    (ends : last.kind = .finish) :
    (kept ≠ [] → Tree.parse (discarded ++ [separator] ++ kept ++ [last]) =
      Tree.parse (kept ++ [last])) ∧
    (kept = [] → Tree.parse (discarded ++ [separator] ++ kept ++ [last]) =
      Tree.parse (discarded ++ [last])) := by
  obtain ⟨result, parsed⟩ := parsed
  have behind (rest : List Token) (stops : ∀ tokens, Stops 0 tokens rest) :=
    statementsRest_behind unfinished filled bare closes parsed stops none
  have stops (tokens : List Token) : Stops 0 tokens (separator :: (kept ++ [last])) :=
    Stops.before_other (by simp [isSemicolon, BinaryOperator.ofToken?]) (by simp [isSemicolon])
  have whole : Tree.parse (discarded ++ [separator] ++ kept ++ [last]) =
      (statementsRest nestingBudget result (kept ++ [last])).1 := by
    have read := behind _ stops
    rw [ahead_cons, if_pos isSemicolon, List.tail_cons] at read
    rw [List.append_assoc, List.append_assoc, List.singleton_append]
    exact congrArg Prod.fst read
  constructor
  · intro follows
    have more := ahead_unfinished unfinishedKept follows [last]
    rw [whole, statementsRest_more more, ← statementsRest_more more none]
    rfl
  · rintro rfl
    have finished : (ahead [last]).kind = .finish := ends
    have read := behind [last] fun tokens => Stops.before_finish finished
    rw [if_neg (by simp [ends])] at read
    rw [whole]
    exact (congrArg Prod.fst read).symm

theorem Tree.parse_discarded_name :
    let line (tokens : List Token) := Tree.parse (tokens ++ [Token.finish ⟨1, 9⟩])
    let x : Token := ⟨.name, "x", ⟨1, 1⟩⟩
    let separator : Token := ⟨.semicolon, ";", ⟨1, 2⟩⟩
    let minus : Token := ⟨.minus, "-", ⟨1, 3⟩⟩
    line [x, separator, minus] = line [minus] ∧ line [x, separator] = line [x] := by
  intro line x separator minus
  have parsed : Tree.parse ([x] ++ [Token.finish ⟨2, 1⟩]) =
      .ok (some (.node .name (.text "x") ⟨1, 1⟩ [])) := by
    with_unfolding_all rfl
  have discards (kept : List Token) (unfinished : Unfinished kept) :=
    Tree.parse_discarded [x] kept (Token.finish ⟨2, 1⟩) separator (Token.finish ⟨1, 9⟩)
      (by simp [Unfinished, x]) (by simp) (by simp [Bare, x]) rfl ⟨_, parsed⟩ rfl unfinished rfl
  exact ⟨(discards [minus] (by simp [Unfinished, minus])).1 (by simp), (discards [] unfinished_nil).2 rfl⟩

end Reckoner
