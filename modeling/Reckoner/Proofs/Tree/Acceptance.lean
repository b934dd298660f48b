import Reckoner.Proofs.Tree.Budget
import Reckoner.Proofs.Tree.Merging

/-!
The parser accepts the programs of the grammar and nothing else. What it reads is derivable; and a
derivable program, cut into the longest possible statements, is read to its end.
-/

namespace Reckoner

open Grammar Reckoner.Parser

namespace Grammar

theorem Statement.start {budget : Nat} {tokens : List Token} {tree : Tree}
    (derived : Statement budget tokens tree) :
    (ahead tokens).kind ≠ .semicolon ∧ (ahead tokens).kind ≠ .finish := by
  cases derived with
  | expression derivation =>
      obtain ⟨first, later, rfl, opens, _⟩ := derivation.start
      rw [ahead_cons]
      constructor
      · intro kind
        simp [kind, opensExpression, opensPrimary] at opens
      · intro kind
        simp [kind, opensExpression, opensPrimary] at opens
  | binding isBinding =>
      rw [ahead_cons, isBinding]
      decide

theorem Statement.separated {budget : Nat} {tokens : List Token} {tree : Tree}
    (derived : Statement budget tokens tree) : Separated budget tokens [tree] := by
  have alone := Separated.bare derived (Stops.before_finish rfl) .done
  rwa [List.append_nil] at alone

theorem Separated.start {budget : Nat} {tokens : List Token} {trees : List Tree}
    (separated : Separated budget tokens trees) : (ahead tokens).kind ≠ .semicolon := by
  cases separated with
  | done => decide
  | bare derived | closed derived =>
      rw [ahead_append derived.nonempty]
      exact derived.start.1

theorem Unfinished.unique {first second later others : List Token} {last other : Token}
    (unfinished : Unfinished first) (unfinishedSecond : Unfinished second)
    (closes : last.kind = .finish) (closesSecond : other.kind = .finish)
    (same : first ++ last :: later = second ++ other :: others) : first = second := by
  have cut (tokens : List Token) (closing : Token) (rest : List Token)
      (inside : Unfinished tokens) (outside : closing.kind = .finish) :
      (tokens ++ closing :: rest).takeWhile (fun token => token.kind ≠ .finish) = tokens := by
    rw [List.takeWhile_append_of_pos (by simpa [Unfinished] using inside)]
    simp [outside]
  rw [← cut first last later unfinished closes, same,
    cut second other others unfinishedSecond closesSecond]

end Grammar

namespace Parser

theorem statement_complete {budget : Nat} {tokens rest : List Token} {tree : Tree}
    (derived : Statement budget tokens tree) (stops : Stops 0 tokens rest) :
    statement budget (tokens ++ rest) = (.ok tree, rest) := by
  cases derived with
  | expression derivation =>
      have read := (completes_of_derives derivation).expression stops
      obtain ⟨first, later, rfl, opens, _⟩ := derivation.start
      have notBinding : (ahead (first :: later ++ rest)).kind ≠ .binding := by
        intro kind
        rw [List.cons_append, ahead_cons] at kind
        simp [kind, opensExpression, opensPrimary] at opens
      rw [statement, current_bind, if_neg notBinding]
      exact read
  | @binding start name equals tokens value isBinding isName isAssign derivation =>
      have stopsValue : Stops 0 tokens rest :=
        @Stops.of_append 0 [start, name, equals] tokens rest derivation.nonempty stops
      have read := (completes_of_derives derivation).expression stopsValue
      rw [statement, current_bind, List.cons_append, ahead_cons, if_pos isBinding, binding,
        Attempt.bind_ok (expect_of_mem (by simp [isBinding]) _), List.cons_append,
        Attempt.bind_ok (expect_of_mem (by simp [isName]) _), List.cons_append,
        Attempt.bind_ok (expect_of_mem (by simp [isAssign]) _), Attempt.bind_ok read]
      rfl

theorem statementsFrom_step {budget : Nat} {first rest : List Token} {tree : Tree}
    (derived : Statement budget first tree) (stops : Stops 0 first rest) (extra : Token)
    (bound : List Token) (last : Option Tree) :
    statementsFrom budget (extra :: bound) last (first ++ rest) =
      statementsFrom budget bound (some tree)
        (if (ahead rest).kind = .semicolon then rest.tail else rest) := by
  have more : (ahead (first ++ rest)).kind ≠ .finish := by
    rw [ahead_append derived.nonempty]
    exact derived.start.2
  rw [statementsFrom, current_bind, if_neg more, Attempt.bind_ok (statement_complete derived stops),
    semicolon_bind]

theorem statementsFrom_complete {budget : Nat} {tokens rest : List Token} {trees : List Tree}
    (separated : Separated budget tokens trees) (finished : (ahead rest).kind = .finish)
    {bound : List Token} (covers : tokens.length ≤ bound.length) (last : Option Tree) :
    statementsFrom budget bound last (tokens ++ rest) = (.ok (trees.getLast?.or last), rest) := by
  induction separated generalizing bound last with
  | done =>
      cases bound with
      | nil => rfl
      | cons extra bound =>
          rw [statementsFrom, List.nil_append, current_bind, if_pos finished]
          rfl
  | @bare first tree later trees derived stops separated ih =>
      have positive := List.length_pos_iff.mpr derived.nonempty
      simp only [List.length_append] at covers
      obtain ⟨extra, bound, rfl⟩ : ∃ extra more, bound = extra :: more :=
        List.exists_cons_of_length_pos (by omega)
      simp only [List.length_cons] at covers
      have continues : Stops 0 first (later ++ rest) ∧ (ahead (later ++ rest)).kind ≠ .semicolon := by
        by_cases alone : later = []
        · subst alone
          exact ⟨Stops.before_finish finished, by simp [finished]⟩
        · have same := ahead_append alone rest
          exact ⟨stops.congr (by rw [same]), by rw [same]; exact separated.start⟩
      rw [List.append_assoc, statementsFrom_step derived continues.1, if_neg continues.2,
        ih (by omega), getLast?_cons_or]
  | @closed first tree semicolon later trees derived isSemicolon separated ih =>
      simp only [List.length_append, List.length_cons] at covers
      obtain ⟨extra, bound, rfl⟩ : ∃ extra more, bound = extra :: more :=
        List.exists_cons_of_length_pos (by omega)
      simp only [List.length_cons] at covers
      have stops : Stops 0 first (semicolon :: (later ++ rest)) :=
        Stops.before_other (by simp [isSemicolon, BinaryOperator.ofToken?]) (by simp [isSemicolon])
      rw [List.append_assoc, List.cons_append, statementsFrom_step derived stops, ahead_cons,
        if_pos isSemicolon, List.tail_cons, ih (by omega), getLast?_cons_or]

theorem program_complete {budget : Nat} {tokens : List Token} {trees : List Tree}
    (separated : Separated budget tokens trees) {closing : Token}
    (closes : closing.kind = .finish) :
    program budget (tokens ++ [closing]) = (.ok trees.getLast?, [closing]) := by
  have finished : (ahead [closing]).kind = .finish := closes
  rw [program, remaining_bind, statementsFrom_complete separated finished (by simp) none,
    Option.or_none]

theorem parse_of_separated {budget : Nat} {tokens : List Token} {trees : List Tree}
    (separated : Separated budget tokens trees) {closing : Token}
    (closes : closing.kind = .finish) :
    (∃ found, Tree.parse (tokens ++ [closing]) = .error (.nestedTooDeeply found)) ∨
      Tree.parse (tokens ++ [closing]) = .ok trees.getLast? := by
  have enough := separated.weaken (Nat.le_max_right nestingBudget budget)
  have answer := program_complete enough closes
  rcases program_limits (Nat.le_max_left nestingBudget budget) (tokens ++ [closing]) with
    deep | same
  · exact .inl deep
  · exact .inr (by rw [Tree.parse, same, answer])

theorem statementsFrom_ends {budget : Nat} {bound input rest : List Token}
    {last result : Option Tree} (covers : input.length ≤ bound.length)
    (parsed : statementsFrom budget bound last input = (.ok result, rest)) :
    (ahead rest).kind = .finish := by
  induction bound generalizing input last with
  | nil =>
      simp only [statementsFrom, Attempt.pure_apply, Prod.mk.injEq, Except.ok.injEq] at parsed
      have empty : input = [] := List.length_eq_zero_iff.mp (Nat.le_zero.mp covers)
      rw [← parsed.2, empty]
      rfl
  | cons _ bound ih =>
      simp only [statementsFrom, current_bind] at parsed
      by_cases finished : (ahead input).kind = .finish
      · simp only [finished, if_true, Attempt.pure_apply, Prod.mk.injEq,
          Except.ok.injEq] at parsed
        rw [← parsed.2]
        exact finished
      · simp only [finished, if_false, semicolon_bind, Attempt.bind_eq_ok_iff] at parsed
        obtain ⟨tree, middle, read, parsed⟩ := parsed
        obtain ⟨first, rfl, derived⟩ := statement_reads budget read
        have positive := List.length_pos_iff.mpr derived.nonempty
        simp only [List.length_append, List.length_cons] at covers
        apply ih _ parsed
        split
        · rw [List.length_tail]
          omega
        · omega

theorem program_sound {budget : Nat} {tokens rest : List Token} {closing : Token}
    {result : Option Tree} (unfinished : Unfinished tokens) (closes : closing.kind = .finish)
    (parsed : program budget (tokens ++ [closing]) = (.ok result, rest)) :
    ∃ trees, Program budget tokens trees ∧ result = trees.getLast? := by
  rw [program, remaining_bind] at parsed
  have ends := statementsFrom_ends (Nat.le_refl _) parsed
  obtain ⟨consumed, split, trees, derived, rfl⟩ := statementsFrom_reads budget _ none parsed
  cases rest with
  | nil =>
      rw [List.append_nil] at split
      exact absurd closes (derived.unfinished closing (by simp [← split]))
  | cons last later =>
      obtain rfl := unfinished.unique derived.unfinished closes ends split
      exact ⟨trees, derived, Option.or_none⟩

end Parser

/-- The parser accepts exactly the programs of the grammar, unless they nest too deeply. What it
answers is the tree of the last statement of a derivation, which is missing from the empty program
only. Of several derivations it takes the one with the longest statements. -/
theorem Tree.parse_ok_iff_program (tokens : List Token) (closing : Token)
    (unfinished : Unfinished tokens) (closes : closing.kind = .finish) :
    ((∀ found, Tree.parse (tokens ++ [closing]) ≠ .error (.nestedTooDeeply found)) →
      ((∃ result, Tree.parse (tokens ++ [closing]) = .ok result) ↔
        ∃ budget trees, Program budget tokens trees)) ∧
    (∀ result, Tree.parse (tokens ++ [closing]) = .ok result →
      (result = none ↔ tokens = []) ∧
      ∃ trees, Program nestingBudget tokens trees ∧ result = trees.getLast?) ∧
    ∀ trees, Separated nestingBudget tokens trees →
      Tree.parse (tokens ++ [closing]) = .ok trees.getLast? := by
  have sound : ∀ result, Tree.parse (tokens ++ [closing]) = .ok result →
      ∃ trees, Program nestingBudget tokens trees ∧ result = trees.getLast? := by
    intro result parsed
    exact program_sound unfinished closes (Prod.ext parsed rfl)
  refine ⟨fun shallow => ⟨?_, ?_⟩, ?_, ?_⟩
  · rintro ⟨result, parsed⟩
    obtain ⟨trees, derived, _⟩ := sound result parsed
    exact ⟨nestingBudget, trees, derived⟩
  · rintro ⟨budget, trees, derived⟩
    obtain ⟨larger, others, separated⟩ := derived.separate
    rcases parse_of_separated separated closes with ⟨found, deep⟩ | parsed
    · exact absurd deep (shallow found)
    · exact ⟨others.getLast?, parsed⟩
  · intro result parsed
    obtain ⟨trees, derived, rfl⟩ := sound result parsed
    refine ⟨?_, trees, derived, rfl⟩
    rw [List.getLast?_eq_none_iff]
    cases derived with
    | done => simp
    | bare derived | closed derived => simp [derived.nonempty]
  · intro trees separated
    rw [Tree.parse, program_complete separated closes]

theorem Tree.parse_difference :
    Tree.parse [⟨.name, "x", ⟨1, 1⟩⟩, ⟨.minus, "-", ⟨1, 3⟩⟩, ⟨.name, "y", ⟨1, 4⟩⟩,
        Token.finish ⟨1, 5⟩] =
      .ok (some (.node .binary (.text "-") ⟨1, 3⟩ [
        .node .name (.text "x") ⟨1, 1⟩ [], .node .name (.text "y") ⟨1, 4⟩ []])) := by
  have accepted := Tree.parse_ok_iff_program
    [⟨.name, "x", ⟨1, 1⟩⟩, ⟨.minus, "-", ⟨1, 3⟩⟩, ⟨.name, "y", ⟨1, 4⟩⟩] (Token.finish ⟨1, 5⟩)
    (by simp [Unfinished]) rfl
  have left : Derives nestingBudget (.chain 4) [⟨.name, "x", ⟨1, 1⟩⟩]
      [.node .name (.text "x") ⟨1, 1⟩ []] :=
    Derives.chain (.plain (.name rfl rfl)) 4
  have right : Derives nestingBudget (.chain 5) [⟨.name, "y", ⟨1, 4⟩⟩]
      [.node .name (.text "y") ⟨1, 4⟩ []] :=
    Derives.chain (.plain (.name rfl rfl)) 5
  have difference : Derives nestingBudget .expression
      [⟨.name, "x", ⟨1, 1⟩⟩, ⟨.minus, "-", ⟨1, 3⟩⟩, ⟨.name, "y", ⟨1, 4⟩⟩] _ :=
    .tighter (.tighter (.tighter (.tighter
      (@Derives.joined _ 4 ⟨.minus, "-", ⟨1, 3⟩⟩ .minus _ _ _ _ rfl rfl left right))))
  exact accepted.2.2 _ (.bare (.expression difference) (Stops.before_finish rfl) .done)

end Reckoner
