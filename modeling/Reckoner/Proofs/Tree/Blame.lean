import Reckoner.Proofs.Tree.Acceptance
import Reckoner.Proofs.Tree.Viability

/-!
A syntax error is reported at the earliest token that shows it. The tokens before the one that the
error names are the start of an accepted program. Together with that token they are not: whatever
follows, the parser complains about it.
-/

namespace Reckoner

open Grammar Reckoner.Parser

namespace Parser

def Opens (budget : Nat) (front : List Token) : Prop :=
  ∃ extension tree, Statement budget (front ++ extension) tree

theorem binding_foreseen (budget : Nat) (input : List Token) :
    Foreseen (binding budget) (Opens budget) input := by
  have filler : Derives budget .expression [tokenOf .text] [_] :=
    Derives.chain (.plain (.text rfl)) 0
  apply Foreseen.bind_expect (by decide)
  · exact ⟨[tokenOf .binding, tokenOf .name, tokenOf .assign, tokenOf .text], _,
      .binding rfl rfl rfl filler⟩
  rintro start rest rfl isBinding
  apply Foreseen.bind_expect (by decide)
  · exact ⟨[tokenOf .name, tokenOf .assign, tokenOf .text], _, .binding isBinding rfl rfl filler⟩
  rintro name rest rfl isName
  apply Foreseen.bind_expect (by decide)
  · exact ⟨[tokenOf .assign, tokenOf .text], _, .binding isBinding isName rfl filler⟩
  rintro equals rest rfl isAssign
  apply ((expression_foreseen budget rest).imp ?_).map
  intro front viable
  obtain ⟨extension, value, derivation⟩ := viable.exists_tree nofun
  exact ⟨extension, _, .binding isBinding isName isAssign derivation⟩

theorem statement_foreseen (budget : Nat) (input : List Token) :
    Foreseen (statement budget) (Opens budget) input := by
  apply Foreseen.current
  split
  · exact binding_foreseen budget input
  · apply (expression_foreseen budget input).imp
    intro front viable
    obtain ⟨extension, tree, derivation⟩ := viable.exists_tree nofun
    exact ⟨extension, tree, .expression derivation⟩

/-- Some continuation of the tokens is read up to a closing token, whatever was read before. -/
def Continues (budget : Nat) (front : List Token) : Prop :=
  ∃ extension, ∀ (last : Option Tree) (closing : Token), closing.kind = .finish →
    ∃ result, statementsRest budget last (front ++ extension ++ [closing]) =
      (.ok result, [closing])

theorem statementsRest_step {budget : Nat} {taken rest : List Token} {tree : Tree}
    (read : statement budget (taken ++ rest) = (.ok tree, rest)) (last : Option Tree) :
    statementsRest budget last (taken ++ rest) = statementsRest budget (some tree)
      (if (ahead rest).kind = .semicolon then rest.tail else rest) := by
  have derived := (statement_reads budget).of_append read
  have more : (ahead (taken ++ rest)).kind ≠ .finish := by
    rw [ahead_append derived.nonempty]
    exact derived.start.2
  rw [statementsRest_more more, Attempt.bind_ok read, semicolon_bind]

theorem Continues.of_statement {budget : Nat} {front extension : List Token} {tree : Tree}
    (derived : Statement budget (front ++ extension) tree) : Continues budget front := by
  refine ⟨extension, fun last closing closes => ⟨some tree, ?_⟩⟩
  have finished : (ahead [closing]).kind = .finish := closes
  have read := statement_complete derived (Stops.before_finish finished)
  rw [statementsRest_step read, if_neg (by simp [closes]), statementsRest_finish finished]

theorem Continues.after {budget : Nat} {taken front rest : List Token} {tree : Tree}
    (continues : Continues budget front) (bare : (ahead (front ++ rest)).kind ≠ .semicolon)
    (answers : ∀ other, ahead other = ahead (front ++ rest) →
      statement budget (taken ++ other) = (.ok tree, other)) :
    Continues budget (taken ++ front) := by
  by_cases empty : front = []
  · have derived := (statement_reads budget).of_append (answers _ rfl)
    rw [empty, List.append_nil]
    exact @Continues.of_statement budget taken [] tree (by rwa [List.append_nil])
  · obtain ⟨extension, reads⟩ := continues
    refine ⟨extension, fun last closing closes => ?_⟩
    obtain ⟨result, read⟩ := reads (some tree) closing closes
    have same : ahead (front ++ extension ++ [closing]) = ahead (front ++ rest) := by
      rw [List.append_assoc, ahead_append empty, ahead_append empty]
    refine ⟨result, ?_⟩
    rw [List.append_assoc taken, List.append_assoc taken, statementsRest_step (answers _ same),
      same, if_neg bare, read]

theorem Continues.after_semicolon {budget : Nat} {taken front : List Token} {token : Token}
    {tree : Tree} (continues : Continues budget front) (closed : token.kind = .semicolon)
    (answers : ∀ other, ahead other = token →
      statement budget (taken ++ other) = (.ok tree, other)) :
    Continues budget (taken ++ token :: front) := by
  obtain ⟨extension, reads⟩ := continues
  refine ⟨extension, fun last closing closes => ?_⟩
  obtain ⟨result, read⟩ := reads (some tree) closing closes
  have step := statementsRest_step (answers (token :: (front ++ extension ++ [closing])) rfl) last
  rw [ahead_cons, if_pos closed, List.tail_cons, read] at step
  exact ⟨result, by simpa using step⟩

theorem statementsRest_foreseen (budget : Nat) (last : Option Tree) (input : List Token) :
    Foreseen (statementsRest budget last) (Continues budget) input := by
  induction count : input.length using Nat.strongRecOn generalizing input last with
  | ind size ih =>
      by_cases finished : (ahead input).kind = .finish
      · refine .succeeds [] input last rfl fun other same => statementsRest_finish ?_ last
        rwa [List.nil_append, same]
      · refine Foreseen.look ?_ fun other same => statementsRest_more (by rwa [same]) last
        apply Foreseen.bind ((statement_foreseen budget input).imp
          fun front ⟨extension, tree, derived⟩ => .of_statement derived)
        rintro taken rest tree rfl answers
        have derived := (statement_reads budget).of_append (answers rest rfl)
        have positive := List.length_pos_iff.mpr derived.nonempty
        rw [List.length_append] at count
        by_cases closed : (ahead rest).kind = .semicolon
        · obtain ⟨token, later, rfl, isSemicolon⟩ := exists_cons_of_kind closed (by decide)
          rw [List.length_cons] at count
          refine Foreseen.take ((ih later.length (by omega) (some tree) later rfl).imp ?_)
            fun other => ?_
          · intro front continues
            exact continues.after_semicolon isSemicolon answers
          · rw [semicolon_bind, ahead_cons, if_pos isSemicolon, List.tail_cons]
        · refine Foreseen.look ((ih rest.length (by omega) (some tree) rest rfl).imp_of_append ?_)
            fun other same => ?_
          · rintro front suffix rfl continues
            exact continues.after closed answers
          · rw [semicolon_bind, same, if_neg closed]

theorem Continues.accepted {front : List Token} (continues : Continues nestingBudget front)
    {closing : Token} (closes : closing.kind = .finish) :
    ∃ extension result, Unfinished (front ++ extension) ∧
      Tree.parse (front ++ extension ++ [closing]) = .ok result := by
  obtain ⟨extension, reads⟩ := continues
  obtain ⟨result, read⟩ := reads none closing closes
  obtain ⟨consumed, split, trees, derived, _⟩ := statementsFrom_reads nestingBudget _ none read
  obtain rfl : front ++ extension = consumed := List.append_cancel_right split
  exact ⟨extension, result, derived.unfinished, congrArg Prod.fst read⟩

end Parser

namespace ParseError

theorem message_of_found {error : ParseError} {found : Token}
    (named : error.found? = some found) :
    ∃ before after, error.message =
      before ++ found.text ++ after ++ found.place.described := by
  cases error with
  | expected kinds =>
      obtain rfl := Option.some.inj named
      exact ⟨_, ") at ", rfl⟩
  | unexpected =>
      obtain rfl := Option.some.inj named
      exact ⟨_, ") at ", rfl⟩
  | malformedNumber =>
      obtain rfl := Option.some.inj named
      exact ⟨_, "' at ", rfl⟩
  | nestedTooDeeply | tooDeepToDump => cases named

end ParseError

/-- A syntax error is found at the earliest possible token. What stands before the token that the
error names can be completed to an accepted program. With that token it cannot: the parser gives
the same error whatever follows. The closing token is named just if all tokens before it are the
start of an accepted program. -/
theorem Tree.parse_error_earliest (tokens : List Token) (closing : Token) (error : ParseError)
    (unfinished : Unfinished tokens) (closes : closing.kind = .finish)
    (failed : Tree.parse (tokens ++ [closing]) = .error error)
    (shallow : ∀ place, error ≠ .nestedTooDeeply place) :
    ∃ front found later, tokens ++ [closing] = front ++ found :: later ∧
      error.found? = some found ∧
      (∃ before after, error.message =
        before ++ found.text ++ after ++ found.place.described) ∧
      (∃ extension result, Unfinished extension ∧
        Tree.parse (front ++ extension ++ [closing]) = .ok result) ∧
      (∀ further, Tree.parse (front ++ found :: further) = .error error) ∧
      (found.kind = .finish ↔ front = tokens) := by
  have outcome : (program nestingBudget (tokens ++ [closing])).1 = .error error := failed
  cases statementsRest_foreseen nestingBudget none (tokens ++ [closing]) with
  | succeeds taken rest result split answers =>
      have accepted : program nestingBudget (tokens ++ [closing]) = (.ok result, rest) :=
        split ▸ answers rest rfl
      simp [accepted] at outcome
  | deep place answer =>
      exact absurd (Except.error.inj (outcome.symm.trans answer)) (shallow place)
  | fails front rest reported split named completes answers =>
      obtain ⟨extension, result, opened, accepted⟩ := completes.accepted closes
      obtain ⟨frontUnfinished, extensionUnfinished⟩ := unfinished_append.mp opened
      have same : reported = error :=
        Except.error.inj ((answers rest rfl).symm.trans (split ▸ outcome))
      subst same
      cases rest with
      | nil =>
          have member : closing ∈ front := by
            rw [List.append_nil] at split
            simp [← split]
          exact absurd closes (frontUnfinished closing member)
      | cons found later =>
          refine ⟨front, found, later, split, named, ParseError.message_of_found named,
            ⟨extension, result, extensionUnfinished, accepted⟩,
            fun further => answers (found :: further) rfl, ?_, ?_⟩
          · intro finished
            exact frontUnfinished.unique unfinished finished closes split.symm
          · rintro rfl
            have heads := List.append_cancel_left split
            rw [List.cons.injEq] at heads
            rw [← heads.1, closes]

theorem Tree.parse_error_earliest_text :
    (∃ extension result, Unfinished extension ∧
      Tree.parse ([⟨.leftParen, "(", ⟨1, 1⟩⟩, ⟨.text, "x", ⟨1, 2⟩⟩] ++ extension ++
        [Token.finish ⟨1, 9⟩]) = .ok result) ∧
    ∀ further, Tree.parse (⟨.leftParen, "(", ⟨1, 1⟩⟩ :: ⟨.text, "x", ⟨1, 2⟩⟩ ::
      ⟨.text, "y", ⟨1, 6⟩⟩ :: further) = .error (.expected [.rightParen] ⟨.text, "y", ⟨1, 6⟩⟩) := by
  have failed : Tree.parse ([⟨.leftParen, "(", ⟨1, 1⟩⟩, ⟨.text, "x", ⟨1, 2⟩⟩,
      ⟨.text, "y", ⟨1, 6⟩⟩] ++ [Token.finish ⟨1, 9⟩]) =
        .error (.expected [.rightParen] ⟨.text, "y", ⟨1, 6⟩⟩) := by
    with_unfolding_all rfl
  obtain ⟨front, found, later, split, named, _, completes, stays, _⟩ :=
    Tree.parse_error_earliest _ _ _ (by simp [Unfinished]) rfl failed (by simp)
  obtain rfl := Option.some.inj named
  obtain rfl : front = [⟨.leftParen, "(", ⟨1, 1⟩⟩, ⟨.text, "x", ⟨1, 2⟩⟩] := by
    rcases front with _ | ⟨first, _ | ⟨second, _ | ⟨third, _ | ⟨fourth, more⟩⟩⟩⟩ <;>
      simp [Token.finish] at split
    simp [split.1, split.2.1]
  exact ⟨completes, stays⟩

end Reckoner
