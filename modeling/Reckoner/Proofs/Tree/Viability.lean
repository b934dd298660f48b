import Reckoner.Proofs.Tree.Lookahead
import Reckoner.Proofs.Tree.Merging

/-!
Where a parser of expressions fails, what it consumed is the start of an expression. Every parser
is judged by the phrase that it reads: an operand that is missing, a parenthesis that is open and a
row of arguments that breaks off can all be completed within the budget that was given.
-/

namespace Reckoner

namespace Grammar

theorem Derives.single {budget : Nat} {phrase : Phrase} {tokens : List Token} {trees : List Tree}
    (derivation : Derives budget phrase tokens trees) (one : phrase ≠ .arguments) :
    ∃ tree, trees = [tree] := by
  cases derivation with
  | argument | further => exact absurd rfl one
  | _ => exact ⟨_, rfl⟩

/-- The tokens are the start of a phrase. -/
def Viable (budget : Nat) (phrase : Phrase) (front : List Token) : Prop :=
  ∃ extension trees, Derives budget phrase (front ++ extension) trees

def tokenOf (kind : TokenKind) : Token :=
  ⟨kind, "", .nowhere⟩

namespace Viable

variable {budget level : Nat} {front : List Token} {token opening : Token}

theorem exists_tree {phrase : Phrase} (viable : Viable budget phrase front)
    (one : phrase ≠ .arguments) :
    ∃ extension tree, Derives budget phrase (front ++ extension) [tree] := by
  obtain ⟨extension, trees, derivation⟩ := viable
  obtain ⟨tree, rfl⟩ := derivation.single one
  exact ⟨extension, tree, derivation⟩

theorem chain (viable : Viable budget .unary front) (level : Nat) :
    Viable budget (.chain level) front := by
  obtain ⟨extension, tree, derivation⟩ := viable.exists_tree nofun
  exact ⟨extension, [tree], derivation.chain level⟩

theorem plain (viable : Viable budget .primary front) : Viable budget .unary front := by
  obtain ⟨extension, tree, derivation⟩ := viable.exists_tree nofun
  exact ⟨extension, [tree], .plain derivation⟩

theorem of_derives {phrase : Phrase} {trees : List Tree}
    (derivation : Derives budget phrase front trees) : Viable budget phrase front :=
  ⟨[], trees, by rwa [List.append_nil]⟩

theorem nil : Viable budget .primary [] :=
  ⟨[tokenOf .text], _, .text rfl⟩

theorem tighter (viable : Viable budget (.chain (level + 1)) front) :
    Viable budget (.chain level) front := by
  obtain ⟨extension, tree, derivation⟩ := viable.exists_tree nofun
  exact ⟨extension, [tree], .tighter derivation⟩

theorem joined {operator : BinaryOperator} {left : List Token} {leftTree : Tree}
    (viable : Viable budget (.chain (level + 1)) front)
    (found : BinaryOperator.ofToken? token.kind = some operator) (same : operator.level = level)
    (derivation : Derives budget (.chain level) left [leftTree]) :
    Viable budget (.chain level) (left ++ token :: front) := by
  obtain ⟨extension, tree, right⟩ := viable.exists_tree nofun
  exact ⟨extension, _, by simpa using Derives.joined found same derivation right⟩

theorem signed {operator : UnaryOperator} (viable : Viable budget .unary front)
    (found : UnaryOperator.ofToken? token.kind = some operator) :
    Viable (budget + 1) .unary (token :: front) := by
  obtain ⟨extension, tree, derivation⟩ := viable.exists_tree nofun
  exact ⟨extension, _, .signed found derivation⟩

theorem group (viable : Viable budget .expression front) (opens : opening.kind = .leftParen) :
    Viable (budget + Parser.groupCost) .primary (opening :: front) := by
  obtain ⟨extension, tree, derivation⟩ := viable.exists_tree nofun
  have whole := @Derives.group budget opening (tokenOf .rightParen) _ _ opens rfl derivation
  exact ⟨extension ++ [tokenOf .rightParen], _, by simpa using whole⟩

theorem call (viable : Viable budget .arguments front) (isName : token.kind = .name)
    (opens : opening.kind = .leftParen) :
    Viable (budget + Parser.callCost) .primary (token :: opening :: front) := by
  obtain ⟨extension, trees, derivation⟩ := viable
  have whole := @Derives.call budget token opening (tokenOf .rightParen) _ _ isName opens rfl
    derivation
  exact ⟨extension ++ [tokenOf .rightParen], _, by simpa using whole⟩

theorem argument (viable : Viable budget .expression front) : Viable budget .arguments front := by
  obtain ⟨extension, tree, derivation⟩ := viable.exists_tree nofun
  exact ⟨extension, [tree], .argument derivation⟩

theorem further {before : List Token} {tree : Tree} (viable : Viable budget .arguments front)
    (comma : token.kind = .comma) (derivation : Derives budget .expression before [tree]) :
    Viable budget .arguments (before ++ token :: front) := by
  obtain ⟨extension, trees, rest⟩ := viable
  exact ⟨extension, _, by simpa using Derives.further comma derivation rest⟩

end Viable

end Grammar

namespace Parser

open Grammar

section Chains

variable {operators : List BinaryOperator} {operand : Parser Tree} {budget level : Nat}

theorem chainRest_foreseen (members : ∀ operator ∈ operators, operator.level = level)
    (reads : Reads operand fun tokens tree => Derives budget (.chain (level + 1)) tokens [tree])
    (foreseen : ∀ input, Foreseen operand (Viable budget (.chain (level + 1))) input)
    {left : Tree} {before : List Token} (derivation : Derives budget (.chain level) before [left])
    (input : List Token) :
    Foreseen (chainRest operators operand left)
      (fun front => Viable budget (.chain level) (before ++ front)) input := by
  induction count : input.length using Nat.strongRecOn generalizing input left before with
  | ind size ih =>
      cases found : operatorOf? operators (ahead input) with
      | none =>
          refine .succeeds [] input left rfl fun other same => chainRest_none ?_ left
          rwa [List.nil_append, same]
      | some operator =>
          obtain ⟨token, rest, rfl⟩ := exists_cons_of_operator found
          obtain ⟨known, member⟩ := operatorOf?_eq_some.mp found
          have same := members operator member
          refine .take ?_ fun _ => chainRest_some reads found left
          apply Foreseen.bind_reads
            ((foreseen rest).imp fun front viable => viable.joined known same derivation) reads
          rintro taken after right rfl rightDerivation
          have joined := Derives.joined known same derivation rightDerivation
          have fewer : after.length < size := by
            simp only [List.length_cons, List.length_append] at count
            omega
          apply (ih after.length fewer joined after rfl).imp
          intro front viable
          simpa using viable

theorem chain_foreseen (members : ∀ operator ∈ operators, operator.level = level)
    (reads : Reads operand fun tokens tree => Derives budget (.chain (level + 1)) tokens [tree])
    (foreseen : ∀ input, Foreseen operand (Viable budget (.chain (level + 1))) input)
    (input : List Token) :
    Foreseen (chain operators operand) (Viable budget (.chain level)) input := by
  apply ((foreseen input).imp fun front viable => viable.tighter).bind_reads reads
  intro taken rest left _ derivation
  exact chainRest_foreseen members reads foreseen (.tighter derivation) rest

end Chains

theorem levelParser_foreseen {budget : Nat}
    (foreseen : ∀ input, Foreseen (unary budget) (Viable budget .unary) input)
    (level : Nat) (input : List Token) :
    Foreseen (levelParser budget level) (Viable budget (.chain level)) input := by
  generalize distance : operandLevel - level = steps
  induction steps generalizing level input with
  | zero =>
      rw [levelParser_of_beyond budget (by omega)]
      exact (foreseen input).imp fun front viable => viable.chain level
  | succ steps ih =>
      have below : level < operandLevel := by omega
      rw [levelParser_of_below budget below]
      apply chain_foreseen
      · intro operator member
        exact (mem_operatorsOf below operator).mp member
      · exact levelParser_reads (unary_reads budget) (level + 1)
      · intro input
        exact ih (level + 1) input (by omega)

structure Encloses (cost budget : Nat) (inner : Parser Tree) : Prop where
  reads : Reads inner fun tokens tree =>
    cost ≤ budget ∧ Derives (budget - cost) .expression tokens [tree]
  foreseen : ∀ input, Foreseen inner
    (fun front => cost ≤ budget ∧ Viable (budget - cost) .expression front) input

section Primaries

variable {group argument : Parser Tree} {cost budget : Nat}

theorem argumentsRest_foreseen (inside : Encloses cost budget argument) {before : List Token}
    {tree : Tree} (derivation : Derives (budget - cost) .expression before [tree])
    (input : List Token) :
    Foreseen (argumentsRest argument)
      (fun front => cost ≤ budget ∧ Viable (budget - cost) .arguments (before ++ front)) input := by
  induction count : input.length using Nat.strongRecOn generalizing input before tree with
  | ind size ih =>
      by_cases comma : (ahead input).kind = .comma
      · obtain ⟨token, rest, rfl, isComma⟩ := exists_cons_of_kind comma (by decide)
        refine .take ?_ fun _ => argumentsRest_comma inside.reads isComma
        apply Foreseen.bind_reads ((inside.foreseen rest).imp fun front ⟨enough, viable⟩ =>
          ⟨enough, viable.argument.further isComma derivation⟩) inside.reads
        rintro taken after next rfl ⟨_, nextDerivation⟩
        have fewer : after.length < size := by
          simp only [List.length_cons, List.length_append] at count
          omega
        apply ((ih after.length fewer nextDerivation after rfl).imp ?_).map
        rintro front ⟨enough, viable⟩
        exact ⟨enough, viable.further isComma derivation⟩
      · refine .succeeds [] input [] rfl fun other same => argumentsRest_stop ?_
        rwa [List.nil_append, same]

theorem arguments_foreseen (inside : Encloses cost budget argument) (input : List Token) :
    Foreseen (arguments argument)
      (fun front => cost ≤ budget ∧ Viable (budget - cost) .arguments front) input := by
  apply Foreseen.current
  split
  · exact .pure []
  · apply Foreseen.bind_reads ((inside.foreseen input).imp fun front ⟨enough, viable⟩ =>
      ⟨enough, viable.argument⟩) inside.reads
    rintro taken rest first rfl ⟨_, derivation⟩
    exact (argumentsRest_foreseen inside derivation rest).map (first :: ·)

theorem call_foreseen {callee : Token} (isName : callee.kind = .name)
    (inside : Encloses callCost budget argument) (input : List Token) :
    Foreseen (call argument callee) (fun front => Viable budget .primary (callee :: front))
      input := by
  apply Foreseen.bind_expect (by decide)
  · exact ⟨[tokenOf .leftParen, tokenOf .rightParen], _, .emptyCall isName rfl rfl⟩
  rintro opening rest rfl opens
  have called (front : List Token) (enough : callCost ≤ budget)
      (viable : Viable (budget - callCost) .arguments front) :
      Viable budget .primary (callee :: opening :: front) := by
    have whole := viable.call isName opens
    rwa [Nat.sub_add_cancel enough] at whole
  apply Foreseen.bind_reads ((arguments_foreseen inside rest).imp
    fun front ⟨enough, viable⟩ => called front enough viable) (arguments_reads inside.reads)
  rintro taken after children rfl derived
  apply Foreseen.bind_expect (by decide)
  · rw [List.append_nil]
    rcases derived with ⟨rfl, rfl⟩ | ⟨enough, derivation⟩
    · exact ⟨[tokenOf .rightParen], _, .emptyCall isName opens rfl⟩
    · exact called taken enough (.of_derives derivation)
  intro closing behind _ _
  exact .pure _

theorem named_foreseen {token : Token} (isName : token.kind = .name)
    (inside : Encloses callCost budget argument) (input : List Token) :
    Foreseen (named argument token) (fun front => Viable budget .primary (token :: front))
      input := by
  apply Foreseen.current
  split
  · exact call_foreseen isName inside input
  · split
    · exact .pure _
    · exact .pure _

theorem group_foreseen {opening : Token} (opens : opening.kind = .leftParen)
    (inside : Encloses groupCost budget group) (input : List Token) :
    Foreseen (group >>= fun inner => expect [.rightParen] >>= fun _ => pure inner)
      (fun front => Viable budget .primary (opening :: front)) input := by
  have grouped (front : List Token) (enough : groupCost ≤ budget)
      (viable : Viable (budget - groupCost) .expression front) :
      Viable budget .primary (opening :: front) := by
    have whole := viable.group opens
    rwa [Nat.sub_add_cancel enough] at whole
  apply Foreseen.bind_reads ((inside.foreseen input).imp
    fun front ⟨enough, viable⟩ => grouped front enough viable) inside.reads
  rintro taken rest tree rfl ⟨enough, derivation⟩
  apply Foreseen.bind_expect (by decide)
  · rw [List.append_nil]
    exact grouped taken enough (.of_derives derivation)
  intro closing behind _ _
  exact .pure _

theorem number_foreseen (token : Token) (rest : List Token) :
    Foreseen (advance >>= fun _ => number token) (Viable budget .primary) (token :: rest) := by
  cases read : Number.readGrouped? token.text with
  | some x =>
      have succeeds : number token = pure (.node .number (.number x) token.place []) := by
        rw [number, read]
      rw [succeeds]
      exact .advance (.pure _)
  | none =>
      refine .fails [] (token :: rest) (.malformedNumber token) rfl rfl .nil fun other _ => ?_
      rw [advance_bind, number, read]
      rfl

theorem primary_foreseen (insideGroup : Encloses groupCost budget group)
    (insideCall : Encloses callCost budget argument) (input : List Token) :
    Foreseen (primary group argument) (Viable budget .primary) input := by
  apply Foreseen.current
  cases found : (ahead input).kind
  case number =>
    obtain ⟨token, rest, rfl, _⟩ := exists_cons_of_kind found (by decide)
    exact number_foreseen token rest
  case text =>
    obtain ⟨token, rest, rfl, _⟩ := exists_cons_of_kind found (by decide)
    exact .advance (.pure _)
  case name =>
    obtain ⟨token, rest, rfl, kind⟩ := exists_cons_of_kind found (by decide)
    exact .advance (named_foreseen kind insideCall rest)
  case leftParen =>
    obtain ⟨token, rest, rfl, kind⟩ := exists_cons_of_kind found (by decide)
    exact .advance (group_foreseen kind insideGroup rest)
  all_goals exact .fail rfl .nil

end Primaries

theorem nested_encloses {cost budget : Nat} (positive : 0 < cost)
    (foreseen : ∀ smaller, smaller < budget →
      ∀ input, Foreseen (unary smaller) (Viable smaller .unary) input) :
    Encloses cost budget (nested cost budget) where
  reads := nested_reads (fun smaller _ => unary_reads smaller) positive
  foreseen input := by
    by_cases enough : cost ≤ budget
    · rw [nested, if_pos enough]
      apply (levelParser_foreseen (foreseen (budget - cost) (by omega)) 0 input).imp
      intro front viable
      exact ⟨enough, viable⟩
    · rw [nested, if_neg enough]
      exact .deep (ahead input) rfl

theorem unary_foreseen (budget : Nat) (input : List Token) :
    Foreseen (unary budget) (Viable budget .unary) input := by
  induction budget using Nat.strongRecOn generalizing input with
  | ind budget ih =>
      rw [unary_eq]
      apply Foreseen.current
      cases found : UnaryOperator.ofToken? (ahead input).kind with
      | none =>
          apply (primary_foreseen (nested_encloses (by decide) ih)
            (nested_encloses (by decide) ih) input).imp
          intro front viable
          exact viable.plain
      | some operator =>
          obtain ⟨token, rest, rfl⟩ := exists_cons_of_ahead (kind_of_unary found)
          apply Foreseen.advance
          apply Foreseen.map
          by_cases positive : 0 < budget
          · rw [signed, if_pos positive]
            apply (ih (budget - 1) (by omega) rest).imp
            intro front viable
            have whole := viable.signed found
            rwa [Nat.sub_add_cancel positive] at whole
          · rw [signed, if_neg positive]
            exact .deep (ahead rest) rfl

theorem expression_foreseen (budget : Nat) (input : List Token) :
    Foreseen (expression budget) (Viable budget .expression) input :=
  levelParser_foreseen (unary_foreseen budget) 0 input

end Parser

end Reckoner
