import Reckoner.Proofs.Tree.Soundness

/-!
What derives is read. A parser that meets a derivable run of tokens, and behind it a token that
cannot continue the run, consumes just that run and answers with its tree. Operators of the same
or a tighter level continue a chain, and a parenthesis continues a name.
-/

namespace Reckoner

namespace Parser

open Grammar

def EndsInName (tokens : List Token) : Prop :=
  ∃ last, tokens.getLast? = some last ∧ last.kind = .name

theorem endsInName_append {left right : List Token} (more : right ≠ []) :
    EndsInName (left ++ right) ↔ EndsInName right := by
  obtain ⟨last, found⟩ := Option.ne_none_iff_exists'.mp
    (fun none => more (List.getLast?_eq_none_iff.mp none))
  simp [EndsInName, List.getLast?_append, found]

theorem endsInName_cons {token : Token} {rest : List Token} (more : rest ≠ []) :
    EndsInName (token :: rest) ↔ EndsInName rest :=
  @endsInName_append [token] rest more

theorem ahead_append {left : List Token} (more : left ≠ []) (right : List Token) :
    ahead (left ++ right) = ahead left := by
  cases left with
  | nil => exact absurd rfl more
  | cons token rest => rfl

def Uncalled (tokens rest : List Token) : Prop :=
  EndsInName tokens → (ahead rest).kind ≠ .leftParen

structure Stops (level : Nat) (tokens rest : List Token) : Prop where
  looser : ∀ operator, BinaryOperator.ofToken? (ahead rest).kind = some operator →
    operator.level < level
  uncalled : Uncalled tokens rest

namespace Stops

variable {level larger : Nat} {tokens left right rest : List Token} {token : Token}

theorem weaken (stops : Stops level tokens rest) (bound : level ≤ larger) :
    Stops larger tokens rest where
  looser operator found := Nat.lt_of_lt_of_le (stops.looser operator found) bound
  uncalled := stops.uncalled

theorem of_append (more : right ≠ []) (stops : Stops level (left ++ right) rest) :
    Stops level right rest where
  looser := stops.looser
  uncalled ends := stops.uncalled ((endsInName_append more).mpr ends)

theorem append (more : right ≠ []) (stops : Stops level right rest) :
    Stops level (left ++ right) rest where
  looser := stops.looser
  uncalled ends := stops.uncalled ((endsInName_append more).mp ends)

theorem congr {others : List Token} (same : (ahead rest).kind = (ahead others).kind)
    (stops : Stops level tokens rest) : Stops level tokens others where
  looser operator found := stops.looser operator (same ▸ found)
  uncalled ends := same ▸ stops.uncalled ends

theorem before_operator {operator : BinaryOperator}
    (found : BinaryOperator.ofToken? token.kind = some operator) (below : operator.level < level) :
    Stops level tokens (token :: rest) where
  looser other foundOther := by
    rw [ahead_cons, found, Option.some.injEq] at foundOther
    rwa [← foundOther]
  uncalled _ opening := by
    rw [ahead_cons] at opening
    simp [opening, BinaryOperator.ofToken?] at found

theorem before_other (unknown : BinaryOperator.ofToken? (ahead rest).kind = none)
    (bare : (ahead rest).kind ≠ .leftParen) : Stops level tokens rest where
  looser operator found := by simp [unknown] at found
  uncalled _ := bare

theorem before_closing (closes : (ahead rest).kind = .rightParen) : Stops level tokens rest :=
  before_other (by simp [closes, BinaryOperator.ofToken?]) (by simp [closes])

theorem before_finish (finished : (ahead rest).kind = .finish) : Stops level tokens rest :=
  before_other (by simp [finished, BinaryOperator.ofToken?]) (by simp [finished])

end Stops

theorem expect_of_mem {kinds : List TokenKind} {token : Token} (member : token.kind ∈ kinds)
    (rest : List Token) : expect kinds (token :: rest) = (.ok token, rest) := by
  rw [expect, current_bind, ahead_cons, if_pos member]
  rfl

section Chains

variable {operators : List BinaryOperator} {operand : Parser Tree} {token : Token}
  {operator : BinaryOperator} {left right : Tree} {input rest : List Token}

theorem chainFrom_step (found : BinaryOperator.ofToken? token.kind = some operator)
    (member : operator ∈ operators) (read : operand input = (.ok right, rest))
    (extra : Token) (bound : List Token) :
    chainFrom operators operand (extra :: bound) left (token :: input) =
      chainFrom operators operand bound
        (.node .binary (.text operator.symbol) token.place [left, right]) rest := by
  have known := operatorOf?_eq_some.mpr ⟨found, member⟩
  simp only [chainFrom, current_bind, ahead_cons, known, advance_bind, List.tail_cons]
  exact Attempt.bind_ok read

theorem chainFrom_stop (bound : List Token)
    (stops : ∀ operator ∈ operators, BinaryOperator.ofToken? (ahead rest).kind ≠ some operator) :
    chainFrom operators operand bound left rest = (.ok left, rest) := by
  cases bound with
  | nil => rfl
  | cons extra bound =>
      have unknown : operatorOf? operators (ahead rest) = none := by
        rw [Option.eq_none_iff_forall_ne_some]
        intro operator found
        obtain ⟨known, member⟩ := operatorOf?_eq_some.mp found
        exact stops operator member known
      simp [chainFrom, current_bind, unknown, Attempt.pure_apply]

end Chains

def ReadsChain (budget level : Nat) (tokens : List Token) (tree : Tree) : Prop :=
  if level < operandLevel then
    ∀ rest, Stops (level + 1) tokens rest → ∃ bound, rest.length ≤ bound.length ∧
      levelParser budget level (tokens ++ rest) =
        chainFrom (operatorsOf level) (levelParser budget (level + 1)) bound tree rest
  else ∀ rest, Uncalled tokens rest → unary budget (tokens ++ rest) = (.ok tree, rest)

theorem ReadsChain.complete {budget level : Nat} {tokens rest : List Token} {tree : Tree}
    (reads : ReadsChain budget level tokens tree) (stops : Stops level tokens rest) :
    levelParser budget level (tokens ++ rest) = (.ok tree, rest) := by
  unfold ReadsChain at reads
  by_cases below : level < operandLevel
  · simp only [below, if_true] at reads
    obtain ⟨bound, _, read⟩ := reads rest (stops.weaken (Nat.le_succ level))
    rw [read]
    apply chainFrom_stop
    intro operator member found
    have same := (mem_operatorsOf below operator).mp member
    have looser := stops.looser operator found
    omega
  · simp only [below, if_false] at reads
    rw [levelParser_of_beyond budget (by omega)]
    exact reads rest stops.uncalled

theorem ReadsChain.of_tighter {budget level : Nat} {tokens : List Token} {tree : Tree}
    (reads : ReadsChain budget (level + 1) tokens tree) : ReadsChain budget level tokens tree := by
  unfold ReadsChain
  by_cases below : level < operandLevel
  · simp only [below, if_true]
    intro rest stops
    refine ⟨rest, Nat.le_refl _, ?_⟩
    rw [levelParser_of_below budget below, chain, Attempt.bind_ok (reads.complete stops)]
    rfl
  · have beyond : ¬level + 1 < operandLevel := by omega
    simpa only [ReadsChain, below, beyond, if_false] using reads

theorem ReadsChain.joined {budget level : Nat} {token : Token} {operator : BinaryOperator}
    {left right : List Token} {leftTree rightTree : Tree}
    (found : BinaryOperator.ofToken? token.kind = some operator) (same : operator.level = level)
    (more : right ≠ []) (readsLeft : ReadsChain budget level left leftTree)
    (readsRight : ReadsChain budget (level + 1) right rightTree) :
    ReadsChain budget level (left ++ token :: right)
      (.node .binary (.text operator.symbol) token.place [leftTree, rightTree]) := by
  have below : level < operandLevel := same ▸ operator.level_lt
  unfold ReadsChain at readsLeft ⊢
  simp only [below, if_true] at readsLeft ⊢
  intro rest stops
  have stopsRight : Stops (level + 1) right rest := by
    apply Stops.of_append more
    rwa [List.append_cons] at stops
  -- The fold over the left part ends with a bound that still covers the right part.
  obtain ⟨bound, covers, readLeft⟩ :=
    readsLeft (token :: (right ++ rest)) (Stops.before_operator found (by omega))
  have readRight := readsRight.complete stopsRight
  cases bound with
  | nil => simp at covers
  | cons extra bound =>
      refine ⟨bound, ?_, ?_⟩
      · simp only [List.length_cons, List.length_append] at covers
        omega
      · have whole : left ++ token :: right ++ rest = left ++ token :: (right ++ rest) := by simp
        rw [whole, readLeft]
        exact chainFrom_step found ((mem_operatorsOf below operator).mpr same) readRight extra bound

/-- How the parser of a phrase answers where the phrase is derived. Arguments are read one by one:
the first is followed by the others, which any bound covers that is as long as they are. -/
def Completes (budget : Nat) : Phrase → List Token → List Tree → Prop
  | .chain level, tokens, trees => ∀ tree, trees = [tree] → ReadsChain budget level tokens tree
  | .unary, tokens, trees => ∀ tree, trees = [tree] → ∀ rest, Uncalled tokens rest →
      unary budget (tokens ++ rest) = (.ok tree, rest)
  | .primary, tokens, trees => ∀ tree, trees = [tree] → ∀ rest, Uncalled tokens rest →
      primary (nested groupCost budget) (nested callCost budget) (tokens ++ rest) =
        (.ok tree, rest)
  | .arguments, tokens, trees => ∀ rest, (ahead rest).kind = .rightParen →
      ∃ first others middle, trees = first :: others ∧ others.length ≤ middle.length ∧
        expression budget (tokens ++ rest) = (.ok first, middle) ∧
        ∀ bound, others.length ≤ bound.length →
          argumentsFrom (expression budget) bound middle = (.ok others, rest)

theorem nested_of_room (cost budget : Nat) : nested cost (budget + cost) = expression budget := by
  simp [nested]

theorem Completes.expression {budget : Nat} {tokens rest : List Token} {tree : Tree}
    (complete : Completes budget .expression tokens [tree]) (stops : Stops 0 tokens rest) :
    expression budget (tokens ++ rest) = (.ok tree, rest) :=
  (complete tree rfl).complete stops

section Steps

variable {budget : Nat} {token opening closing comma : Token} {tokens others rest : List Token}
  {tree : Tree} {trees : List Tree}

theorem Completes.signed {operator : UnaryOperator} (more : tokens ≠ [])
    (found : UnaryOperator.ofToken? token.kind = some operator)
    (complete : Completes budget .unary tokens [tree]) :
    Completes (budget + 1) .unary (token :: tokens)
      [.node .unary (.text operator.symbol) token.place [tree]] := by
  rintro _ ⟨⟩ rest uncalled
  have read := complete tree rfl rest fun ends => uncalled ((endsInName_cons more).mpr ends)
  rw [unary_eq, unaryLayer, List.cons_append, current_bind, ahead_cons, found]
  simp only [advance_bind, List.tail_cons, Parser.signed, Nat.add_sub_cancel,
    if_pos (Nat.succ_pos budget)]
  rw [Attempt.bind_ok read]
  rfl

theorem Completes.plain (opens : ∃ first later, tokens = first :: later ∧
      opensPrimary first.kind = true)
    (complete : Completes budget .primary tokens [tree]) :
    Completes budget .unary tokens [tree] := by
  rintro _ ⟨⟩ rest uncalled
  have read := complete tree rfl rest uncalled
  obtain ⟨first, later, rfl, opens⟩ := opens
  rw [unary_eq, unaryLayer, List.cons_append, current_bind, ahead_cons,
    not_operator_of_opensPrimary opens]
  exact read

theorem Completes.number {x : Float} (kind : token.kind = .number)
    (read : Number.readGrouped? token.text = some x) :
    Completes budget .primary [token] [.node .number (.number x) token.place []] := by
  rintro _ ⟨⟩ rest _
  rw [primary, List.singleton_append, current_bind, ahead_cons, kind]
  simp only [advance_bind, List.tail_cons, Parser.number, read]
  rfl

theorem Completes.text (kind : token.kind = .text) :
    Completes budget .primary [token] [.node .text (.text token.text) token.place []] := by
  rintro _ ⟨⟩ rest _
  rw [primary, List.singleton_append, current_bind, ahead_cons, kind]
  rfl

theorem primary_of_name {group argument : Parser Tree} (kind : token.kind = .name)
    (uncalled : Uncalled [token] rest) :
    primary group argument (token :: rest) =
      (.ok (match literal? token.text with
        | some b => .node .truth (.truth b) token.place []
        | none => .node .name (.text token.text) token.place []), rest) := by
  have bare : (ahead rest).kind ≠ .leftParen := uncalled ⟨token, rfl, kind⟩
  rw [primary, current_bind, ahead_cons, kind]
  simp only [advance_bind, List.tail_cons, named, current_bind, if_neg bare]
  cases literal? token.text <;> rfl

theorem primary_of_call (group : Parser Tree) {argument : Parser Tree} (kind : token.kind = .name)
    (opens : opening.kind = .leftParen) (closes : closing.kind = .rightParen)
    (read : arguments argument (tokens ++ closing :: rest) = (.ok trees, closing :: rest)) :
    primary group argument (token :: opening :: (tokens ++ closing :: rest)) =
      (.ok (.node .call (.text token.text) token.place trees), rest) := by
  rw [primary, current_bind, ahead_cons, kind]
  simp only [advance_bind, List.tail_cons, named, current_bind, ahead_cons, opens, if_true, call]
  rw [Attempt.bind_ok (expect_of_mem (by simp [opens]) _), Attempt.bind_ok read,
    Attempt.bind_ok (expect_of_mem (by simp [closes]) _)]
  rfl

theorem arguments_nil {argument : Parser Tree} (closes : (ahead rest).kind = .rightParen) :
    arguments argument rest = (.ok [], rest) := by
  rw [arguments, current_bind, if_pos closes]
  rfl

theorem Completes.readArguments (opens : ∃ first later, tokens = first :: later ∧
      opensExpression first.kind = true)
    (complete : Completes budget .arguments tokens trees) (closes : (ahead rest).kind = .rightParen) :
    arguments (Parser.expression budget) (tokens ++ rest) = (.ok trees, rest) := by
  obtain ⟨first, others, middle, rfl, covered, read, readOthers⟩ := complete rest closes
  obtain ⟨start, later, rfl, opens⟩ := opens
  have inside : (ahead (start :: later ++ rest)).kind ≠ .rightParen := by
    intro kind
    rw [List.cons_append, ahead_cons] at kind
    simp [kind, opensExpression, opensPrimary] at opens
  rw [arguments, current_bind, if_neg inside, Attempt.bind_ok read, remaining_bind,
    Attempt.bind_ok (readOthers middle covered)]
  rfl

theorem Completes.group (opens : opening.kind = .leftParen) (closes : closing.kind = .rightParen)
    (complete : Completes budget .expression tokens [tree]) :
    Completes (budget + groupCost) .primary (opening :: tokens ++ [closing]) [tree] := by
  rintro _ ⟨⟩ rest _
  have read : Parser.expression budget (tokens ++ closing :: rest) = (.ok tree, closing :: rest) :=
    complete.expression (Stops.before_closing closes)
  have whole : opening :: tokens ++ [closing] ++ rest = opening :: (tokens ++ closing :: rest) := by
    simp
  rw [whole, primary, current_bind, ahead_cons, opens]
  simp only [advance_bind, List.tail_cons, nested_of_room]
  rw [Attempt.bind_ok read, Attempt.bind_ok (expect_of_mem (by simp [closes]) _)]
  rfl

theorem argumentsFrom_stop {argument : Parser Tree} (bound : List Token)
    (stops : (ahead rest).kind ≠ .comma) : argumentsFrom argument bound rest = (.ok [], rest) := by
  cases bound with
  | nil => rfl
  | cons extra bound =>
      rw [argumentsFrom, current_bind, if_neg stops]
      rfl

theorem Completes.argument (complete : Completes budget .expression tokens [tree]) :
    Completes budget .arguments tokens [tree] := by
  intro rest closes
  refine ⟨tree, [], rest, rfl, Nat.zero_le _,
    complete.expression (Stops.before_closing closes), ?_⟩
  intro bound _
  exact argumentsFrom_stop bound (by simp [closes])

theorem Completes.further (isComma : comma.kind = .comma)
    (count : trees.length ≤ others.length)
    (complete : Completes budget .expression tokens [tree])
    (completeOthers : Completes budget .arguments others trees) :
    Completes budget .arguments (tokens ++ comma :: others) (tree :: trees) := by
  intro rest closes
  obtain ⟨first, later, middle, rfl, _, read, readLater⟩ := completeOthers rest closes
  refine ⟨tree, first :: later, comma :: (others ++ rest), rfl, ?_, ?_, ?_⟩
  · simp only [List.length_cons, List.length_append] at count ⊢
    omega
  · have whole : tokens ++ comma :: others ++ rest = tokens ++ comma :: (others ++ rest) := by simp
    rw [whole]
    exact complete.expression
      (Stops.before_other (by simp [isComma, BinaryOperator.ofToken?]) (by simp [isComma]))
  · intro bound covers
    cases bound with
    | nil => simp at covers
    | cons extra bound =>
        rw [argumentsFrom, current_bind, ahead_cons, if_pos isComma, advance_bind, List.tail_cons,
          Attempt.bind_ok read, Attempt.bind_ok (readLater bound (by simpa using covers))]
        rfl

end Steps

theorem completes_of_derives {budget : Nat} {phrase : Phrase} {tokens : List Token}
    {trees : List Tree} (derivation : Derives budget phrase tokens trees) :
    Completes budget phrase tokens trees := by
  induction derivation with
  | operand beyond _ ih =>
      rintro _ ⟨⟩
      simpa only [ReadsChain, Nat.not_lt.mpr beyond, if_false] using ih _ rfl
  | tighter _ ih =>
      rintro _ ⟨⟩
      exact (ih _ rfl).of_tighter
  | joined found same _ right ihLeft ihRight =>
      rintro _ ⟨⟩
      exact (ihLeft _ rfl).joined found same right.nonempty (ihRight _ rfl)
  | signed found operand ih => exact Completes.signed operand.nonempty found ih
  | plain derivation ih =>
      obtain ⟨first, later, split, _, opens⟩ := derivation.start
      exact Completes.plain ⟨first, later, split, opens rfl⟩ ih
  | number kind read => exact Completes.number kind read
  | text kind => exact Completes.text kind
  | truth kind literal =>
      rintro _ ⟨⟩ rest uncalled
      rw [List.singleton_append, primary_of_name kind uncalled, literal]
  | name kind literal =>
      rintro _ ⟨⟩ rest uncalled
      rw [List.singleton_append, primary_of_name kind uncalled, literal]
  | @emptyCall budget _ _ closing kind opens closes =>
      rintro _ ⟨⟩ rest _
      have read : arguments (nested callCost budget) ([] ++ closing :: rest) =
          (.ok [], closing :: rest) := arguments_nil closes
      exact primary_of_call _ kind opens closes read
  | @call budget callee opening closing tokens trees kind opens closes derivation ih =>
      rintro _ ⟨⟩ rest _
      obtain ⟨first, later, split, starts, _⟩ := derivation.start
      have read : arguments (expression budget) (tokens ++ closing :: rest) =
          (.ok trees, closing :: rest) :=
        Completes.readArguments ⟨first, later, split, starts⟩ ih closes
      have answer := primary_of_call (nested groupCost (budget + callCost)) kind opens closes read
      simpa [nested_of_room] using answer
  | group opens closes _ ih => exact Completes.group opens closes ih
  | argument _ ih => exact Completes.argument ih
  | further isComma _ rest ihFirst ihRest =>
      exact Completes.further isComma rest.length_le ihFirst ihRest

end Parser

end Reckoner
