import Reckoner.Evaluation
import Reckoner.Proofs.Number.Index
import Reckoner.Proofs.Text.Quotation

/-!
What a builtin promises. Its call fails if arguments are missing, or if one that it counts as a
number is none, and otherwise it has a value. Arguments that it has no use for change nothing, and
only one of the builtins prints.
-/

namespace Reckoner

/-- Absent values and texts that spell no number count as none. -/
def Value.isUnnumbered : Value → Bool
  | .absent => true
  | .text s => (Number.read? s).isNone
  | _ => false

theorem Value.toNumber?_eq_none_iff {value : Value} :
    value.toNumber? = none ↔ value.isUnnumbered = true := by
  cases value <;> simp [toNumber?, isUnnumbered]

namespace Builtin

theorem toNumber_of_unnumbered {value : Value} (unnumbered : value.isUnnumbered = true) :
    toNumber value = .error (.notNumeric value) := by
  rw [toNumber, Value.toNumber?_eq_none_iff.mpr unnumbered]

theorem toNumber_of_numbered {value : Value} (numbered : value.isUnnumbered = false) :
    ∃ x, toNumber value = .ok x := by
  cases number : value.toNumber? with
  | none => simp [Value.toNumber?_eq_none_iff.mp number] at numbered
  | some x => exact ⟨x, by rw [toNumber, number]⟩

/-- The places of the arguments that the builtin of a name counts as numbers. -/
def countedPlaces : String → List Nat
  | "sin" | "cos" | "tan" | "sqrt" | "abs" | "round" => [0]
  | "pow" | "max" | "min" => [0, 1]
  | "substr" => [1, 2]
  | _ => []

def line (arguments : List Value) : String :=
  " ".intercalate (arguments.map Value.rendered)

def shows (name : String) (arguments : List Value) : String :=
  if name = "print" then line arguments ++ "\n" else ""

/-- The leftmost argument at the places that counts as no number. -/
def blamed? (places : List Nat) (arguments : List Value) : Option Value :=
  (places.filterMap (arguments[·]?)).find? Value.isUnnumbered

def Answers (reply : Except EvalError (Value × String)) (shown : String) :
    Option Value → Prop
  | some value => reply = .error (.notNumeric value)
  | none => ∃ value, reply = .ok (value, shown)

def Counts (builtin : Builtin) (places : List Nat) (shown : List Value → String) : Prop :=
  ∀ arguments, builtin.least ≤ arguments.length →
    Answers (builtin.reply arguments) (shown arguments) (blamed? places arguments)

def silent (_ : List Value) : String := ""

theorem answers_bind {value : Value} {rest : List Value} {shown : String}
    {next : Float → Except EvalError (Value × String)}
    (others : ∀ x, Answers (next x) shown (rest.find? Value.isUnnumbered)) :
    Answers (toNumber value >>= next) shown ((value :: rest).find? Value.isUnnumbered) := by
  cases kind : value.isUnnumbered with
  | true =>
      rw [List.find?_cons_of_pos kind, toNumber_of_unnumbered kind]
      rfl
  | false =>
      obtain ⟨x, counted⟩ := toNumber_of_numbered kind
      rw [List.find?_cons_of_neg (by simp [kind]), counted]
      exact others x

theorem counts_numeric (name : String) {apply : Float → Except Breakdown Float}
    (answers : ∀ x, ∃ y, apply x = .ok y) : (numeric name apply).Counts [0] silent := by
  intro arguments enough
  match arguments, enough with
  | first :: _, _ =>
      apply answers_bind
      intro x
      obtain ⟨y, done⟩ := answers x
      exact ⟨_, by rw [done]; rfl⟩

theorem counts_numeric2 (name : String) {apply : Float → Float → Except Breakdown Float}
    (answers : ∀ x y, ∃ z, apply x y = .ok z) : (numeric2 name apply).Counts [0, 1] silent := by
  intro arguments enough
  match arguments, enough with
  | first :: second :: _, _ =>
      apply answers_bind
      intro x
      apply answers_bind
      intro y
      obtain ⟨z, done⟩ := answers x y
      exact ⟨_, by rw [done]; rfl⟩

theorem answers_index {value : Value} {rest : List Value} {shown : String}
    {next : Int → Except EvalError (Value × String)}
    (others : ∀ index, Answers (next index) shown (rest.find? Value.isUnnumbered)) :
    Answers (toIndex value >>= next) shown ((value :: rest).find? Value.isUnnumbered) := by
  rw [toIndex, bind_assoc]
  apply answers_bind
  intro x
  rw [Number.toIndex_eq_position]
  exact others (Number.position x)

def cut (value : Value) (start : Int) (length : Option Int) :
    Except EvalError (Value × String) :=
  .ok (silently (.text (String.ofList (slice value.rendered.toList start length))))

theorem substr_of_two (value start : Value) :
    substr.reply [value, start] = toIndex start >>= fun first => cut value first none := rfl

theorem substr_of_three (value start length : Value) (others : List Value) :
    substr.reply (value :: start :: length :: others) =
      toIndex start >>= fun first => toIndex length >>= fun size => cut value first (some size) := by
  have more : (value :: start :: length :: others).length ≠ 2 := by simp
  change (toIndex start >>= fun first => if _ = 2 then _ else _) = _
  simp only [if_neg more]
  rfl

theorem counts_substr : substr.Counts [1, 2] silent := by
  intro arguments enough
  match arguments, enough with
  | [value, start], _ =>
      rw [substr_of_two]
      apply answers_index
      intro first
      exact ⟨_, rfl⟩
  | value :: start :: length :: others, _ =>
      rw [substr_of_three]
      apply answers_index
      intro first
      apply answers_index
      intro size
      exact ⟨_, rfl⟩

theorem counts_textual (name : String) (apply : String → String) :
    (textual name apply).Counts [] silent := by
  intro arguments enough
  match arguments, enough with
  | first :: _, _ => exact ⟨_, rfl⟩

theorem counts_len : len.Counts [] silent := by
  intro arguments enough
  match arguments, enough with
  | first :: _, _ => exact ⟨_, rfl⟩

theorem choose_reply (condition chosen : Value) (others : List Value) :
    choose.reply (condition :: chosen :: others) =
      .ok (silently (if condition.isTrue then chosen else others.headD .absent)) := by
  change (if condition.isTrue then Except.ok (silently chosen) else _) = _
  cases condition.isTrue with
  | true => rfl
  | false =>
      cases others with
      | nil => rfl
      | cons other rest =>
          change (if 2 < rest.length + 3 then Except.ok (silently other)
            else Except.ok (silently .absent)) = _
          exact if_pos (Nat.le_add_left 3 _)

theorem counts_choose : choose.Counts [] silent := by
  intro arguments enough
  match arguments, enough with
  | condition :: chosen :: others, _ =>
      rw [choose_reply]
      exact ⟨_, rfl⟩

theorem counts_concat : concat.Counts [] silent :=
  fun _ _ => ⟨_, rfl⟩

theorem counts_print : print.Counts [] fun arguments => line arguments ++ "\n" :=
  fun _ _ => ⟨_, rfl⟩

theorem counts_standard :
    ∀ builtin ∈ standard, builtin.Counts (countedPlaces builtin.name) (shows builtin.name) := by
  have settles (apply : Float → Float) (x : Float) := Number.orUndefined_elementary apply x
  simp only [standard, List.forall_mem_cons]
  exact ⟨counts_numeric _ (settles _), counts_numeric _ (settles _), counts_numeric _ (settles _),
    counts_numeric _ (settles _), counts_numeric2 _ Number.power_answers,
    counts_numeric _ fun _ => ⟨_, rfl⟩, counts_numeric2 _ fun _ _ => ⟨_, rfl⟩,
    counts_numeric2 _ fun _ _ => ⟨_, rfl⟩, counts_numeric _ Number.round_answers, counts_concat,
    counts_len, counts_substr, counts_textual _ _, counts_textual _ _, counts_textual _ _,
    counts_choose, counts_print, by simp⟩

end Builtin

namespace Evaluation

open Builtin

variable {builtin : Builtin}

section

variable {arguments : List Value} (session : Session)

theorem invoke_of_few (few : arguments.length < builtin.least) :
    invoke builtin arguments session =
      (.error (.missingArguments builtin.name builtin.least arguments.length), session) := by
  rw [invoke, if_pos few]
  rfl

variable (enough : builtin.least ≤ arguments.length)

include enough

theorem invoke_of_error {error : EvalError} (failed : builtin.reply arguments = .error error) :
    invoke builtin arguments session =
      (.error error, session.note (.called builtin.name arguments.length)) := by
  rw [invoke, if_neg (Nat.not_lt.mpr enough), failed]
  rfl

theorem invoke_of_ok {value : Value} {text : String}
    (replied : builtin.reply arguments = .ok (value, text)) :
    invoke builtin arguments session =
      (.ok value, (session.note (.called builtin.name arguments.length)).print text) := by
  rw [invoke, if_neg (Nat.not_lt.mpr enough), replied]
  rfl

theorem invoke_of_blamed (known : builtin ∈ standard) {value : Value}
    (blamed : blamed? (countedPlaces builtin.name) arguments = some value) :
    invoke builtin arguments session =
      (.error (.notNumeric value), session.note (.called builtin.name arguments.length)) := by
  have counts := counts_standard builtin known arguments enough
  rw [blamed] at counts
  exact invoke_of_error session enough counts

theorem invoke_of_unblamed (known : builtin ∈ standard)
    (unblamed : blamed? (countedPlaces builtin.name) arguments = none) :
    ∃ value, invoke builtin arguments session =
      (.ok value, (session.note (.called builtin.name arguments.length)).print
        (shows builtin.name arguments)) := by
  have counts := counts_standard builtin known arguments enough
  rw [unblamed] at counts
  obtain ⟨value, replied⟩ := counts
  exact ⟨value, invoke_of_ok session enough replied⟩

end

theorem least_print : ∀ builtin ∈ standard, builtin.name = "print" → builtin.least = 0 := by
  decide

theorem shows_of_failed (known : builtin ∈ standard) {arguments : List Value}
    (failed : arguments.length < builtin.least ∨
      blamed? (countedPlaces builtin.name) arguments ≠ none) :
    shows builtin.name arguments = "" := by
  rw [shows, if_neg]
  intro prints
  rcases failed with few | blamed
  · rw [least_print builtin known prints] at few
    exact Nat.not_lt_zero _ few
  · rw [prints] at blamed
    exact blamed rfl

theorem printed_invoke (known : builtin ∈ standard) (arguments : List Value)
    (session : Session) :
    (invoke builtin arguments session).2.printed =
      session.printed ++ shows builtin.name arguments := by
  by_cases few : arguments.length < builtin.least
  · rw [invoke_of_few session few, shows_of_failed known (.inl few)]
    simp
  · have enough : builtin.least ≤ arguments.length := Nat.le_of_not_lt few
    cases blamed : blamed? (countedPlaces builtin.name) arguments with
    | some value =>
        have failed : blamed? (countedPlaces builtin.name) arguments ≠ none := by simp [blamed]
        rw [invoke_of_blamed session enough known blamed, shows_of_failed known (.inr failed)]
        simp [Session.note]
    | none =>
        obtain ⟨value, ran⟩ := invoke_of_unblamed session enough known blamed
        rw [ran]
        rfl

end Evaluation

end Reckoner
