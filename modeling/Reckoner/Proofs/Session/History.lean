import Mathlib.Data.List.Induction
import Reckoner.Proofs.Bindings
import Reckoner.Proofs.Session.Constants
import Reckoner.Proofs.Token.Tiling
import Reckoner.Proofs.Tree.Acceptance

/-!
What a session remembers of its lines. Only a line that succeeds and whose last statement is a
binding changes the bindings, and it changes nothing but the name that it binds. Over any run, each
name has the value of the latest such line.
-/

namespace Reckoner

open Grammar

theorem Token.scan_unfinished {source : String} {tokens : List Token}
    (scanned : scan source = .ok tokens) :
    ∃ front closing, tokens = front ++ [closing] ∧ closing.kind = .finish ∧ Unfinished front := by
  obtain ⟨tiles, _, _, same, inside⟩ := tiles_of_scan scanned
  refine ⟨tiles.map Tile.token, _, same, rfl, ?_⟩
  intro token member
  obtain ⟨tile, among, rfl⟩ := List.mem_map.mp member
  exact inside tile among

theorem Parser.separated_of_parse {tokens : List Token} {closing : Token} {result : Option Tree}
    (unfinished : Unfinished tokens) (closes : closing.kind = .finish)
    (parsed : Tree.parse (tokens ++ [closing]) = .ok result) :
    ∃ budget trees, Separated budget tokens trees ∧ trees.getLast? = result := by
  obtain ⟨trees, derived, _⟩ := program_sound unfinished closes (Prod.ext parsed rfl)
  obtain ⟨budget, others, separated⟩ := derived.separate
  refine ⟨budget, others, separated, ?_⟩
  rcases parse_of_separated separated closes with ⟨found, deep⟩ | same
  · simp [parsed] at deep
  · exact (Except.ok.inj (parsed.symm.trans same)).symm

namespace Line

/-- The line ends in a statement with a tree, by the grammar. -/
def Ends (line : String) (tree : Tree) : Prop :=
  ∃ tokens closing budget trees, Token.scan line = .ok (tokens ++ [closing]) ∧
    closing.kind = .finish ∧ Separated budget tokens (trees ++ [tree])

/-- The last statement of the line binds the name. -/
def Binds (line name : String) : Prop :=
  ∃ place value, Ends line (.node .assign (.text name) place [value])

theorem Ends.unique {line : String} {first second : Tree} (ends : Ends line first)
    (again : Ends line second) : first = second := by
  obtain ⟨tokens, closing, budget, trees, scanned, closes, separated⟩ := ends
  obtain ⟨others, last, larger, statements, scannedToo, _, separatedToo⟩ := again
  rw [scanned, Except.ok.injEq] at scannedToo
  obtain ⟨rfl, _⟩ := List.append_inj' scannedToo rfl
  have read := Parser.program_complete (separated.weaken (Nat.le_max_left budget larger)) closes
  have readToo :=
    Parser.program_complete (separatedToo.weaken (Nat.le_max_right budget larger)) closes
  rw [read] at readToo
  simpa using readToo

theorem ends_of_tree {line : String} {statement : Tree}
    (read : tree line = .ok (some statement)) : Ends line statement := by
  rcases tree_cases line with ⟨_, _, failed⟩ | ⟨_, _, _, _, failed⟩ |
    ⟨tokens, result, scanned, parsed, same⟩
  · simp [read] at failed
  · simp [read] at failed
  · rw [read, Except.ok.injEq] at same
    subst same
    obtain ⟨front, closing, rfl, closes, unfinished⟩ := Token.scan_unfinished scanned
    obtain ⟨budget, trees, separated, last⟩ :=
      Parser.separated_of_parse unfinished closes parsed
    obtain ⟨others, rfl⟩ := List.getLast?_eq_some_iff.mp last
    exact ⟨front, closing, budget, others, scanned, closes, separated⟩

theorem Ends.tree_cases {line : String} {statement : Tree} (ends : Ends line statement) :
    (∃ found, tree line = .error (.parse (.nestedTooDeeply found))) ∨
      tree line = .ok (some statement) := by
  obtain ⟨tokens, closing, budget, trees, scanned, closes, separated⟩ := ends
  have read : tree line = (Tree.parse (tokens ++ [closing])).mapError .parse := by
    rw [tree, Line.tokens, scanned]
    rfl
  rcases Parser.parse_of_separated separated closes with ⟨found, deep⟩ | parsed
  · exact .inl ⟨found, by rw [read, deep]; rfl⟩
  · refine .inr ?_
    rw [read, parsed, List.getLast?_concat]
    rfl

theorem Binds.unique {line first second : String} (binds : Binds line first)
    (again : Binds line second) : first = second := by
  obtain ⟨_, _, ends⟩ := binds
  obtain ⟨_, _, endsToo⟩ := again
  exact Option.some.inj (congrArg Tree.target? (ends.unique endsToo))

theorem Binds.target? {line name : String} {statement : Tree} (binds : Binds line name)
    (read : tree line = .ok (some statement)) : statement.target? = some name := by
  obtain ⟨_, _, ends⟩ := binds
  rw [← ends.unique (ends_of_tree read)]
  rfl

end Line

theorem Line.binds_print (quote : Quote) (name : Identifier) (expression : Expression) :
    Binds ((Clause.binding name expression).print quote) name.text := by
  obtain ⟨tokens, closing, tree, scanned, closes, separated, same⟩ :=
    (Clause.binding name expression).scan_print quote
  rw [Clause.tree] at same
  obtain ⟨place, parts, rfl, sameParts⟩ := Tree.of_unplaced same
  obtain ⟨value, others, rfl, _, sameOthers⟩ := Tree.of_unplacedAll sameParts
  obtain rfl : others = [] := by
    cases others with
    | nil => rfl
    | cons => simp [Tree.unplacedAll] at sameOthers
  exact ⟨place, value, tokens, closing, _, [], scanned, closes, separated⟩

theorem Tree.IsStatement.binding_of_target? {tree : Tree} {name : String}
    (statement : tree.IsStatement) (target : tree.target? = some name) :
    ∃ place value, tree = .node .assign (.text name) place [value] := by
  cases statement with
  | expression regular => simp [regular.target?] at target
  | @binding written place value =>
      obtain rfl : written = name := Option.some.inj target
      exact ⟨place, value, rfl⟩

namespace Line

theorem binds_of_target? {line name : String} {statement : Tree}
    (read : tree line = .ok (some statement)) (target : statement.target? = some name) :
    Binds line name := by
  obtain ⟨place, value, rfl⟩ := (isStatement_of_tree read).binding_of_target? target
  exact ⟨place, value, ends_of_tree read⟩

theorem run_bindings (line : String) (session : Session) :
    (∃ written value, Binds line written ∧ (run line session).1 = .ok value ∧
      (run line session).2.bindings = session.bindings.set written value) ∨
    (∀ written value, Binds line written → (run line session).1 ≠ .ok value) ∧
      (run line session).2.bindings = session.bindings := by
  cases read : tree line with
  | error fault =>
      right
      rw [run_of_unread read]
      exact ⟨by simp, rfl⟩
  | ok statement =>
      cases statement with
      | none =>
          right
          refine ⟨?_, by rw [run_of_tree read]; rfl⟩
          rintro written value ⟨_, _, ends⟩
          rcases ends.tree_cases with ⟨_, failed⟩ | same
          · simp [read] at failed
          · simp [read] at same
      | some tree =>
          obtain ⟨outcome, after, ran, left, _⟩ := run_of_statement read session
          rw [ran]
          cases target : tree.target? with
          | none =>
              right
              refine ⟨?_, by simpa only [Evaluation.leaves, target] using left⟩
              intro written value binds
              simp [binds.target? read] at target
          | some name =>
              cases outcome with
              | ok value =>
                  exact .inl ⟨name, value, binds_of_target? read target, rfl,
                    by simpa only [Evaluation.leaves, target] using left⟩
              | error error =>
                  right
                  refine ⟨?_, by simpa only [Evaluation.leaves, target] using left⟩
                  intro written value _ succeeded
                  cases succeeded

end Line

namespace Session

abbrev Entry := String × Except Fault Value

def runLines (session : Session) (lines : List String) : List Entry × Session :=
  lines.foldl (fun (entries, session) line =>
    let (outcome, after) := Line.run line session
    (entries ++ [(line, outcome)], after)) ([], session)

theorem runLines_concat (session : Session) (lines : List String) (line : String) :
    session.runLines (lines ++ [line]) =
      ((session.runLines lines).1 ++ [(line, (Line.run line (session.runLines lines).2).1)],
        (Line.run line (session.runLines lines).2).2) := by
  rw [runLines, List.foldl_append]
  rfl

def Entry.Sets (entry : Entry) (name : String) (value : Value) : Prop :=
  ∃ written, Line.Binds entry.1 written ∧ Bindings.key written = Bindings.key name ∧
    entry.2 = .ok value

def Latest (entries : List Entry) (name : String) (value : Value) : Prop :=
  ∃ earlier entry later, entries = earlier ++ entry :: later ∧ entry.Sets name value ∧
    ∀ other ∈ later, ∀ again, ¬other.Sets name again

theorem concat_eq_append_cons {entries earlier later : List Entry} {last entry : Entry}
    (same : entries ++ [last] = earlier ++ entry :: later) :
    later = [] ∧ entry = last ∨
      ∃ front, later = front ++ [last] ∧ entries = earlier ++ entry :: front := by
  rcases List.eq_nil_or_concat later with rfl | ⟨front, final, rfl⟩
  · have ends := congrArg List.getLast? same
    simp only [List.getLast?_append, List.getLast?_singleton, Option.some_or,
      Option.some.injEq] at ends
    exact .inl ⟨rfl, ends.symm⟩
  · rw [List.concat_eq_append, ← List.cons_append, ← List.append_assoc] at same
    obtain ⟨front', final'⟩ := List.append_inj' same rfl
    obtain rfl : last = final := (List.cons.inj final').1
    exact .inr ⟨front, List.concat_eq_append, front'⟩

theorem Entry.Sets.unique {entry : Entry} {name : String} {first second : Value}
    (sets : entry.Sets name first) (again : entry.Sets name second) : first = second := by
  obtain ⟨_, _, _, outcome⟩ := sets
  obtain ⟨_, _, _, same⟩ := again
  exact Except.ok.inj (outcome.symm.trans same)

theorem latest_concat_of_sets {entries : List Entry} {last : Entry} {name : String}
    {bound : Value} (sets : last.Sets name bound) (value : Value) :
    Latest (entries ++ [last]) name value ↔ bound = value := by
  constructor
  · rintro ⟨earlier, entry, later, same, setsEntry, unset⟩
    rcases concat_eq_append_cons same with ⟨rfl, rfl⟩ | ⟨front, rfl, _⟩
    · exact sets.unique setsEntry
    · exact absurd sets (unset last (by simp) bound)
  · rintro rfl
    exact ⟨entries, last, [], rfl, sets, by simp⟩

theorem latest_concat_of_unset {entries : List Entry} {last : Entry} {name : String}
    (unset : ∀ bound, ¬last.Sets name bound) (value : Value) :
    Latest (entries ++ [last]) name value ↔ Latest entries name value := by
  constructor
  · rintro ⟨earlier, entry, later, same, setsEntry, unsetLater⟩
    rcases concat_eq_append_cons same with ⟨_, rfl⟩ | ⟨front, rfl, rfl⟩
    · exact absurd setsEntry (unset value)
    · exact ⟨earlier, entry, front, rfl, setsEntry,
        fun other member => unsetLater other (by simp [member])⟩
  · rintro ⟨earlier, entry, later, rfl, setsEntry, unsetLater⟩
    refine ⟨earlier, entry, later ++ [last], by simp, setsEntry, ?_⟩
    intro other member
    rw [List.mem_append, List.mem_singleton] at member
    rcases member with member | rfl
    · exact unsetLater other member
    · exact unset

theorem exists_latest {entries : List Entry} {name : String} :
    (∃ value, Latest entries name value) ↔ ∃ entry ∈ entries, ∃ value, entry.Sets name value := by
  induction entries using List.reverseRecOn with
  | nil => simp [Latest]
  | append_singleton entries last ih =>
      by_cases sets : ∃ bound, last.Sets name bound
      · obtain ⟨bound, sets⟩ := sets
        constructor
        · intro _
          exact ⟨last, by simp, bound, sets⟩
        · intro _
          exact ⟨bound, (latest_concat_of_sets sets bound).mpr rfl⟩
      · have unset := not_exists.mp sets
        simp only [latest_concat_of_unset unset, ih, List.mem_append, List.mem_singleton]
        constructor
        · rintro ⟨entry, member, found⟩
          exact ⟨entry, .inl member, found⟩
        · rintro ⟨entry, member | rfl, found⟩
          · exact ⟨entry, member, found⟩
          · exact absurd found sets

theorem get?_runLines (lines : List String) (name : String) (value : Value) :
    (fresh.runLines lines).2.bindings.get? name = some value ↔
      Latest (fresh.runLines lines).1 name value := by
  induction lines using List.reverseRecOn generalizing value with
  | nil => simp [runLines, fresh, Bindings.get?, Bindings.empty, Latest]
  | append_singleton lines line ih =>
      rw [runLines_concat]
      generalize fresh.runLines lines = reached at ih ⊢
      obtain ⟨entries, session⟩ := reached
      rcases Line.run_bindings line session with
        ⟨written, bound, binds, succeeded, left⟩ | ⟨unbound, left⟩
      · rw [left, Bindings.get?_set]
        split
        next same =>
          have sets : Entry.Sets (line, (Line.run line session).1) name bound :=
            ⟨written, binds, same, succeeded⟩
          rw [latest_concat_of_sets sets, Option.some.injEq]
        next other =>
          have unset : ∀ again, ¬Entry.Sets (line, (Line.run line session).1) name again := by
            rintro again ⟨different, bindsToo, same, _⟩
            rw [bindsToo.unique binds] at same
            exact other same
          exact (ih value).trans (latest_concat_of_unset unset value).symm
      · have unset : ∀ again, ¬Entry.Sets (line, (Line.run line session).1) name again := by
          rintro again ⟨written, binds, _, succeeded⟩
          exact unbound written again binds succeeded
        rw [left]
        exact (ih value).trans (latest_concat_of_unset unset value).symm

/-- The bindings of a session are the history of its successful binding lines: a name is bound just
if some line has bound it, and to the value that the latest such line answered with. Every other
line, whether it fails or ends in an expression, leaves the bindings as they are, and so do the
statements before the last one. -/
theorem bindings_eq_history (lines : List String) (name : String) :
    ((fresh.runLines lines).2.bindings.contains name = true ↔
      ∃ line written value, (line, .ok value) ∈ (fresh.runLines lines).1 ∧
        Line.Binds line written ∧ Bindings.key written = Bindings.key name) ∧
    (∀ value, (fresh.runLines lines).2.bindings.get? name = some value ↔
      Latest (fresh.runLines lines).1 name value) ∧
    ∀ line session,
      (∃ written value, Line.Binds line written ∧ (Line.run line session).1 = .ok value ∧
        (Line.run line session).2.bindings = session.bindings.set written value) ∨
      (∀ written value, Line.Binds line written → (Line.run line session).1 ≠ .ok value) ∧
        (Line.run line session).2.bindings = session.bindings := by
  refine ⟨?_, get?_runLines lines name, Line.run_bindings⟩
  rw [Bindings.contains, Option.isSome_iff_exists]
  simp only [get?_runLines, exists_latest]
  constructor
  · rintro ⟨⟨line, _⟩, member, value, written, binds, same, rfl⟩
    exact ⟨line, written, value, member, binds, same⟩
  · rintro ⟨line, written, value, member, binds, same⟩
    exact ⟨(line, .ok value), member, value, written, binds, same, rfl⟩

theorem bindings_eq_history_of_text :
    Line.Binds "let x = 'a'" "x" ∧
      (fresh.runLines ["let x = 'a'", "?"]).2.bindings.get? "X" = some (.text "a") ∧
      (fresh.runLines ["let x = 'a'", "?"]).2.bindings.contains "X" = true := by
  let x : Identifier := ⟨'x', [], by decide, by simp, by decide⟩
  let quote : Quote := ⟨'\'', by decide⟩
  have text : (Clause.binding x (.text "a")).print quote = "let x = 'a'" := by decide
  have binds : Line.Binds "let x = 'a'" "x" := text ▸ Line.binds_print quote x (.text "a")
  have ran : (Line.run "let x = 'a'" .fresh).1 = .ok (.text "a") := by
    rw [← text, Line.run_text]
  have sameKey : Bindings.key "x" = Bindings.key "X" := by decide +kernel
  obtain ⟨bound, values, _⟩ := bindings_eq_history ["let x = 'a'", "?"] "X"
  have entries : (fresh.runLines ["let x = 'a'", "?"]).1 = [("let x = 'a'", .ok (.text "a")),
      ("?", (Line.run "?" (Line.run "let x = 'a'" .fresh).2).1)] := by
    rw [← ran]
    rfl
  refine ⟨binds, (values _).mpr ⟨[], _, _, entries, ⟨"x", binds, sameKey, rfl⟩, ?_⟩,
    bound.mpr ⟨_, "x", .text "a", by rw [entries]; exact .head _, binds, sameKey⟩⟩
  intro entry member again sets
  obtain rfl := List.mem_singleton.mp member
  obtain ⟨_, ⟨_, _, ends⟩, _⟩ := sets
  rcases ends.tree_cases with ⟨_, failed⟩ | same
  · simp [Line.tree_question_mark] at failed
  · simp [Line.tree_question_mark] at same

end Session

end Reckoner
