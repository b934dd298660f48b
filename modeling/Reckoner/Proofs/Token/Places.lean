import Reckoner.Proofs.Token.Spelling

/-!
Where a text starts does not decide how it is cut. From any place on it gives tokens of the same
kinds and texts, and lexemes with a space behind each come in front of the tokens of what follows.
-/

namespace Reckoner.Token

/-- The tokens differ in their places at most. -/
def Moved (tokens others : List Token) : Prop :=
  others.map content = tokens.map content

theorem moved_nil {others : List Token} : Moved [] others ↔ others = [] := by
  simp [Moved]

theorem moved_cons {token : Token} {rest others : List Token} :
    Moved (token :: rest) others ↔ ∃ other later, others = other :: later ∧
      (other.kind = token.kind ∧ other.text = token.text) ∧ Moved rest later := by
  simp only [Moved, List.map_cons, List.map_eq_cons_iff, content, Prod.mk.injEq]

theorem moved_append {left right others : List Token} :
    Moved (left ++ right) others ↔ ∃ front back, others = front ++ back ∧
      Moved left front ∧ Moved right back := by
  simp only [Moved, List.map_append, List.map_eq_append_iff]

theorem next_moved {place : Place} {chars : List Char} {token : Token} {after : Reading}
    (read : next ⟨place, chars⟩ = (.ok token, after)) (other : Place) :
    ∃ moved place, next ⟨other, chars⟩ = (.ok moved, ⟨place, after.rest⟩) ∧
      moved.kind = token.kind ∧ moved.text = token.text := by
  rcases next_cases read with ⟨skipped, rfl⟩ |
    ⟨gap, source, rest, text, rfl, skipped, notComment, cut, same, rfl⟩
  · rw [next_of_skipped skipped] at read
    obtain ⟨_, rfl⟩ := Prod.mk.inj read
    exact ⟨_, _, next_of_skipped skipped other, rfl, rfl⟩
  · exact ⟨_, _, next_of_cut skipped notComment cut other, rfl, by rw [same]⟩

theorem scanFrom_moved {place : Place} {chars : List Char} {tokens : List Token}
    (scanned : scanFrom ⟨place, chars⟩ = .ok tokens) (other : Place) :
    ∃ others, scanFrom ⟨other, chars⟩ = .ok others ∧ Moved tokens others := by
  generalize size : chars.length = length
  induction length using Nat.strongRecOn generalizing place chars tokens other with
  | ind length ih =>
      obtain ⟨token, after, read⟩ := next_of_scanFrom scanned
      obtain ⟨moved, reached, readMoved, kind, text⟩ := next_moved read other
      by_cases last : token.kind = .finish
      · rw [scanFrom_of_next read, if_pos last, Except.ok.injEq] at scanned
        subst scanned
        rw [scanFrom_of_next readMoved, kind, if_pos last]
        exact ⟨[moved], rfl, moved_cons.mpr ⟨moved, [], rfl, ⟨kind, text⟩, rfl⟩⟩
      · obtain ⟨more, rest, rfl⟩ := scanFrom_uncons read last scanned
        have shorter : after.rest.length < chars.length := next_shorter read last
        obtain ⟨others, scannedOthers, same⟩ := ih after.rest.length (by omega) rest reached rfl
        rw [scanFrom_of_next readMoved, kind, if_neg last, scannedOthers]
        exact ⟨moved :: others, rfl, moved_cons.mpr ⟨moved, others, rfl, ⟨kind, text⟩, same⟩⟩

theorem scanFrom_gap {gap rest : List Char} (skipped : Skipped rest gap) (place : Place) :
    scanFrom ⟨place, gap ++ rest⟩ = scanFrom ⟨place.passing gap, rest⟩ := by
  apply scanFrom_congr
  simp only [next, takeGap_passed skipped, Place.passing_append]

theorem scanFrom_spaced (lexemes : List Lexeme) {chars : List Char} {start : Place}
    {tokens : List Token} (scanned : scanFrom ⟨start, chars⟩ = .ok tokens) (place : Place) :
    ∃ front others,
      scanFrom ⟨place, (lexemes.flatMap fun lexeme => lexeme.source ++ [' ']) ++ chars⟩ =
        .ok (front ++ others) ∧
      front.map content = lexemes.map Lexeme.content ∧ Moved tokens others := by
  have space : Text.isBlank ' ' = true := by decide
  induction lexemes generalizing place with
  | nil =>
      obtain ⟨others, scannedOthers, moved⟩ := scanFrom_moved scanned place
      exact ⟨[], others, scannedOthers, rfl, moved⟩
  | cons lexeme rest ih =>
      have apart : Apart (' ' :: ((rest.flatMap fun lexeme => lexeme.source ++ [' ']) ++ chars)) :=
        by simpa [Apart] using space
      obtain ⟨token, after, read, same⟩ := next_of_lexeme .nil lexeme apart place
      obtain ⟨front, others, scannedRest, sameRest, moved⟩ := ih (after.next ' ')
      have kind : token.kind ≠ .finish := by
        rw [show token.kind = lexeme.kind from congrArg Prod.fst same]
        exact (lexeme.spelled.cut apart).kind_ne
      refine ⟨token :: front, others, ?_, by simp [same, sameRest], moved⟩
      simp only [List.nil_append] at read
      simp only [List.flatMap_cons, List.append_assoc, List.cons_append, List.nil_append]
      have passed := (scanFrom_gap (.blank space .nil) after).trans scannedRest
      rw [scanFrom_of_next read, if_neg kind]
      exact congrArg (Except.map (token :: ·)) passed

end Reckoner.Token
