import Reckoner.Proofs.Token.Openings

/-!
Where the scanner gives up. A text that cannot be cut has a front that can be, which leaves no
quoted text and no comment open, and behind it a character at which nothing starts. The error names
that character and its place. Conversely the scanner gives up at every such character, unless it is
a point that the number in front of it takes in.
-/

namespace Reckoner.Token

open Text

/-- A character in front of a rest at which neither a gap nor a token can start. -/
structure Unreadable (c : Char) (later : List Char) : Prop where
  notBlank : isBlank c = false
  notLetter : isLetter c = false
  notUnderscore : c ≠ '_'
  notDigit : c.isDigit = false
  notQuote : isQuote c = false
  notSymbol : ∀ entry ∈ symbols, entry.1.head? ≠ some c
  notPoint : c = '.' → ∀ d ∈ later.head?, d.isDigit = false

theorem Unreadable.notNameChar {c : Char} {later : List Char} (unreadable : Unreadable c later) :
    isNameChar c = false := by
  simp [isNameChar, unreadable.notLetter, unreadable.notDigit, unreadable.notUnderscore]

theorem Unreadable.lookup_concat {c : Char} {later source : List Char} {kind : TokenKind}
    (unreadable : Unreadable c later) (listed : (source, kind) ∈ symbols) :
    spellings.lookup (source ++ [c]) = none := by
  obtain ⟨d, tail, rfl, _, _, _, notName, _⟩ := symbol_start listed
  rw [Option.eq_none_iff_forall_ne_some]
  intro other found
  have longer := mem_symbols notName found
  have all : (symbols.all fun entry =>
      entry.1.getLast?.all fun d => symbols.any (·.1.head? == some d)) = true := by decide
  have last : (d :: tail ++ [c]).getLast? = some c := List.getLast?_concat
  have starts : (d :: tail ++ [c]).getLast?.all _ = true := List.all_eq_true.mp all _ longer
  rw [last, Option.all_some, List.any_eq_true] at starts
  obtain ⟨entry, member, same⟩ := starts
  exact unreadable.notSymbol entry member (eq_of_beq same)

theorem Unreadable.clear {c : Char} {later : List Char} (unreadable : Unreadable c later) :
    Clear (c :: later) := by
  refine ⟨by simpa using unreadable.notBlank, ?_⟩
  rintro ⟨rest, same⟩
  obtain ⟨rfl, _⟩ := List.cons.inj same
  exact unreadable.notSymbol (['/'], .divide) (by decide) rfl

theorem Skipped.mono {rest other gap : List Char} (skipped : Skipped rest gap)
    (heads : ∀ c ∈ other.head?, c ∈ rest.head?) : Skipped other gap := by
  induction skipped with
  | nil => exact .nil
  | blank blank _ ih => exact .blank blank ih
  | @comment remark gap inside ends _ ih =>
      refine .comment inside ?_ ih
      intro c first
      cases gap with
      | nil => exact ends c (heads c first)
      | cons d gap => exact ends c first

/-- What comes first in the one rest comes first in the other one, or goes on with nothing. -/
def Follows (kind : TokenKind) (rest other : List Char) : Prop :=
  ∀ c ∈ other.head?, c ∈ rest.head? ∨ (∃ later, Unreadable c later) ∧ (kind = .number → c ≠ '.')

theorem Cut.before {rest other lexeme text : List Char} {kind : TokenKind}
    (cut : Cut rest lexeme kind text) (closed : Token.openAfter none lexeme = none)
    (follows : Follows kind rest other) : Cut other lexeme kind text := by
  cases cut with
  | number starts inside stop =>
      refine .number starts inside fun c first => ?_
      rcases follows c first with same | ⟨⟨_, unreadable⟩, notPoint⟩
      · exact stop c same
      · simp [isNumberChar, unreadable.notDigit, notPoint]
  | word start inside stop =>
      refine .word start inside fun c first => ?_
      rcases follows c first with same | ⟨⟨_, unreadable⟩, _⟩
      · exact stop c same
      · exact unreadable.notNameChar
  | text isQuote body ends =>
      refine .text isQuote body ?_
      rcases openAfter_ending isQuote ends with quoted | ⟨_, stays⟩
      · exact .inl quoted
      · rw [openAfter_text isQuote body, stays] at closed
        exact absurd closed (by simp)
  | symbol listed longest =>
      refine .symbol listed fun c first => ?_
      rcases follows c first with same | ⟨⟨_, unreadable⟩, _⟩
      · exact longest c same
      · exact unreadable.lookup_concat listed

theorem Cut.notComment {rest other lexeme text : List Char} {kind : TokenKind}
    (cut : Cut rest lexeme kind text) (notComment : ¬['/', '/'] <+: lexeme ++ rest)
    (follows : Follows kind rest other) : ¬['/', '/'] <+: lexeme ++ other := by
  obtain ⟨c, tail, rfl, _, alone⟩ := cut.start
  rintro ⟨later, same⟩
  simp only [List.cons_append, List.nil_append, List.cons.injEq] at same
  obtain ⟨rfl, second⟩ := same
  rw [alone rfl, List.nil_append] at second
  rw [alone rfl] at notComment
  have first : other.head? = some '/' := by simp [← second]
  rcases follows '/' first with same | ⟨⟨_, unreadable⟩, _⟩
  · obtain ⟨more, rfl⟩ := List.head?_eq_some_iff.mp same
    exact notComment ⟨more, rfl⟩
  · exact unreadable.notSymbol (['/'], .divide) (by decide) rfl

theorem Tile.Fits.before {before rest other : List Char} {tile : Tile}
    (fits : tile.Fits before rest)
    (closed : openAfter none tile.lexeme = none) (follows : Follows tile.token.kind rest other) :
    tile.Fits before other where
  gap := by
    refine fits.gap.mono ?_
    obtain ⟨c, tail, starts, _⟩ := fits.cut.start
    simp [starts]
  notComment := fits.cut.notComment fits.notComment follows
  filled := fits.filled
  cut := fits.cut.before closed follows
  place := fits.place

/-- Behind tiles and a gap, which leave nothing open, the scanner meets an unreadable character. -/
structure Stuck (before : List Char) (tiles : List Tile) (last : List Char) (c : Char)
    (later : List Char) : Prop where
  tiling : Tiling before (sources tiles ++ last) tiles last
  closed : openAfter none (sources tiles ++ last) = none
  unreadable : Unreadable c later
  outside : c = '.' → last = [] → ∀ tile ∈ tiles.getLast?, tile.token.kind ≠ .number

theorem sources_cons (tile : Tile) (tiles : List Tile) (rest : List Char) :
    sources (tile :: tiles) ++ rest = tile.source ++ (sources tiles ++ rest) := by
  simp [sources]

theorem Cut.number_stop {rest lexeme text : List Char} {kind : TokenKind}
    (cut : Cut rest lexeme kind text) (isNumber : kind = .number) :
    ∀ c ∈ rest.head?, isNumberChar c = false := by
  cases cut with
  | number _ _ stop => exact stop
  | @word c run =>
      have all : ∀ entry ∈ keywords, entry.2 ≠ .number := by decide
      cases found : keywords.lookup (c :: run) with
      | none => simp [found] at isNumber
      | some other =>
          rw [found] at isNumber
          exact absurd isNumber (all _ (mem_of_lookup found))
  | text => cases isNumber
  | symbol listed =>
      have all : ∀ entry ∈ symbols, entry.2 ≠ .number := by decide
      exact absurd isNumber (all _ listed)

theorem Stuck.cons {before last later : List Char} {c : Char} {tile : Tile} {tiles : List Tile}
    (stuck : Stuck (before ++ tile.source) tiles last c later)
    (fits : tile.Fits before (sources tiles ++ last ++ c :: later)) :
    Stuck before (tile :: tiles) last c later := by
  obtain ⟨tiling, closed, unreadable, outside⟩ := stuck
  have closedLexeme : openAfter none tile.lexeme = none :=
    fits.cut.closed fits.notComment (by simp)
  have follows : Follows tile.token.kind (sources tiles ++ last ++ c :: later)
      (sources tiles ++ last) := by
    intro d first
    left
    cases rest : sources tiles ++ last with
    | nil => simp [rest] at first
    | cons e rest => simpa [rest] using first
  have truncated := fits.before closedLexeme follows
  refine ⟨?_, ?_, unreadable, ?_⟩
  · rw [sources_cons]
    exact tiling_cons.mpr ⟨_, rfl, truncated, tiling⟩
  · rw [sources_cons]
    exact truncated.openAfter_eq_none.mpr ⟨closedLexeme, closed⟩
  · intro point empty other isLast isNumber
    cases tiles with
    | nil =>
        obtain rfl : tile = other := by simpa using isLast
        subst point empty
        exact absurd (fits.cut.number_stop isNumber '.' rfl) (by decide)
    | cons second tiles => exact outside point empty other (by simpa using isLast) isNumber

end Reckoner.Token
