import Reckoner.Proofs.Token.Tiling

/-!
How tokens are spelled. A lexeme is a text that one token is read from, whatever follows it, as
long as a blank or the end comes next. Lexemes with gaps between them are cut into just their
tokens.
-/

namespace Reckoner.Token

open Text

/-- The ways to write a text between two quotes. The quote and the backslash need a backslash in
front, and a line feed or a tab may be written by its letter. -/
inductive Quotes (quote : Char) : List Char → List Char → Prop
  | nil : Quotes quote [] []
  | plain {c written text} : c ≠ quote → c ≠ backslash → Quotes quote written text →
      Quotes quote (c :: written) (c :: text)
  | escaped {c written text} : c = quote ∨ c = backslash → Quotes quote written text →
      Quotes quote (backslash :: c :: written) (c :: text)
  | lineFeed {written text} : Quotes quote written text →
      Quotes quote (backslash :: 'n' :: written) ('\n' :: text)
  | tab {written text} : Quotes quote written text →
      Quotes quote (backslash :: 't' :: written) ('\t' :: text)

inductive Spells : List Char → TokenKind → List Char → Prop
  | number {run} : startsNumber run = true → (∀ c ∈ run, isNumberChar c = true) →
      Spells run .number run
  | word {c rest} : isNameStart c = true → (∀ d ∈ rest, isNameChar d = true) →
      Spells (c :: rest) ((keywords.lookup (c :: rest)).getD .name) (c :: rest)
  | text {quote written text} : isQuote quote = true → Quotes quote written text →
      Spells (quote :: written ++ [quote]) .text text
  | symbol {source kind} : (source, kind) ∈ symbols → Spells source kind source

structure Lexeme where
  kind : TokenKind
  text : List Char
  source : List Char
  spelled : Spells source kind text

def Apart (rest : List Char) : Prop :=
  ∀ c ∈ rest.head?, isBlank c = true

theorem Quotes.body {quote : Char} {written text : List Char}
    (isQuote : Token.isQuote quote = true) (quotes : Quotes quote written text) :
    Body quote written text := by
  induction quotes with
  | nil => exact .nil
  | plain notQuote notBackslash _ ih => exact .plain notQuote notBackslash ih
  | escaped special _ ih =>
      rcases special with rfl | rfl
      · rcases quote_eq isQuote with rfl | rfl
        · exact .literal (by decide) (by decide) ih
        · exact .literal (by decide) (by decide) ih
      · exact .literal (by decide) (by decide) ih
  | lineFeed _ ih => exact .lineFeed ih
  | tab _ ih => exact .tab ih

theorem spelling_not_blank {source : List Char} {kind : TokenKind}
    (found : spellings.lookup source = some kind) : ∀ c ∈ source, isBlank c = false := by
  have all : ∀ entry ∈ spellings, entry.1.any isBlank = false := by decide
  simpa using all (source, kind) (mem_of_lookup found)

theorem Spells.cut {source text rest : List Char} {kind : TokenKind}
    (spelled : Spells source kind text) (apart : Apart rest) : Cut rest source kind text := by
  cases spelled with
  | number starts inside =>
      exact .number starts inside fun c next => not_numberChar_of_blank (apart c next)
  | word start inside =>
      exact .word start inside fun c next => not_nameChar_of_blank (apart c next)
  | text isQuote quotes => exact .text isQuote (quotes.body isQuote) (.inl rfl)
  | symbol listed =>
      refine .symbol listed ?_
      intro c next
      rw [Option.eq_none_iff_forall_ne_some]
      intro other longer
      have notBlank := spelling_not_blank longer c (by simp)
      exact absurd (apart c next) (by simp [notBlank])

inductive Gap : List Char → Prop
  | nil : Gap []
  | blank {c gap} : isBlank c = true → Gap gap → Gap (c :: gap)
  | comment {remark gap} : '\n' ∉ remark → Gap gap →
      Gap ('/' :: '/' :: remark ++ '\n' :: gap)

theorem Gap.skipped {gap : List Char} (isGap : Gap gap) (rest : List Char) :
    Skipped rest gap := by
  induction isGap with
  | nil => exact .nil
  | blank isBlank _ ih => exact .blank isBlank ih
  | comment inside _ ih =>
      have feed : isBlank '\n' = true := by decide
      exact .comment inside (by simp) (.blank feed ih)

theorem Cut.notComment_apart {rest other source text : List Char} {kind : TokenKind}
    (cut : Cut rest source kind text) (apart : Apart other) : ¬['/', '/'] <+: source ++ other := by
  obtain ⟨c, tail, rfl, _, alone⟩ := cut.start
  rintro ⟨later, same⟩
  simp only [List.cons_append, List.nil_append, List.cons.injEq] at same
  obtain ⟨rfl, follows⟩ := same
  rw [alone rfl, List.nil_append] at follows
  exact absurd (apart '/' (by simp [← follows])) (by decide)

theorem Lexeme.notComment (lexeme : Lexeme) {rest : List Char} (apart : Apart rest) :
    ¬['/', '/'] <+: lexeme.source ++ rest :=
  (lexeme.spelled.cut apart).notComment_apart apart

inductive Laid : List Char → List Lexeme → Prop
  | done {gap} : Gap gap → Laid gap []
  | item {gap rest lexemes} (lexeme : Lexeme) : Gap gap → Apart rest → Laid rest lexemes →
      Laid (gap ++ lexeme.source ++ rest) (lexeme :: lexemes)

def content (token : Token) : TokenKind × String :=
  (token.kind, token.text)

def Lexeme.content (lexeme : Lexeme) : TokenKind × String :=
  (lexeme.kind, String.ofList lexeme.text)

theorem next_of_lexeme {gap rest : List Char} (isGap : Gap gap) (lexeme : Lexeme)
    (apart : Apart rest) (place : Place) :
    ∃ token after, next ⟨place, gap ++ lexeme.source ++ rest⟩ = (.ok token, ⟨after, rest⟩) ∧
      token.content = lexeme.content := by
  rw [List.append_assoc]
  exact ⟨_, _, next_of_cut (isGap.skipped _) (lexeme.notComment apart)
    (lexeme.spelled.cut apart) place, rfl⟩

theorem scanFrom_of_laid {source : List Char} {lexemes : List Lexeme} (laid : Laid source lexemes)
    (place : Place) :
    ∃ tokens closing, scanFrom ⟨place, source⟩ = .ok (tokens ++ [closing]) ∧
      closing.kind = .finish ∧ tokens.map content = lexemes.map Lexeme.content := by
  induction laid generalizing place with
  | done isGap =>
      exact ⟨[], finish _, scanFrom_of_next (next_of_skipped (isGap.skipped []) place), rfl, rfl⟩
  | @item gap rest lexemes lexeme isGap apart _ ih =>
      obtain ⟨token, after, read, same⟩ := next_of_lexeme isGap lexeme apart place
      obtain ⟨tokens, closing, scanned, closes, others⟩ := ih after
      have kind : token.kind ≠ .finish := by
        rw [show token.kind = lexeme.kind from congrArg Prod.fst same]
        exact (lexeme.spelled.cut apart).kind_ne
      refine ⟨token :: tokens, closing, ?_, closes, by simp [same, others]⟩
      rw [scanFrom_of_next read, if_neg kind, scanned]
      rfl

def separated (opening : List Char) (items : List (Lexeme × List Char)) : List Char :=
  opening ++ items.flatMap fun item => item.1.source ++ item.2

theorem laid_separated {opening : List Char} {items : List (Lexeme × List Char)}
    (opens : Gap opening) (gaps : ∀ item ∈ items, Gap item.2 ∧ Apart item.2)
    (between : ∀ item ∈ items.dropLast, item.2 ≠ []) :
    Laid (separated opening items) (items.map Prod.fst) := by
  induction items generalizing opening with
  | nil => simpa [separated] using Laid.done opens
  | cons item rest ih =>
      obtain ⟨lexeme, separator⟩ := item
      obtain ⟨isGap, apart⟩ := gaps (lexeme, separator) (by simp)
      have later : Laid (separated separator rest) (rest.map Prod.fst) := by
        apply ih isGap
        · intro other member
          exact gaps other (by simp [member])
        · intro other member
          apply between
          cases rest with
          | nil => simp at member
          | cons second rest => simp [member]
      have follows : Apart (separated separator rest) := by
        cases separator with
        | cons c separator =>
            intro d first
            exact apart d (by simpa [separated] using first)
        | nil =>
            cases rest with
            | nil => simp [Apart, separated]
            | cons second rest => exact absurd rfl (between (lexeme, []) (by simp))
      simpa [separated] using Laid.item lexeme opens follows later

/-- Cutting undoes spelling: spelled tokens that are set apart by gaps come back in their order, with
their kinds and texts, and the closing token follows them. -/
theorem scan_separated (opening : List Char) (items : List (Lexeme × List Char))
    (opens : Gap opening) (gaps : ∀ item ∈ items, Gap item.2 ∧ Apart item.2)
    (between : ∀ item ∈ items.dropLast, item.2 ≠ []) :
    ∃ tokens,
      scan (String.ofList (separated opening items)) =
        .ok (tokens ++ [finish (.behind (separated opening items))]) ∧
      tokens.map content = items.map fun item => item.1.content := by
  obtain ⟨tokens, closing, scanned, _, same⟩ :=
    scanFrom_of_laid (laid_separated opens gaps between) .start
  obtain ⟨tiles, last, _, tiled⟩ := @tiling_of_scanFrom [] _ _ scanned
  obtain ⟨_, closes⟩ := List.append_inj' tiled rfl
  rw [closes] at scanned
  refine ⟨tokens, ?_, ?_⟩
  · rw [scan, String.toList_ofList]
    exact scanned
  · rw [same, List.map_map]
    rfl

theorem scan_separated_remark :
    ∃ tokens, scan "/ // half\n'it\\'s'" = .ok (tokens ++ [finish ⟨2, 8⟩]) ∧
      tokens.map content = [(.divide, "/"), (.text, "it's")] := by
  have space : isBlank ' ' = true := by decide
  have remark : Gap " // half\n".toList :=
    .blank space (@Gap.comment " half".toList [] (by decide) .nil)
  have quotes : Quotes apostrophe "it\\'s".toList "it's".toList :=
    .plain (by decide) (by decide) (.plain (by decide) (by decide)
      (.escaped (.inl rfl) (.plain (by decide) (by decide) .nil)))
  have gaps : (Gap " // half\n".toList ∧ Apart " // half\n".toList) ∧ Gap [] ∧ Apart [] :=
    ⟨⟨remark, by simpa [Apart] using space⟩, .nil, by simp [Apart]⟩
  exact scan_separated []
    [(⟨.divide, ['/'], ['/'], .symbol (by decide)⟩, " // half\n".toList),
      (⟨.text, "it's".toList, _, .text (by decide) quotes⟩, [])]
    .nil (by rwa [List.forall_mem_cons, List.forall_mem_singleton]) (by simp)

end Reckoner.Token
