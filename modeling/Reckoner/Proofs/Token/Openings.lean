import Reckoner.Proofs.Token.Tiling

/-!
What a text leaves open. Reading it character by character tells whether its end stands inside a
quoted text or a comment. Gaps and lexemes between other characters leave nothing open; the last
one of a text may be a quoted text without its closing quote, or a comment without its line feed.
-/

namespace Reckoner.Token

open Text

inductive Opening where
  | text (quote : Char)
  | comment
  deriving DecidableEq

/-- What is open behind a text, given what was open before it. -/
def openAfter : Option Opening → List Char → Option Opening
  | opening, [] => opening
  | none, c :: rest =>
      if isQuote c then openAfter (some (.text c)) rest
      else if c = '/' && rest.head? = some '/' then openAfter (some .comment) rest
      else openAfter none rest
  | some .comment, c :: rest =>
      openAfter (if c = '\n' then none else some .comment) rest
  | some (.text quote), c :: rest =>
      if c = quote then openAfter none rest
      else if c = backslash then
        match rest with
        | [] => some (.text quote)
        | _ :: rest => openAfter (some (.text quote)) rest
      else openAfter (some (.text quote)) rest

@[simp] theorem openAfter_nil (opening : Option Opening) : openAfter opening [] = opening := by
  rcases opening with _ | _ | _ <;> rfl

theorem openAfter_cons (c : Char) (rest : List Char) :
    openAfter none (c :: rest) =
      if isQuote c then openAfter (some (.text c)) rest
      else if c = '/' && rest.head? = some '/' then openAfter (some .comment) rest
      else openAfter none rest :=
  rfl

theorem openAfter_comment_cons (c : Char) (rest : List Char) :
    openAfter (some .comment) (c :: rest) =
      openAfter (if c = '\n' then none else some .comment) rest :=
  rfl

theorem openAfter_quote (quote : Char) (rest : List Char) :
    openAfter (some (.text quote)) (quote :: rest) = openAfter none rest := by
  cases rest <;> exact if_pos rfl

theorem openAfter_text_cons {quote c : Char} (notQuote : c ≠ quote) (notBackslash : c ≠ backslash)
    (rest : List Char) :
    openAfter (some (.text quote)) (c :: rest) = openAfter (some (.text quote)) rest := by
  cases rest <;> exact (if_neg notQuote).trans (if_neg notBackslash)

theorem openAfter_escaped {quote : Char} (noBackslash : backslash ≠ quote) (d : Char)
    (rest : List Char) :
    openAfter (some (.text quote)) (backslash :: d :: rest) = openAfter (some (.text quote)) rest :=
  if_neg noBackslash

theorem openAfter_run {run : List Char} (plain : ∀ c ∈ run, isQuote c = false ∧ c ≠ '/')
    (rest : List Char) : openAfter none (run ++ rest) = openAfter none rest := by
  induction run with
  | nil => rfl
  | cons c run ih =>
      obtain ⟨notQuote, notSlash⟩ := plain c (by simp)
      simp [openAfter_cons, notQuote, notSlash, ih fun d member => plain d (by simp [member])]

theorem openAfter_remark {remark : List Char} (inside : '\n' ∉ remark) (rest : List Char) :
    openAfter (some .comment) (remark ++ rest) = openAfter (some .comment) rest := by
  induction remark with
  | nil => rfl
  | cons c remark ih =>
      simp only [List.mem_cons, not_or] at inside
      simp [openAfter_comment_cons, Ne.symm inside.1, ih inside.2]

theorem openAfter_comment {remark : List Char} (inside : '\n' ∉ remark) (rest : List Char) :
    openAfter none ('/' :: '/' :: remark ++ rest) = openAfter (some .comment) rest := by
  have slash : isQuote '/' = false := by decide
  have passed := @openAfter_remark ('/' :: remark) (by simpa using inside) rest
  rw [List.cons_append] at passed ⊢
  rw [openAfter_cons]
  simp [slash, passed]

theorem openAfter_feed {rest : List Char} (feed : rest.head? = some '\n') :
    openAfter (some .comment) rest = openAfter none rest := by
  obtain ⟨tail, rfl⟩ := List.head?_eq_some_iff.mp feed
  have plain : isQuote '\n' = false := by decide
  simp [openAfter_comment_cons, openAfter_cons, plain]

theorem openAfter_body {quote : Char} {written text : List Char}
    (isQuote : Token.isQuote quote = true) (body : Body quote written text) (rest : List Char) :
    openAfter (some (.text quote)) (written ++ rest) = openAfter (some (.text quote)) rest := by
  have noBackslash : backslash ≠ quote := by
    rcases quote_eq isQuote with rfl | rfl <;> decide
  induction body with
  | nil => rfl
  | plain notQuote notBackslash _ ih =>
      rw [List.cons_append, openAfter_text_cons notQuote notBackslash, ih]
  | lineFeed _ ih | tab _ ih | literal _ _ _ ih =>
      rw [List.cons_append, List.cons_append, openAfter_escaped noBackslash, ih]

theorem plain_of_class {holds : Char → Bool}
    (apart : holds doubleQuote = false ∧ holds apostrophe = false ∧ holds '/' = false) {c : Char}
    (inside : holds c = true) : isQuote c = false ∧ c ≠ '/' := by
  constructor
  · rw [Bool.eq_false_iff]
    intro quote
    rcases quote_eq quote with rfl | rfl
    · exact absurd inside (by simp [apart.1])
    · exact absurd inside (by simp [apart.2.1])
  · rintro rfl
    exact absurd inside (by simp [apart.2.2])

theorem plain_of_blank {c : Char} : isBlank c = true → isQuote c = false ∧ c ≠ '/' :=
  plain_of_class (by decide)

theorem openAfter_gap {gap rest : List Char} (skipped : Skipped rest gap) (more : rest ≠ []) :
    openAfter none (gap ++ rest) = openAfter none rest := by
  induction skipped with
  | nil => rfl
  | @blank c gap blank _ ih =>
      rw [List.cons_append, ← ih]
      exact @openAfter_run [c] (by simpa using plain_of_blank blank) (gap ++ rest)
  | @comment remark gap inside ends _ ih =>
      rw [List.append_assoc, openAfter_comment inside, ← ih]
      apply openAfter_feed
      cases whole : gap ++ rest with
      | nil => exact absurd (List.append_eq_nil_iff.mp whole).2 more
      | cons c tail => rw [List.head?_cons, ends c (by simp [whole])]

theorem Skipped.last {rest gap : List Char} (skipped : Skipped rest gap) :
    (openAfter none gap = none ∧ ∀ other, Skipped other gap) ∨
      (openAfter none gap = some .comment ∧ ∀ c ∈ rest.head?, c = '\n') := by
  induction skipped with
  | nil => exact .inl ⟨rfl, fun _ => .nil⟩
  | @blank c gap blank _ ih =>
      have passed : openAfter none (c :: gap) = openAfter none gap :=
        @openAfter_run [c] (by simpa using plain_of_blank blank) gap
      rw [passed]
      exact ih.imp (fun closed => ⟨closed.1, fun other => .blank blank (closed.2 other)⟩) id
  | @comment remark gap inside ends _ ih =>
      rw [openAfter_comment inside]
      cases gap with
      | nil => exact .inr ⟨rfl, by simpa using ends⟩
      | cons c gap =>
          obtain rfl : c = '\n' := ends c rfl
          rw [openAfter_feed rfl]
          exact ih.imp
            (fun closed => ⟨closed.1, fun other => .comment inside (by simp) (closed.2 other)⟩) id

theorem plain_of_numberChar {c : Char} : isNumberChar c = true → isQuote c = false ∧ c ≠ '/' :=
  plain_of_class (by decide)

theorem plain_of_nameChar {c : Char} : isNameChar c = true → isQuote c = false ∧ c ≠ '/' :=
  plain_of_class (by decide)

theorem openAfter_ending {quote : Char} {rest ending : List Char}
    (isQuote : Token.isQuote quote = true) (ends : Ending quote rest ending) :
    ending = [quote] ∨ rest = [] ∧ openAfter (some (.text quote)) ending = some (.text quote) := by
  have noBackslash : backslash ≠ quote := by
    rcases quote_eq isQuote with rfl | rfl <;> decide
  rcases ends with closed | ⟨empty, rfl | rfl⟩
  · exact .inl closed
  · exact .inr ⟨empty, rfl⟩
  · exact .inr ⟨empty, if_neg noBackslash⟩

theorem openAfter_text {quote : Char} {written text : List Char}
    (isQuote : Token.isQuote quote = true) (body : Body quote written text) (rest : List Char) :
    openAfter none (quote :: written ++ rest) = openAfter (some (.text quote)) rest := by
  rw [List.cons_append, openAfter_cons, if_pos isQuote, openAfter_body isQuote body]

theorem Cut.openAfter {rest lexeme text : List Char} {kind : TokenKind}
    (cut : Cut rest lexeme kind text) :
    (∀ other, ¬['/', '/'] <+: lexeme ++ other →
      openAfter none (lexeme ++ other) = openAfter none other) ∨
    rest = [] ∧ (openAfter none lexeme).isSome = true := by
  cases cut with
  | number _ inside _ =>
      exact .inl fun other _ =>
        openAfter_run (fun c member => plain_of_numberChar (inside c member)) other
  | @word c run start inside _ =>
      have all : ∀ d ∈ c :: run, isNameChar d = true := by
        simpa [nameChar_of_start start] using inside
      exact .inl fun other _ =>
        openAfter_run (fun d member => plain_of_nameChar (all d member)) other
  | @text quote written _ ending isQuote body ends =>
      rcases openAfter_ending isQuote ends with rfl | ⟨empty, stays⟩
      · left
        intro other _
        rw [List.append_assoc, openAfter_text isQuote body]
        exact openAfter_quote quote other
      · right
        rw [openAfter_text isQuote body, stays]
        exact ⟨empty, rfl⟩
  | symbol listed _ =>
      left
      intro other notComment
      have all : ∀ entry ∈ symbols, entry.1 = ['/'] ∨
          entry.1.all (fun c => !isQuote c && c ≠ '/') = true := by decide
      rcases all _ listed with slash | plain
      · simp only at slash
        subst slash
        have single : other.head? ≠ some '/' := by
          intro second
          obtain ⟨tail, rfl⟩ := List.head?_eq_some_iff.mp second
          exact notComment ⟨tail, rfl⟩
        have slash : isQuote '/' = false := by decide
        simp [openAfter_cons, slash, single]
      · exact openAfter_run (by simpa using plain) other

theorem Cut.closed {rest lexeme text : List Char} {kind : TokenKind}
    (cut : Cut rest lexeme kind text) (notComment : ¬['/', '/'] <+: lexeme ++ rest)
    (more : rest ≠ []) : Token.openAfter none lexeme = none := by
  rcases cut.openAfter with passes | ⟨empty, _⟩
  · have alone := passes [] fun opens => notComment (opens.trans (by simp))
    rwa [List.append_nil] at alone
  · exact absurd empty more

theorem Tile.Fits.openAfter_eq_none {before rest : List Char} {tile : Tile}
    (fits : tile.Fits before rest) :
    openAfter none (tile.source ++ rest) = none ↔
      openAfter none tile.lexeme = none ∧ openAfter none rest = none := by
  have filled : tile.lexeme ++ rest ≠ [] := by simp [fits.filled]
  rw [Tile.source, List.append_assoc, openAfter_gap fits.gap filled]
  rcases fits.cut.openAfter with passes | ⟨rfl, opens⟩
  · have alone := passes [] fun isComment => fits.notComment (isComment.trans (by simp))
    rw [List.append_nil] at alone
    rw [passes rest fits.notComment, alone]
    simp
  · simp

end Reckoner.Token
