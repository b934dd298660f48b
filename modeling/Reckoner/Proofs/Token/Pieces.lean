import Mathlib.Data.List.TakeWhile
import Reckoner.Proofs.Text.Classes

/-!
What the scanner cuts off a text. A gap consists of blanks and of comments, each of which runs up to
a line feed or to the end. A piece belongs to the class of its kind and ends where that class does,
so that no piece could be longer. The scanner finds a gap or a piece just where the text has one.
-/

namespace Reckoner.Token

open Text

theorem takeWhile_append_of_stop {p : Char → Bool} {run rest : List Char}
    (inside : ∀ c ∈ run, p c = true) (stop : ∀ c ∈ rest.head?, p c = false) :
    (run ++ rest).takeWhile p = run := by
  rw [List.takeWhile_append_of_pos inside]
  cases rest with
  | nil => simp
  | cons c rest => simp [stop c rfl]

theorem dropWhile_append_of_stop {p : Char → Bool} {run rest : List Char}
    (inside : ∀ c ∈ run, p c = true) (stop : ∀ c ∈ rest.head?, p c = false) :
    (run ++ rest).dropWhile p = rest := by
  rw [List.dropWhile_append_of_pos inside]
  cases rest with
  | nil => rfl
  | cons c rest => simp [stop c rfl]

theorem exists_run (p : Char → Bool) (chars : List Char) :
    ∃ run rest, chars = run ++ rest ∧ (∀ c ∈ run, p c = true) ∧
      ∀ c ∈ rest.head?, p c = false := by
  refine ⟨chars.takeWhile p, chars.dropWhile p, List.takeWhile_append_dropWhile.symm, ?_, ?_⟩
  · intro c member
    exact List.mem_takeWhile_imp member
  · intro c first
    have stops := List.head?_dropWhile_not p chars
    rw [Option.mem_def.mp first] at stops
    exact stops

inductive Skipped (rest : List Char) : List Char → Prop
  | nil : Skipped rest []
  | blank {c gap} : isBlank c = true → Skipped rest gap → Skipped rest (c :: gap)
  | comment {remark gap} : '\n' ∉ remark → (∀ c ∈ (gap ++ rest).head?, c = '\n') →
      Skipped rest gap → Skipped rest ('/' :: '/' :: remark ++ gap)

structure Clear (rest : List Char) : Prop where
  notBlank : ∀ c ∈ rest.head?, isBlank c = false
  notComment : ¬['/', '/'] <+: rest

theorem takeGap_of_clear {rest : List Char} (clear : Clear rest) :
    takeGap false rest = ([], rest) := by
  obtain ⟨notBlank, notComment⟩ := clear
  cases rest with
  | nil => rfl
  | cons c rest =>
      have first := notBlank c rfl
      have single : ¬(c = '/' ∧ rest.head? = some '/') := by
        rintro ⟨rfl, second⟩
        obtain ⟨tail, rfl⟩ := List.head?_eq_some_iff.mp second
        exact notComment ⟨tail, rfl⟩
      simpa [takeGap, first] using single

theorem takeGap_of_remark {remark rest : List Char} (inside : '\n' ∉ remark)
    (ends : ∀ c ∈ rest.head?, c = '\n') :
    takeGap true (remark ++ rest) =
      (remark ++ (takeGap false rest).1, (takeGap false rest).2) := by
  induction remark with
  | nil =>
      cases rest with
      | nil => rfl
      | cons c rest =>
          have blank : isBlank '\n' = true := by decide
          simp [takeGap, ends c rfl, blank]
  | cons c remark ih =>
      simp only [List.mem_cons, not_or] at inside
      simp [takeGap, Ne.symm inside.1, ih inside.2]

theorem takeGap_blank {c : Char} (blank : isBlank c = true) (rest : List Char) :
    takeGap false (c :: rest) = (c :: (takeGap false rest).1, (takeGap false rest).2) := by
  simp [takeGap, blank]

theorem takeGap_comment {remark rest : List Char} (inside : '\n' ∉ remark)
    (ends : ∀ c ∈ rest.head?, c = '\n') :
    takeGap false ('/' :: '/' :: remark ++ rest) =
      ('/' :: '/' :: remark ++ (takeGap false rest).1, (takeGap false rest).2) := by
  have slash : isBlank '/' = false := by decide
  have passed := @takeGap_of_remark ('/' :: remark) rest (by simpa using inside) ends
  rw [List.cons_append] at passed ⊢
  rw [takeGap]
  simp [slash, passed]

theorem takeGap_passed {gap rest : List Char} (skipped : Skipped rest gap) :
    takeGap false (gap ++ rest) = (gap ++ (takeGap false rest).1, (takeGap false rest).2) := by
  induction skipped with
  | nil => rfl
  | blank isBlank _ ih => rw [List.cons_append, takeGap_blank isBlank, ih, List.cons_append]
  | comment inside ends _ ih =>
      rw [List.append_assoc, takeGap_comment inside ends, ih, List.append_assoc]

theorem takeGap_of_skipped {gap rest : List Char} (skipped : Skipped rest gap)
    (clear : Clear rest) : takeGap false (gap ++ rest) = (gap, rest) := by
  rw [takeGap_passed skipped, takeGap_of_clear clear, List.append_nil]

theorem takeGap_skipped (chars : List Char) :
    Skipped (takeGap false chars).2 (takeGap false chars).1 ∧ Clear (takeGap false chars).2 := by
  generalize size : chars.length = length
  induction length using Nat.strongRecOn generalizing chars with
  | ind length ih =>
      match chars with
      | [] => exact ⟨.nil, by simp [takeGap], by simp [takeGap]⟩
      | c :: rest =>
          rw [List.length_cons] at size
          by_cases blank : isBlank c = true
          · obtain ⟨skipped, clear⟩ := ih rest.length (by omega) rest rfl
            rw [takeGap_blank blank]
            exact ⟨.blank blank skipped, clear⟩
          · by_cases comment : ['/', '/'] <+: c :: rest
            · obtain ⟨tail, opens⟩ := comment
              simp only [List.cons_append, List.nil_append, List.cons.injEq] at opens
              obtain ⟨rfl, rfl⟩ := opens
              obtain ⟨remark, later, rfl, inside, stop⟩ := exists_run (· ≠ '\n') tail
              have unbroken : '\n' ∉ remark := fun member => by simpa using inside _ member
              have ends : ∀ c ∈ later.head?, c = '\n' := fun c first => by
                simpa using stop c first
              have shorter : later.length < length := by
                simp only [List.length_cons, List.length_append] at size
                omega
              obtain ⟨skipped, clear⟩ := ih later.length shorter later rfl
              have taken := takeGap_comment unbroken ends
              rw [List.cons_append, List.cons_append] at taken
              rw [taken]
              refine ⟨.comment unbroken ?_ skipped, clear⟩
              rwa [takeGap_append]
            · have clear : Clear (c :: rest) := ⟨by simpa using blank, comment⟩
              rw [takeGap_of_clear clear]
              exact ⟨.nil, clear⟩

/-- A text as it is written between quotes, and what it says. -/
inductive Body (quote : Char) : List Char → List Char → Prop
  | nil : Body quote [] []
  | plain {c written text} : c ≠ quote → c ≠ backslash → Body quote written text →
      Body quote (c :: written) (c :: text)
  | lineFeed {written text} : Body quote written text →
      Body quote (backslash :: 'n' :: written) ('\n' :: text)
  | tab {written text} : Body quote written text →
      Body quote (backslash :: 't' :: written) ('\t' :: text)
  | literal {c written text} : c ≠ 'n' → c ≠ 't' → Body quote written text →
      Body quote (backslash :: c :: written) (c :: text)

theorem Body.escaped {quote : Char} {written text : List Char} (body : Body quote written text)
    (c : Char) : Body quote (backslash :: c :: written) (unescape c :: text) := by
  rw [unescape]
  split_ifs with feed tab
  · exact feed ▸ .lineFeed body
  · exact tab ▸ .tab body
  · exact .literal feed tab body

/-- A quoted text ends with its quote. Without one it takes all the text there is, and a backslash
at the very end says nothing. -/
def Ending (quote : Char) (rest ending : List Char) : Prop :=
  ending = [quote] ∨ rest = [] ∧ (ending = [] ∨ ending = [backslash])

theorem quote_eq {quote : Char} (isQuote : Token.isQuote quote = true) :
    quote = doubleQuote ∨ quote = apostrophe := by
  simpa [Token.isQuote] using isQuote

theorem textBody_of_body {quote : Char} {written text ending rest : List Char}
    (isQuote : Token.isQuote quote = true) (body : Body quote written text)
    (ends : Ending quote rest ending) :
    textBody quote (written ++ (ending ++ rest)) =
      ⟨.text, text, written ++ ending, rest⟩ := by
  have noBackslash : backslash ≠ quote := by
    rcases quote_eq isQuote with rfl | rfl <;> decide
  induction body with
  | nil =>
      rcases ends with rfl | ⟨rfl, rfl | rfl⟩
      · rw [List.nil_append, List.singleton_append, textBody.eq_def]
        simp
      · simp [textBody]
      · simp [textBody, noBackslash]
  | plain notQuote notBackslash _ ih =>
      rw [List.cons_append, textBody.eq_def]
      simp [notQuote, notBackslash, ih]
  | lineFeed _ ih | tab _ ih => simp [textBody, noBackslash, ih, unescape]
  | literal notFeed notTab _ ih => simp [textBody, noBackslash, ih, unescape, notFeed, notTab]

theorem textBody_body (quote : Char) (chars : List Char) :
    (textBody quote chars).kind = .text ∧
    ∃ written ending, (textBody quote chars).source = written ++ ending ∧
      Body quote written (textBody quote chars).text ∧
      Ending quote (textBody quote chars).rest ending := by
  fun_induction textBody quote chars with
  | case1 => exact ⟨rfl, [], [], rfl, .nil, .inr ⟨rfl, .inl rfl⟩⟩
  | case2 rest => exact ⟨rfl, [], [quote], rfl, .nil, .inl rfl⟩
  | case3 => exact ⟨rfl, [], [backslash], rfl, .nil, .inr ⟨rfl, .inr rfl⟩⟩
  | case4 escaped rest _ _ ih =>
      obtain ⟨_, written, ending, same, body, ends⟩ := ih
      exact ⟨rfl, backslash :: escaped :: written, ending,
        congrArg (fun tail => backslash :: escaped :: tail) same, body.escaped escaped, ends⟩
  | case5 c rest notQuote notBackslash _ ih =>
      obtain ⟨_, written, ending, same, body, ends⟩ := ih
      exact ⟨rfl, c :: written, ending, congrArg (c :: ·) same,
        .plain notQuote notBackslash body, ends⟩

/-- A lexeme in front of a rest, with its kind and what it holds. No lexeme could take more of the
rest: a number and a word end where other characters follow, and no spelling of the table is one
character longer than a symbol that was taken. -/
inductive Cut (rest : List Char) : List Char → TokenKind → List Char → Prop
  | number {run} : startsNumber run = true → (∀ c ∈ run, isNumberChar c = true) →
      (∀ c ∈ rest.head?, isNumberChar c = false) → Cut rest run .number run
  | word {c run} : isNameStart c = true → (∀ d ∈ run, isNameChar d = true) →
      (∀ d ∈ rest.head?, isNameChar d = false) →
      Cut rest (c :: run) ((keywords.lookup (c :: run)).getD .name) (c :: run)
  | text {quote written text ending} : isQuote quote = true → Body quote written text →
      Ending quote rest ending → Cut rest (quote :: written ++ ending) .text text
  | symbol {source kind} : (source, kind) ∈ symbols →
      (∀ c ∈ rest.head?, spellings.lookup (source ++ [c]) = none) → Cut rest source kind source

theorem startsNumber_of_other {c : Char} (notDigit : c.isDigit = false) (notPoint : c ≠ '.')
    (rest : List Char) : startsNumber (c :: rest) = false := by
  simp [startsNumber, notDigit, notPoint]

theorem startsNumber_append {run : List Char} (starts : startsNumber run = true)
    (rest : List Char) : startsNumber (run ++ rest) = true := by
  match run with
  | [] => simp [startsNumber] at starts
  | [c] =>
      simp only [startsNumber, List.head?_nil, Option.any_none, Bool.and_false,
        Bool.or_false] at starts
      simp [startsNumber, starts]
  | c :: d :: tail => exact starts

theorem readPiece?_of_number {run rest : List Char} (starts : startsNumber run = true)
    (inside : ∀ c ∈ run, isNumberChar c = true)
    (stop : ∀ c ∈ rest.head?, isNumberChar c = false) :
    readPiece? (run ++ rest) = some ⟨.number, run, run, rest⟩ := by
  have startsWhole := startsNumber_append starts rest
  have piece : numberPiece (run ++ rest) = ⟨.number, run, run, rest⟩ := by
    simp only [numberPiece, takeWhile_append_of_stop inside stop,
      dropWhile_append_of_stop inside stop]
  cases run with
  | nil => simp [startsNumber] at starts
  | cons c tail =>
      rw [List.cons_append] at startsWhole piece ⊢
      rw [readPiece?, if_pos startsWhole, piece]

theorem readPiece?_of_word {c : Char} {run rest : List Char} (start : isNameStart c = true)
    (inside : ∀ d ∈ run, isNameChar d = true)
    (stop : ∀ d ∈ rest.head?, isNameChar d = false) :
    readPiece? (c :: run ++ rest) =
      some ⟨(keywords.lookup (c :: run)).getD .name, c :: run, c :: run, rest⟩ := by
  have high := le_of_nameStart start
  have notNumber : startsNumber (c :: (run ++ rest)) = false := by
    have notDigit : c.isDigit = false := by
      rw [Bool.eq_false_iff]
      intro digit
      have low : c.toNat ≤ 57 := (Char.isDigit_iff_toNat.mp digit).2
      omega
    have notPoint : c ≠ '.' := by
      rintro rfl
      exact absurd high (by decide)
    exact startsNumber_of_other notDigit notPoint _
  have notQuote : isQuote c = false := by
    rw [Bool.eq_false_iff]
    intro quote
    rcases quote_eq quote with rfl | rfl <;> exact absurd high (by decide)
  have all : ∀ d ∈ c :: run, isNameChar d = true := by
    simpa [nameChar_of_start start] using inside
  have piece := takeWhile_append_of_stop all stop
  have remaining := dropWhile_append_of_stop all stop
  rw [List.cons_append] at piece remaining ⊢
  simp [readPiece?, notNumber, notQuote, start, namePiece, piece, remaining]

theorem readPiece?_of_text {quote : Char} {written text ending rest : List Char}
    (isQuote : Token.isQuote quote = true) (body : Body quote written text)
    (ends : Ending quote rest ending) :
    readPiece? (quote :: written ++ ending ++ rest) =
      some ⟨.text, text, quote :: written ++ ending, rest⟩ := by
  have notNumber : startsNumber (quote :: (written ++ (ending ++ rest))) = false := by
    rcases quote_eq isQuote with rfl | rfl
    · exact startsNumber_of_other (by decide) (by decide) _
    · exact startsNumber_of_other (by decide) (by decide) _
  have piece := textBody_of_body isQuote body ends
  simp [readPiece?, notNumber, isQuote, textPiece?, piece]

theorem mem_of_lookup {table : List (List Char × TokenKind)} {source : List Char}
    {kind : TokenKind} (found : table.lookup source = some kind) : (source, kind) ∈ table := by
  obtain ⟨before, after, split, _⟩ := List.lookup_eq_some_iff.mp found
  simp [split]

theorem symbol_lookup {source : List Char} {kind : TokenKind} (listed : (source, kind) ∈ symbols) :
    spellings.lookup source = some kind := by
  have all : ∀ entry ∈ symbols, spellings.lookup entry.1 = some entry.2 := by decide
  exact all (source, kind) listed

theorem length_of_symbol {source : List Char} {kind : TokenKind}
    (listed : (source, kind) ∈ symbols) : source.length = 1 ∨ source.length = 2 := by
  have all : ∀ entry ∈ symbols, entry.1.length = 1 ∨ entry.1.length = 2 := by decide
  exact all (source, kind) listed

theorem symbolPiece?_of_listed {source rest : List Char} {kind : TokenKind}
    (listed : (source, kind) ∈ symbols)
    (longest : ∀ c ∈ rest.head?, spellings.lookup (source ++ [c]) = none) :
    symbolPiece? (source ++ rest) = some ⟨kind, source, source, rest⟩ := by
  have found := symbol_lookup listed
  rcases length_of_symbol listed with one | two
  · obtain ⟨c, rfl⟩ := List.length_eq_one_iff.mp one
    cases rest with
    | nil => simp [symbolPiece?, symbolOf?, found]
    | cons d rest =>
        have unknown : spellings.lookup [c, d] = none := longest d rfl
        simp [symbolPiece?, symbolOf?, found, unknown]
  · have cut : (source ++ rest).take 2 = source ∧ (source ++ rest).drop 2 = rest := by
      simp [← two]
    simp [symbolPiece?, symbolOf?, cut, found]

theorem symbol_start {source : List Char} {kind : TokenKind} (listed : (source, kind) ∈ symbols) :
    ∃ c tail, source = c :: tail ∧ c.isDigit = false ∧ c ≠ '.' ∧ isQuote c = false ∧
      isNameStart c = false ∧ isBlank c = false ∧ (c = '/' → tail = []) := by
  have all : ∀ entry ∈ symbols, entry.1.head?.any (fun c => !c.isDigit && c ≠ '.' &&
      !isQuote c && !isNameStart c && !isBlank c && (c ≠ '/' || entry.1.tail.isEmpty)) = true := by
    decide
  have facts := all (source, kind) listed
  cases source with
  | nil => simp at facts
  | cons c tail => exact ⟨c, tail, rfl, by simpa [and_assoc, imp_iff_not_or] using facts⟩

theorem readPiece?_of_symbol {source rest : List Char} {kind : TokenKind}
    (listed : (source, kind) ∈ symbols)
    (longest : ∀ c ∈ rest.head?, spellings.lookup (source ++ [c]) = none) :
    readPiece? (source ++ rest) = some ⟨kind, source, source, rest⟩ := by
  have piece := symbolPiece?_of_listed listed longest
  obtain ⟨c, tail, rfl, notDigit, notPoint, notQuote, notName, _⟩ := symbol_start listed
  rw [List.cons_append] at piece ⊢
  simp [readPiece?, startsNumber_of_other notDigit notPoint, notQuote, notName, piece]

theorem readPiece?_of_cut {rest source text : List Char} {kind : TokenKind}
    (cut : Cut rest source kind text) :
    readPiece? (source ++ rest) = some ⟨kind, text, source, rest⟩ := by
  cases cut with
  | number starts inside stop => exact readPiece?_of_number starts inside stop
  | word start inside stop => exact readPiece?_of_word start inside stop
  | text isQuote body ends => exact readPiece?_of_text isQuote body ends
  | symbol listed longest => exact readPiece?_of_symbol listed longest

theorem numberPiece_cut {chars : List Char} (starts : startsNumber chars = true) :
    Cut (numberPiece chars).rest (numberPiece chars).source .number (numberPiece chars).text := by
  obtain ⟨run, rest, rfl, inside, stop⟩ := exists_run isNumberChar chars
  rw [numberPiece, takeWhile_append_of_stop inside stop, dropWhile_append_of_stop inside stop]
  refine .number ?_ inside stop
  rcases run with _ | ⟨c, _ | ⟨d, tail⟩⟩
  · cases rest with
    | nil => simp [startsNumber] at starts
    | cons c rest =>
        have other := stop c rfl
        simp only [isNumberChar, Bool.or_eq_false_iff, decide_eq_false_iff_not] at other
        rw [List.nil_append, startsNumber_of_other other.1 other.2] at starts
        exact absurd starts (by simp)
  · have follows : rest.head?.any Char.isDigit = false := by
      rw [Option.any_eq_false]
      intro d first
      have other := stop d first
      simp only [isNumberChar, Bool.or_eq_false_iff] at other
      exact other.1
    simpa [startsNumber, follows] using starts
  · exact starts

theorem namePiece_cut {c : Char} (start : isNameStart c = true) (tail : List Char) :
    Cut (namePiece (c :: tail)).rest (namePiece (c :: tail)).source (namePiece (c :: tail)).kind
      (namePiece (c :: tail)).text := by
  obtain ⟨run, rest, rfl, inside, stop⟩ := exists_run isNameChar tail
  have all : ∀ d ∈ c :: run, isNameChar d = true := by
    simpa [nameChar_of_start start] using inside
  have piece := takeWhile_append_of_stop all stop
  have remaining := dropWhile_append_of_stop all stop
  rw [List.cons_append] at piece remaining
  rw [namePiece, piece, remaining]
  exact .word start inside stop

theorem symbolOf?_eq_some {size : Nat} {chars : List Char} {piece : Piece} :
    symbolOf? size chars = some piece ↔ spellings.lookup (chars.take size) = some piece.kind ∧
      piece = ⟨piece.kind, chars.take size, chars.take size, chars.drop size⟩ := by
  simp only [symbolOf?, Option.map_eq_some_iff]
  constructor
  · rintro ⟨kind, found, rfl⟩
    exact ⟨found, rfl⟩
  · rintro ⟨found, same⟩
    exact ⟨piece.kind, found, same.symm⟩

theorem mem_symbols {c : Char} {tail : List Char} {kind : TokenKind}
    (other : isNameStart c = false) (found : spellings.lookup (c :: tail) = some kind) :
    (c :: tail, kind) ∈ symbols := by
  have named : ∀ entry ∈ keywords, entry.1.head?.any isNameStart = true := by decide
  rcases List.mem_append.mp (mem_of_lookup found) with symbol | keyword
  · exact symbol
  · exact absurd (named _ keyword) (by simp [other])

theorem symbolPiece?_cut {c : Char} {tail : List Char} (other : isNameStart c = false)
    {piece : Piece} (found : symbolPiece? (c :: tail) = some piece) :
    Cut piece.rest piece.source piece.kind piece.text := by
  rw [symbolPiece?, Option.or_eq_some_iff] at found
  rcases found with long | ⟨unknown, short⟩
  · obtain ⟨lookup, same⟩ := symbolOf?_eq_some.mp long
    rw [same]
    cases tail with
    | nil => exact .symbol (mem_symbols other lookup) (by simp)
    | cons d rest =>
        refine .symbol (mem_symbols other lookup) ?_
        intro e _
        rw [Option.eq_none_iff_forall_ne_some]
        intro kind longer
        have size := length_of_symbol (mem_symbols other longer)
        simp at size
  · obtain ⟨lookup, same⟩ := symbolOf?_eq_some.mp short
    rw [same]
    refine .symbol (mem_symbols other lookup) ?_
    intro d first
    obtain ⟨rest, rfl⟩ := List.head?_eq_some_iff.mp first
    simpa [symbolOf?] using unknown

theorem readPiece?_cut {chars : List Char} {piece : Piece}
    (found : readPiece? chars = some piece) :
    Cut piece.rest piece.source piece.kind piece.text := by
  cases chars with
  | nil => simp [readPiece?] at found
  | cons c tail =>
      simp only [readPiece?] at found
      split at found
      next starts =>
        cases found
        exact numberPiece_cut starts
      next =>
        split at found
        next isQuote =>
          obtain ⟨kind, written, ending, same, body, ends⟩ := textBody_body c tail
          simp only [textPiece?, Option.some.injEq] at found
          subst found
          simp only [kind, same]
          exact .text isQuote body ends
        next =>
          split at found
          next start =>
            cases found
            exact namePiece_cut start tail
          next other => exact symbolPiece?_cut (by simpa using other) found

theorem Cut.start {rest source text : List Char} {kind : TokenKind}
    (cut : Cut rest source kind text) :
    ∃ c tail, source = c :: tail ∧ isBlank c = false ∧ (c = '/' → tail = []) := by
  cases cut with
  | number starts inside =>
      cases source with
      | nil => simp [startsNumber] at starts
      | cons c tail =>
          have digit := inside c (by simp)
          refine ⟨c, tail, rfl, ?_, ?_⟩
          · rw [Bool.eq_false_iff]
            intro blank
            exact absurd digit (by simp [not_numberChar_of_blank blank])
          · rintro rfl
            exact absurd digit (by decide)
  | @word c tail start inside =>
      refine ⟨c, tail, rfl, ?_, ?_⟩
      · rw [Bool.eq_false_iff]
        intro blank
        exact absurd (nameChar_of_start start) (by simp [not_nameChar_of_blank blank])
      · rintro rfl
        exact absurd (le_of_nameStart start) (by decide)
  | @text quote written _ ending isQuote =>
      refine ⟨quote, written ++ ending, rfl, ?_⟩
      rcases quote_eq isQuote with rfl | rfl
      · exact ⟨by decide, fun slash => absurd slash (by decide)⟩
      · exact ⟨by decide, fun slash => absurd slash (by decide)⟩
  | symbol listed =>
      obtain ⟨c, tail, same, _, _, _, _, notBlank, alone⟩ := symbol_start listed
      exact ⟨c, tail, same, notBlank, alone⟩

theorem Cut.kind_ne {rest source text : List Char} {kind : TokenKind}
    (cut : Cut rest source kind text) : kind ≠ .finish := by
  cases cut with
  | number | text => simp
  | @word c rest start inside =>
      have all : ∀ entry ∈ keywords, entry.2 ≠ .finish := by decide
      cases found : keywords.lookup (c :: rest) with
      | none => simp
      | some kind => exact all (c :: rest, kind) (mem_of_lookup found)
  | symbol listed =>
      have all : ∀ entry ∈ symbols, entry.2 ≠ .finish := by decide
      exact all (source, kind) listed

theorem Cut.clear {rest source text : List Char} {kind : TokenKind}
    (cut : Cut rest source kind text) (notComment : ¬['/', '/'] <+: source ++ rest) :
    Clear (source ++ rest) := by
  obtain ⟨c, tail, rfl, notBlank, _⟩ := cut.start
  exact ⟨by simpa using notBlank, notComment⟩

theorem next_of_skipped {gap : List Char} (skipped : Skipped [] gap) (place : Place) :
    next ⟨place, gap⟩ = (.ok (finish (place.passing gap)), ⟨place.passing gap, []⟩) := by
  have taken := takeGap_of_skipped skipped ⟨by simp, by simp⟩
  rw [List.append_nil] at taken
  simp [next, taken]

theorem next_of_cut {gap source rest text : List Char} {kind : TokenKind}
    (skipped : Skipped (source ++ rest) gap) (notComment : ¬['/', '/'] <+: source ++ rest)
    (cut : Cut rest source kind text) (place : Place) :
    next ⟨place, gap ++ (source ++ rest)⟩ =
      (.ok ⟨kind, String.ofList text, place.passing gap⟩,
        ⟨(place.passing gap).passing source, rest⟩) := by
  have taken := takeGap_of_skipped skipped (cut.clear notComment)
  have piece := readPiece?_of_cut cut
  obtain ⟨c, tail, rfl, _⟩ := cut.start
  rw [List.cons_append] at taken piece ⊢
  simp [next, taken, piece, ofPiece]

theorem next_cases {place : Place} {chars : List Char} {token : Token} {after : Reading}
    (read : next ⟨place, chars⟩ = (.ok token, after)) :
    (Skipped [] chars ∧ token = finish (place.passing chars)) ∨
    ∃ gap source rest text, chars = gap ++ (source ++ rest) ∧ Skipped (source ++ rest) gap ∧
      ¬['/', '/'] <+: source ++ rest ∧ Cut rest source token.kind text ∧
      token = ⟨token.kind, String.ofList text, place.passing gap⟩ ∧
      after = ⟨(place.passing gap).passing source, rest⟩ := by
  have whole := takeGap_append false chars
  obtain ⟨skipped, clear⟩ := takeGap_skipped chars
  rw [next] at read
  generalize takeGap false chars = taken at read whole skipped clear
  obtain ⟨gap, remaining⟩ := taken
  subst whole
  cases remaining with
  | nil =>
      obtain ⟨rfl, rfl⟩ : finish (place.passing gap) = token ∧ _ := by simpa using read
      exact .inl ⟨by simpa using skipped, by simp⟩
  | cons c tail =>
      cases found : readPiece? (c :: tail) with
      | none => simp [found] at read
      | some piece =>
          have cut := readPiece?_cut found
          obtain ⟨split, _⟩ := readPiece?_append found
          rw [← split] at skipped clear ⊢
          simp only [found, Prod.mk.injEq, Except.ok.injEq] at read
          obtain ⟨rfl, rfl⟩ := read
          exact .inr ⟨gap, piece.source, piece.rest, piece.text, rfl, skipped, clear.notComment,
            cut, rfl, rfl⟩

theorem scanFrom_of_next {reading after : Reading} {token : Token}
    (read : next reading = (.ok token, after)) :
    scanFrom reading =
      if token.kind = .finish then .ok [token] else (scanFrom after).map (token :: ·) := by
  rw [scanFrom]
  split
  · rename_i failed
    exact absurd (read.symm.trans failed) (by simp)
  · rename_i again
    obtain ⟨rfl, rfl⟩ : token = _ ∧ after = _ := by simpa using read.symm.trans again
    split
    · rfl
    · rfl

theorem scanFrom_uncons {reading after : Reading} {token : Token} {tokens : List Token}
    (read : next reading = (.ok token, after)) (more : token.kind ≠ .finish)
    (scanned : scanFrom reading = .ok tokens) :
    ∃ rest, scanFrom after = .ok rest ∧ tokens = token :: rest := by
  rw [scanFrom_of_next read, if_neg more] at scanned
  cases behind : scanFrom after with
  | error error => simp [behind, Except.map] at scanned
  | ok rest =>
      rw [behind] at scanned
      exact ⟨rest, rfl, (Except.ok.inj scanned).symm⟩

theorem scanFrom_of_error {reading after : Reading} {error : ScanError}
    (failed : next reading = (.error error, after)) : scanFrom reading = .error error := by
  rw [scanFrom]
  split
  · rename_i again
    obtain ⟨rfl, _⟩ : _ = error ∧ _ := by simpa using again.symm.trans failed
    rfl
  · rename_i read
    exact absurd (read.symm.trans failed) (by simp)

theorem scanFrom_congr {reading other : Reading} (same : next reading = next other) :
    scanFrom reading = scanFrom other := by
  rcases read : next other with ⟨error | token, after⟩
  · rw [scanFrom_of_error read, scanFrom_of_error (same.trans read)]
  · rw [scanFrom_of_next read, scanFrom_of_next (same.trans read)]

theorem next_of_scanFrom {reading : Reading} {tokens : List Token}
    (scanned : scanFrom reading = .ok tokens) : ∃ token after, next reading = (.ok token, after) := by
  rw [scanFrom] at scanned
  split at scanned
  · simp at scanned
  · rename_i token after read
    exact ⟨token, after, read⟩

end Reckoner.Token
