import Reckoner.Proofs.Json.Blocks
import Reckoner.Stack
import Reckoner.Tree.Json

/-!
Records as documents read back. What a document decodes to has five fields for every node and the
children in their order. It tells all texts apart but those in which two surrogates make a pair, since
such a pair is written as the one code point that it stands for.
-/

namespace Reckoner

open Json.Reader

namespace Record

def contentJson : Content → Json
  | .blank => .null
  | .text codes => .text codes
  | .truth b => .truth b
  | .number x => .number x

def fields (kind : List CodePoint) (value : Content) (line column : Int) (children : List Json) :
    List (List CodePoint × Json) := [
  (Text.codePoints "kind", .text kind), (Text.codePoints "value", contentJson value),
  (Text.codePoints "line", .whole line), (Text.codePoints "col", .whole column),
  (Text.codePoints "children", .list children)]

mutual

def document : Record → Json
  | .node kind value line column children =>
      .object (fields kind value line column (documentAll children))

def documentAll : List Record → List Json
  | [] => []
  | record :: rest => record.document :: documentAll rest

end

def contentTexts : Content → List (List CodePoint)
  | .text codes => [codes]
  | _ => []

mutual

def texts : Record → List (List CodePoint)
  | .node kind value _ _ children => kind :: contentTexts value ++ textsAll children

def textsAll : List Record → List (List CodePoint)
  | [] => []
  | record :: rest => record.texts ++ textsAll rest

end

/-- No text of the record has a high surrogate and then a low one. -/
def Unsplit (record : Record) : Prop :=
  ∀ codes ∈ record.texts, Text.Unsplit codes

theorem reads_word {spelled : String} {result : Json} (depth : Nat)
    (same : ∀ rest, value (depth + 1) (spelled.toList ++ rest) =
      word spelled result (spelled.toList ++ rest)) :
    Reads (value (depth + 1)) spelled.toList result := by
  intro rest _
  rw [same, word, bind_some (expect_append _ rest)]
  rfl

theorem reads_text {codes : List CodePoint} (unsplit : Text.Unsplit codes) (depth : Nat) :
    Reads (value (depth + 1)) (Text.asciiQuoted codes) (.text codes) := by
  intro rest _
  exact map_some (quoted_asciiQuoted unsplit rest)

theorem reads_content {content : Content}
    (unsplit : ∀ codes ∈ contentTexts content, Text.Unsplit codes) (depth : Nat) :
    Reads (value (depth + 1)) (jsonContent content) (contentJson content) := by
  cases content with
  | blank => exact reads_word depth fun _ => rfl
  | text codes => exact reads_text (unsplit codes (by simp [contentTexts])) depth
  | truth b =>
      cases b
      · exact reads_word depth fun _ => rfl
      · exact reads_word depth fun _ => rfl
  | number x =>
      intro rest ended
      exact value_of_number (number_shownAs x ended) depth

theorem reads_whole (n : Int) (depth : Nat) :
    Reads (value (depth + 1)) (toString n).toList (.whole n) := by
  intro rest ended
  exact value_of_number (number_of_numeral (numeral_whole n ended)) depth

theorem jsonTail_eq (records : List Record) :
    jsonTail records = behindCommas (records.map json) := by
  induction records with
  | nil => rfl
  | cons record rest ih =>
      rw [jsonTail, ih]
      rfl

theorem reads_list {depth : Nat} {records : List Record}
    (reads : List.Forall₂ (Reads (value depth)) (records.map json) (documentAll records)) :
    Reads (value (depth + 1)) ('[' :: jsonAll records ++ [']'])
      (.list (documentAll records)) := by
  intro rest _
  apply map_some
  cases records with
  | nil => exact block_nil (.inl rfl) '['
  | cons record later =>
      obtain ⟨first, others⟩ := List.forall₂_cons.mp reads
      have done : block ']' (value depth) '['
          ('[' :: (record.json ++ (behindCommas (later.map json) ++ ']' :: rest))) =
          some (record.document :: documentAll later, rest) :=
        block_cons (.inl rfl) (starts_value depth) first others '['
      simpa [jsonAll, jsonTail_eq, documentAll] using done

theorem reads_key {depth : Nat} {written : List Char} {result : Json} (key : String)
    (reads : Reads (value depth) written result) :
    Reads (field (value depth)) (jsonKey key ++ written) (Text.codePoints key, result) :=
  reads_field (Text.unsplit_codePoints key) (starts_value depth) reads

theorem reads_node {depth : Nat} {kind : List CodePoint} {content : Content}
    (line column : Int) {children : List Record} (unsplitKind : Text.Unsplit kind)
    (unsplitContent : ∀ codes ∈ contentTexts content, Text.Unsplit codes)
    (reads : List.Forall₂ (Reads (value depth)) (children.map json) (documentAll children)) :
    Reads (value (depth + 2)) (json (.node kind content line column children))
      (document (.node kind content line column children)) := by
  have first := reads_key "kind" (reads_text unsplitKind depth)
  have others : List.Forall₂ (Reads (field (value (depth + 1))))
      [jsonKey "value" ++ jsonContent content, jsonKey "line" ++ (toString line).toList,
        jsonKey "col" ++ (toString column).toList,
        jsonKey "children" ++ ('[' :: jsonAll children ++ [']'])]
      (fields kind content line column (documentAll children)).tail :=
    .cons (reads_key "value" (reads_content unsplitContent depth)) <|
    .cons (reads_key "line" (reads_whole line depth)) <|
    .cons (reads_key "col" (reads_whole column depth)) <|
    .cons (reads_key "children" (reads_list reads)) .nil
  intro rest _
  have text : json (.node kind content line column children) ++ rest = '\x7b' ::
      ((jsonKey "kind" ++ Text.asciiQuoted kind) ++
      (behindCommas [jsonKey "value" ++ jsonContent content,
        jsonKey "line" ++ (toString line).toList,
        jsonKey "col" ++ (toString column).toList,
        jsonKey "children" ++ ('[' :: jsonAll children ++ [']'])] ++ '\x7d' :: rest)) := by
    simp [json, jsonFields, behindCommas]
  rw [text]
  exact map_some (block_cons (.inr rfl) (starts_field _) first others '\x7b')

mutual

theorem reads_json (record : Record) (depth : Nat) (enough : 2 * record.depth ≤ depth)
    (unsplit : ∀ codes ∈ record.texts, Text.Unsplit codes) :
    Reads (value depth) record.json record.document := by
  cases record with
  | node kind content line column children =>
      rw [Record.depth] at enough
      rw [texts, List.cons_append, List.forall_mem_cons, List.forall_mem_append] at unsplit
      obtain ⟨unsplitKind, unsplitContent, unsplitChildren⟩ := unsplit
      obtain ⟨less, rfl⟩ : ∃ less, depth = less + 2 := ⟨depth - 2, by omega⟩
      exact reads_node line column unsplitKind unsplitContent
        (reads_jsonAll children less (by omega) unsplitChildren)

theorem reads_jsonAll (records : List Record) (depth : Nat)
    (enough : 2 * depthAll records ≤ depth)
    (unsplit : ∀ codes ∈ textsAll records, Text.Unsplit codes) :
    List.Forall₂ (Reads (value depth)) (records.map json) (documentAll records) := by
  cases records with
  | nil => exact .nil
  | cons record rest =>
      rw [depthAll] at enough
      rw [textsAll, List.forall_mem_append] at unsplit
      exact .cons (reads_json record depth (by omega) unsplit.1)
        (reads_jsonAll rest depth (by omega) unsplit.2)

end

theorem length_jsonAll_le (records : List Record) :
    (jsonAll records).length ≤ (jsonTail records).length := by
  cases records with
  | nil => exact Nat.le_refl _
  | cons record rest =>
      simp only [jsonAll, jsonTail, List.length_append, List.length_cons]
      omega

mutual

theorem two_mul_depth_le (record : Record) : 2 * record.depth ≤ record.json.length := by
  cases record with
  | node kind content line column children =>
      have inside := two_mul_depthAll_le children
      simp only [Record.depth, json, List.length_cons, List.length_append]
      omega

theorem two_mul_depthAll_le (records : List Record) :
    2 * depthAll records ≤ (jsonAll records).length := by
  cases records with
  | nil => exact Nat.zero_le _
  | cons record rest =>
      have first := two_mul_depth_le record
      have others := (two_mul_depthAll_le rest).trans (length_jsonAll_le rest)
      simp only [depthAll, jsonAll, List.length_append]
      omega

end

theorem decode_json {record : Record} (unsplit : record.Unsplit) :
    Json.decode (String.ofList record.json) = some record.document := by
  have reads := reads_json record record.json.length (two_mul_depth_le record) unsplit
  obtain ⟨c, later, start, same⟩ := reads.start (starts_value _)
  have first : skip record.json = some ((), record.json) := by
    rw [same]
    exact skip_of_start start later
  have done : value record.json.length record.json = some (record.document, []) := by
    simpa using reads [] (by simp [Ended])
  rw [Json.decode, String.toList_ofList, first]
  simp only [Option.bind_eq_bind, Option.bind_some, done]
  rfl

theorem dump?_eq_some_iff {limit : Nat} {record : Record} {written : String} :
    record.dump? limit = some written ↔
      record.depth ≤ limit ∧ String.ofList record.json = written := by
  rw [dump?]
  split
  next shallow => simp [shallow]
  next deep => simp [deep]

theorem document_of_dump {limit : Nat} {record : Record} {written : String}
    (unsplit : record.Unsplit) (dumped : record.dump? limit = some written) :
    Json.decode written = some record.document := by
  obtain ⟨_, rfl⟩ := dump?_eq_some_iff.mp dumped
  exact decode_json unsplit

/-- A record that is not too deep to be written is known from its document. -/
theorem decode_dump {limit : Nat} {record : Record} (shallow : record.depth ≤ limit)
    (unsplit : record.Unsplit) :
    ∃ written, record.dump? limit = some written ∧
      Json.decode written = some record.document ∧
      ∀ other : Record, other.Unsplit → other.dump? limit = some written →
        other.document = record.document := by
  refine ⟨String.ofList record.json, dump?_eq_some_iff.mpr ⟨shallow, rfl⟩,
    decode_json unsplit, ?_⟩
  intro other unsplitOther dumped
  have alike := document_of_dump unsplitOther dumped
  rw [decode_json unsplit] at alike
  exact (Option.some.inj alike).symm

theorem decode_dump_escaped :
    Json.decode ("\x7b\"kind\": \"string\", \"value\": \"\\\"\\n\\u00e9\\ude00\\ud83d\\ude00\", " ++
      "\"line\": 1, \"col\": -2, \"children\": [\x7b\"kind\": \"number\", " ++
      "\"value\": 1.5, \"line\": 0, \"col\": 0, \"children\": []\x7d]\x7d") =
    some (document (.node (Text.codePoints "string") (.text [0x22, 0xA, 0xE9, 0xDE00, 0x1F600]) 1
      (-2) [.node (Text.codePoints "number") (.number 1.5) 0 0 []])) := by
  have unsplit : Unsplit (.node (Text.codePoints "string")
      (.text [0x22, 0xA, 0xE9, 0xDE00, 0x1F600]) 1 (-2)
      [.node (Text.codePoints "number") (.number 1.5) 0 0 []]) := by
    simp [Unsplit, texts, textsAll, contentTexts, Text.unsplit_codePoints]
    decide
  obtain ⟨written, dumped, decoded, -⟩ := @decode_dump 2 _ (by decide) unsplit
  refine (congrArg Json.decode (Option.some.inj ?_)).trans decoded
  rw [← dumped]
  decide +kernel

/-- Two surrogates that make a pair are written like the one code point they stand for. -/
theorem split_pair_joined :
    (node (Text.codePoints "string") (.text [0xD83D, 0xDE00]) 1 1 []).dump? Stack.levels =
      (node (Text.codePoints "string") (.text [0x1F600]) 1 1 []).dump? Stack.levels ∧
    ((node (Text.codePoints "string") (.text [0x1F600]) 1 1 []).dump? Stack.levels).isSome ∧
    document (node (Text.codePoints "string") (.text [0xD83D, 0xDE00]) 1 1 []) ≠
      document (node (Text.codePoints "string") (.text [0x1F600]) 1 1 []) := by
  refine ⟨by decide +kernel, by decide +kernel, ?_⟩
  simp [document, fields, contentJson]

end Record

namespace Tree

mutual

theorem unsplit_record (tree : Tree) : ∀ codes ∈ tree.record.texts, Text.Unsplit codes := by
  cases tree with
  | node kind label place children =>
      rw [record, Record.texts, List.cons_append, List.forall_mem_cons, List.forall_mem_append]
      refine ⟨Text.unsplit_codePoints _, ?_, unsplit_recordAll children⟩
      cases label <;> simp [Label.content, Record.contentTexts, Text.unsplit_codePoints]

theorem unsplit_recordAll (trees : List Tree) :
    ∀ codes ∈ Record.textsAll (recordAll trees), Text.Unsplit codes := by
  cases trees with
  | nil => simp [recordAll, Record.textsAll]
  | cons tree rest =>
      rw [recordAll, Record.textsAll, List.forall_mem_append]
      exact ⟨unsplit_record tree, unsplit_recordAll rest⟩

end

/-- Trees of characters are told apart by their documents outright. -/
theorem document_of_dump {limit : Nat} {tree : Tree} {written : String}
    (dumped : dump? limit (some tree) = some written) :
    Json.decode written = some tree.record.document :=
  Record.document_of_dump (unsplit_record tree) dumped

end Tree

end Reckoner
