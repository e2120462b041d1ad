import Mathlib.Data.List.Forall2
import Marginalia.Proofs.Comment.Layout

/-
  This file finds the marks of a block of tags, the `@` that
  start its lines, and shows that every mark is read as one
  entry: as a tag that takes all the text up to the next mark,
  or as a line that is ignored with the lines below it.

  Key definitions include:
    * `Tag.IsMark`
    * `Tag.marks`
    * `Tag.spans`
    * `Tag.Heads`
    * `Tag.Reads`

  Main results:
    * `Tag.forall₂_occupies`
    * `Tag.reads_iff`
    * `Tag.entries_lead`
    * `Tag.entries_partition_marks`
-/

namespace Marginalia

namespace Tag

------------------------------------------------------------
-- Marks of a Text
------------------------------------------------------------

/-
  An offset of a text at which an `@` starts a line. The flag
  tells whether the text itself starts at the beginning of a
  line.
-/
def IsMark
    (lineStart : Bool)
    (text : Text)
    (offset : Nat) : Prop :=
  text[offset]? = some '@' ∧
    (offset = 0 ∧ lineStart = true ∨
      0 < offset ∧ text[offset - 1]? = some '\n')

instance
    (lineStart : Bool)
    (text : Text)
    (offset : Nat) :
    Decidable (IsMark lineStart text offset) := by
  unfold IsMark
  infer_instance

/- The marks of a text, in order. -/
def marks
    (lineStart : Bool)
    (text : Text) : List Nat :=
  (List.range text.length).filter (IsMark lineStart text ·)

/- Each of some marks with the next one, the last with the end. -/
def spans
    (stop : Nat) : List Nat → List (Nat × Nat)
  | [] => []
  | start :: rest => (start, rest.headD stop) :: spans stop rest

/- Behind the first character, marks are those of the rest. -/
theorem isMark_succ_iff
    {lineStart : Bool}
    {c : Char}
    {rest : Text}
    {offset : Nat} :
    IsMark lineStart (c :: rest) (offset + 1) ↔
      IsMark (c == '\n') rest offset := by
  unfold IsMark
  cases offset with
  | zero => simp
  | succ offset => simp

/- The marks of a text by its first character. -/
theorem marks_cons
    (lineStart : Bool)
    (c : Char)
    (rest : Text) :
    marks lineStart (c :: rest) =
      (if (lineStart && c == '@') = true then [0] else []) ++
        (marks (c == '\n') rest).map (· + 1) := by
  have hFirst :
      IsMark lineStart (c :: rest) 0 ↔
        (lineStart && c == '@') = true := by
    simp [IsMark, and_comm]
  have hRest :
      (fun offset => decide (IsMark lineStart (c :: rest) offset)) ∘
          Nat.succ =
        fun offset => decide (IsMark (c == '\n') rest offset) := by
    funext offset
    exact decide_eq_decide.mpr isMark_succ_iff
  unfold marks
  rw [List.length_cons, List.range_succ_eq_map, List.filter_cons,
    List.filter_map, hRest]
  by_cases hMark : (lineStart && c == '@') = true
  · simp [hMark, hFirst]
  · simp [hMark, hFirst]

/- A line break at the end of a text adds no mark. -/
theorem marks_newline
    (lineStart : Bool)
    (text : Text) :
    marks lineStart (text ++ ['\n']) = marks lineStart text := by
  induction text generalizing lineStart with
  | nil => simp [marks, IsMark]
  | cons c rest ih =>
      rw [List.cons_append, marks_cons, marks_cons, ih]

/- Marks that are moved on have spans that are moved on. -/
theorem spans_map
    (stop : Nat)
    (marks : List Nat) :
    spans (stop + 1) (marks.map (· + 1)) =
      (spans stop marks).map (Prod.map (· + 1) (· + 1)) := by
  induction marks with
  | nil => rfl
  | cons start rest ih =>
      have hNext :
          (rest.map (· + 1)).headD (stop + 1) =
            rest.headD stop + 1 :=
        List.headD_map
      simp only [List.map_cons, spans, ih, Prod.map_apply, hNext]

/- There are as many spans as marks. -/
theorem length_spans
    (stop : Nat)
    (marks : List Nat) :
    (spans stop marks).length = marks.length := by
  induction marks with
  | nil => rfl
  | cons start rest ih => simp [spans, ih]

------------------------------------------------------------
-- Segments by Their Marks
------------------------------------------------------------

/- A part of a text that stands from one offset up to another. -/
def Occupies
    (text : Text)
    (span : Nat × Nat)
    (part : Text) : Prop :=
  ∃ before after,
    text = before ++ part ++ after ∧
    span.1 = before.length ∧
    span.2 = before.length + part.length

/- A part is moved on by a character in front of the text. -/
theorem Occupies.cons
    {text part : Text}
    {span : Nat × Nat}
    (hPart : Occupies text span part)
    (c : Char) :
    Occupies (c :: text) (span.map (· + 1) (· + 1)) part := by
  rcases hPart with ⟨before, after, rfl, hStart, hStop⟩
  refine ⟨c :: before, after, rfl, ?_, ?_⟩
  · simp [hStart]
  · simp only [Prod.map_snd, List.length_cons]
    omega

/- The text before the first segment goes up to the first mark. -/
theorem length_lead
    (lineStart : Bool)
    (text : Text) :
    (segments lineStart text).1.length =
      (marks lineStart text).headD text.length := by
  induction text generalizing lineStart with
  | nil => rfl
  | cons c rest ih =>
      rw [segments_cons, marks_cons]
      by_cases hMark : (lineStart && c == '@') = true
      · simp [hMark]
      · have hNext :
            ((marks (c == '\n') rest).map (· + 1)).headD
                (rest.length + 1) =
              (marks (c == '\n') rest).headD rest.length + 1 :=
          List.headD_map
        rw [if_neg hMark, if_neg hMark, List.nil_append,
          List.length_cons, List.length_cons, ih, hNext]

/- Every segment goes from its mark up to the next one. -/
theorem forall₂_occupies
    (lineStart : Bool)
    (text : Text) :
    List.Forall₂ (Occupies text)
      (spans text.length (marks lineStart text))
      (segments lineStart text).2 := by
  induction text generalizing lineStart with
  | nil => exact List.Forall₂.nil
  | cons c rest ih =>
      have hRest :
          List.Forall₂ (Occupies (c :: rest))
            (spans (c :: rest).length
              ((marks (c == '\n') rest).map (· + 1)))
            (segments (c == '\n') rest).2 := by
        rw [List.length_cons, spans_map, List.forall₂_map_left_iff]
        apply (ih (c == '\n')).imp
        intro span part hPart
        exact hPart.cons c
      rw [segments_cons, marks_cons]
      by_cases hMark : (lineStart && c == '@') = true
      · rw [if_pos hMark, if_pos hMark, List.singleton_append, spans]
        refine List.Forall₂.cons ?_ hRest
        refine ⟨[], (segments (c == '\n') rest).2.flatten, ?_, rfl, ?_⟩
        · rw [List.nil_append, List.cons_append, segments_flatten]
        · rw [List.length_cons, List.length_nil, List.headD_map,
            List.length_cons, length_lead, Nat.zero_add]
      · rw [if_neg hMark, if_neg hMark, List.nil_append]
        exact hRest

------------------------------------------------------------
-- Readings of a Mark
------------------------------------------------------------

/- A text that opens with a name and the blank behind it. -/
structure Heads
    (name : Text)
    (blank : Char)
    (value text : Text) : Prop where
  named : name ≠ []
  word : ∀ c ∈ name, isWord c = true
  apart : isBlank blank = true
  text_eq : text = name ++ blank :: value

/-
  How the mark at one offset of a block is read, when the next
  mark or the end is at the other one. The end of the block
  counts as a line break. A tag takes the whole text between:
  its name, one blank and its value. Where no name or no blank
  follows the mark, the rest of the line is ignored.
-/
inductive Reads
    (block : Text)
    (start stop : Nat) : Entry → Prop where
  | pair
      {name value body : Text}
      {blank : Char}
      (hSpan : (block ++ ['\n']).extract start stop = '@' :: body)
      (hHeads : Heads name blank value body) :
      Reads block start stop (.pair name value)
  | ignored
      (hNone :
        ∀ name blank value,
          ¬Heads name blank value
            ((block ++ ['\n']).drop (start + 1))) :
      Reads block start stop
        (.ignored ((block.drop start).takeWhile (· != '\n')))

/- A segment with a name and a blank is read as a tag. -/
theorem Heads.ofSegment_eq
    {name value body : Text}
    {blank : Char}
    (hHeads : Heads name blank value body) :
    Entry.ofSegment ('@' :: body) = .pair name value := by
  rw [hHeads.text_eq]
  exact Entry.ofSegment_append hHeads.named hHeads.word hHeads.apart
    value

/- Any other segment is ignored. -/
theorem ofSegment_of_not_heads
    {body : Text}
    (hNone : ∀ name blank value, ¬Heads name blank value body) :
    Entry.ofSegment ('@' :: body) =
      .ignored (('@' :: body).takeWhile (· != '\n')) := by
  have hParts : body.takeWhile isWord ++ body.dropWhile isWord = body :=
    List.takeWhile_append_dropWhile
  have hWord : ∀ c ∈ body.takeWhile isWord, isWord c = true := by
    intro c hMember
    exact List.mem_takeWhile_imp hMember
  unfold Entry.ofSegment
  simp only [List.drop_succ_cons, List.drop_zero]
  split
  · rename_i c name blank value hName hRest
    rw [hName] at hWord
    rw [hName, hRest] at hParts
    split
    · rename_i hBlank
      exact absurd
        ⟨List.cons_ne_nil c name, hWord, hBlank, hParts.symm⟩
        (hNone (c :: name) blank value)
    · rfl
  · rfl

/- A name and a blank before a line break are settled by it. -/
theorem exists_heads_append_iff
    {name body : Text}
    {blank : Char}
    (hBreak : '\n' ∈ body)
    (after : Text) :
    (∃ value, Heads name blank value (body ++ after)) ↔
      ∃ value, Heads name blank value body := by
  have hNewline : isWord '\n' = false := by decide
  constructor
  · intro hLonger
    rcases hLonger with ⟨value, hHeads⟩
    have hStop : ∀ c ∈ (blank :: value).head?, isWord c = false := by
      intro c hHead
      rw [← Option.some.inj hHead]
      exact isWord_of_isBlank hHeads.apart
    have hParts := Text.stretch_append hHeads.word hStop
    rw [← hHeads.text_eq,
      Text.takeWhile_append_of_mem hNewline hBreak,
      Text.dropWhile_append_of_mem hNewline hBreak] at hParts
    have hRest := Text.mem_dropWhile hNewline hBreak
    rcases List.exists_cons_of_ne_nil (List.ne_nil_of_mem hRest) with
      ⟨first, rest, hDrop⟩
    rw [hDrop, List.cons_append, List.cons.injEq] at hParts
    rcases hParts with ⟨hName, hBlank, -⟩
    refine ⟨rest, hHeads.named, hHeads.word, hHeads.apart, ?_⟩
    rw [← hName, ← hBlank, ← hDrop]
    exact List.takeWhile_append_dropWhile.symm
  · intro hShorter
    rcases hShorter with ⟨value, hHeads⟩
    refine ⟨value ++ after, hHeads.named, hHeads.word, hHeads.apart, ?_⟩
    rw [hHeads.text_eq, List.append_assoc, List.cons_append]

/- A line goes up to the line break that is put at its end. -/
theorem takeWhile_newline
    (text : Text) :
    (text ++ ['\n']).takeWhile (· != '\n') =
      text.takeWhile (· != '\n') := by
  rw [List.takeWhile_append]
  split
  · rename_i hWhole
    have hSelf : text.takeWhile (· != '\n') = text :=
      (List.takeWhile_prefix _).eq_of_length hWhole
    rw [hSelf]
    simp
  · rfl

/-
  The mark of a segment that ends a line is read as the
  segment is, and in no other way.
-/
theorem reads_iff
    {block body : Text}
    {span : Nat × Nat}
    (hSpan : Occupies (block ++ ['\n']) span ('@' :: body))
    (hBreak : '\n' ∈ body)
    {entry : Entry} :
    Reads block span.1 span.2 entry ↔
      entry = Entry.ofSegment ('@' :: body) := by
  rcases span with ⟨start, stop⟩
  rcases hSpan with ⟨before, after, hText, rfl, rfl⟩
  have hExtract :
      (block ++ ['\n']).extract before.length
          (before.length + ('@' :: body).length) =
        '@' :: body := by
    rw [hText]
    simp
  have hDrop :
      (block ++ ['\n']).drop (before.length + 1) = body ++ after := by
    rw [hText]
    simp
  have hLine :
      (block.drop before.length).takeWhile (· != '\n') =
        ('@' :: body).takeWhile (· != '\n') := by
    have hInside : before.length ≤ block.length := by
      have hLength := congrArg List.length hText
      simp only [List.length_append, List.length_cons,
        List.length_nil] at hLength
      have hLong := List.length_pos_of_mem hBreak
      omega
    calc (block.drop before.length).takeWhile (· != '\n')
        = ((block ++ ['\n']).drop before.length).takeWhile
            (· != '\n') := by
          rw [List.drop_append_of_le_length hInside,
            takeWhile_newline]
      _ = (('@' :: body) ++ after).takeWhile (· != '\n') := by
          rw [hText, List.append_assoc, List.drop_left]
      _ = ('@' :: body).takeWhile (· != '\n') :=
          Text.takeWhile_append_of_mem (by decide)
            (List.mem_cons_of_mem '@' hBreak) after
  constructor
  · intro hReads
    rcases hReads with ⟨hSpan, hHeads⟩ | hNone
    · rw [hExtract, List.cons.injEq] at hSpan
      rw [hSpan.2, hHeads.ofSegment_eq]
    · rw [hLine, ofSegment_of_not_heads]
      intro name blank value hHeads
      rcases (exists_heads_append_iff hBreak after).mpr
          ⟨value, hHeads⟩ with ⟨longer, hLonger⟩
      rw [← hDrop] at hLonger
      exact hNone name blank longer hLonger
  · intro hEntry
    by_cases hSome : ∃ name blank value, Heads name blank value body
    · rcases hSome with ⟨name, blank, value, hHeads⟩
      rw [hEntry, hHeads.ofSegment_eq]
      exact .pair hExtract hHeads
    · have hNone :
          ∀ name blank value, ¬Heads name blank value body := by
        intro name blank value hHeads
        exact hSome ⟨name, blank, value, hHeads⟩
      rw [hEntry, ofSegment_of_not_heads hNone, ← hLine]
      apply Reads.ignored
      intro name blank value hHeads
      rw [hDrop] at hHeads
      rcases (exists_heads_append_iff hBreak after).mp
          ⟨value, hHeads⟩ with ⟨shorter, hShorter⟩
      exact hNone name blank shorter hShorter

------------------------------------------------------------
-- One Entry for Every Mark
------------------------------------------------------------

/- What stands before the first mark adds no entry. -/
theorem entries_lead
    (block : Text) :
    entries (block.drop ((marks true block).headD block.length)) =
      entries block := by
  have hBlock :
      block.drop ((marks true block).headD block.length) =
        (segments true block).2.flatten := by
    have hDrop :
        ((segments true block).1 ++
            (segments true block).2.flatten).drop
              (segments true block).1.length =
          (segments true block).2.flatten :=
      List.drop_left
    rwa [segments_flatten, length_lead] at hDrop
  rw [hBlock]
  unfold entries
  rw [segments_newline block]

/- An entry is either a pair or ignored. -/
theorem length_pairs_add_ignored
    (entries : List Entry) :
    (entries.filterMap Entry.pair?).length +
        (entries.filterMap Entry.ignored?).length =
      entries.length := by
  induction entries with
  | nil => rfl
  | cons entry rest ih =>
      cases entry with
      | pair name value =>
          simp only [List.filterMap_cons, Entry.pair?, Entry.ignored?,
            List.length_cons]
          omega
      | ignored line =>
          simp only [List.filterMap_cons, Entry.pair?, Entry.ignored?,
            List.length_cons]
          omega

/-
  The tags of a block and its ignored lines partition its
  marks. Every mark, in order, has one reading, with the text
  up to the next mark or the end of the block; the tags are
  the readings that are pairs, and the ignored lines are the
  others. What stands before the first mark adds to neither.
-/
theorem entries_partition_marks
    (block : Text) :
    ∃ entries : List Entry,
      List.Forall₂
        (fun span entry =>
          ∀ other, Reads block span.1 span.2 other ↔ other = entry)
        (spans (block.length + 1) (marks true block)) entries ∧
      pairs block = entries.filterMap Entry.pair? ∧
      ignoredLines block = entries.filterMap Entry.ignored? ∧
      (pairs block).length + (ignoredLines block).length =
        (marks true block).length ∧
      pairs (block.drop ((marks true block).headD block.length)) =
        pairs block ∧
      ignoredLines
          (block.drop ((marks true block).headD block.length)) =
        ignoredLines block := by
  have hOccupies := forall₂_occupies true (block ++ ['\n'])
  rw [marks_newline, List.length_append, List.length_singleton,
    List.forall₂_iff_zip] at hOccupies
  rcases hOccupies with ⟨hLength, hOccupies⟩
  refine ⟨entries block, ?_, rfl, rfl, ?_, ?_, ?_⟩
  · unfold entries
    rw [List.forall₂_map_right_iff, List.forall₂_iff_zip]
    refine ⟨hLength, ?_⟩
    intro span segment hMember other
    have hSegment := (List.of_mem_zip hMember).2
    have hSpan := hOccupies hMember
    have hEnd :=
      (getLast?_segments_newline true block).2 segment hSegment
    rcases exists_body_of_mem_segments hSegment with ⟨body, rfl, -⟩
    have hBreak : '\n' ∈ body := by
      have hLast := List.mem_of_getLast? hEnd
      exact List.mem_of_ne_of_mem (by decide) hLast
    exact reads_iff hSpan hBreak
  · calc (pairs block).length + (ignoredLines block).length
        = (entries block).length :=
          length_pairs_add_ignored (entries block)
      _ = (spans (block.length + 1) (marks true block)).length := by
          rw [hLength, entries, List.length_map]
      _ = (marks true block).length :=
          length_spans (block.length + 1) (marks true block)
  · unfold pairs
    rw [entries_lead]
  · unfold ignoredLines
    rw [entries_lead]

-- A tag with an empty value, a line that is ignored with the one
-- below it, and a tag that goes up to the end.
example :
    pairs "x @y\n@a\n@-b c\nd\n@e  f".toList =
        [("a".toList, []), ("e".toList, " f\n".toList)] ∧
      ignoredLines "x @y\n@a\n@-b c\nd\n@e  f".toList =
        ["@-b c".toList] := by
  decide

end Tag

end Marginalia
