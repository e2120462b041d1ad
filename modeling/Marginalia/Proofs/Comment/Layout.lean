import Marginalia.Proofs.Comment.Tag

/-
  This file defines how a description and tags are laid out as
  the lines of a comment, says which of them can be written,
  and shows that reading the lines gives them back.

  Key definitions include:
    * `Text.OpensPlainly`
    * `Text.Flush`
    * `Tag.toText`
    * `Tag.IsWritable`
    * `Comment.IsDescription`
    * `Comment.layout`

  Main results:
    * `Tag.exists_pair_toText`
    * `Tag.segments_of_pieces`
    * `Comment.flush_of_mem_layout`
    * `Comment.trimmed_join_layout`
    * `Comment.ofText_layout`
-/

namespace Marginalia

------------------------------------------------------------
-- Lines of a Comment
------------------------------------------------------------

namespace Text

/- A line that opens neither with a blank nor with `@`. -/
def OpensPlainly
    (line : Text) : Prop :=
  ∀ c ∈ line.head?, isBlank c = false ∧ c ≠ '@'

instance
    (line : Text) :
    Decidable line.OpensPlainly :=
  match line with
  | [] => isTrue (by simp [OpensPlainly])
  | c :: _ =>
      decidable_of_iff (isBlank c = false ∧ c ≠ '@')
        (by simp [OpensPlainly])

/- A line without breaks that is not indented. -/
def Flush
    (line : Text) : Prop :=
  line.Unbroken ∧ ∀ c ∈ line.head?, isBlank c = false

/- A text without line breaks is one line. -/
theorem Unbroken.newline_notMem
    {text : Text}
    (hText : text.Unbroken) :
    '\n' ∉ text := by
  intro hMember
  exact absurd (hText '\n' hMember) (by decide)

end Text

------------------------------------------------------------
-- Writing Tags
------------------------------------------------------------

namespace Tag

/-
  A tag as it is written: `@` with the name, then the key and
  the value where there are such, each behind a space.
-/
def toText
    (tag : Tag) : Text :=
  Text.join [' ']
    (('@' :: tag.name) ::
      (tag.key.toList ++
        if tag.value = [] then [] else [tag.value]))

/-
  The tags that can be written. Only a parameter has a key,
  which is a single word, and a parameter without a key has no
  value.
-/
structure IsWritable
    (tag : Tag) : Prop where
  name_ne_nil : tag.name ≠ []
  name_isWord : ∀ c ∈ tag.name, isWord c = true
  value_trimmed : tag.value.Trimmed
  value_unbroken :
    ∀ line ∈ Text.splitAt '\n' tag.value, line.Unbroken
  value_plain :
    ∀ line ∈ (Text.splitAt '\n' tag.value).tail,
      line.OpensPlainly
  key_isParam : tag.key ≠ none → lower tag.name = paramName
  key_solid : ∀ key ∈ tag.key, key ≠ [] ∧ key.Solid
  value_of_unkeyed :
    lower tag.name = paramName → tag.key = none → tag.value = []

/- What a tag is written with before its value. -/
def opening
    (tag : Tag) : Text :=
  '@' :: tag.name ++ tag.key.elim [] (' ' :: ·) ++
    if tag.value = [] then [] else [' ']

/- A tag is written as its opening and its value. -/
theorem toText_eq
    (tag : Tag) :
    tag.toText = tag.opening ++ tag.value := by
  unfold toText opening
  by_cases hValue : tag.value = []
  · cases tag.key <;> simp [hValue, Text.join]
  · cases tag.key <;> simp [hValue, Text.join]

namespace IsWritable

variable {tag : Tag}

/- No blank is in the mark and name of a tag. -/
theorem mark_solid
    (hTag : tag.IsWritable) :
    Text.Solid ('@' :: tag.name) := by
  intro c hMember
  rcases List.mem_cons.mp hMember with rfl | hMember
  · decide
  · exact isBlank_of_isWord (hTag.name_isWord c hMember)

/- Nothing before the value of a tag breaks a line. -/
theorem opening_unbroken
    (hTag : tag.IsWritable) :
    tag.opening.Unbroken := by
  have hSpace : Text.Unbroken [' '] := by decide
  unfold opening
  apply Text.Unbroken.append
  · apply Text.Unbroken.append
    · exact hTag.mark_solid.unbroken
    · cases hKey : tag.key with
      | none => decide
      | some key =>
          exact hSpace.append
            (hTag.key_solid key hKey).2.unbroken
  · split
    · decide
    · exact hSpace

/- The lines of a tag are those of its value, but for the first. -/
theorem splitAt_toText
    (hTag : tag.IsWritable) :
    Text.splitAt '\n' tag.toText =
      Text.prepend tag.opening (Text.splitAt '\n' tag.value) := by
  rw [toText_eq]
  exact Text.splitAt_append
    hTag.opening_unbroken.newline_notMem tag.value

/- The lines of a tag are flush. -/
theorem flush_of_mem_toText
    (hTag : tag.IsWritable)
    {line : Text}
    (hLine : line ∈ Text.splitAt '\n' tag.toText) :
    line.Flush := by
  have hUnbroken := hTag.value_unbroken
  have hPlain := hTag.value_plain
  rw [hTag.splitAt_toText] at hLine
  cases hSplit : Text.splitAt '\n' tag.value with
  | nil => exact absurd hSplit (Text.splitAt_ne_nil '\n' tag.value)
  | cons first rest =>
      rw [hSplit] at hLine hUnbroken hPlain
      rcases List.mem_cons.mp hLine with rfl | hLine
      · constructor
        · exact hTag.opening_unbroken.append
            (hUnbroken first List.mem_cons_self)
        · intro c hHead
          rw [← Option.some.inj hHead]
          decide
      · constructor
        · exact hUnbroken line (List.mem_cons_of_mem first hLine)
        · intro c hHead
          exact (hPlain line hLine c hHead).1

/- No line of a tag but the first opens with `@`. -/
theorem plain_toText
    (hTag : tag.IsWritable) :
    Plain false tag.toText := by
  have hPlain := hTag.value_plain
  rw [plain_iff.2, hTag.splitAt_toText]
  cases hSplit : Text.splitAt '\n' tag.value with
  | nil => exact absurd hSplit (Text.splitAt_ne_nil '\n' tag.value)
  | cons first rest =>
      rw [hSplit] at hPlain
      intro line hLine hHead
      exact (hPlain line hLine '@' hHead).2 rfl

/- A written tag is trimmed. -/
theorem toText_trimmed
    (hTag : tag.IsWritable) :
    tag.toText.Trimmed := by
  apply Text.trimmed_join
  intro part hPart
  rcases List.mem_cons.mp hPart with rfl | hPart
  · exact ⟨hTag.mark_solid.trimmed, List.cons_ne_nil _ _⟩
  · rcases List.mem_append.mp hPart with hKey | hValue
    · rcases hTag.key_solid part (Option.mem_toList.mp hKey) with
        ⟨hNonempty, hSolid⟩
      exact ⟨hSolid.trimmed, hNonempty⟩
    · split at hValue
      · simp at hValue
      · rename_i hNonempty
        rw [List.mem_singleton.mp hValue]
        exact ⟨hTag.value_trimmed, hNonempty⟩

end IsWritable

------------------------------------------------------------
-- Reading Written Tags
------------------------------------------------------------

/- A name is read up to the blank behind it. -/
theorem Entry.ofSegment_append
    {name : Text}
    (hNonempty : name ≠ [])
    (hWord : ∀ c ∈ name, isWord c = true)
    {blank : Char}
    (hBlank : isBlank blank = true)
    (value : Text) :
    Entry.ofSegment ('@' :: name ++ blank :: value) =
      .pair name value := by
  have hStop : ∀ c ∈ (blank :: value).head?, isWord c = false := by
    intro c hHead
    rw [← Option.some.inj hHead]
    exact isWord_of_isBlank hBlank
  have hParts := Text.stretch_append hWord hStop
  cases name with
  | nil => exact absurd rfl hNonempty
  | cons c rest =>
      unfold Entry.ofSegment
      simp only [List.cons_append, List.drop_succ_cons,
        List.drop_zero] at hParts ⊢
      rw [hParts.1, hParts.2]
      simp [hBlank]

/-
  Behind the name and key of a tag, a blank follows with what
  is trimmed to the value.
-/
theorem exists_toText_newline
    {tag : Tag}
    (hValue : tag.value.Trimmed) :
    ∃ blank rest, isBlank blank = true ∧
      Text.trim rest = tag.value ∧
      tag.toText ++ ['\n'] =
        '@' :: tag.name ++ tag.key.elim [] (' ' :: ·) ++
          blank :: rest := by
  rw [toText_eq]
  unfold opening
  by_cases hNone : tag.value = []
  · refine ⟨'\n', [], by decide, hNone.symm, ?_⟩
    simp [hNone]
  · refine ⟨' ', tag.value ++ ['\n'], by decide, ?_, ?_⟩
    · rw [Text.trim_append_blank tag.value (by decide)]
      exact hValue
    · simp [hNone]

/- The key of a parameter is split off before trimming. -/
theorem ofPair_of_param
    {name value rest : Text}
    {key : Option Text}
    (hParam : lower name = paramName)
    (hSplit : splitKey value = (key, rest)) :
    ofPair (name, value) = { name, value := rest.trim, key } := by
  simp only [ofPair, hParam, if_true, hSplit]

/- The value of any other tag is trimmed as it is. -/
theorem ofPair_of_ne_param
    {name : Text}
    (hParam : lower name ≠ paramName)
    (value : Text) :
    ofPair (name, value) = { name, value := value.trim } := by
  simp only [ofPair, hParam, if_false]

/- A written tag with a line break behind it is read again. -/
theorem exists_pair_toText
    {tag : Tag}
    (hTag : tag.IsWritable) :
    ∃ value,
      Entry.ofSegment (tag.toText ++ ['\n']) =
        .pair tag.name value ∧
      ofPair (tag.name, value) = tag := by
  rcases exists_toText_newline hTag.value_trimmed with
    ⟨blank, rest, hBlank, hTrim, hText⟩
  rw [hText]
  cases hKey : tag.key with
  | none =>
      refine ⟨rest, ?_, ?_⟩
      · rw [Option.elim_none, List.append_nil]
        exact Entry.ofSegment_append hTag.name_ne_nil
          hTag.name_isWord hBlank rest
      · by_cases hParam : lower tag.name = paramName
        · have hValue := hTag.value_of_unkeyed hParam hKey
          have hRest : Text.AllBlank rest := by
            rw [hValue] at hTrim
            exact Text.allBlank_of_trim hTrim
          rw [ofPair_of_param hParam (splitKey_of_allBlank hRest),
            hTrim, ← hKey]
        · rw [ofPair_of_ne_param hParam, hTrim, ← hKey]
  | some key =>
      rcases hTag.key_solid key hKey with ⟨hNonempty, hSolid⟩
      have hParam : lower tag.name = paramName :=
        hTag.key_isParam (by simp [hKey])
      have hNothing : Text.AllBlank [] := by decide
      refine ⟨key ++ blank :: rest, ?_, ?_⟩
      · rw [Option.elim_some, List.append_assoc, List.cons_append]
        exact Entry.ofSegment_append hTag.name_ne_nil
          hTag.name_isWord (by decide) (key ++ blank :: rest)
      · have hSplit :
            splitKey (key ++ blank :: rest) =
              (some key, Text.trimStart rest) :=
          splitKey_append hNothing hNonempty hSolid hBlank rest
        rw [ofPair_of_param hParam hSplit, Text.trim_trimStart,
          hTrim, ← hKey]

/- Written tags are read again from their segments. -/
theorem ofPair_toText
    {tags : List Tag}
    (hTags : ∀ tag ∈ tags, tag.IsWritable) :
    (((tags.map (·.toText ++ ['\n'])).map
      Entry.ofSegment).filterMap Entry.pair?).map ofPair = tags := by
  induction tags with
  | nil => rfl
  | cons tag rest ih =>
      have hRest := ih fun other hMember =>
        hTags other (List.mem_cons_of_mem tag hMember)
      rcases exists_pair_toText (hTags tag List.mem_cons_self) with
        ⟨value, hSegment, hPair⟩
      have hFirst :
          (Entry.ofSegment (tag.toText ++ ['\n'])).pair? =
            some (tag.name, value) := by
        rw [hSegment]
        rfl
      rw [List.map_cons, List.map_cons,
        List.filterMap_cons_some hFirst, List.map_cons, hPair,
        hRest]

/-
  Pieces that open with `@`, hold no other `@` at the start of
  a line and end a line are the segments of their text.
-/
theorem segments_of_pieces
    {pieces : List Text}
    (hPieces :
      ∀ piece ∈ pieces, piece.head? = some '@' ∧
        Plain false piece ∧ atLineStart false piece = true) :
    segments true pieces.flatten = ([], pieces) := by
  induction pieces with
  | nil => rfl
  | cons piece rest ih =>
      rcases hPieces piece List.mem_cons_self with
        ⟨hHead, hPlain, hEnd⟩
      rcases List.head?_eq_some_iff.mp hHead with ⟨body, rfl⟩
      have hRest := ih fun other hMember =>
        hPieces other (List.mem_cons_of_mem _ hMember)
      have hBody : Plain ('@' == '\n') body :=
        (plain_cons_iff.mp hPlain).2
      have hBodyEnd : atLineStart ('@' == '\n') body = true := hEnd
      rw [List.flatten_cons, List.cons_append, segments_cons,
        segments_append hBody, hBodyEnd, hRest]
      simp

end Tag

------------------------------------------------------------
-- Layout of a Comment
------------------------------------------------------------

namespace Comment

/- The descriptions that can be written. -/
structure IsDescription
    (text : Text) : Prop where
  trimmed : text.Trimmed
  unbroken : ∀ line ∈ Text.splitAt '\n' text, line.Unbroken
  plain : ∀ line ∈ Text.splitAt '\n' text, line.OpensPlainly

/- The parts of a comment: its description, if any, and its tags. -/
def paragraphs
    (text : Text)
    (tags : List Tag) : List Text :=
  (if text = [] then [] else [text]) ++ tags.map Tag.toText

/- The lines that a description and tags are laid out as. -/
def layout
    (text : Text)
    (tags : List Tag) : List Text :=
  (paragraphs text tags).flatMap (Text.splitAt '\n')

section Layout

variable {text : Text} {tags : List Tag}

/- A paragraph is the description or a tag. -/
theorem mem_paragraphs
    {paragraph : Text}
    (hMember : paragraph ∈ paragraphs text tags) :
    (paragraph = text ∧ text ≠ []) ∨
      ∃ tag ∈ tags, paragraph = tag.toText := by
  rcases List.mem_append.mp hMember with hText | hTag
  · left
    split at hText
    · simp at hText
    · rename_i hNonempty
      exact ⟨List.mem_singleton.mp hText, hNonempty⟩
  · right
    rcases List.mem_map.mp hTag with ⟨tag, hTag, hEq⟩
    exact ⟨tag, hTag, hEq.symm⟩

/- The lines of a comment are flush. -/
theorem flush_of_mem_layout
    (hText : IsDescription text)
    (hTags : ∀ tag ∈ tags, tag.IsWritable)
    {line : Text}
    (hLine : line ∈ layout text tags) :
    line.Flush := by
  rcases List.mem_flatMap.mp hLine with
    ⟨paragraph, hParagraph, hSplit⟩
  rcases mem_paragraphs hParagraph with
    ⟨rfl, -⟩ | ⟨tag, hTag, rfl⟩
  · constructor
    · exact hText.unbroken line hSplit
    · intro c hHead
      exact (hText.plain line hSplit c hHead).1
  · exact (hTags tag hTag).flush_of_mem_toText hSplit

/- The lines of a comment are joined as its paragraphs are. -/
theorem join_layout
    (text : Text)
    (tags : List Tag) :
    Text.join ['\n'] (layout text tags) =
      Text.join ['\n'] (paragraphs text tags) :=
  Text.join_flatMap_splitAt '\n' (paragraphs text tags)

/- The text of a comment is trimmed. -/
theorem trimmed_join_layout
    (hText : IsDescription text)
    (hTags : ∀ tag ∈ tags, tag.IsWritable) :
    Text.Trimmed (Text.join ['\n'] (layout text tags)) := by
  rw [join_layout]
  apply Text.trimmed_join
  intro paragraph hParagraph
  rcases mem_paragraphs hParagraph with
    ⟨rfl, hNonempty⟩ | ⟨tag, hTag, rfl⟩
  · exact ⟨hText.trimmed, hNonempty⟩
  · refine ⟨(hTags tag hTag).toText_trimmed, ?_⟩
    rw [Tag.toText_eq]
    exact List.cons_ne_nil _ _

/-
  With a line break behind it, the text of a comment is a lead
  that is trimmed to the description, and the tags, each with
  a line break.
-/
theorem exists_join_paragraphs
    (hText : IsDescription text)
    (tags : List Tag) :
    ∃ lead : Text, Tag.Plain true lead ∧
      Tag.atLineStart true lead = true ∧
      lead.trim = text ∧
      Text.join ['\n'] (paragraphs text tags) ++ ['\n'] =
        lead ++ (tags.map (·.toText ++ ['\n'])).flatten := by
  have hMap :
      (tags.map Tag.toText).map (· ++ ['\n']) =
        tags.map (·.toText ++ ['\n']) := by
    rw [List.map_map]
    rfl
  by_cases hNone : paragraphs text tags = []
  · rcases List.append_eq_nil_iff.mp hNone with ⟨hEmpty, hTags⟩
    have hEq : text = [] := by
      by_contra hNonempty
      simp [hNonempty] at hEmpty
    refine ⟨['\n'], rfl, rfl, ?_, ?_⟩
    · rw [hEq]
      decide
    · rw [hNone, ← hMap, hTags]
      rfl
  · rw [Text.join_append_self ['\n'] hNone, paragraphs,
      List.map_append, List.flatten_append, hMap]
    by_cases hEmpty : text = []
    · refine ⟨[], Tag.plain_nil true, rfl, hEmpty.symm, ?_⟩
      simp [hEmpty]
    · refine ⟨text ++ ['\n'], ?_, ?_, ?_, ?_⟩
      · have hPlain : Tag.Plain true text := by
          rw [Tag.plain_iff.1]
          intro line hLine hHead
          exact (hText.plain line hLine '@' hHead).2 rfl
        exact Tag.plain_append_iff.mpr
          ⟨hPlain, Tag.plain_newline _⟩
      · rw [Tag.atLineStart_append]
        rfl
      · rw [Text.trim_append_blank text (by decide)]
        exact hText.trimmed
      · simp [hEmpty]

/- Reading the lines of a comment gives the comment back. -/
theorem ofText_layout
    (hText : IsDescription text)
    (hTags : ∀ tag ∈ tags, tag.IsWritable) :
    ofText (Text.join ['\n'] (layout text tags)) =
      { text, tags,
        source := Text.join ['\n'] (layout text tags) } := by
  rcases exists_join_paragraphs hText tags with
    ⟨lead, hPlain, hStart, hTrim, hJoin⟩
  have hPieces :
      ∀ piece ∈ tags.map (·.toText ++ ['\n']),
        piece.head? = some '@' ∧ Tag.Plain false piece ∧
          Tag.atLineStart false piece = true := by
    intro piece hMember
    rcases List.mem_map.mp hMember with ⟨tag, hTag, rfl⟩
    refine ⟨?_, ?_, ?_⟩
    · rw [Tag.toText_eq]
      rfl
    · exact Tag.plain_append_iff.mpr
        ⟨(hTags tag hTag).plain_toText, Tag.plain_newline _⟩
    · rw [Tag.atLineStart_append]
      rfl
  have hSegments :
      Tag.segments true
          (Text.join ['\n'] (layout text tags) ++ ['\n']) =
        (lead, tags.map (·.toText ++ ['\n'])) := by
    rw [join_layout, hJoin, Tag.segments_append hPlain, hStart,
      Tag.segments_of_pieces hPieces, List.append_nil]
  have hReadText :=
    text_ofText (Text.join ['\n'] (layout text tags))
  have hReadTags :=
    tags_ofText (Text.join ['\n'] (layout text tags))
  rw [hSegments, hTrim] at hReadText
  rw [hSegments, Tag.ofPair_toText hTags] at hReadTags
  calc ofText (Text.join ['\n'] (layout text tags))
      = { text := (ofText (Text.join ['\n']
              (layout text tags))).text,
          tags := (ofText (Text.join ['\n']
              (layout text tags))).tags,
          source := Text.join ['\n'] (layout text tags) } := rfl
    _ = { text, tags,
          source := Text.join ['\n'] (layout text tags) } := by
        rw [hReadText, hReadTags]

end Layout

end Comment

end Marginalia
