import Marginalia.Proofs.Comment.Marks

/-
  This file states what holds of every comment that is read
  from a block: how its texts are trimmed and broken into
  lines, where an `@` may stand, what tags are named, and
  which of them have keys.

  Key definitions include:
    * `Text.LineFed`
    * `Tag.WellFormed`
    * `Tag.content`
    * `Comment.WellFormed`

  Main results:
    * `Decoration.lineFed_strip`
    * `Tag.plain_of_part`
    * `Tag.allBlank_of_splitKey`
    * `Tag.ofPair_wellFormed`
    * `Comment.text_plain`
    * `Comment.flatMap_content_params`
    * `Comment.ofBlock_wellFormed`
-/

namespace Marginalia

------------------------------------------------------------
-- Line Feeds
------------------------------------------------------------

namespace Text

/- A text in which only line feeds break lines. -/
def LineFed
    (text : Text) : Prop :=
  ∀ c ∈ text, isLineBreak c = true → c = '\n'

/- A part of such a text is one itself. -/
theorem LineFed.of_part
    {part text : Text}
    (hText : text.LineFed)
    (hPart : part <:+: text) :
    part.LineFed := by
  intro c hMember
  exact hText c (hPart.subset hMember)

/- Lines are joined by line feeds alone. -/
theorem lineFed_join
    {lines : List Text}
    (hLines : ∀ line ∈ lines, line.Unbroken) :
    LineFed (join ['\n'] lines) := by
  intro c hMember hBreak
  rcases mem_or_mem_of_mem_join hMember with hFeed | ⟨line, hLine, hChar⟩
  · exact List.mem_singleton.mp hFeed
  · rw [hLines line hLine c hChar] at hBreak
    exact absurd hBreak Bool.false_ne_true

end Text

namespace Decoration

/- What is left of a line is its end. -/
theorem stripLine_isSuffix
    (line : Text) :
    stripLine line <:+ line := by
  unfold stripLine
  split
  · rename_i rest hStart
    have hRest : rest <:+ line := by
      have hWhole := Text.trimStart_isSuffix line
      rw [hStart] at hWhole
      exact (List.suffix_cons '*' rest).trans hWhole
    exact (Text.trimStart_isSuffix rest).trans hRest
  · exact List.suffix_refl line

/- The lines of a block are joined by line feeds. -/
theorem lineFed_strip
    (block : Text) :
    (strip block).LineFed := by
  apply Text.lineFed_join
  intro stripped hMember
  rcases List.mem_map.mp hMember with ⟨line, hLine, rfl⟩
  intro c hChar
  exact Text.unbroken_of_mem_lines block line hLine c
    ((stripLine_isSuffix line).subset hChar)

end Decoration

------------------------------------------------------------
-- Well-Formed Tags
------------------------------------------------------------

namespace Tag

/-
  What holds of every tag that is read. No line of its value
  opens with `@`, but for the one that goes on behind the name
  or the key.
-/
structure WellFormed
    (tag : Tag) : Prop where
  name_ne_nil : tag.name ≠ []
  name_isWord : ∀ c ∈ tag.name, isWord c = true
  value_trimmed : tag.value.Trimmed
  value_lineFed : tag.value.LineFed
  value_plain :
    ∀ line ∈ (Text.splitAt '\n' tag.value).tail,
      line.head? ≠ some '@'
  key_isParam : tag.key ≠ none → lower tag.name = paramName
  key_solid : ∀ key ∈ tag.key, key ≠ [] ∧ key.Solid
  value_of_unkeyed :
    lower tag.name = paramName → tag.key = none → tag.value = []

/- The text of a tag behind its name: its key and its value. -/
def content
    (tag : Tag) : Text :=
  tag.key.getD [] ++ tag.value

/- A text that is plain at the start of a line is so anywhere. -/
theorem Plain.inside
    {lineStart : Bool}
    {text : Text}
    (hPlain : Plain lineStart text) :
    Plain false text := by
  cases lineStart with
  | false => exact hPlain
  | true =>
      rw [plain_iff.1] at hPlain
      rw [plain_iff.2]
      intro line hLine
      exact hPlain line (List.mem_of_mem_tail hLine)

/- A part of a plain text is plain inside a line. -/
theorem plain_of_part
    {lineStart : Bool}
    {part text : Text}
    (hPlain : Plain lineStart text)
    (hPart : part <:+: text) :
    Plain false part := by
  rcases hPart with ⟨before, after, rfl⟩
  rw [plain_append_iff, plain_append_iff] at hPlain
  exact hPlain.1.2.inside

/-
  A value that ends in a blank has a key unless it is blank
  altogether: its first word ends at a blank.
-/
theorem allBlank_of_splitKey
    {value : Text}
    (hEnd : ∀ c ∈ value.getLast?, isBlank c = true)
    (hKey : (splitKey value).1 = none) :
    value.AllBlank := by
  have hDrop : value.trimStart.dropWhile (!isBlank ·) = [] := by
    cases hRest : value.trimStart.dropWhile (!isBlank ·) with
    | nil => rfl
    | cons blank rest => simp [splitKey, hRest] at hKey
  have hStart : value.trimStart = [] := by
    by_contra hInk
    have hLast := List.getLast?_eq_some_getLast hInk
    -- The last character would be both a blank and none.
    have hSolid :=
      List.dropWhile_eq_nil_iff.mp hDrop _ (List.getLast_mem hInk)
    have hBlank : isBlank (value.trimStart.getLast hInk) = true := by
      apply hEnd
      rcases Text.trimStart_isSuffix value with ⟨front, hValue⟩
      rw [Option.mem_def, ← hLast,
        ← List.getLast?_append_of_ne_nil front hInk, hValue]
    rw [hBlank] at hSolid
    exact absurd hSolid Bool.false_ne_true
  exact List.dropWhile_eq_nil_iff.mp hStart

/- What is left of a value behind its key is a part of it. -/
theorem splitKey_isInfix
    (value : Text) :
    (splitKey value).2 <:+: value := by
  rcases splitKey_cases value with hNone |
    ⟨front, key, blank, rest, -, -, -, -, hValue, hSplit⟩
  · exact ⟨[], [], by simp [hNone]⟩
  · have hRest : rest <:+ value := by
      rw [hValue]
      exact (List.suffix_cons blank rest).trans
        (List.suffix_append (front ++ key) (blank :: rest))
    rw [hSplit]
    exact ((Text.trimStart_isSuffix rest).trans hRest).isInfix

/- A key that is split off is a single word. -/
theorem solid_of_splitKey
    {value key : Text}
    (hKey : (splitKey value).1 = some key) :
    key ≠ [] ∧ key.Solid := by
  rcases splitKey_cases value with hNone |
    ⟨front, word, blank, rest, -, hNonempty, hSolid, -, -, hSplit⟩
  · rw [hNone] at hKey
    exact absurd hKey.symm (Option.some_ne_none key)
  · rw [hSplit] at hKey
    rw [← Option.some.inj hKey]
    exact ⟨hNonempty, hSolid⟩

/-
  A name and a value that ends in a blank make a well-formed
  tag.
-/
theorem ofPair_wellFormed
    {name value : Text}
    (hNonempty : name ≠ [])
    (hWord : ∀ c ∈ name, isWord c = true)
    (hFed : value.LineFed)
    (hPlain : Plain false value)
    (hEnd : ∀ c ∈ value.getLast?, isBlank c = true) :
    (ofPair (name, value)).WellFormed := by
  by_cases hParam : lower name = paramName
  · have hPart : (splitKey value).2.trim <:+: value :=
      (Text.trim_isInfix _).trans (splitKey_isInfix value)
    have hUnkeyed :
        (splitKey value).1 = none → (splitKey value).2.trim = [] := by
      intro hNone
      have hBlank := allBlank_of_splitKey hEnd hNone
      rw [splitKey_of_allBlank hBlank]
      exact Text.trim_of_allBlank hBlank
    rw [ofPair_of_param hParam rfl]
    exact
      { name_ne_nil := hNonempty
        name_isWord := hWord
        value_trimmed := Text.trimmed_trim _
        value_lineFed := hFed.of_part hPart
        value_plain := plain_iff.2.mp (plain_of_part hPlain hPart)
        key_isParam := fun _ => hParam
        key_solid := fun _ hKey => solid_of_splitKey hKey
        value_of_unkeyed := fun _ => hUnkeyed }
  · have hPart : value.trim <:+: value := Text.trim_isInfix value
    rw [ofPair_of_ne_param hParam]
    exact
      { name_ne_nil := hNonempty
        name_isWord := hWord
        value_trimmed := Text.trimmed_trim value
        value_lineFed := hFed.of_part hPart
        value_plain := plain_iff.2.mp (plain_of_part hPlain hPart)
        key_isParam := fun hKey => absurd rfl hKey
        key_solid := fun key hKey => absurd hKey (Option.not_mem_none key)
        value_of_unkeyed := fun hName => absurd hName hParam }

/- A segment that is read as a tag opens with its name. -/
theorem exists_heads_of_ofSegment
    {body name value : Text}
    (hPair : Entry.ofSegment ('@' :: body) = .pair name value) :
    ∃ blank, Heads name blank value body := by
  by_cases hSome : ∃ name blank value, Heads name blank value body
  · rcases hSome with ⟨other, blank, rest, hHeads⟩
    rw [hHeads.ofSegment_eq, Entry.pair.injEq] at hPair
    rcases hPair with ⟨rfl, rfl⟩
    exact ⟨blank, hHeads⟩
  · have hNone : ∀ name blank value, ¬Heads name blank value body := by
      intro name blank value hHeads
      exact hSome ⟨name, blank, value, hHeads⟩
    rw [ofSegment_of_not_heads hNone] at hPair
    exact absurd hPair Entry.noConfusion

/- A segment of a text in line feeds is read as a well-formed tag. -/
theorem wellFormed_of_mem_segments
    {text segment name value : Text}
    (hText : text.LineFed)
    (hSegment : segment ∈ (segments true (text ++ ['\n'])).2)
    (hPair : Entry.ofSegment segment = .pair name value) :
    (ofPair (name, value)).WellFormed := by
  have hLast := (getLast?_segments_newline true text).2 segment hSegment
  have hWhole : segment <:+: text ++ ['\n'] := by
    have hFlatten := segments_flatten true (text ++ ['\n'])
    rw [← hFlatten]
    exact (List.infix_of_mem_flatten hSegment).trans
      (List.suffix_append _ _).isInfix
  have hFed : Text.LineFed (text ++ ['\n']) := by
    intro c hMember hBreak
    rcases List.mem_append.mp hMember with hMember | hMember
    · exact hText c hMember hBreak
    · exact List.mem_singleton.mp hMember
  rcases exists_body_of_mem_segments hSegment with ⟨body, rfl, hPlain⟩
  rcases exists_heads_of_ofSegment hPair with ⟨blank, hHeads⟩
  have hValue : value <:+ body := by
    rw [hHeads.text_eq]
    exact (List.suffix_cons blank value).trans
      (List.suffix_append name (blank :: value))
  have hSuffix : value <:+ '@' :: body :=
    hValue.trans (List.suffix_cons '@' body)
  apply ofPair_wellFormed hHeads.named hHeads.word
  · exact hFed.of_part (hSuffix.isInfix.trans hWhole)
  · exact plain_of_part hPlain hValue.isInfix
  · intro c hEnd
    rcases hSuffix with ⟨front, hFront⟩
    have hNonempty : value ≠ [] := by
      rintro rfl
      exact absurd hEnd (Option.not_mem_none c)
    rw [← hFront, List.getLast?_append_of_ne_nil front hNonempty] at hLast
    rw [Option.mem_def.mp hEnd, Option.some.injEq] at hLast
    rw [hLast]
    decide

end Tag

------------------------------------------------------------
-- Well-Formed Comments
------------------------------------------------------------

namespace Comment

/- What holds of every comment that is read from a block. -/
structure WellFormed
    (comment : Comment) : Prop where
  source_trimmed : comment.source.Trimmed
  source_lineFed : comment.source.LineFed
  text_trimmed : comment.text.Trimmed
  text_lineFed : comment.text.LineFed
  text_plain :
    ∀ line ∈ Text.splitAt '\n' comment.text, line.head? ≠ some '@'
  tags_wellFormed : ∀ tag ∈ comment.tags, tag.WellFormed

/- The text before the tags is the start of the comment. -/
theorem lead_isPrefix
    (text : Text) :
    (Tag.segments true text).1 <+: text :=
  ⟨(Tag.segments true text).2.flatten, Tag.segments_flatten true text⟩

/-
  No line of the description opens with `@`. Trimming removes
  nothing from its start, where it could bring an indented `@`
  to the start of the line: the comment is trimmed already.
-/
theorem text_plain
    {text : Text}
    (hTrimmed : text.Trimmed) :
    ∀ line ∈ Text.splitAt '\n' (ofText text).text,
      line.head? ≠ some '@' := by
  have hStart : (Tag.segments true text).1.trimStart =
      (Tag.segments true text).1 := by
    rw [Text.trimStart_eq_self_iff]
    intro c hHead
    rcases lead_isPrefix text with ⟨rest, hText⟩
    apply (Text.trimmed_iff.mp hTrimmed).1 c
    rw [← hText, List.head?_append, Option.mem_def.mp hHead]
    rfl
  rcases Text.exists_trimEnd_append (Tag.segments true text).1 with
    ⟨blanks, -, hEnd⟩
  have hPlain := Tag.plain_lead true text
  rw [hEnd, Tag.plain_append_iff] at hPlain
  have hText : (ofText text).text =
      (Tag.segments true text).1.trimEnd :=
    congrArg Text.trimEnd hStart
  rw [hText]
  exact Tag.plain_iff.1.mp hPlain.1

/- A trimmed text in line feeds is read as a well-formed comment. -/
theorem ofText_wellFormed
    {text : Text}
    (hTrimmed : text.Trimmed)
    (hFed : text.LineFed) :
    (ofText text).WellFormed where
  source_trimmed := hTrimmed
  source_lineFed := hFed
  text_trimmed := Text.trimmed_trim _
  text_lineFed :=
    hFed.of_part ((Text.trim_isInfix _).trans (lead_isPrefix text).isInfix)
  text_plain := text_plain hTrimmed
  tags_wellFormed := by
    intro tag hTag
    rw [tags_ofText] at hTag
    rcases List.mem_map.mp hTag with ⟨⟨name, value⟩, hPair, rfl⟩
    rcases List.mem_filterMap.mp hPair with ⟨entry, hEntry, hRead⟩
    rcases List.mem_map.mp hEntry with ⟨segment, hSegment, rfl⟩
    apply Tag.wellFormed_of_mem_segments hFed hSegment
    cases hCase : Tag.Entry.ofSegment segment with
    | pair =>
        rw [hCase] at hRead
        cases hRead
        rfl
    | ignored =>
        rw [hCase] at hRead
        cases hRead

/- A parameter tag that does not name its parameter has no text. -/
theorem content_of_unkeyed
    {comment : Comment}
    (hTags : ∀ tag ∈ comment.tags, tag.WellFormed)
    {tag : Tag}
    (hMember : tag ∈ comment.named Tag.paramName)
    (hNone : tag.key.isSome = false) :
    tag.content = [] := by
  rcases List.mem_filter.mp hMember with ⟨hTag, hName⟩
  have hParam : lower tag.name = Tag.paramName :=
    of_decide_eq_true hName
  have hKey : tag.key = none :=
    Option.not_isSome_iff_eq_none.mp (Bool.eq_false_iff.mp hNone)
  unfold Tag.content
  rw [hKey, (hTags tag hTag).value_of_unkeyed hParam hKey]
  rfl

/- So the parameters have all the text of the parameter tags. -/
theorem flatMap_content_params
    {comment : Comment}
    (hTags : ∀ tag ∈ comment.tags, tag.WellFormed) :
    comment.params.flatMap Tag.content =
      (comment.named Tag.paramName).flatMap Tag.content := by
  have hLeftOut : ∀ tag ∈ comment.named Tag.paramName,
      tag.key.isSome = false → tag.content = [] := by
    intro tag hMember
    exact content_of_unkeyed hTags hMember
  unfold params
  generalize comment.named Tag.paramName = tags at hLeftOut ⊢
  induction tags with
  | nil => rfl
  | cons tag rest ih =>
      rcases List.forall_mem_cons.mp hLeftOut with ⟨hFirst, hRest⟩
      rw [List.filter_cons, List.flatMap_cons, ← ih hRest]
      cases hKey : tag.key.isSome with
      | true => rfl
      | false =>
          rw [hFirst hKey]
          rfl

/-
  Every comment that is read from a block is well-formed, and
  its parameters have all the text of its parameter tags.
-/
theorem ofBlock_wellFormed
    (body : Text) :
    (ofBlock body).WellFormed ∧
      (ofBlock body).params.flatMap Tag.content =
        ((ofBlock body).named Tag.paramName).flatMap
          Tag.content := by
  have hWellFormed : (ofBlock body).WellFormed :=
    ofText_wellFormed (Text.trimmed_trim _)
      ((Decoration.lineFed_strip body).of_part (Text.trim_isInfix _))
  exact ⟨hWellFormed,
    flatMap_content_params hWellFormed.tags_wellFormed⟩

end Comment

end Marginalia
