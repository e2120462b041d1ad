import Marginalia.Comment
import Marginalia.Proofs.Comment.Tag
import Marginalia.Proofs.Text.Words

/-
  This file shows that a comment keeps the words of the text it
  is read from. Only the stretches that an `@` opens without a
  name are left out, as a whole.

  Key definitions include:
    * `Tag.opensTag`
    * `Tag.withoutIgnored`
    * `Tag.toWords`

  Main results:
    * `Tag.withoutIgnored_eq`
    * `Tag.toWords_ofPair`
    * `Comment.words_conserved`
-/

namespace Marginalia

namespace Tag

------------------------------------------------------------
-- Stretches That Open No Tag
------------------------------------------------------------

/-
  What stands behind an `@` that opens a tag: a name, and then
  a blank or the end of the text.
-/
def opensTag
    (text : Text) : Bool :=
  !(text.takeWhile isWord).isEmpty &&
    match text.dropWhile isWord with
    | [] => true
    | c :: _ => isBlank c

/-
  A text without the stretches that open no tag. Each of them
  goes from an `@` at the start of a line to the next such `@`
  or to the end of the text. The flags tell whether the text
  starts a line, and whether the stretch it goes on with is
  kept.
-/
def withoutIgnored
    (lineStart kept : Bool) : Text → Text
  | [] => []
  | c :: rest =>
      let keeps :=
        if lineStart && c == '@' then opensTag rest else kept
      if keeps then c :: withoutIgnored (c == '\n') keeps rest
      else withoutIgnored (c == '\n') keeps rest

/- Behind a character of no name nothing matters to a tag. -/
theorem opensTag_append
    {text : Text}
    (hEnds : ∃ c ∈ text, isWord c = false)
    (next : Text) :
    opensTag (text ++ next) = opensTag text := by
  rcases hEnds with ⟨c, hMember, hWord⟩
  have hRest := Text.mem_dropWhile hWord hMember
  rcases List.exists_cons_of_ne_nil (List.ne_nil_of_mem hRest) with
    ⟨first, more, hDrop⟩
  unfold opensTag
  rw [Text.takeWhile_append_of_mem hWord hMember,
    Text.dropWhile_append_of_mem hWord hMember, hDrop]
  simp

/- A line break at the end is as good as the end. -/
theorem opensTag_newline
    (text : Text) :
    opensTag (text ++ ['\n']) = opensTag text := by
  by_cases hEnds : ∃ c ∈ text, isWord c = false
  · exact opensTag_append hEnds ['\n']
  · have hWord : ∀ c ∈ text, isWord c = true := by
      intro c hMember
      by_contra hNot
      exact hEnds ⟨c, hMember, by simpa using hNot⟩
    unfold opensTag
    rw [List.takeWhile_append_of_pos hWord,
      List.dropWhile_append_of_pos hWord,
      List.takeWhile_eq_self_iff.mpr hWord,
      List.dropWhile_eq_nil_iff.mpr hWord]
    have hBreak : isWord '\n' = false := by decide
    have hBlank : isBlank '\n' = true := by decide
    simp [hBreak, hBlank]

/- Behind a text that starts no line, a line starts by a break. -/
theorem newline_mem_of_atLineStart
    {lineStart : Bool}
    {text : Text}
    (hStart : atLineStart lineStart text = true) :
    lineStart = true ∨ '\n' ∈ text := by
  induction text generalizing lineStart with
  | nil => exact Or.inl hStart
  | cons c rest ih =>
      rcases ih hStart with hBreak | hMember
      · have hEq : c = '\n' := by simpa using hBreak
        exact Or.inr (hEq ▸ List.mem_cons_self)
      · exact Or.inr (List.mem_cons_of_mem c hMember)

/- Whether an `@` opens a tag is settled in its own segment. -/
theorem opensTag_lead
    (text : Text) :
    opensTag (segments false text).1 = opensTag text := by
  have hSplit := segments_flatten false text
  by_cases hMore : (segments false text).2 = []
  · rw [hMore, List.flatten_nil, List.append_nil] at hSplit
    rw [hSplit]
  · have hBreak : '\n' ∈ (segments false text).1 := by
      rcases newline_mem_of_atLineStart
          (atLineStart_lead hMore) with hFalse | hMember
      · exact absurd hFalse (by decide)
      · exact hMember
    calc opensTag (segments false text).1
        = opensTag ((segments false text).1 ++
            (segments false text).2.flatten) :=
          (opensTag_append ⟨'\n', hBreak, by decide⟩ _).symm
      _ = opensTag text := by rw [hSplit]

/-
  What is left of a text are its first piece and the segments
  that open a tag.
-/
theorem withoutIgnored_eq
    (lineStart kept : Bool)
    (text : Text) :
    withoutIgnored lineStart kept text =
      (if kept then (segments lineStart text).1 else []) ++
        ((segments lineStart text).2.filter
          (opensTag ·.tail)).flatten := by
  induction text generalizing lineStart kept with
  | nil => cases kept <;> rfl
  | cons c rest ih =>
      rw [segments_cons]
      by_cases hMark : (lineStart && c == '@') = true
      · have hAt : c = '@' := by
          simpa using (Bool.and_eq_true_iff.mp hMark).2
        subst hAt
        have hOpens :
            opensTag (segments ('@' == '\n') rest).1 =
              opensTag rest :=
          opensTag_lead rest
        simp only [withoutIgnored, hMark, if_true,
          List.filter_cons, List.tail_cons, hOpens, ih]
        cases opensTag rest <;> simp
      · simp only [withoutIgnored, hMark, if_false, ih,
          Bool.false_eq_true]
        cases kept <;> simp

/- A line break at the end of a text adds no more than blanks. -/
theorem withoutIgnored_newline
    (lineStart kept : Bool)
    (text : Text) :
    ∃ blanks, blanks.AllBlank ∧
      withoutIgnored lineStart kept (text ++ ['\n']) =
        withoutIgnored lineStart kept text ++ blanks := by
  induction text generalizing lineStart kept with
  | nil =>
      cases kept with
      | true => exact ⟨['\n'], by decide, by simp [withoutIgnored]⟩
      | false => exact ⟨[], by decide, by simp [withoutIgnored]⟩
  | cons c rest ih =>
      simp only [List.cons_append, withoutIgnored,
        opensTag_newline]
      by_cases hKeeps :
          (if (lineStart && c == '@') = true then opensTag rest
            else kept) = true
      · rcases ih (c == '\n') true with ⟨blanks, hBlank, hEq⟩
        refine ⟨blanks, hBlank, ?_⟩
        simp only [hKeeps, if_true, hEq, List.cons_append]
      · rcases ih (c == '\n') false with ⟨blanks, hBlank, hEq⟩
        refine ⟨blanks, hBlank, ?_⟩
        simp only [Bool.not_eq_true] at hKeeps
        simp only [hKeeps, Bool.false_eq_true, if_false, hEq]

------------------------------------------------------------
-- The Words of a Tag
------------------------------------------------------------

/- The words of a tag: its mark and name, its key, its value. -/
def toWords
    (tag : Tag) : List Text :=
  ('@' :: tag.name) :: (tag.key.toList ++ tag.value.words)

/- Splitting off a key keeps the words of a value. -/
theorem words_splitKey
    (value : Text) :
    (splitKey value).1.toList ++ (splitKey value).2.words =
      value.words := by
  rcases splitKey_cases value with hNone |
    ⟨front, key, blank, rest, hFront, hNonempty, hKey, hBlank,
      hValue, hSplit⟩
  · rw [hNone]
    rfl
  · rw [hSplit, hValue, List.append_assoc,
      Text.words_blank_append hFront,
      Text.words_append_cons key rest hBlank,
      Text.words_of_solid hNonempty hKey,
      Text.words_trimStart]
    rfl

/- A tag has the words of the pair it is read from. -/
theorem toWords_ofPair
    (name value : Text) :
    toWords (ofPair (name, value)) =
      ('@' :: name) :: value.words := by
  unfold ofPair toWords
  by_cases hParam : lower name = paramName
  · simp only [hParam, if_true, Text.words_trim]
    rw [words_splitKey]
  · simp only [hParam, if_false, Text.words_trim, Option.toList_none,
      List.nil_append]

/-
  A segment that ends in a line break has the words of the tag
  that it opens, if it opens one.
-/
theorem toWords_ofSegment
    {body : Text}
    (hEnd : ('@' :: body).getLast? = some '\n') :
    ((Entry.ofSegment ('@' :: body)).pair?.toList.map
        ofPair).flatMap toWords =
      if opensTag body then Text.words ('@' :: body) else [] := by
  have hBreak : '\n' ∈ body := by
    have hMember := List.mem_of_getLast? hEnd
    simpa using hMember
  have hAt : isBlank '@' = false := by decide
  cases hRest : body.dropWhile isWord with
  | nil =>
      have hWord := List.dropWhile_eq_nil_iff.mp hRest '\n' hBreak
      exact absurd hWord (by decide)
  | cons blank value =>
      have hBody :
          '@' :: body =
            ('@' :: body.takeWhile isWord) ++ blank :: value := by
        rw [← hRest, List.cons_append,
          List.takeWhile_append_dropWhile]
      have hName :
          Text.Solid ('@' :: body.takeWhile isWord) := by
        intro c hMember
        rcases List.mem_cons.mp hMember with rfl | hMember
        · exact hAt
        · exact isBlank_of_isWord (List.mem_takeWhile_imp hMember)
      cases hTake : body.takeWhile isWord with
      | nil =>
          simp [Entry.ofSegment, Entry.pair?, opensTag, hTake]
      | cons first more =>
          cases hBlank : isBlank blank with
          | false =>
              simp [Entry.ofSegment, Entry.pair?, opensTag, hTake,
                hRest, hBlank]
          | true =>
              have hWords :
                  Text.words ('@' :: body) =
                    ('@' :: first :: more) :: Text.words value := by
                rw [hBody, Text.words_append_cons _ value hBlank,
                  Text.words_of_solid (by simp) hName, hTake]
                rfl
              simp [Entry.ofSegment, Entry.pair?, opensTag, hTake,
                hRest, hBlank, hWords, toWords_ofPair]

/- Segments that end in line breaks have the words of their tags. -/
theorem toWords_of_segments
    {segments : List Text}
    (hBodies :
      ∀ segment ∈ segments, ∃ body, segment = '@' :: body)
    (hEnds :
      ∀ segment ∈ segments, segment.getLast? = some '\n') :
    (((segments.map Entry.ofSegment).filterMap
        Entry.pair?).map ofPair).flatMap toWords =
      (segments.filter (opensTag ·.tail)).flatMap Text.words := by
  induction segments with
  | nil => rfl
  | cons segment rest ih =>
      rcases hBodies segment List.mem_cons_self with ⟨body, rfl⟩
      have hFirst :=
        toWords_ofSegment (hEnds ('@' :: body) List.mem_cons_self)
      have hRest := ih
        (fun other hMember =>
          hBodies other (List.mem_cons_of_mem _ hMember))
        (fun other hMember =>
          hEnds other (List.mem_cons_of_mem _ hMember))
      have hSplit :
          ((((('@' :: body) :: rest).map Entry.ofSegment).filterMap
              Entry.pair?).map ofPair).flatMap toWords =
            ((Entry.ofSegment ('@' :: body)).pair?.toList.map
                ofPair).flatMap toWords ++
              (((rest.map Entry.ofSegment).filterMap
                Entry.pair?).map ofPair).flatMap toWords := by
        rw [List.map_cons, List.filterMap_cons]
        cases (Entry.ofSegment ('@' :: body)).pair? <;> simp
      rw [hSplit, hFirst, hRest, List.filter_cons, List.tail_cons]
      cases opensTag body <;> simp

end Tag

------------------------------------------------------------
-- The Words of a Comment
------------------------------------------------------------

namespace Comment

/-
  A comment has exactly the words of the text it is read from,
  in the same order, without the stretches that open no tag:
  first those of the description, then those of each tag.
-/
theorem words_conserved
    (text : Text) :
    (ofText text).text.words ++
        (ofText text).tags.flatMap Tag.toWords =
      Text.words (Tag.withoutIgnored true true text) := by
  have hEnds := Tag.getLast?_segments_newline true text
  have hBlankEnds :
      ∀ piece : Text, piece.getLast? = some '\n' →
        ∀ c ∈ piece.getLast?, isBlank c = true := by
    intro piece hPiece c hLast
    rw [hPiece] at hLast
    rw [← Option.some.inj hLast]
    decide
  -- Both parts are read from the text with a line break behind
  -- it, and that line break changes no words.
  have hTags :
      (ofText text).tags.flatMap Tag.toWords =
        ((Tag.segments true (text ++ ['\n'])).2.filter
          (Tag.opensTag ·.tail)).flatMap Text.words := by
    have hBodies :
        ∀ segment ∈ (Tag.segments true (text ++ ['\n'])).2,
          ∃ body, segment = '@' :: body := by
      intro segment hMember
      rcases Tag.exists_body_of_mem_segments hMember with
        ⟨body, hEq, -⟩
      exact ⟨body, hEq⟩
    rw [← Tag.toWords_of_segments hBodies hEnds.2, tags_ofText]
  have hText :
      (ofText text).text.words =
        Text.words (Tag.segments true (text ++ ['\n'])).1 := by
    rw [text_ofText, Text.words_trim]
  rcases Tag.withoutIgnored_newline true true text with
    ⟨blanks, hBlank, hNewline⟩
  calc (ofText text).text.words ++
        (ofText text).tags.flatMap Tag.toWords
      = Text.words (Tag.withoutIgnored true true
          (text ++ ['\n'])) := by
        rw [hText, hTags, Tag.withoutIgnored_eq, if_pos rfl,
          Text.words_append_of_blank_end, Text.words_flatten]
        · intro piece hMember
          exact hBlankEnds piece
            (hEnds.2 piece (List.mem_of_mem_filter hMember))
        · intro c hLast
          rw [hEnds.1 c hLast]
          decide
    _ = Text.words (Tag.withoutIgnored true true text) := by
        rw [hNewline, Text.words_append_blank hBlank]

end Comment

end Marginalia
