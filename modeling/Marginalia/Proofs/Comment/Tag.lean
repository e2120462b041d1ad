import Marginalia.Comment
import Marginalia.Proofs.Text.Lines
import Marginalia.Proofs.Text.Search

/-
  This file shows how the text of a comment falls into
  segments: which texts are not cut at all, how a text is cut
  that follows such a text, and what the pieces look like. It
  then says how a comment is read from its segments, and when
  the value of a tag has a key.

  Key definitions include:
    * `Tag.Plain`
    * `Tag.atLineStart`

  Main results:
    * `Tag.plain_iff`
    * `Tag.segments_append`
    * `Tag.getLast?_segments_newline`
    * `Tag.segments_newline`
    * `Tag.splitKey_append`
    * `Tag.splitKey_cases`
    * `Comment.text_ofText`
    * `Comment.tags_ofText`
-/

namespace Marginalia

namespace Tag

------------------------------------------------------------
-- Texts That Are Not Cut
------------------------------------------------------------

/- A text that has no `@` at the start of a line. -/
def Plain
    (lineStart : Bool)
    (text : Text) : Prop :=
  (segments lineStart text).2 = []

/- Whether a line starts behind a text. -/
def atLineStart
    (lineStart : Bool) : Text → Bool
  | [] => lineStart
  | c :: rest => atLineStart (c == '\n') rest

/- A line starts behind two texts as it does behind the second. -/
theorem atLineStart_append
    (lineStart : Bool)
    (text next : Text) :
    atLineStart lineStart (text ++ next) =
      atLineStart (atLineStart lineStart text) next := by
  induction text generalizing lineStart with
  | nil => rfl
  | cons c rest ih => exact ih (c == '\n')

/- The segments of a text by its first character. -/
theorem segments_cons
    (lineStart : Bool)
    (c : Char)
    (rest : Text) :
    segments lineStart (c :: rest) =
      if (lineStart && c == '@') = true then
        ([], (c :: (segments (c == '\n') rest).1) ::
          (segments (c == '\n') rest).2)
      else
        (c :: (segments (c == '\n') rest).1,
          (segments (c == '\n') rest).2) :=
  rfl

/- Nothing is cut in an empty text. -/
theorem plain_nil
    (lineStart : Bool) :
    Plain lineStart [] :=
  rfl

/- Nor is a line break cut. -/
theorem plain_newline
    (lineStart : Bool) :
    Plain lineStart ['\n'] := by
  cases lineStart <;> rfl

/- A text is plain when it is so from its second character on. -/
theorem plain_cons_iff
    {lineStart : Bool}
    {c : Char}
    {rest : Text} :
    Plain lineStart (c :: rest) ↔
      (lineStart && c == '@') = false ∧ Plain (c == '\n') rest := by
  unfold Plain
  rw [segments_cons]
  by_cases hMark : (lineStart && c == '@') = true
  · simp [hMark]
  · simp [hMark]

/-
  What follows a plain text is cut as it would be by itself,
  and its first piece is joined to the plain text.
-/
theorem segments_append
    {lineStart : Bool}
    {text : Text}
    (hPlain : Plain lineStart text)
    (next : Text) :
    segments lineStart (text ++ next) =
      (text ++ (segments (atLineStart lineStart text) next).1,
        (segments (atLineStart lineStart text) next).2) := by
  induction text generalizing lineStart with
  | nil => rfl
  | cons c rest ih =>
      rcases plain_cons_iff.mp hPlain with ⟨hMark, hRest⟩
      rw [List.cons_append, segments_cons, ih hRest, hMark]
      simp [atLineStart]

/- Two texts are plain together when each is plain at its place. -/
theorem plain_append_iff
    {lineStart : Bool}
    {text next : Text} :
    Plain lineStart (text ++ next) ↔
      Plain lineStart text ∧
        Plain (atLineStart lineStart text) next := by
  induction text generalizing lineStart with
  | nil => simp [plain_nil, atLineStart]
  | cons c rest ih =>
      rw [List.cons_append, plain_cons_iff, plain_cons_iff, ih,
        and_assoc]
      rfl

/-
  A text is plain when none of its lines opens with `@`, apart
  from the first one if no line starts there.
-/
theorem plain_iff
    {text : Text} :
    (Plain true text ↔
      ∀ line ∈ Text.splitAt '\n' text, line.head? ≠ some '@') ∧
    (Plain false text ↔
      ∀ line ∈ (Text.splitAt '\n' text).tail,
        line.head? ≠ some '@') := by
  induction text with
  | nil => simp [plain_nil, Text.splitAt]
  | cons c rest ih =>
      rcases ih with ⟨ihTrue, ihFalse⟩
      rw [plain_cons_iff, plain_cons_iff, Text.splitAt]
      by_cases hBreak : c = '\n'
      · subst hBreak
        simp [ihTrue]
      · cases hSplit : Text.splitAt '\n' rest with
        | nil =>
            exact absurd hSplit (Text.splitAt_ne_nil '\n' rest)
        | cons first more =>
            have hNoBreak : (c == '\n') = false := by
              simpa using hBreak
            rw [hSplit] at ihFalse
            rw [hNoBreak]
            simp [hBreak, ihFalse, Text.prepend]

------------------------------------------------------------
-- The Pieces of a Text
------------------------------------------------------------

/- The text before the first segment is plain. -/
theorem plain_lead
    (lineStart : Bool)
    (text : Text) :
    Plain lineStart (segments lineStart text).1 := by
  induction text generalizing lineStart with
  | nil => exact plain_nil lineStart
  | cons c rest ih =>
      rw [segments_cons]
      by_cases hMark : (lineStart && c == '@') = true
      · rw [if_pos hMark]
        exact plain_nil lineStart
      · rw [if_neg hMark]
        exact plain_cons_iff.mpr
          ⟨Bool.eq_false_iff.mpr hMark, ih (c == '\n')⟩

/- The first segment starts at the start of a line. -/
theorem atLineStart_lead
    {lineStart : Bool}
    {text : Text}
    (hMore : (segments lineStart text).2 ≠ []) :
    atLineStart lineStart (segments lineStart text).1 = true := by
  induction text generalizing lineStart with
  | nil => exact absurd rfl hMore
  | cons c rest ih =>
      rw [segments_cons] at hMore ⊢
      by_cases hMark : (lineStart && c == '@') = true
      · rw [if_pos hMark]
        exact (Bool.and_eq_true_iff.mp hMark).1
      · rw [if_neg hMark] at hMore ⊢
        exact ih hMore

/- A segment is an `@` with a plain text behind it. -/
theorem exists_body_of_mem_segments
    {lineStart : Bool}
    {text segment : Text}
    (hMember : segment ∈ (segments lineStart text).2) :
    ∃ body, segment = '@' :: body ∧ Plain false body := by
  induction text generalizing lineStart with
  | nil => simp [segments] at hMember
  | cons c rest ih =>
      rw [segments_cons] at hMember
      by_cases hMark : (lineStart && c == '@') = true
      · rw [if_pos hMark] at hMember
        rcases List.mem_cons.mp hMember with rfl | hMember
        · have hAt : c = '@' := by
            simpa using (Bool.and_eq_true_iff.mp hMark).2
          subst hAt
          exact ⟨_, rfl, plain_lead false rest⟩
        · exact ih hMember
      · rw [if_neg hMark] at hMember
        exact ih hMember

/- A text that does not start a line keeps its first character. -/
theorem lead_ne_nil
    {text : Text}
    (hNonempty : text ≠ []) :
    (segments false text).1 ≠ [] := by
  cases text with
  | nil => exact absurd rfl hNonempty
  | cons c rest => simp [segments_cons]

/- The pieces of a text that ends in a line break end in one. -/
theorem getLast?_segments_newline
    (lineStart : Bool)
    (text : Text) :
    (∀ c ∈ (segments lineStart (text ++ ['\n'])).1.getLast?,
      c = '\n') ∧
    ∀ segment ∈ (segments lineStart (text ++ ['\n'])).2,
      segment.getLast? = some '\n' := by
  induction text generalizing lineStart with
  | nil => simp [segments]
  | cons c rest ih =>
      rcases ih (c == '\n') with ⟨hLead, hMore⟩
      -- The piece that `c` opens ends as the piece behind it
      -- does; that one is empty only where a line starts.
      have hOpened :
          (c :: (segments (c == '\n') (rest ++ ['\n'])).1).getLast? =
            some '\n' := by
        cases hEq : (segments (c == '\n') (rest ++ ['\n'])).1 with
        | nil =>
            cases hBreak : c == '\n' with
            | true => simpa using hBreak
            | false =>
                rw [hBreak] at hEq
                exact absurd hEq (lead_ne_nil (by simp))
        | cons d more =>
            rw [List.getLast?_cons_cons]
            cases hLast : (d :: more).getLast? with
            | none => simp at hLast
            | some last =>
                rw [hEq, hLast] at hLead
                rw [hLead last rfl]
      rw [List.cons_append, segments_cons]
      by_cases hMark : (lineStart && c == '@') = true
      · rw [if_pos hMark]
        refine ⟨by simp, ?_⟩
        intro segment hMember
        rcases List.mem_cons.mp hMember with rfl | hMember
        · exact hOpened
        · exact hMore segment hMember
      · rw [if_neg hMark]
        refine ⟨?_, hMore⟩
        intro last hLast
        rw [hOpened] at hLast
        exact (Option.some.inj hLast).symm

------------------------------------------------------------
-- The Block of Tags
------------------------------------------------------------

/- A text that opens with a segment has nothing before it. -/
theorem lead_flatten_append
    {lineStart : Bool}
    {text : Text}
    (hMore : (segments lineStart text).2 ≠ [])
    (next : Text) :
    (segments true
      ((segments lineStart text).2.flatten ++ next)).1 = [] := by
  cases hSegments : (segments lineStart text).2 with
  | nil => exact absurd hSegments hMore
  | cons first rest =>
      have hFirst : first ∈ (segments lineStart text).2 := by
        rw [hSegments]
        exact List.mem_cons_self
      rcases exists_body_of_mem_segments hFirst with ⟨body, rfl, -⟩
      simp [segments_cons]

/-
  A line break at the end of a comment goes to its last piece:
  to the description if there are no tags, and else to the
  block of tags, which is cut as it is by itself.
-/
theorem segments_newline
    (text : Text) :
    segments true (text ++ ['\n']) =
      ((segments true text).1 ++
          (if (segments true text).2 = [] then ['\n'] else []),
        (segments true
          ((segments true text).2.flatten ++ ['\n'])).2) := by
  have hSplit :
      text ++ ['\n'] =
        (segments true text).1 ++
          ((segments true text).2.flatten ++ ['\n']) := by
    rw [← List.append_assoc, segments_flatten]
  conv_lhs => rw [hSplit]
  rw [segments_append (plain_lead true text)]
  by_cases hMore : (segments true text).2 = []
  · simp [hMore, segments_cons, segments]
  · rw [atLineStart_lead hMore, lead_flatten_append hMore,
      if_neg hMore]

------------------------------------------------------------
-- Keys
------------------------------------------------------------

/- A key is split off at the first blank behind it. -/
theorem splitKey_append
    {front key : Text}
    {blank : Char}
    (hFront : front.AllBlank)
    (hNonempty : key ≠ [])
    (hKey : key.Solid)
    (hBlank : isBlank blank = true)
    (rest : Text) :
    splitKey (front ++ key ++ blank :: rest) =
      (some key, rest.trimStart) := by
  have hStart :
      Text.trimStart (front ++ key ++ blank :: rest) =
        key ++ blank :: rest := by
    rw [List.append_assoc, Text.trimStart_append hFront]
    cases key with
    | nil => exact absurd rfl hNonempty
    | cons c more =>
        exact Text.trimStart_cons (hKey c List.mem_cons_self)
  have hInk : ∀ c ∈ key, (!isBlank c) = true := by
    intro c hMember
    rw [hKey c hMember]
    rfl
  have hStop :
      ∀ c ∈ (blank :: rest).head?, (!isBlank c) = false := by
    intro c hHead
    rw [← Option.some.inj hHead, hBlank]
    rfl
  have hParts := Text.stretch_append hInk hStop
  have hRest :
      Text.trimStart (blank :: rest) = rest.trimStart := by
    simp [Text.trimStart, hBlank]
  unfold splitKey
  simp only [hStart, hParts, hRest]

/- A value without a blank behind its first word has no key. -/
theorem splitKey_of_dropWhile_eq_nil
    {value : Text}
    (hDrop : value.trimStart.dropWhile (!isBlank ·) = []) :
    splitKey value = (none, value) := by
  unfold splitKey
  simp only [hDrop]

/- A blank value has no key. -/
theorem splitKey_of_allBlank
    {value : Text}
    (hBlank : value.AllBlank) :
    splitKey value = (none, value) := by
  apply splitKey_of_dropWhile_eq_nil
  rw [Text.trimStart, List.dropWhile_eq_nil_iff.mpr hBlank]
  rfl

/-
  A value either has no key and is kept as it is, or starts
  with its key, after blanks and before at least one.
-/
theorem splitKey_cases
    (value : Text) :
    splitKey value = (none, value) ∨
      ∃ front key blank rest,
        front.AllBlank ∧ key ≠ [] ∧
        Text.Solid key ∧
        isBlank blank = true ∧
        value = front ++ key ++ blank :: rest ∧
        splitKey value = (some key, Text.trimStart rest) := by
  cases hDrop : value.trimStart.dropWhile (!isBlank ·) with
  | nil => exact Or.inl (splitKey_of_dropWhile_eq_nil hDrop)
  | cons blank rest =>
      right
      have hFront : Text.AllBlank (value.takeWhile isBlank) := by
        intro c hMember
        exact List.mem_takeWhile_imp hMember
      have hKey :
          Text.Solid
            (value.trimStart.takeWhile (!isBlank ·)) := by
        intro c hMember
        simpa using List.mem_takeWhile_imp hMember
      have hBlank : isBlank blank = true := by
        have hHead :=
          List.head?_dropWhile_not (!isBlank ·) value.trimStart
        simpa [hDrop] using hHead
      have hSplit :
          value = value.takeWhile isBlank ++
            value.trimStart.takeWhile (!isBlank ·) ++
            blank :: rest := by
        rw [← hDrop, List.append_assoc,
          List.takeWhile_append_dropWhile]
        exact List.takeWhile_append_dropWhile.symm
      have hNonempty :
          value.trimStart.takeWhile (!isBlank ·) ≠ [] := by
        have hInk := Text.head?_trimStart value
        cases hStart : value.trimStart with
        | nil => simp [hStart] at hDrop
        | cons c more =>
            rw [hStart] at hInk
            simp [hInk c rfl]
      refine ⟨_, _, blank, rest, hFront, hNonempty, hKey, hBlank,
        hSplit, ?_⟩
      conv_lhs => rw [hSplit]
      exact splitKey_append hFront hNonempty hKey hBlank rest

end Tag

------------------------------------------------------------
-- Reading a Comment
------------------------------------------------------------

namespace Comment

/- The description is what stands before the first segment. -/
theorem text_ofText
    (text : Text) :
    (ofText text).text =
      (Tag.segments true (text ++ ['\n'])).1.trim := by
  rw [Tag.segments_newline]
  symm
  apply Text.trim_append_blank
  split <;> decide

/- The tags are read from the segments behind it. -/
theorem tags_ofText
    (text : Text) :
    (ofText text).tags =
      (((Tag.segments true (text ++ ['\n'])).2.map
        Tag.Entry.ofSegment).filterMap Tag.Entry.pair?).map
          Tag.ofPair := by
  rw [Tag.segments_newline]
  rfl

end Comment

end Marginalia
