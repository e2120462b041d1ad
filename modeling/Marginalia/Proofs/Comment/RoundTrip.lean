import Marginalia.Proofs.Comment.Layout

/-
  This file shows that a comment is read back from the block
  it was written into: however its lines are decorated and
  ended, cleaning the block leaves these lines.

  Key definitions include:
    * `Decoration.Dressing`
    * `Decoration.Dressing.dress`
    * `Decoration.block`

  Main results:
    * `Decoration.Dressing.stripLine_dress`
    * `Decoration.exists_lines_block`
    * `Decoration.clean_block`
    * `Comment.ofBlock_layout`
-/

namespace Marginalia

namespace Decoration

------------------------------------------------------------
-- Decorated Lines
------------------------------------------------------------

/-
  How a line is decorated: the blanks before and after its
  asterisk, none of which ends a line, and what ends the line.
-/
structure Dressing where
  margin : Text := []
  gap : Text := []
  ending : Text
  margin_blank : margin.AllBlank := by decide
  margin_unbroken : margin.Unbroken := by decide
  gap_blank : gap.AllBlank := by decide
  gap_unbroken : gap.Unbroken := by decide
  ending_isEnding : Text.IsEnding ending := by decide

namespace Dressing

variable (dressing : Dressing)

/- A line with its decoration. -/
def dress
    (line : Text) : Text :=
  dressing.margin ++ '*' :: (dressing.gap ++ line)

/- A decorated line is not empty. -/
theorem dress_ne_nil
    (line : Text) :
    dressing.dress line ≠ [] := by
  simp [dress]

/- Decoration breaks no line. -/
theorem dress_unbroken
    {line : Text}
    (hLine : line.Unbroken) :
    Text.Unbroken (dressing.dress line) := by
  have hAsterisk : Text.Unbroken ['*'] := by decide
  have hRest : Text.Unbroken (dressing.gap ++ line) :=
    dressing.gap_unbroken.append hLine
  exact dressing.margin_unbroken.append (hAsterisk.append hRest)

/- A decorated line that is not indented is stripped to itself. -/
theorem stripLine_dress
    {line : Text}
    (hLine : ∀ c ∈ line.head?, isBlank c = false) :
    stripLine (dressing.dress line) = line := by
  have hStart :
      Text.trimStart (dressing.dress line) =
        '*' :: (dressing.gap ++ line) := by
    rw [dress, Text.trimStart_append dressing.margin_blank]
    exact Text.trimStart_cons (by decide)
  unfold stripLine
  rw [hStart]
  exact (Text.trimStart_append dressing.gap_blank).trans
    (Text.trimStart_eq_self_iff.mpr hLine)

end Dressing

/- A blank line has no decoration. -/
theorem stripLine_of_allBlank
    {line : Text}
    (hBlank : line.AllBlank) :
    stripLine line = line := by
  unfold stripLine Text.trimStart
  rw [List.dropWhile_eq_nil_iff.mpr hBlank]

------------------------------------------------------------
-- Decorated Blocks
------------------------------------------------------------

/- A block of decorated lines between an opening and a closing. -/
def block
    (opening : Text)
    (rows : List (Dressing × Text))
    (closing : Text) : Text :=
  opening ++
    (rows.map fun row =>
      row.1.dress row.2 ++ row.1.ending).flatten ++
    closing

section Block

variable
  {opening closing : Text}
  {rows : List (Dressing × Text)}

/- A block falls into its decorated lines between blank ones. -/
theorem exists_lines_block
    (hOpening : opening = [] ∨ Text.IsEnding opening)
    (hLines : ∀ row ∈ rows, row.2.Unbroken)
    (hClosing : closing.AllBlank) :
    ∃ front back,
      (∀ line ∈ front, Text.AllBlank line) ∧
      (∀ line ∈ back, Text.AllBlank line) ∧
      (block opening rows closing).lines =
        front ++ rows.map (fun row => row.1.dress row.2) ++
          back := by
  have hDressed :
      ∀ pair ∈ rows.map fun row =>
          (row.1.dress row.2, row.1.ending),
        (Text.Unbroken pair.1 ∧ Text.IsEnding pair.2) ∧
          pair.1 ≠ [] := by
    intro pair hPair
    rcases List.mem_map.mp hPair with ⟨row, hRow, rfl⟩
    exact ⟨⟨row.1.dress_unbroken (hLines row hRow),
      row.1.ending_isEnding⟩, row.1.dress_ne_nil row.2⟩
  rcases hOpening with rfl | hEnding
  · rcases Text.exists_lines_flatten
        (fun pair hPair => (hDressed pair hPair).1)
        (fun pair hPair =>
          (hDressed pair (List.mem_of_mem_tail hPair)).2)
        hClosing with
      ⟨back, hBack, hEq⟩
    refine ⟨[], back, by simp, hBack, ?_⟩
    rw [List.map_map, List.map_map] at hEq
    exact hEq
  · -- The opening ends a line of its own, which is empty.
    have hEmpty : Text.Unbroken [] := by decide
    have hRows :
        ∀ pair ∈ ([], opening) :: rows.map fun row =>
            (row.1.dress row.2, row.1.ending),
          Text.Unbroken pair.1 ∧ Text.IsEnding pair.2 := by
      intro pair hPair
      rcases List.mem_cons.mp hPair with rfl | hPair
      · exact ⟨hEmpty, hEnding⟩
      · exact (hDressed pair hPair).1
    rcases Text.exists_lines_flatten hRows
        (fun pair hPair => (hDressed pair hPair).2)
        hClosing with
      ⟨back, hBack, hEq⟩
    refine ⟨[[]], back, by decide, hBack, ?_⟩
    rw [List.map_cons, List.map_map, List.map_cons,
      List.map_map] at hEq
    exact hEq

/- Of a block of lines that are not indented, the lines are left. -/
theorem clean_block
    (hOpening : opening = [] ∨ Text.IsEnding opening)
    (hLines : ∀ row ∈ rows, row.2.Flush)
    (hClosing : closing.AllBlank) :
    clean (block opening rows closing) =
      Text.trim (Text.join ['\n'] (rows.map Prod.snd)) := by
  rcases exists_lines_block hOpening
      (fun row hRow => (hLines row hRow).1) hClosing with
    ⟨front, back, hFront, hBack, hEq⟩
  have hBlank :
      ∀ blanks : List Text, (∀ line ∈ blanks, line.AllBlank) →
        blanks.map stripLine = blanks := by
    intro blanks hBlanks
    rw [List.map_congr_left fun line hLine =>
      stripLine_of_allBlank (hBlanks line hLine)]
    exact List.map_id blanks
  have hRows :
      (rows.map fun row => row.1.dress row.2).map stripLine =
        rows.map Prod.snd := by
    rw [List.map_map]
    exact List.map_congr_left fun row hRow =>
      row.1.stripLine_dress (hLines row hRow).2
  rw [clean, strip, hEq, List.map_append, List.map_append,
    hBlank front hFront, hBlank back hBack, hRows,
    Text.trim_join_append_blank _ hBack,
    Text.trim_join_blank_append hFront]

end Block

end Decoration

------------------------------------------------------------
-- Reading a Decorated Block
------------------------------------------------------------

namespace Comment

/-
  A description and tags that are laid out as lines, decorated
  line by line and closed by blanks are read back unchanged.
-/
theorem ofBlock_layout
    {text : Text}
    {tags : List Tag}
    (hText : IsDescription text)
    (hTags : ∀ tag ∈ tags, tag.IsWritable)
    {rows : List (Decoration.Dressing × Text)}
    (hRows : rows.map Prod.snd = layout text tags)
    {opening closing : Text}
    (hOpening : opening = [] ∨ Text.IsEnding opening)
    (hClosing : closing.AllBlank) :
    ofBlock (Decoration.block opening rows closing) =
      { text, tags,
        source := Text.join ['\n'] (layout text tags) } := by
  have hFlush : ∀ row ∈ rows, row.2.Flush := by
    intro row hRow
    apply flush_of_mem_layout hText hTags
    rw [← hRows]
    exact List.mem_map_of_mem hRow
  have hClean :
      Decoration.clean (Decoration.block opening rows closing) =
        Text.join ['\n'] (layout text tags) := by
    rw [Decoration.clean_block hOpening hFlush hClosing, hRows]
    exact trimmed_join_layout hText hTags
  rw [ofBlock, hClean, ofText_layout hText hTags]

/-
  A block with lines that are empty, that open with an asterisk
  of their own and that end in different ways is read back.
-/
theorem ofBlock_layout_clamp :
    ofBlock
        ("\r* * Low.\r\n *\r\t*  High.\x0b*@Param low a\n" ++
          "*b\x1c *\t@since\r\n \n").toList =
      { text := "* Low.\n\nHigh.".toList
        tags :=
          [{ name := "Param".toList, value := "a\nb".toList,
             key := some "low".toList },
           { name := "since".toList }]
        source :=
          ("* Low.\n\nHigh.\n@Param low a\nb\n" ++
            "@since").toList } := by
  have hText : IsDescription "* Low.\n\nHigh.".toList :=
    ⟨by decide, by decide, by decide⟩
  have hTags :
      ∀ tag ∈
          ([{ name := "Param".toList, value := "a\nb".toList,
              key := some "low".toList },
            { name := "since".toList }] : List Tag),
        tag.IsWritable := by
    intro tag hTag
    rcases List.mem_cons.mp hTag with rfl | hTag
    · exact ⟨by decide, List.all_eq_true.mp (by decide),
        by decide, by decide, by decide, by decide, by decide,
        by decide⟩
    · rw [List.mem_singleton.mp hTag]
      exact ⟨by decide, List.all_eq_true.mp (by decide),
        by decide, by decide, by decide, by decide, by decide,
        by decide⟩
  exact @ofBlock_layout _ _ hText hTags
    [({ gap := [' '], ending := ['\r', '\n'] }, "* Low.".toList),
      ({ margin := [' '], ending := ['\r'] }, []),
      ({ margin := ['\t'], gap := [' ', ' '],
         ending := ['\x0b'] }, "High.".toList),
      ({ ending := ['\n'] }, "@Param low a".toList),
      ({ ending := ['\x1c'] }, "b".toList),
      ({ margin := [' '], gap := ['\t'],
         ending := ['\r', '\n'] }, "@since".toList)]
    (by decide) ['\r'] [' ', '\n'] (by decide) (by decide)

end Comment

end Marginalia
