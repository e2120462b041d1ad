import Mathlib.Data.List.Induction
import Marginalia.Proofs.Text.Lines
import Marginalia.Proofs.Text.Search

/-
  This file writes a carriage return before every line feed of
  a text and shows what becomes of the ways to read it: lines
  and counts of line feeds stay as they are, and searching,
  trimming and splitting find the same parts, written in the
  same way.

  Key definitions include:
    * `Text.crlf`
    * `Text.crlfOffset`

  Main results:
    * `Text.lines_crlf`
    * `Text.cut?_crlf`
    * `Text.trim_crlf`
    * `Text.splitAt_crlf`
    * `Text.crlfOffset_le_iff`
-/

namespace Marginalia

namespace Text

------------------------------------------------------------
-- Line Ends of Two Characters
------------------------------------------------------------

/- The text with a carriage return before every line feed. -/
def crlf
    (text : Text) : Text :=
  text.flatMap fun c => if c = '\n' then ['\r', '\n'] else [c]

@[simp] theorem crlf_nil : crlf [] = [] :=
  rfl

@[simp] theorem crlf_newline
    (rest : Text) :
    crlf ('\n' :: rest) = '\r' :: '\n' :: crlf rest :=
  rfl

/- Every other character is kept. -/
theorem crlf_cons
    {c : Char}
    (hOther : c ≠ '\n')
    (rest : Text) :
    crlf (c :: rest) = c :: crlf rest := by
  simp [crlf, hOther]

@[simp] theorem crlf_append
    (first last : Text) :
    crlf (first ++ last) = crlf first ++ crlf last :=
  List.flatMap_append

/- A text without line breaks is kept. -/
theorem Unbroken.crlf
    {text : Text}
    (hText : text.Unbroken) :
    text.crlf = text := by
  induction text with
  | nil => exact crlf_nil
  | cons c rest ih =>
      have hChar : c ≠ '\n' := by
        intro hNewline
        have hBreak := hText c List.mem_cons_self
        rw [hNewline] at hBreak
        cases hBreak
      have hRest : Unbroken rest := by
        intro d hMember
        exact hText d (List.mem_cons_of_mem c hMember)
      rw [crlf_cons hChar, ih hRest]

/- Nothing gets lost. -/
theorem length_le_length_crlf
    (text : Text) :
    text.length ≤ text.crlf.length := by
  induction text with
  | nil => exact Nat.le_refl 0
  | cons c rest ih =>
      by_cases hNewline : c = '\n'
      · rw [hNewline, crlf_newline, List.length_cons,
          List.length_cons, List.length_cons]
        omega
      · rw [crlf_cons hNewline, List.length_cons, List.length_cons]
        omega

/- Only the empty text is written as the empty text. -/
theorem isEmpty_crlf
    (text : Text) :
    text.crlf.isEmpty = text.isEmpty := by
  cases text with
  | nil => rfl
  | cons c rest =>
      by_cases hNewline : c = '\n'
      · rw [hNewline]
        rfl
      · rw [crlf_cons hNewline]
        rfl

/- The last character stays the last one. -/
theorem getLast?_crlf
    (text : Text) :
    text.crlf.getLast? = text.getLast? := by
  induction text using List.reverseRecOn with
  | nil => rfl
  | append_singleton front c _ =>
      rw [crlf_append, List.getLast?_concat]
      by_cases hNewline : c = '\n'
      · rw [hNewline, crlf_newline, crlf_nil, List.append_cons,
          List.getLast?_concat]
      · rw [crlf_cons hNewline, crlf_nil, List.getLast?_concat]

/- There are as many line feeds as before. -/
theorem count_crlf
    (text : Text) :
    text.crlf.count '\n' = text.count '\n' := by
  induction text with
  | nil => rfl
  | cons c rest ih =>
      by_cases hNewline : c = '\n'
      · rw [hNewline, crlf_newline, List.count_cons_of_ne (by decide),
          List.count_cons_self, List.count_cons_self, ih]
      · rw [crlf_cons hNewline, List.count_cons_of_ne hNewline,
          List.count_cons_of_ne hNewline, ih]

/-
  Without carriage returns of its own a text has the lines
  that it had, since the two characters are one break.
-/
theorem lines_crlf
    {text : Text}
    (hText : '\r' ∉ text) :
    text.crlf.lines = text.lines := by
  induction text with
  | nil => rfl
  | cons c rest ih =>
      have hRest : '\r' ∉ rest := by
        intro hMember
        exact hText (List.mem_cons_of_mem c hMember)
      have hChar : c ≠ '\r' := by
        intro hReturn
        rw [hReturn] at hText
        exact hText List.mem_cons_self
      by_cases hNewline : c = '\n'
      · have hBreak : isLineBreak '\n' = true := by decide
        rw [hNewline, crlf_newline, lines, ih hRest,
          lines_cons (fun hReturn => absurd hReturn (by decide)),
          if_pos hBreak]
      · rw [crlf_cons hNewline,
          lines_cons (fun hReturn => absurd hReturn hChar),
          lines_cons (fun hReturn => absurd hReturn hChar), ih hRest]

------------------------------------------------------------
-- Stretches of a Class
------------------------------------------------------------

/-
  A stretch in front is left out as before, if its class has
  both characters of a line end or neither of them.
-/
theorem dropWhile_crlf
    {keeps : Char → Bool}
    (hSame : keeps '\r' = keeps '\n')
    (text : Text) :
    text.crlf.dropWhile keeps = crlf (text.dropWhile keeps) := by
  induction text with
  | nil => rfl
  | cons c rest ih =>
      by_cases hNewline : c = '\n'
      · rw [hNewline, crlf_newline]
        cases hKeeps : keeps '\n' with
        | true =>
            rw [List.dropWhile_cons_of_pos (hSame.trans hKeeps),
              List.dropWhile_cons_of_pos hKeeps,
              List.dropWhile_cons_of_pos hKeeps, ih]
        | false =>
            rw [List.dropWhile_cons_of_neg (by simp [hSame, hKeeps]),
              List.dropWhile_cons_of_neg (by simp [hKeeps]),
              crlf_newline]
      · rw [crlf_cons hNewline]
        cases hKeeps : keeps c with
        | true =>
            rw [List.dropWhile_cons_of_pos hKeeps,
              List.dropWhile_cons_of_pos hKeeps, ih]
        | false =>
            rw [List.dropWhile_cons_of_neg (by simp [hKeeps]),
              List.dropWhile_cons_of_neg (by simp [hKeeps]),
              crlf_cons hNewline]

/- Such a stretch is also found as before. -/
theorem takeWhile_crlf
    {keeps : Char → Bool}
    (hSame : keeps '\r' = keeps '\n')
    (text : Text) :
    text.crlf.takeWhile keeps = crlf (text.takeWhile keeps) := by
  have hParts : text.crlf =
      crlf (text.takeWhile keeps) ++ crlf (text.dropWhile keeps) := by
    rw [← crlf_append, List.takeWhile_append_dropWhile]
  have hCut :=
    List.takeWhile_append_dropWhile (p := keeps) (l := text.crlf)
  rw [dropWhile_crlf hSame] at hCut
  exact List.append_cancel_right (hCut.trans hParts)

------------------------------------------------------------
-- Trimming
------------------------------------------------------------

/- Blanks in front are trimmed as before. -/
theorem trimStart_crlf
    (text : Text) :
    text.crlf.trimStart = crlf text.trimStart :=
  dropWhile_crlf (by decide) text

/- A blank text stays blank. -/
theorem AllBlank.crlf
    {text : Text}
    (hText : text.AllBlank) :
    AllBlank text.crlf := by
  have hNone : text.crlf.dropWhile isBlank = [] := by
    rw [dropWhile_crlf (by decide), List.dropWhile_eq_nil_iff.mpr hText,
      crlf_nil]
  exact List.dropWhile_eq_nil_iff.mp hNone

/- Blanks at the end are trimmed as before. -/
theorem trimEnd_crlf
    (text : Text) :
    text.crlf.trimEnd = crlf text.trimEnd := by
  rcases exists_trimEnd_append text with ⟨blanks, hBlank, hText⟩
  have hLast : text.trimEnd.trimEnd = text.trimEnd := by
    unfold trimEnd
    rw [List.reverse_reverse, List.dropWhile_idempotent]
  rw [trimEnd_eq_self_iff, ← getLast?_crlf, ← trimEnd_eq_self_iff]
    at hLast
  calc text.crlf.trimEnd
      = trimEnd (crlf text.trimEnd ++ crlf blanks) := by
        rw [← crlf_append, ← hText]
    _ = trimEnd (crlf text.trimEnd) := trimEnd_append hBlank.crlf
    _ = crlf text.trimEnd := hLast

/- Both ends are trimmed as before. -/
theorem trim_crlf
    (text : Text) :
    text.crlf.trim = crlf text.trim := by
  unfold trim
  rw [trimStart_crlf, trimEnd_crlf]

------------------------------------------------------------
-- Searching and Splitting
------------------------------------------------------------

/- A mark without line breaks opens the same texts. -/
theorem prefix_crlf_iff
    {mark : Text}
    (hMark : mark.Unbroken)
    (text : Text) :
    mark <+: text.crlf ↔ mark <+: text := by
  induction mark generalizing text with
  | nil => exact iff_of_true List.nil_prefix List.nil_prefix
  | cons m mark ih =>
      have hFirst := hMark m List.mem_cons_self
      have hRest : Unbroken mark := by
        intro d hMember
        exact hMark d (List.mem_cons_of_mem m hMember)
      cases text with
      | nil => exact Iff.rfl
      | cons c rest =>
          by_cases hNewline : c = '\n'
          · have hReturn : m ≠ '\r' := by
              intro hChar
              rw [hChar] at hFirst
              cases hFirst
            have hFeed : m ≠ '\n' := by
              intro hChar
              rw [hChar] at hFirst
              cases hFirst
            rw [hNewline, crlf_newline, List.cons_prefix_cons,
              List.cons_prefix_cons]
            simp only [hReturn, hFeed, false_and]
          · rw [crlf_cons hNewline, List.cons_prefix_cons,
              List.cons_prefix_cons, ih hRest]

/- The same as a computation. -/
theorem isPrefixOf_crlf
    {mark : Text}
    (hMark : mark.Unbroken)
    (text : Text) :
    mark.isPrefixOf text.crlf = mark.isPrefixOf text := by
  rw [Bool.eq_iff_iff, List.isPrefixOf_iff_prefix,
    List.isPrefixOf_iff_prefix, prefix_crlf_iff hMark]

/- What follows a mark is written in the same way. -/
theorem drop_length_crlf
    {mark text : Text}
    (hMark : mark.Unbroken)
    (hText : mark <+: text) :
    text.crlf.drop mark.length = crlf (text.drop mark.length) := by
  rcases hText with ⟨rest, rfl⟩
  rw [crlf_append, hMark.crlf, List.drop_left, List.drop_left]

/-
  The first occurrence of a mark without line breaks is found
  between the same texts.
-/
theorem cut?_crlf
    {mark : Text}
    (hMark : mark.Unbroken)
    (hInk : mark ≠ [])
    (text : Text) :
    cut? mark text.crlf =
      (cut? mark text).map (Prod.map crlf crlf) := by
  induction text with
  | nil =>
      rw [crlf_nil, cut?, if_neg (by simpa using hInk), Option.map_none]
  | cons c rest ih =>
      by_cases hText : mark <+: c :: rest
      · rw [cut?_of_opens hText,
          cut?_of_opens ((prefix_crlf_iff hMark _).mpr hText),
          drop_length_crlf hMark hText]
        rfl
      · have hCrlf := hText
        rw [← prefix_crlf_iff hMark] at hCrlf
        rw [cut?_cons_of_not_opens hText, Option.map_map]
        by_cases hNewline : c = '\n'
        · -- Neither of the two characters opens the mark.
          subst hNewline
          have hFeed : ¬mark <+: '\n' :: crlf rest := by
            intro hMore
            cases mark with
            | nil => exact hInk rfl
            | cons m mark =>
                have hBreak := hMark m List.mem_cons_self
                rw [(List.cons_prefix_cons.mp hMore).1] at hBreak
                cases hBreak
          rw [crlf_newline] at hCrlf ⊢
          rw [cut?_cons_of_not_opens hCrlf,
            cut?_cons_of_not_opens hFeed, ih, Option.map_map,
            Option.map_map]
          rfl
        · rw [crlf_cons hNewline] at hCrlf ⊢
          rw [cut?_cons_of_not_opens hCrlf, ih, Option.map_map]
          congr 1
          funext found
          rcases found with ⟨before, after⟩
          exact congrArg (·, after.crlf) (crlf_cons hNewline before).symm

/- Texts with a front are written with that front. -/
theorem map_crlf_prepend
    (front : Text)
    (parts : List Text) :
    (prepend front parts).map crlf =
      prepend front.crlf (parts.map crlf) := by
  cases parts with
  | nil => rfl
  | cons first rest =>
      simp only [prepend, List.map_cons, crlf_append]

/- A separator that is no line break splits as before. -/
theorem splitAt_crlf
    {separator : Char}
    (hSeparator : isLineBreak separator = false)
    (text : Text) :
    splitAt separator text.crlf = (splitAt separator text).map crlf := by
  have hOther {c : Char} (hBreak : isLineBreak c = true) :
      c ≠ separator := by
    intro hChar
    rw [hChar, hSeparator] at hBreak
    cases hBreak
  induction text with
  | nil => rfl
  | cons c rest ih =>
      by_cases hNewline : c = '\n'
      · have hEnd : separator ∉ ['\r', '\n'] := by
          intro hMember
          rcases List.mem_cons.mp hMember with hReturn | hFeed
          · exact hOther (by decide) hReturn.symm
          · exact hOther (by decide) (List.mem_singleton.mp hFeed).symm
        rw [hNewline, splitAt, if_neg (hOther (by decide)),
          map_crlf_prepend, ← ih]
        exact splitAt_append hEnd (crlf rest)
      · rw [crlf_cons hNewline, splitAt, splitAt, ih]
        split
        · rfl
        · rw [map_crlf_prepend, crlf_cons hNewline, crlf_nil]

------------------------------------------------------------
-- Offsets
------------------------------------------------------------

/- Where an offset of a text comes to stand. -/
def crlfOffset
    (text : Text)
    (offset : Nat) : Nat :=
  (crlf (text.take offset)).length

/- What follows an offset is written in the same way. -/
theorem drop_crlfOffset
    (text : Text)
    (offset : Nat) :
    text.crlf.drop (text.crlfOffset offset) =
      crlf (text.drop offset) := by
  have hParts : text.crlf =
      crlf (text.take offset) ++ crlf (text.drop offset) := by
    rw [← crlf_append, List.take_append_drop]
  rw [hParts, crlfOffset, List.drop_left]

/- The end of a front comes to stand at its new end. -/
theorem crlfOffset_append
    (front rest : Text) :
    crlfOffset (front ++ rest) front.length = front.crlf.length := by
  rw [crlfOffset, List.take_left]

/- Offsets within a text keep their order. -/
theorem crlfOffset_le_iff
    {text : Text}
    {first second : Nat}
    (hFirst : first ≤ text.length) :
    text.crlfOffset first ≤ text.crlfOffset second ↔
      first ≤ second := by
  have hStep (low width : Nat) :
      text.crlfOffset (low + width) =
        text.crlfOffset low +
          (crlf ((text.drop low).take width)).length := by
    rw [crlfOffset, List.take_add, crlf_append, List.length_append]
    rfl
  constructor
  · intro hOffsets
    by_contra hSecond
    have hLow := hStep second (first - second)
    have hWidth :=
      length_le_length_crlf ((text.drop second).take (first - second))
    rw [List.length_take, List.length_drop] at hWidth
    rw [Nat.add_sub_cancel' (by omega)] at hLow
    omega
  · intro hOrder
    have hHigh := hStep first (second - first)
    rw [Nat.add_sub_cancel' hOrder] at hHigh
    omega

end Text

end Marginalia
