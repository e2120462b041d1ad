import Mathlib.Data.List.Basic
import Marginalia.Proofs.Text.Blank

/-
  This file shows how texts fall into lines and how lines are
  joined again.

  Key definitions include:
    * `Text.Unbroken`
    * `Text.IsEnding`

  Main results:
    * `Text.unbroken_of_mem_lines`
    * `Text.exists_lines_append`
    * `Text.exists_lines_flatten`
    * `Text.splitAt_eq_splitOn`
    * `Text.join_append`
    * `Text.join_flatMap_splitAt`
    * `Text.splitAt_flatMap_append`
    * `Text.trim_join_blank_append`
    * `Text.trim_join_append_blank`
    * `Text.trimmed_join`
-/

namespace Marginalia

namespace Text

------------------------------------------------------------
-- Lines
------------------------------------------------------------

/- A text without line breaks. -/
def Unbroken
    (line : Text) : Prop :=
  ∀ c ∈ line, isLineBreak c = false

instance
    (line : Text) :
    Decidable line.Unbroken :=
  List.decidableBAll (isLineBreak · = false) line

/- What ends a line: a line break, or the two that are one. -/
def IsEnding
    (ending : Text) : Prop :=
  ending = ['\r', '\n'] ∨
    ∃ c, isLineBreak c = true ∧ ending = [c]

instance :
    (ending : Text) → Decidable (IsEnding ending)
  | [] => isFalse (by simp [IsEnding])
  | [c] =>
      decidable_of_iff (isLineBreak c = true)
        (by simp [IsEnding])
  | c :: d :: rest =>
      decidable_of_iff (c = '\r' ∧ d = '\n' ∧ rest = [])
        (by simp [IsEnding])

/- A text without blanks has no line breaks. -/
theorem Solid.unbroken
    {text : Text}
    (hSolid : text.Solid) :
    text.Unbroken := by
  intro c hMember
  rw [← Bool.not_eq_true]
  intro hBreak
  have hBlank := isBlank_of_isLineBreak hBreak
  rw [hSolid c hMember] at hBlank
  exact absurd hBlank (by decide)

/- Texts without line breaks have none together. -/
theorem Unbroken.append
    {first last : Text}
    (hFirst : first.Unbroken)
    (hLast : last.Unbroken) :
    Unbroken (first ++ last) :=
  List.forall_mem_append.mpr ⟨hFirst, hLast⟩

/- The lines of a text by its first character. -/
theorem lines_cons
    {c : Char}
    {rest : Text}
    (hAlone : c = '\r' → rest.head? ≠ some '\n') :
    lines (c :: rest) =
      if isLineBreak c then [] :: lines rest
      else prepend [c] (lines rest) := by
  rw [lines]
  rintro more rfl rfl
  exact hAlone rfl rfl

/- What is put in front of some texts is in front of the first. -/
theorem mem_prepend
    {front part : Text}
    {parts : List Text}
    (hPart : part ∈ prepend front parts) :
    part ∈ parts ∨
      ∃ first, (first = [] ∨ first ∈ parts) ∧
        part = front ++ first := by
  cases parts with
  | nil =>
      right
      refine ⟨[], Or.inl rfl, ?_⟩
      rw [List.append_nil]
      exact List.mem_singleton.mp hPart
  | cons first rest =>
      rcases List.mem_cons.mp hPart with hFirst | hRest
      · exact Or.inr
          ⟨first, Or.inr List.mem_cons_self, hFirst⟩
      · exact Or.inl (List.mem_cons_of_mem first hRest)

/- Every line consists of characters of the text. -/
theorem mem_of_mem_lines
    (text : Text) :
    ∀ line ∈ text.lines, ∀ c ∈ line, c ∈ text := by
  fun_induction lines text with
  | case1 => simp
  | case2 rest ih =>
      intro line hLine c hMember
      rcases List.mem_cons.mp hLine with rfl | hLine
      · simp at hMember
      · exact List.mem_cons_of_mem _
          (List.mem_cons_of_mem _ (ih line hLine c hMember))
  | case3 d rest hNot hBreak ih =>
      intro line hLine c hMember
      rcases List.mem_cons.mp hLine with rfl | hLine
      · simp at hMember
      · exact List.mem_cons_of_mem d (ih line hLine c hMember)
  | case4 d rest hNot hBreak ih =>
      intro line hLine c hMember
      rcases mem_prepend hLine with hLine | ⟨first, hFirst, rfl⟩
      · exact List.mem_cons_of_mem d (ih line hLine c hMember)
      · rcases List.mem_append.mp hMember with hMember | hMember
        · rw [List.mem_singleton.mp hMember]
          exact List.mem_cons_self
        · rcases hFirst with rfl | hFirst
          · simp at hMember
          · exact List.mem_cons_of_mem d
              (ih first hFirst c hMember)

/- No line has a line break in it. -/
theorem unbroken_of_mem_lines
    (text : Text) :
    ∀ line ∈ text.lines, line.Unbroken := by
  have hEmpty : Unbroken [] := List.forall_mem_nil _
  fun_induction lines text with
  | case1 => exact List.forall_mem_nil _
  | case2 rest ih => exact List.forall_mem_cons.mpr ⟨hEmpty, ih⟩
  | case3 d rest hNot hBreak ih =>
      exact List.forall_mem_cons.mpr ⟨hEmpty, ih⟩
  | case4 d rest hNot hBreak ih =>
      have hFront : Unbroken [d] :=
        List.forall_mem_singleton.mpr (Bool.eq_false_iff.mpr hBreak)
      intro line hLine
      rcases mem_prepend hLine with hLine | ⟨first, hFirst, rfl⟩
      · exact ih line hLine
      · rcases hFirst with rfl | hFirst
        · exact hFront.append hEmpty
        · exact hFront.append (ih first hFirst)

/-
  A line with its ending is read off the front of a text. An
  ending that could go on with a line feed takes it along.
-/
theorem exists_lines_append
    {line ending : Text}
    (hLine : line.Unbroken)
    (hEnding : IsEnding ending)
    (rest : Text) :
    ∃ rest', (rest' = rest ∨ rest = '\n' :: rest') ∧
      lines (line ++ ending ++ rest) = line :: lines rest' := by
  induction line with
  | nil =>
      rcases hEnding with rfl | ⟨c, hBreak, rfl⟩
      · exact ⟨rest, Or.inl rfl, by rw [List.nil_append]; rfl⟩
      · by_cases hPair : c = '\r' ∧ rest.head? = some '\n'
        · rcases hPair with ⟨rfl, hHead⟩
          rcases List.head?_eq_some_iff.mp hHead with ⟨rest', rfl⟩
          exact ⟨rest', Or.inr rfl, rfl⟩
        · have hAlone : c = '\r' → rest.head? ≠ some '\n' := by
            intro hReturn hHead
            exact hPair ⟨hReturn, hHead⟩
          refine ⟨rest, Or.inl rfl, ?_⟩
          rw [List.nil_append, List.singleton_append,
            lines_cons hAlone, if_pos hBreak]
  | cons c line ih =>
      have hChar : isLineBreak c = false :=
        hLine c List.mem_cons_self
      have hNotReturn : c ≠ '\r' := by
        rintro rfl
        exact absurd hChar (by decide)
      rcases ih (fun d hMember =>
          hLine d (List.mem_cons_of_mem c hMember)) with
        ⟨rest', hRest, hEq⟩
      refine ⟨rest', hRest, ?_⟩
      rw [List.cons_append, List.cons_append,
        lines_cons (fun hReturn => absurd hReturn hNotReturn),
        hEq, hChar]
      rfl

/- The lines of a blank text are blank. -/
theorem allBlank_of_mem_lines
    {text : Text}
    (hBlank : text.AllBlank)
    {line : Text}
    (hLine : line ∈ text.lines) :
    line.AllBlank := by
  intro c hMember
  exact hBlank c (mem_of_mem_lines text line hLine c hMember)

/-
  Lines with their endings, and blanks behind them, fall into
  these lines and blank ones. Only the first line may be
  empty: its ending could go on with that of an empty line.
-/
theorem exists_lines_flatten
    {rows : List (Text × Text)}
    (hRows : ∀ row ∈ rows, row.1.Unbroken ∧ IsEnding row.2)
    (hInk : ∀ row ∈ rows.tail, row.1 ≠ [])
    {closing : Text}
    (hClosing : closing.AllBlank) :
    ∃ back, (∀ line ∈ back, line.AllBlank) ∧
      lines ((rows.map fun row => row.1 ++ row.2).flatten ++
          closing) =
        rows.map Prod.fst ++ back := by
  induction rows with
  | nil =>
      refine ⟨lines closing, ?_, rfl⟩
      intro line hLine
      exact allBlank_of_mem_lines hClosing hLine
  | cons row rest ih =>
      rcases hRows row List.mem_cons_self with ⟨hLine, hEnding⟩
      have hRest :
          ∀ row ∈ rest, row.1.Unbroken ∧ IsEnding row.2 := by
        intro other hMember
        exact hRows other (List.mem_cons_of_mem row hMember)
      rcases exists_lines_append hLine hEnding
          ((rest.map fun row => row.1 ++ row.2).flatten ++
            closing) with ⟨next, hNext, hLines⟩
      rw [List.map_cons, List.flatten_cons, List.append_assoc,
        hLines, List.map_cons]
      rcases hNext with rfl | hFeed
      · rcases ih hRest (fun other hMember =>
            hInk other (List.mem_of_mem_tail hMember)) with
          ⟨back, hBack, hEq⟩
        exact ⟨back, hBack, by rw [hEq, List.cons_append]⟩
      · -- Only the closing blanks can open with a line feed.
        cases rest with
        | nil =>
            rw [List.map_nil, List.flatten_nil,
              List.nil_append] at hFeed
            refine ⟨lines next, ?_, rfl⟩
            intro line hMember
            apply allBlank_of_mem_lines _ hMember
            intro c hChar
            rw [hFeed] at hClosing
            exact hClosing c (List.mem_cons_of_mem _ hChar)
        | cons second more =>
            have hHead : '\n' ∈ second.1 := by
              cases hSecond : second.1 with
              | nil =>
                  exact absurd hSecond
                    (hInk second List.mem_cons_self)
              | cons c line =>
                  rw [List.map_cons, List.flatten_cons,
                    hSecond] at hFeed
                  rw [(List.cons.inj hFeed).1]
                  exact List.mem_cons_self
            exact absurd
              ((hRest second List.mem_cons_self).1 '\n' hHead)
              (by decide)

------------------------------------------------------------
-- Splitting and Joining
------------------------------------------------------------

/- Splitting at a character is the library's splitting. -/
theorem splitAt_eq_splitOn
    (separator : Char)
    (text : Text) :
    splitAt separator text = text.splitOn separator := by
  induction text with
  | nil => rfl
  | cons c rest ih =>
      rw [splitAt, List.splitOn_cons_eq_if_modifyHead, ih]
      by_cases hEq : c = separator
      · simp [hEq]
      · cases hSplit : rest.splitOn separator with
        | nil => exact absurd hSplit (List.splitOn_ne_nil _ _)
        | cons first more => simp [hEq, prepend]

/- No part of a split text has the separator. -/
theorem separator_notMem_of_mem_splitAt
    {separator : Char}
    {text part : Text}
    (hPart : part ∈ splitAt separator text) :
    separator ∉ part := by
  induction text generalizing part with
  | nil =>
      rw [splitAt, List.mem_singleton] at hPart
      simp [hPart]
  | cons c rest ih =>
      rw [splitAt] at hPart
      by_cases hEq : c = separator
      · rw [if_pos hEq] at hPart
        rcases List.mem_cons.mp hPart with rfl | hPart
        · simp
        · exact ih hPart
      · rw [if_neg hEq] at hPart
        rcases mem_prepend hPart with
          hPart | ⟨first, hFirst, rfl⟩
        · exact ih hPart
        · rw [List.mem_append, List.mem_singleton]
          rintro (hSame | hMember)
          · exact hEq hSame.symm
          · rcases hFirst with rfl | hFirst
            · simp at hMember
            · exact ih hFirst hMember

/- Joining what was split gives the text back. -/
theorem join_splitAt
    (separator : Char)
    (text : Text) :
    join [separator] (splitAt separator text) = text := by
  rw [splitAt_eq_splitOn]
  exact List.intercalate_splitOn separator

/- A single part is joined as it is. -/
theorem join_singleton
    (separator part : Text) :
    join separator [part] = part :=
  List.intercalate_singleton

/- The first part is joined to the others by a separator. -/
theorem join_cons
    (separator part : Text)
    {rest : List Text}
    (hRest : rest ≠ []) :
    join separator (part :: rest) =
      part ++ separator ++ join separator rest :=
  List.intercalate_cons_of_ne_nil hRest

/- Joined parts are joined in turn. -/
theorem join_append
    (separator : Text)
    {left right : List Text}
    (hLeft : left ≠ [])
    (hRight : right ≠ []) :
    join separator (left ++ right) =
      join separator left ++ separator ++ join separator right := by
  induction left with
  | nil => exact absurd rfl hLeft
  | cons first rest ih =>
      by_cases hRest : rest = []
      · subst hRest
        rw [List.singleton_append, join_cons separator first hRight,
          join_singleton]
      · rw [List.cons_append,
          join_cons separator first (by simp [hRest]), ih hRest,
          join_cons separator first hRest]
        simp only [List.append_assoc]

/- With a separator behind them, all parts have one behind them. -/
theorem join_append_self
    (separator : Text)
    {parts : List Text}
    (hParts : parts ≠ []) :
    join separator parts ++ separator =
      (parts.map (· ++ separator)).flatten := by
  induction parts with
  | nil => exact absurd rfl hParts
  | cons first rest ih =>
      by_cases hRest : rest = []
      · simp [hRest, join_singleton]
      · rw [join_cons separator first hRest, List.append_assoc,
          ih hRest, List.map_cons, List.flatten_cons]

/- Joined parts start with the first of them. -/
theorem exists_join_cons
    (separator first : Text)
    (rest : List Text) :
    ∃ tail, join separator (first :: rest) = first ++ tail := by
  by_cases hRest : rest = []
  · exact ⟨[], by rw [hRest, join_singleton, List.append_nil]⟩
  · exact ⟨separator ++ join separator rest, by
      rw [join_cons separator first hRest, List.append_assoc]⟩

/- The characters of the parts are in the joined text. -/
theorem mem_join
    (separator : Text)
    {parts : List Text}
    {part : Text}
    (hPart : part ∈ parts)
    {c : Char}
    (hMember : c ∈ part) :
    c ∈ join separator parts := by
  induction parts with
  | nil => simp at hPart
  | cons first rest ih =>
      by_cases hRest : rest = []
      · rw [hRest, List.mem_singleton] at hPart
        rw [hRest, join_singleton, ← hPart]
        exact hMember
      · rw [join_cons separator first hRest]
        rcases List.mem_cons.mp hPart with rfl | hPart
        · exact List.mem_append_left _
            (List.mem_append_left _ hMember)
        · exact List.mem_append_right _ (ih hPart)

/- The joined text has no characters but those and separators. -/
theorem mem_or_mem_of_mem_join
    {separator : Text}
    {parts : List Text}
    {c : Char}
    (hMember : c ∈ join separator parts) :
    c ∈ separator ∨ ∃ part ∈ parts, c ∈ part := by
  induction parts with
  | nil => simp [join] at hMember
  | cons first rest ih =>
      by_cases hRest : rest = []
      · rw [hRest, join_singleton] at hMember
        exact Or.inr ⟨first, List.mem_cons_self, hMember⟩
      · rw [join_cons separator first hRest, List.append_assoc,
          List.mem_append, List.mem_append] at hMember
        rcases hMember with hFirst | hSeparator | hMember
        · exact Or.inr ⟨first, List.mem_cons_self, hFirst⟩
        · exact Or.inl hSeparator
        · rcases ih hMember with hSeparator | ⟨part, hPart, hChar⟩
          · exact Or.inl hSeparator
          · exact Or.inr
              ⟨part, List.mem_cons_of_mem first hPart, hChar⟩

/- What is done to each character is done to each part. -/
theorem map_join
    (f : Char → Char)
    (separator : Text)
    (parts : List Text) :
    (join separator parts).map f =
      join (separator.map f) (parts.map (List.map f)) := by
  induction parts with
  | nil => rfl
  | cons part rest ih =>
      by_cases hRest : rest = []
      · rw [hRest, join_singleton]
        exact (join_singleton _ _).symm
      · rw [join_cons separator part hRest, List.map_append,
          List.map_append, ih, List.map_cons,
          join_cons _ _ (by simpa using hRest)]

/- A text behind the joined parts is behind the last of them. -/
theorem join_append_singleton_append
    (separator : Text)
    (parts : List Text)
    (last text : Text) :
    join separator (parts ++ [last ++ text]) =
      join separator (parts ++ [last]) ++ text := by
  by_cases hParts : parts = []
  · rw [hParts, List.nil_append, List.nil_append, join_singleton,
      join_singleton]
  · rw [join_append separator hParts (List.cons_ne_nil _ _),
      join_append separator hParts (List.cons_ne_nil _ _),
      join_singleton, join_singleton]
    simp only [List.append_assoc]

/- A text is split into at least one part. -/
theorem splitAt_ne_nil
    (separator : Char)
    (text : Text) :
    splitAt separator text ≠ [] := by
  rw [splitAt_eq_splitOn]
  exact List.splitOn_ne_nil separator text

/- Some texts are split into at least one part. -/
theorem flatMap_splitAt_ne_nil
    (separator : Char)
    {texts : List Text}
    (hNonempty : texts ≠ []) :
    texts.flatMap (splitAt separator) ≠ [] := by
  cases texts with
  | nil => exact absurd rfl hNonempty
  | cons text rest => simp [splitAt_ne_nil]

/- Splitting each of some texts does not change them joined. -/
theorem join_flatMap_splitAt
    (separator : Char)
    (texts : List Text) :
    join [separator] (texts.flatMap (splitAt separator)) =
      join [separator] texts := by
  induction texts with
  | nil => rfl
  | cons text rest ih =>
      by_cases hRest : rest = []
      · subst hRest
        rw [List.flatMap_cons, List.flatMap_nil, List.append_nil,
          join_splitAt, join_singleton]
      · rw [List.flatMap_cons,
          join_append [separator] (splitAt_ne_nil separator text)
            (flatMap_splitAt_ne_nil separator hRest),
          ih, join_splitAt, join_cons [separator] text hRest]

/- A front without the separator goes to the first part. -/
theorem splitAt_append
    {separator : Char}
    {front : Text}
    (hFront : separator ∉ front)
    (text : Text) :
    splitAt separator (front ++ text) =
      prepend front (splitAt separator text) := by
  induction front with
  | nil =>
      cases hSplit : splitAt separator text with
      | nil => exact absurd hSplit (splitAt_ne_nil separator text)
      | cons first rest => simp [prepend, hSplit]
  | cons c front ih =>
      have hNe : c ≠ separator := by
        rintro rfl
        exact hFront List.mem_cons_self
      have hRest : separator ∉ front := by
        intro hMember
        exact hFront (List.mem_cons_of_mem c hMember)
      rw [List.cons_append, splitAt, if_neg hNe, ih hRest]
      cases splitAt separator text with
      | nil => rfl
      | cons first rest => rfl

/- It opens the first part. -/
theorem prefix_of_splitAt_append
    {separator : Char}
    {front text first : Text}
    {rest : List Text}
    (hFront : separator ∉ front)
    (hSplit : splitAt separator (front ++ text) = first :: rest) :
    front <+: first := by
  rw [splitAt_append hFront] at hSplit
  cases hText : splitAt separator text with
  | nil => exact absurd hText (splitAt_ne_nil separator text)
  | cons part parts =>
      rw [hText] at hSplit
      cases hSplit
      exact List.prefix_append front part

/- Nothing stands before a separator at the start. -/
theorem head?_splitAt
    {separator : Char}
    {text : Text}
    (hHead : ∀ c ∈ text.head?, c = separator) :
    (splitAt separator text).head? = some [] := by
  cases text with
  | nil => rfl
  | cons c rest =>
      rw [splitAt, if_pos (hHead c rfl)]
      rfl

/- Parts that each have a separator behind them are split off. -/
theorem splitAt_flatMap_append
    {separator : Char}
    {parts : List Text}
    (hParts : ∀ part ∈ parts, separator ∉ part)
    (text : Text) :
    splitAt separator (parts.flatMap (· ++ [separator]) ++ text) =
      parts ++ splitAt separator text := by
  induction parts with
  | nil => rfl
  | cons part rest ih =>
      rw [List.forall_mem_cons] at hParts
      rw [List.flatMap_cons, List.append_assoc, List.append_assoc,
        splitAt_append hParts.1, List.singleton_append, splitAt,
        if_pos rfl, ih hParts.2]
      simp [prepend]

------------------------------------------------------------
-- Blank Lines
------------------------------------------------------------

/- Blank lines in front of a text do not count when trimmed. -/
theorem trim_join_blank_append
    {blanks : List Text}
    (hBlank : ∀ line ∈ blanks, line.AllBlank)
    (parts : List Text) :
    trim (join ['\n'] (blanks ++ parts)) =
      trim (join ['\n'] parts) := by
  induction blanks with
  | nil => rfl
  | cons line rest ih =>
      have hBreak : AllBlank ['\n'] := by decide
      have hLine : line.AllBlank := hBlank line List.mem_cons_self
      have hRest : ∀ line ∈ rest, line.AllBlank := by
        intro other hMember
        exact hBlank other (List.mem_cons_of_mem line hMember)
      rw [← ih hRest, List.cons_append]
      by_cases hNone : rest ++ parts = []
      · rw [hNone, join_singleton, trim_of_allBlank hLine]
        rfl
      · rw [join_cons ['\n'] line hNone]
        exact trim_blank_append (hLine.append hBreak) _

/- Nor do blank lines behind it. -/
theorem trim_join_append_blank
    (parts : List Text)
    {blanks : List Text}
    (hBlank : ∀ line ∈ blanks, line.AllBlank) :
    trim (join ['\n'] (parts ++ blanks)) =
      trim (join ['\n'] parts) := by
  induction blanks generalizing parts with
  | nil => rw [List.append_nil]
  | cons line rest ih =>
      have hBreak : AllBlank ['\n'] := by decide
      have hLine : line.AllBlank := hBlank line List.mem_cons_self
      have hRest : ∀ line ∈ rest, line.AllBlank := by
        intro other hMember
        exact hBlank other (List.mem_cons_of_mem line hMember)
      rw [List.append_cons, ih (parts ++ [line]) hRest]
      by_cases hNone : parts = []
      · rw [hNone, List.nil_append, join_singleton,
          trim_of_allBlank hLine]
        rfl
      · rw [join_append ['\n'] hNone (List.cons_ne_nil line []),
          join_singleton, List.append_assoc]
        exact trim_append_blank _ (hBreak.append hLine)

/- Trimmed texts are trimmed when joined. -/
theorem trimmed_join
    (separator : Text)
    {parts : List Text}
    (hTrimmed : ∀ part ∈ parts, part.Trimmed ∧ part ≠ []) :
    Trimmed (join separator parts) := by
  suffices hInk :
      Trimmed (join separator parts) ∧
        (parts ≠ [] → join separator parts ≠ []) from hInk.1
  induction parts with
  | nil => exact ⟨rfl, fun hNone => absurd rfl hNone⟩
  | cons first rest ih =>
      rcases hTrimmed first List.mem_cons_self with
        ⟨hFirst, hFirstInk⟩
      rcases ih (fun part hMember =>
          hTrimmed part (List.mem_cons_of_mem first hMember)) with
        ⟨hRest, hRestInk⟩
      by_cases hNone : rest = []
      · rw [hNone, join_singleton]
        exact ⟨hFirst, fun _ => hFirstInk⟩
      · rw [join_cons separator first hNone]
        refine ⟨hFirst.append hFirstInk hRest (hRestInk hNone)
          separator, ?_⟩
        simp [hFirstInk]

end Text

end Marginalia
