import Marginalia.Proofs.Text.Lines

/-
  This file defines the pieces of a text, its stretches between
  the characters of a class, and the words as its pieces
  between blanks. It shows that neither trimming nor cutting a
  text at a blank changes its words.

  Key definitions include:
    * `Text.pieces`
    * `Text.words`

  Main results:
    * `Text.pieces_append_cons`
    * `Text.pieces_dropWhile`
    * `Text.pieces_join`
    * `Text.words_append_of_blank_end`
    * `Text.words_trim`
-/

namespace Marginalia

namespace Text

------------------------------------------------------------
-- Pieces
------------------------------------------------------------

/- The nonempty stretches of a text between cuts, in order. -/
def pieces
    (cuts : Char → Bool)
    (text : Text) : List Text :=
  (text.splitOnP cuts).filter (!·.isEmpty)

section Pieces

variable {cuts : Char → Bool}

/- A cut separates the pieces before it from those after it. -/
theorem pieces_append_cons
    (before after : Text)
    {c : Char}
    (hCut : cuts c = true) :
    pieces cuts (before ++ c :: after) =
      pieces cuts before ++ pieces cuts after := by
  unfold pieces
  rw [List.splitOnP_append_cons before after hCut,
    List.filter_append]

/- A text without cuts is one piece. -/
theorem pieces_of_uncut
    {text : Text}
    (hNonempty : text ≠ [])
    (hUncut : ∀ c ∈ text, cuts c = false) :
    pieces cuts text = [text] := by
  unfold pieces
  rw [List.splitOnP_eq_singleton hUncut]
  simp [hNonempty]

/- Texts without cuts are their own pieces. -/
theorem flatMap_pieces_of_uncut
    {parts : List Text}
    (hParts :
      ∀ part ∈ parts, part ≠ [] ∧ ∀ c ∈ part, cuts c = false) :
    parts.flatMap (pieces cuts) = parts := by
  rw [List.flatMap_congr fun part hPart =>
    pieces_of_uncut (hParts part hPart).1 (hParts part hPart).2]
  exact List.flatMap_singleton' parts

/- Cuts in front of a text add no pieces. -/
theorem pieces_cut_append
    {front text : Text}
    (hFront : ∀ c ∈ front, cuts c = true) :
    pieces cuts (front ++ text) = pieces cuts text := by
  induction front with
  | nil => rfl
  | cons c rest ih =>
      have hRest : ∀ d ∈ rest, cuts d = true := by
        intro d hMember
        exact hFront d (List.mem_cons_of_mem c hMember)
      have hCut := pieces_append_cons [] (rest ++ text)
        (hFront c List.mem_cons_self)
      rw [ih hRest] at hCut
      exact hCut

/- Dropping the cuts at the start of a text keeps its pieces. -/
theorem pieces_dropWhile
    (text : Text) :
    pieces cuts (text.dropWhile cuts) = pieces cuts text := by
  have hFront : ∀ c ∈ text.takeWhile cuts, cuts c = true := by
    intro c hMember
    exact List.mem_takeWhile_imp hMember
  calc pieces cuts (text.dropWhile cuts)
      = pieces cuts
          (text.takeWhile cuts ++ text.dropWhile cuts) :=
        (pieces_cut_append hFront).symm
    _ = pieces cuts text := by
        rw [List.takeWhile_append_dropWhile]

end Pieces

/- The nonempty parts of a split text are its pieces. -/
theorem filter_splitAt
    (separator : Char)
    (text : Text) :
    (splitAt separator text).filter (!·.isEmpty) =
      pieces (· == separator) text := by
  rw [splitAt_eq_splitOn]
  rfl

/- Joined texts have the pieces of each of them. -/
theorem pieces_join
    (separator : Char)
    (parts : List Text) :
    pieces (· == separator) (join [separator] parts) =
      parts.flatMap (pieces (· == separator)) := by
  induction parts with
  | nil => rfl
  | cons part rest ih =>
      by_cases hRest : rest = []
      · simp [hRest, join_singleton]
      · have hCut :
            pieces (· == separator)
                (part ++ separator :: join [separator] rest) =
              pieces (· == separator) part ++
                pieces (· == separator) (join [separator] rest) :=
          pieces_append_cons part _ (beq_self_eq_true separator)
        rw [join_cons [separator] part hRest, List.append_assoc,
          List.singleton_append, hCut, ih, List.flatMap_cons]

------------------------------------------------------------
-- Words
------------------------------------------------------------

/- The stretches of a text between its blanks, in order. -/
def words
    (text : Text) : List Text :=
  text.pieces isBlank

/- An empty text has no words. -/
@[simp] theorem words_nil :
    words [] = [] :=
  rfl

/- A blank separates the words before it from those after it. -/
theorem words_append_cons
    (before after : Text)
    {blank : Char}
    (hBlank : isBlank blank = true) :
    words (before ++ blank :: after) =
      before.words ++ after.words :=
  pieces_append_cons before after hBlank

/- A text without blanks is one word. -/
theorem words_of_solid
    {text : Text}
    (hNonempty : text ≠ [])
    (hSolid : text.Solid) :
    words text = [text] :=
  pieces_of_uncut hNonempty hSolid

/- Blanks in front of a text add no words. -/
theorem words_blank_append
    {blanks text : Text}
    (hBlank : blanks.AllBlank) :
    words (blanks ++ text) = text.words :=
  pieces_cut_append hBlank

/- Two texts that meet at a blank keep their words. -/
theorem words_append_of_blank_end
    {before : Text}
    (after : Text)
    (hEnd : ∀ c ∈ before.getLast?, isBlank c = true) :
    words (before ++ after) = before.words ++ after.words := by
  cases before using List.reverseRecOn with
  | nil => rfl
  | append_singleton front last =>
      have hLast : isBlank last = true :=
        hEnd last (by simp)
      have hFront := words_append_cons front [] hLast
      rw [words_nil, List.append_nil] at hFront
      rw [List.append_assoc, List.singleton_append,
        words_append_cons front after hLast, hFront]

/- Pieces that end in blanks keep their words when joined. -/
theorem words_flatten
    {pieces : List Text}
    (hEnds :
      ∀ piece ∈ pieces, ∀ c ∈ piece.getLast?, isBlank c = true) :
    words pieces.flatten = pieces.flatMap words := by
  induction pieces with
  | nil => rfl
  | cons piece rest ih =>
      rw [List.flatten_cons, List.flatMap_cons,
        words_append_of_blank_end rest.flatten
          (hEnds piece List.mem_cons_self),
        ih fun other hMember =>
          hEnds other (List.mem_cons_of_mem piece hMember)]

/- Blanks behind a text add no words. -/
theorem words_append_blank
    {text blanks : Text}
    (hBlank : blanks.AllBlank) :
    words (text ++ blanks) = text.words := by
  cases blanks with
  | nil => rw [List.append_nil]
  | cons c rest =>
      have hFirst : isBlank c = true :=
        hBlank c List.mem_cons_self
      have hRest : AllBlank rest := by
        intro d hMember
        exact hBlank d (List.mem_cons_of_mem c hMember)
      have hNone : words (rest ++ []) = [] :=
        words_blank_append hRest
      rw [List.append_nil] at hNone
      rw [words_append_cons text rest hFirst, hNone,
        List.append_nil]

/- Trimming the start of a text keeps its words. -/
theorem words_trimStart
    (text : Text) :
    words text.trimStart = text.words :=
  pieces_dropWhile text

/- Trimming the end of a text keeps its words. -/
theorem words_trimEnd
    (text : Text) :
    words text.trimEnd = text.words := by
  have hBlank : AllBlank (text.rtakeWhile isBlank) := by
    intro c hMember
    exact List.mem_rtakeWhile_imp hMember
  calc words text.trimEnd
      = words (text.rdropWhile isBlank ++
          text.rtakeWhile isBlank) :=
        (words_append_blank hBlank).symm
    _ = text.words := by
        rw [List.rdropWhile_append_rtakeWhile]

/- Trimming a text keeps its words. -/
theorem words_trim
    (text : Text) :
    words text.trim = text.words := by
  unfold trim
  rw [words_trimEnd, words_trimStart]

end Text

end Marginalia
