import Mathlib.Data.List.Infix
import Mathlib.Data.List.TakeWhile
import Marginalia.Text

/-
  This file searches texts for marks and for the end of a
  stretch of characters. It says when a mark is found and
  where, and shows that what is found in a text is found in
  the same way when the text goes on.

  Key definitions include:
    * `Text.Unbordered`

  Main results:
    * `Text.cut?_append`
    * `Text.cut?_eq_none_iff`
    * `Text.cut?_eq_some_iff`
    * `Text.exists_cut?_of_mem`
    * `Text.stretch_append`
    * `Text.dropWhile_append_of_mem`
    * `Text.isPrefixOf_append_of_mem`
-/

namespace Marginalia

namespace Text

------------------------------------------------------------
-- Marks
------------------------------------------------------------

/- A mark that opens a text is found at its start. -/
theorem cut?_of_opens
    {mark text : Text}
    (hText : mark <+: text) :
    cut? mark text = some ([], text.drop mark.length) := by
  cases text with
  | nil =>
      rw [List.prefix_nil.mp hText]
      rfl
  | cons c rest =>
      rw [cut?, if_pos (List.isPrefixOf_iff_prefix.mpr hText)]

/- A mark that does not open a text is found behind its start. -/
theorem cut?_cons_of_not_opens
    {mark rest : Text}
    {c : Char}
    (hText : ¬mark <+: c :: rest) :
    cut? mark (c :: rest) =
      (cut? mark rest).map (Prod.map (c :: ·) id) := by
  rw [cut?, if_neg]
  · rfl
  · rw [List.isPrefixOf_iff_prefix]
    exact hText

/- The first occurrence of a mark stays the first one. -/
theorem cut?_append
    {mark text before after : Text}
    (hCut : cut? mark text = some (before, after))
    (more : Text) :
    cut? mark (text ++ more) = some (before, after ++ more) := by
  induction text generalizing before with
  | nil =>
      have hText := eq_of_cut? hCut
      simp only [List.nil_eq, List.append_eq_nil_iff] at hText
      rcases hText with ⟨⟨rfl, rfl⟩, rfl⟩
      exact cut?_of_opens List.nil_prefix
  | cons c rest ih =>
      by_cases hMark : mark <+: c :: rest
      · rw [cut?_of_opens hMark] at hCut
        cases hCut
        have hMore := hMark.trans (List.prefix_append (c :: rest) more)
        rw [cut?_of_opens hMore,
          List.drop_append_of_le_length hMark.length_le]
      · rw [cut?_cons_of_not_opens hMark] at hCut
        rcases Option.map_eq_some_iff.mp hCut with
          ⟨⟨inner, rest'⟩, hRest, hEq⟩
        cases hEq
        -- The mark fits into what is left, so that it cannot
        -- reach from here into the appended text.
        have hFits : mark.length ≤ (c :: rest).length := by
          have hLength := length_of_cut? hRest
          rw [List.length_cons]
          omega
        have hStill : ¬mark <+: c :: (rest ++ more) := by
          intro hMore
          exact hMark (List.prefix_of_prefix_length_le hMore
            (List.prefix_append (c :: rest) more) hFits)
        rw [List.cons_append, cut?_cons_of_not_opens hStill,
          ih hRest]
        rfl

/- No mark stands before its first occurrence. -/
theorem not_infix_of_cut?
    {mark text before after : Text}
    (hMark : mark ≠ [])
    (hCut : cut? mark text = some (before, after)) :
    ¬mark <:+: before := by
  induction text generalizing before after with
  | nil =>
      have hText := eq_of_cut? hCut
      simp [hMark] at hText
  | cons c rest ih =>
      by_cases hOpens : mark <+: c :: rest
      · rw [cut?_of_opens hOpens] at hCut
        cases hCut
        rwa [List.infix_nil]
      · rw [cut?_cons_of_not_opens hOpens] at hCut
        rcases Option.map_eq_some_iff.mp hCut with
          ⟨⟨inner, rest'⟩, hRest, hEq⟩
        cases hEq
        intro hInfix
        rcases List.infix_cons_iff.mp hInfix with hFirst | hInner
        · have hInside : c :: inner <+: c :: rest := by
            rw [eq_of_cut? hRest, List.append_assoc]
            exact List.prefix_append (c :: inner) _
          exact hOpens (hFirst.trans hInside)
        · exact ih hRest hInner

/- A mark is not found exactly where there is none. -/
theorem cut?_eq_none_iff
    {mark text : Text}
    (hMark : mark ≠ []) :
    cut? mark text = none ↔ ¬mark <:+: text := by
  induction text with
  | nil => simp [cut?, hMark]
  | cons c rest ih =>
      rw [List.infix_cons_iff, not_or, ← ih]
      by_cases hOpens : mark <+: c :: rest
      · simp [cut?_of_opens hOpens, hOpens]
      · simp [cut?_cons_of_not_opens hOpens, hOpens]

/-
  A mark that does not overlap with itself: none of its starts
  is also one of its ends, but for the whole mark.
-/
def Unbordered
    (mark : Text) : Prop :=
  ∀ overlap, overlap <+: mark → overlap <:+ mark →
    overlap = [] ∨ overlap = mark

/- A mark whose first character is not repeated is such a mark. -/
theorem unbordered_of_first
    {c : Char}
    {tail : Text}
    (hTail : c ∉ tail) :
    Unbordered (c :: tail) := by
  intro overlap hStart hEnd
  rcases List.suffix_cons_iff.mp hEnd with hWhole | hInside
  · exact Or.inr hWhole
  · cases overlap with
    | nil => exact Or.inl rfl
    | cons d rest =>
        have hHead : d = c := (List.cons_prefix_cons.mp hStart).1
        rw [hHead] at hInside
        exact absurd (hInside.subset List.mem_cons_self) hTail

/- A mark whose last character is not repeated is one as well. -/
theorem unbordered_of_last
    {c : Char}
    {front : Text}
    (hFront : c ∉ front) :
    Unbordered (front ++ [c]) := by
  intro overlap hStart hEnd
  rcases List.prefix_concat_iff.mp hStart with hWhole | hInside
  · exact Or.inr hWhole
  · rcases List.suffix_concat_iff.mp hEnd with hNone | ⟨rest, rfl, -⟩
    · exact Or.inl hNone
    · have hLast : c ∈ rest ++ [c] := by simp
      exact absurd (hInside.subset hLast) hFront

/-
  Where such a mark opens a text that goes on with the mark, it
  does so within what stands before.
-/
theorem prefix_of_prefix_append
    {mark before after : Text}
    (hMark : mark.Unbordered)
    (hBefore : before ≠ [])
    (hOpens : mark <+: before ++ (mark ++ after)) :
    mark <+: before := by
  rcases List.prefix_or_prefix_of_prefix hOpens
      (List.prefix_append before (mark ++ after)) with
    hInside | ⟨overlap, hOverlap⟩
  · exact hInside
  · -- An overlap would open the second mark and end the first.
    have hStart : overlap <+: mark := by
      rw [← hOverlap, List.prefix_append_right_inj, hOverlap] at hOpens
      apply List.prefix_of_prefix_length_le hOpens
        (List.prefix_append mark after)
      rw [← hOverlap, List.length_append]
      exact Nat.le_add_left overlap.length before.length
    rcases hMark overlap hStart ⟨before, hOverlap⟩ with hNone | hWhole
    · rw [hNone, List.append_nil] at hOverlap
      exact ⟨[], by rw [List.append_nil, hOverlap]⟩
    · rw [hWhole, List.append_left_eq_self] at hOverlap
      exact absurd hOverlap hBefore

/-
  Such a mark is found behind every text that does not hold it
  and in no other way.
-/
theorem cut?_eq_some_iff
    {mark text before after : Text}
    (hMark : mark.Unbordered)
    (hNonempty : mark ≠ []) :
    cut? mark text = some (before, after) ↔
      text = before ++ mark ++ after ∧ ¬mark <:+: before := by
  constructor
  · intro hCut
    exact ⟨eq_of_cut? hCut, not_infix_of_cut? hNonempty hCut⟩
  · intro hText
    rcases hText with ⟨rfl, hBefore⟩
    rw [List.append_assoc]
    induction before with
    | nil =>
        rw [List.nil_append, cut?_of_opens (List.prefix_append _ _),
          List.drop_left]
    | cons d before ih =>
        rw [List.infix_cons_iff, not_or] at hBefore
        have hLater :
            ¬mark <+: d :: (before ++ (mark ++ after)) := by
          intro hOpens
          exact hBefore.1
            (prefix_of_prefix_append hMark (List.cons_ne_nil d before)
              hOpens)
        rw [List.cons_append, cut?_cons_of_not_opens hLater,
          ih hBefore.2]
        rfl

/- A character is found behind a text without it. -/
theorem cut?_singleton_eq_some_iff
    {c : Char}
    {text before after : Text} :
    cut? [c] text = some (before, after) ↔
      text = before ++ [c] ++ after ∧ c ∉ before := by
  rw [cut?_eq_some_iff (unbordered_of_first List.not_mem_nil)
      (List.cons_ne_nil c []),
    List.singleton_infix_iff]

/- A character that is not found does not stand in the text. -/
theorem cut?_singleton_eq_none_iff
    {c : Char}
    {text : Text} :
    cut? [c] text = none ↔ c ∉ text := by
  rw [cut?_eq_none_iff (List.cons_ne_nil c []),
    List.singleton_infix_iff]

/- A character that stands in a text is found there. -/
theorem exists_cut?_of_mem
    {c : Char}
    {text : Text}
    (hMember : c ∈ text) :
    ∃ before after, cut? [c] text = some (before, after) := by
  induction text with
  | nil => cases hMember
  | cons d rest ih =>
      by_cases hEq : c = d
      · exact ⟨[], rest, by simp [cut?, hEq]⟩
      · rcases ih (List.mem_of_ne_of_mem hEq hMember) with
          ⟨before, after, hCut⟩
        exact ⟨d :: before, after, by simp [cut?, hEq, hCut]⟩

/- A mark cannot reach behind a character that it lacks. -/
theorem isPrefixOf_append_of_mem
    {mark text : Text}
    {stop : Char}
    (hMark : stop ∉ mark)
    (hMember : stop ∈ text)
    (more : Text) :
    mark.isPrefixOf (text ++ more) = mark.isPrefixOf text := by
  rw [Bool.eq_iff_iff, List.isPrefixOf_iff_prefix,
    List.isPrefixOf_iff_prefix]
  constructor
  · intro hPrefix
    rcases List.prefix_or_prefix_of_prefix hPrefix
        (List.prefix_append text more) with hInside | hOutside
    · exact hInside
    · exact absurd (hOutside.subset hMember) hMark
  · intro hPrefix
    exact hPrefix.trans (List.prefix_append text more)

------------------------------------------------------------
-- Stretches
------------------------------------------------------------

variable
    {keeps : Char → Bool}
    {stop : Char}
    {text : Text}

/- A text opens with its front, or with the rest if that is empty. -/
theorem head?_append_of_forall
    {P : Char → Prop}
    {front rest : Text}
    (hFront : ∀ c ∈ front, P c)
    (hRest : front = [] → ∀ c ∈ rest.head?, P c) :
    ∀ c ∈ (front ++ rest).head?, P c := by
  cases front with
  | nil => exact hRest rfl
  | cons d more =>
      intro c hHead
      rw [← Option.some.inj hHead]
      exact hFront d List.mem_cons_self

/- What follows a stretch of kept characters opens with no such. -/
theorem head?_dropWhile
    (keeps : Char → Bool)
    (text : Text) :
    ∀ c ∈ (text.dropWhile keeps).head?, keeps c = false := by
  intro c hHead
  have hStop := List.head?_dropWhile_not keeps text
  rwa [hHead] at hStop

/- A stretch goes up to a text that opens with no such character. -/
theorem stretch_append
    {front rest : Text}
    (hFront : ∀ c ∈ front, keeps c = true)
    (hRest : ∀ c ∈ rest.head?, keeps c = false) :
    (front ++ rest).takeWhile keeps = front ∧
      (front ++ rest).dropWhile keeps = rest := by
  rw [List.takeWhile_append_of_pos hFront,
    List.dropWhile_append_of_pos hFront]
  cases rest with
  | nil => simp
  | cons c more =>
      have hStop := hRest c rfl
      simp [hStop]

/- A character that is not kept ends a stretch of kept ones. -/
theorem mem_dropWhile
    (hStop : keeps stop = false)
    (hMember : stop ∈ text) :
    stop ∈ text.dropWhile keeps := by
  rw [← List.takeWhile_append_dropWhile (p := keeps) (l := text)]
    at hMember
  rcases List.mem_append.mp hMember with hTaken | hLeft
  · rw [List.mem_takeWhile_imp hTaken] at hStop
    cases hStop
  · exact hLeft

/- Such a stretch is left behind as before. -/
theorem dropWhile_append_of_mem
    (hStop : keeps stop = false)
    (hMember : stop ∈ text)
    (more : Text) :
    (text ++ more).dropWhile keeps =
      text.dropWhile keeps ++ more := by
  have hLeft := mem_dropWhile hStop hMember
  rw [List.dropWhile_append, if_neg]
  rw [List.isEmpty_iff]
  exact List.ne_nil_of_mem hLeft

/- Such a stretch is also found as before. -/
theorem takeWhile_append_of_mem
    (hStop : keeps stop = false)
    (hMember : stop ∈ text)
    (more : Text) :
    (text ++ more).takeWhile keeps = text.takeWhile keeps := by
  have hParts :=
    List.takeWhile_append_dropWhile (p := keeps) (l := text ++ more)
  rw [dropWhile_append_of_mem hStop hMember, ← List.append_assoc]
    at hParts
  have hTaken := List.append_cancel_right hParts
  exact List.append_cancel_right
    (hTaken.trans List.takeWhile_append_dropWhile.symm)

end Text

end Marginalia
