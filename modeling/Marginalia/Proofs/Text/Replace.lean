import Mathlib.Data.List.Infix
import Marginalia.Proofs.Text.Blank
import Marginalia.Proofs.Text.Search

/-
  This file replaces the occurrences of a mark in a text. It
  shows that a character which is written as a mark can be
  read back from it, and what stands before that character
  when the mark ends with it.

  Key definitions include:
    * `Text.replaceAll`
    * `Text.Guarded`

  Main results:
    * `Text.replaceAll_of_cut?`
    * `Text.replaceAll_singleton`
    * `Text.replaceAll_replaceAll`
    * `Text.guarded_replaceAll`
    * `Text.trimmed_replaceAll`
-/

namespace Marginalia

namespace Text

------------------------------------------------------------
-- Replacing Marks
------------------------------------------------------------

/-
  The text with every occurrence of a mark, found from left to
  right, written in another way. The number tells how many
  characters of the last occurrence are still to be passed.
-/
def replaceFrom
    (mark new : Text) : Nat → Text → Text
  | _, [] => []
  | passing + 1, _ :: rest => replaceFrom mark new passing rest
  | 0, c :: rest =>
      if mark.isPrefixOf (c :: rest) then
        new ++ replaceFrom mark new (mark.length - 1) rest
      else c :: replaceFrom mark new 0 rest

/- The text with every occurrence of a mark replaced. -/
def replaceAll
    (text mark new : Text) : Text :=
  replaceFrom mark new 0 text

@[simp] theorem replaceAll_nil
    (mark new : Text) :
    replaceAll [] mark new = [] :=
  rfl

/- Characters that are passed are left out. -/
theorem replaceFrom_eq_drop
    (mark new : Text)
    (passing : Nat)
    (text : Text) :
    replaceFrom mark new passing text =
      replaceAll (text.drop passing) mark new := by
  induction text generalizing passing with
  | nil => simp [replaceAll, replaceFrom]
  | cons c rest ih =>
      cases passing with
      | zero => rfl
      | succ passing => exact ih passing

/- A mark that opens a text is replaced. -/
theorem replaceAll_append
    {mark : Text}
    (hMark : mark ≠ [])
    (new rest : Text) :
    replaceAll (mark ++ rest) mark new =
      new ++ replaceAll rest mark new := by
  rcases List.exists_cons_of_ne_nil hMark with ⟨c, tail, rfl⟩
  have hOpens : (c :: tail).isPrefixOf (c :: (tail ++ rest)) = true :=
    List.isPrefixOf_iff_prefix.mpr (List.prefix_append (c :: tail) rest)
  rw [List.cons_append, replaceAll, replaceFrom, if_pos hOpens,
    replaceFrom_eq_drop, List.length_cons, Nat.add_sub_cancel,
    List.drop_left]

/- Where no mark opens a text, its first character is kept. -/
theorem replaceAll_cons_of_not_opens
    {mark rest : Text}
    {c : Char}
    (hText : ¬mark <+: c :: rest)
    (new : Text) :
    replaceAll (c :: rest) mark new = c :: replaceAll rest mark new := by
  rw [← List.isPrefixOf_iff_prefix] at hText
  rw [replaceAll, replaceFrom, if_neg hText]
  rfl

/- The first occurrence of a mark is replaced, then the others. -/
theorem replaceAll_of_cut?
    {mark text before after : Text}
    (hMark : mark ≠ [])
    (hCut : cut? mark text = some (before, after))
    (new : Text) :
    replaceAll text mark new =
      before ++ (new ++ replaceAll after mark new) := by
  induction text generalizing before with
  | nil =>
      have hText := eq_of_cut? hCut
      simp [hMark] at hText
  | cons c rest ih =>
      by_cases hOpens : mark <+: c :: rest
      · rw [cut?_of_opens hOpens] at hCut
        cases hCut
        rcases hOpens with ⟨after, hText⟩
        rw [← hText, replaceAll_append hMark, List.drop_left,
          List.nil_append]
      · rw [cut?_cons_of_not_opens hOpens] at hCut
        rcases Option.map_eq_some_iff.mp hCut with
          ⟨⟨inner, rest'⟩, hRest, hEq⟩
        cases hEq
        rw [replaceAll_cons_of_not_opens hOpens, ih hRest]
        rfl

/- A text without the mark is kept. -/
theorem replaceAll_of_not_infix
    {mark text : Text}
    (hText : ¬mark <:+: text)
    (new : Text) :
    replaceAll text mark new = text := by
  induction text with
  | nil => rfl
  | cons c rest ih =>
      rw [List.infix_cons_iff, not_or] at hText
      rw [replaceAll_cons_of_not_opens hText.1, ih hText.2]

/- Only the new characters are added to those of a text. -/
theorem mem_of_mem_replaceFrom
    {mark new text : Text}
    {passing : Nat}
    {c : Char}
    (hMember : c ∈ replaceFrom mark new passing text) :
    c ∈ new ∨ c ∈ text := by
  fun_induction replaceFrom mark new passing text with
  | case1 => exact .inr hMember
  | case2 passing d rest ih =>
      exact (ih hMember).imp_right (List.mem_cons_of_mem d)
  | case3 d rest hOpens ih =>
      rcases List.mem_append.mp hMember with hNew | hMember
      · exact .inl hNew
      · exact (ih hMember).imp_right (List.mem_cons_of_mem d)
  | case4 d rest hOpens ih =>
      rcases List.mem_cons.mp hMember with rfl | hMember
      · exact .inr List.mem_cons_self
      · exact (ih hMember).imp_right (List.mem_cons_of_mem d)

/- A character is replaced where it opens a text. -/
theorem replaceAll_cons_self
    (c : Char)
    (rest new : Text) :
    replaceAll (c :: rest) [c] new = new ++ replaceAll rest [c] new :=
  replaceAll_append (List.cons_ne_nil c []) new rest

/- Any other character is kept. -/
theorem replaceAll_cons_of_ne
    {c d : Char}
    (hNe : d ≠ c)
    (rest new : Text) :
    replaceAll (d :: rest) [c] new = d :: replaceAll rest [c] new := by
  apply replaceAll_cons_of_not_opens
  rw [List.cons_prefix_cons]
  exact fun hOpens => hNe hOpens.1.symm

/- Replacing a character is done character by character. -/
theorem replaceAll_singleton
    (text : Text)
    (c : Char)
    (new : Text) :
    replaceAll text [c] new =
      text.flatMap fun d => if d = c then new else [d] := by
  induction text with
  | nil => rfl
  | cons d rest ih =>
      rw [List.flatMap_cons, ← ih]
      by_cases hEq : d = c
      · rw [if_pos hEq, hEq, replaceAll_cons_self]
      · rw [if_neg hEq, replaceAll_cons_of_ne hEq,
          List.singleton_append]

/- The character is replaced in one text and then in the next. -/
theorem replaceAll_singleton_append
    (first last : Text)
    (c : Char)
    (new : Text) :
    replaceAll (first ++ last) [c] new =
      replaceAll first [c] new ++ replaceAll last [c] new := by
  simp only [replaceAll_singleton, List.flatMap_append]

/- A text without the character is kept. -/
theorem replaceAll_of_notMem
    {c : Char}
    {text : Text}
    (hFree : c ∉ text)
    (new : Text) :
    replaceAll text [c] new = text := by
  apply replaceAll_of_not_infix
  rwa [List.singleton_infix_iff]

/- A character that is replaced is only in the new text. -/
theorem mem_of_mem_replaceAll_singleton
    {text new : Text}
    {c d : Char}
    (hMember : d ∈ replaceAll text [c] new) :
    d ∈ new ∨ d ∈ text ∧ d ≠ c := by
  rw [replaceAll_singleton, List.mem_flatMap] at hMember
  rcases hMember with ⟨e, hText, hMember⟩
  by_cases hEq : e = c
  · rw [if_pos hEq] at hMember
    exact Or.inl hMember
  · rw [if_neg hEq, List.mem_singleton] at hMember
    rw [hMember]
    exact Or.inr ⟨hText, hEq⟩

------------------------------------------------------------
-- Reading Back
------------------------------------------------------------

/-
  A character that is written as a mark is read back from it,
  if the mark does not overlap with itself and cannot stand in
  the text without that character.
-/
theorem replaceAll_replaceAll
    {mark text : Text}
    {c : Char}
    (hMark : mark.Unbordered)
    (hNonempty : mark ≠ [])
    (hText : c ∈ mark ∨ ¬mark <:+: text) :
    replaceAll (replaceAll text [c] mark) mark [c] = text := by
  -- The induction takes off the text up to the first place where
  -- the character stands. That part has no mark.
  induction hLength : text.length using Nat.strongRecOn
    generalizing text with
  | ind length ih =>
      by_cases hMember : c ∈ text
      · rcases List.eq_append_cons_of_mem hMember with
          ⟨before, after, rfl, hFree⟩
        have hBefore : ¬mark <:+: before := by
          intro hMarked
          rcases hText with hInside | hNone
          · exact hFree (hMarked.subset hInside)
          · exact hNone
              (hMarked.trans (List.prefix_append before _).isInfix)
        have hAfter : c ∈ mark ∨ ¬mark <:+: after := by
          apply hText.imp_right
          intro hNone hMarked
          exact hNone (hMarked.trans ⟨before ++ [c], [], by simp⟩)
        have hShorter : after.length < length := by
          simp only [← hLength, List.length_append, List.length_cons]
          omega
        calc replaceAll (replaceAll (before ++ c :: after) [c] mark)
              mark [c]
            = replaceAll (before ++ mark ++ replaceAll after [c] mark)
                mark [c] := by
              rw [replaceAll_singleton_append,
                replaceAll_of_notMem hFree, replaceAll_cons_self,
                List.append_assoc]
          _ = before ++
                ([c] ++
                  replaceAll (replaceAll after [c] mark) mark [c]) :=
              replaceAll_of_cut? hNonempty
                ((cut?_eq_some_iff hMark hNonempty).mpr
                  ⟨rfl, hBefore⟩) [c]
          _ = before ++ c :: after := by
              rw [ih after.length hShorter hAfter rfl,
                List.singleton_append]
      · have hNone : ¬mark <:+: text := by
          rcases hText with hInside | hNone
          · intro hMarked
            exact hMember (hMarked.subset hInside)
          · exact hNone
        rw [replaceAll_of_notMem hMember,
          replaceAll_of_not_infix hNone]

------------------------------------------------------------
-- Guarded Characters
------------------------------------------------------------

/- A text in which a guard stands right before every `c`. -/
def Guarded
    (guard : Text)
    (c : Char)
    (text : Text) : Prop :=
  ∀ before after, text = before ++ c :: after → guard <:+ before

/- A text without the character is guarded. -/
theorem guarded_of_notMem
    (guard : Text)
    {c : Char}
    {text : Text}
    (hFree : c ∉ text) :
    Guarded guard c text := by
  rintro before after rfl
  exact absurd (List.mem_append_right before List.mem_cons_self) hFree

/- Guarded texts are guarded together. -/
theorem Guarded.append
    {guard : Text}
    {c : Char}
    {first last : Text}
    (hFirst : Guarded guard c first)
    (hLast : Guarded guard c last) :
    Guarded guard c (first ++ last) := by
  intro before after hText
  rcases List.append_eq_append_iff.mp hText with
    ⟨inner, rfl, hInner⟩ | ⟨inner, hInner, hAfter⟩
  · exact (hLast inner after hInner).trans
      (List.suffix_append first inner)
  · cases inner with
    | nil =>
        rw [List.append_nil] at hInner
        rw [← hInner]
        exact (hLast [] after hAfter.symm).trans List.nil_suffix
    | cons d inner =>
        rw [List.cons_append, List.cons.injEq] at hAfter
        rw [← hAfter.1] at hInner
        exact hFirst before inner hInner

/- A character that is written with its guard is guarded. -/
theorem guarded_replaceAll
    {guard : Text}
    {c : Char}
    (hGuard : c ∉ guard)
    (text : Text) :
    Guarded guard c (replaceAll text [c] (guard ++ [c])) := by
  have hMark : Guarded guard c (guard ++ [c]) := by
    intro before after hText
    have hBefore : guard = before :=
      ((List.append_cons_inj_of_notMem hGuard List.not_mem_nil).mp
        hText).1
    exact hBefore ▸ List.suffix_refl guard
  rw [replaceAll_singleton]
  induction text with
  | nil => exact guarded_of_notMem guard List.not_mem_nil
  | cons d rest ih =>
      rw [List.flatMap_cons]
      refine Guarded.append ?_ ih
      by_cases hEq : d = c
      · rw [if_pos hEq]
        exact hMark
      · rw [if_neg hEq]
        apply guarded_of_notMem
        rw [List.mem_singleton]
        exact Ne.symm hEq

/- A guard cannot reach before a character that it lacks. -/
theorem suffix_append_cons_iff
    {guard : Text}
    {c : Char}
    (hGuard : c ∉ guard)
    {before after : Text} :
    guard <:+ before ++ c :: after ↔ guard <:+ after := by
  have hAfter : c :: after <:+ before ++ c :: after :=
    List.suffix_append before (c :: after)
  constructor
  · intro hEnds
    by_cases hLength : guard.length ≤ after.length
    · exact List.suffix_of_suffix_length_le hEnds
        ((List.suffix_cons c after).trans hAfter) hLength
    · have hInside : c :: after <:+ guard :=
        List.suffix_of_suffix_length_le hAfter hEnds
          (Nat.lt_of_not_le hLength)
      exact absurd (hInside.subset List.mem_cons_self) hGuard
  · intro hEnds
    exact hEnds.trans ((List.suffix_cons c after).trans hAfter)

------------------------------------------------------------
-- Trimmed Texts
------------------------------------------------------------

/-
  A trimmed text stays trimmed when a character is written as
  a text that is trimmed and not empty.
-/
theorem trimmed_replaceAll
    {text new : Text}
    (hText : text.Trimmed)
    (hNew : new.Trimmed)
    (hNonempty : new ≠ [])
    (c : Char) :
    Trimmed (replaceAll text [c] new) := by
  have hPiece :
      ∀ d : Char, isBlank d = false →
        Trimmed (if d = c then new else [d]) ∧
          (if d = c then new else [d]) ≠ [] := by
    intro d hInk
    split
    · exact ⟨hNew, hNonempty⟩
    · refine ⟨Solid.trimmed ?_, List.cons_ne_nil d []⟩
      exact List.forall_mem_singleton.mpr hInk
  rw [trimmed_iff] at hText
  rw [replaceAll_singleton, trimmed_iff]
  constructor
  · cases text with
    | nil => simp
    | cons d rest =>
        have hFirst := hPiece d (hText.1 d rfl)
        rw [List.flatMap_cons,
          List.head?_append_of_ne_nil _ hFirst.2]
        exact (trimmed_iff.mp hFirst.1).1
  · rcases List.eq_nil_or_concat text with rfl | ⟨front, d, rfl⟩
    · simp
    · rw [List.concat_eq_append] at hText ⊢
      have hLast := hPiece d (hText.2 d List.getLast?_concat)
      rw [List.flatMap_append, List.flatMap_singleton,
        List.getLast?_append_of_ne_nil _ hLast.2]
      exact (trimmed_iff.mp hLast.1).2

end Text

end Marginalia
