import Mathlib.Data.List.DropRight
import Marginalia.Text
import Marginalia.Text.Word

/-
  This file shows how blanks behave: that no word character is
  one, and what trimming does to a text that has blanks at its
  ends.

  Key definitions include:
    * `Ranges.Apart`
    * `Text.AllBlank`
    * `Text.Solid`
    * `Text.Trimmed`

  Main results:
    * `isBlank_of_isWord`
    * `Text.trimmed_iff`
    * `Text.trim_blank_append`
    * `Text.trim_append_blank`
-/

namespace Marginalia

------------------------------------------------------------
-- Classes Without Common Characters
------------------------------------------------------------

namespace Ranges

/- A code point of a class lies in one of its ranges. -/
theorem exists_range_of_has
    {ranges : Ranges}
    {code : Nat}
    (hHas : ranges.has code = true) :
    ∃ range ∈ ranges, range.1 ≤ code ∧ code ≤ range.2 := by
  induction ranges with
  | nil => simp [has] at hHas
  | cons first rest ih =>
      rcases first with ⟨low, high⟩
      simp only [has] at hHas
      by_cases hLow : code < low
      · simp [hLow] at hHas
      · by_cases hHigh : code ≤ high
        · exact ⟨(low, high), List.mem_cons_self,
            Nat.le_of_not_lt hLow, hHigh⟩
        · simp only [hLow, hHigh, if_false] at hHas
          rcases ih hHas with ⟨range, hMember, hIn⟩
          exact ⟨range, List.mem_cons_of_mem _ hMember, hIn⟩

/- Two classes none of whose ranges meet. -/
def Apart
    (left right : Ranges) : Prop :=
  ∀ range ∈ left, ∀ other ∈ right,
    range.2 < other.1 ∨ other.2 < range.1

instance
    (left right : Ranges) :
    Decidable (Apart left right) := by
  unfold Apart
  infer_instance

/- Classes that are apart have no code point in common. -/
theorem has_eq_false_of_apart
    {left right : Ranges}
    {code : Nat}
    (hApart : Apart left right)
    (hLeft : left.has code = true) :
    right.has code = false := by
  rw [← Bool.not_eq_true]
  intro hRight
  rcases exists_range_of_has hLeft with ⟨range, hRange, hLow, hHigh⟩
  rcases exists_range_of_has hRight with
    ⟨other, hOther, hLow', hHigh'⟩
  rcases hApart range hRange other hOther with hLt | hLt <;> omega

end Ranges

/- The blanks are no letters or numbers beyond ASCII. -/
theorem wordRanges_apart_blankRanges :
    Ranges.Apart wordRanges blankRanges := by
  decide +kernel

/- The blanks within ASCII are a space or come before it. -/
theorem code_le_of_isBlank
    {c : Char}
    (hBlank : isBlank c = true)
    (hAscii : c.toNat < 0x80) :
    c.toNat ≤ 0x20 := by
  rcases Ranges.exists_range_of_has hBlank with
    ⟨range, hRange, hLow, hHigh⟩
  simp only [blankRanges, List.mem_cons, List.not_mem_nil,
    or_false] at hRange
  rcases hRange with rfl | rfl | rfl | rfl | rfl | rfl | rfl | rfl |
    rfl | rfl <;> omega

/- The word characters within ASCII come after the space. -/
theorem le_code_of_isAlphanum
    {c : Char}
    (hWord : (c.isAlphanum || c == '_') = true) :
    0x30 ≤ c.toNat := by
  by_contra hLow
  have hNone :
      ∀ code < 0x30,
        ((Char.ofNat code).isAlphanum ||
          Char.ofNat code == '_') = false := by
    decide
  have hChar := hNone c.toNat (by omega)
  rw [Char.ofNat_toNat, hWord] at hChar
  exact absurd hChar (by decide)

/- No character of a name is a blank. -/
theorem isBlank_of_isWord
    {c : Char}
    (hWord : isWord c = true) :
    isBlank c = false := by
  rw [← Bool.not_eq_true]
  intro hBlank
  unfold isWord at hWord
  by_cases hAscii : c.toNat < 0x80
  · have hCode := code_le_of_isBlank hBlank hAscii
    simp only [hAscii, if_true] at hWord
    have hAbove := le_code_of_isAlphanum hWord
    omega
  · simp only [hAscii, if_false] at hWord
    have hNot :=
      Ranges.has_eq_false_of_apart wordRanges_apart_blankRanges
        hWord
    unfold isBlank at hBlank
    rw [hNot] at hBlank
    simp at hBlank

/- No blank is a character of a name. -/
theorem isWord_of_isBlank
    {c : Char}
    (hBlank : isBlank c = true) :
    isWord c = false := by
  rw [← Bool.not_eq_true]
  intro hWord
  rw [isBlank_of_isWord hWord] at hBlank
  exact absurd hBlank Bool.false_ne_true

------------------------------------------------------------
-- Blank and Trimmed Texts
------------------------------------------------------------

namespace Text

/- A text of blanks only. -/
def AllBlank
    (text : Text) : Prop :=
  ∀ c ∈ text, isBlank c = true

instance
    (text : Text) :
    Decidable text.AllBlank :=
  List.decidableBAll (isBlank · = true) text

/- Blank texts are blank together. -/
theorem AllBlank.append
    {first last : Text}
    (hFirst : first.AllBlank)
    (hLast : last.AllBlank) :
    AllBlank (first ++ last) :=
  List.forall_mem_append.mpr ⟨hFirst, hLast⟩

/- A text with some character that is no blank is not blank. -/
theorem not_allBlank_of_mem
    {text : Text}
    {c : Char}
    (hMember : c ∈ text)
    (hInk : isBlank c = false) :
    ¬text.AllBlank := by
  intro hBlank
  rw [hBlank c hMember] at hInk
  exact absurd hInk (by decide)

/- A text without blanks. -/
def Solid
    (text : Text) : Prop :=
  ∀ c ∈ text, isBlank c = false

instance
    (text : Text) :
    Decidable text.Solid :=
  List.decidableBAll (isBlank · = false) text

/- A text that trimming does not change. -/
def Trimmed
    (text : Text) : Prop :=
  text.trim = text

instance
    (text : Text) :
    Decidable text.Trimmed := by
  unfold Trimmed
  infer_instance

/- Blanks in front of a text are trimmed. -/
theorem trimStart_append
    {blanks text : Text}
    (hBlank : blanks.AllBlank) :
    trimStart (blanks ++ text) = text.trimStart :=
  List.dropWhile_append_of_pos hBlank

/- A text that opens with no blank keeps its start. -/
theorem trimStart_cons
    {c : Char}
    {text : Text}
    (hNot : isBlank c = false) :
    trimStart (c :: text) = c :: text := by
  simp [trimStart, hNot]

/- Blanks behind a text are trimmed. -/
theorem trimEnd_append
    {text blanks : Text}
    (hBlank : blanks.AllBlank) :
    trimEnd (text ++ blanks) = text.trimEnd := by
  unfold trimEnd
  rw [List.reverse_append, List.dropWhile_append_of_pos]
  intro c hMember
  exact hBlank c (List.mem_reverse.mp hMember)

/- Of a blank text nothing is left. -/
theorem trim_of_allBlank
    {text : Text}
    (hBlank : text.AllBlank) :
    text.trim = [] := by
  unfold trim trimStart
  rw [List.dropWhile_eq_nil_iff.mpr hBlank]
  rfl

/- A start is kept when its first character is no blank. -/
theorem trimStart_eq_self_iff
    {text : Text} :
    text.trimStart = text ↔
      ∀ c ∈ text.head?, isBlank c = false := by
  unfold trimStart
  rw [List.dropWhile_eq_self_iff]
  cases text with
  | nil => simp
  | cons c rest => simp

/- After trimming, a text opens with no blank. -/
theorem head?_trimStart
    (text : Text) :
    ∀ c ∈ text.trimStart.head?, isBlank c = false :=
  trimStart_eq_self_iff.mp (List.dropWhile_idempotent isBlank text)

/- An end is kept when its last character is no blank. -/
theorem trimEnd_eq_self_iff
    {text : Text} :
    text.trimEnd = text ↔
      ∀ c ∈ text.getLast?, isBlank c = false := by
  have hReverse :
      text.trimEnd = text ↔
        trimStart text.reverse = text.reverse := by
    unfold trimEnd trimStart
    rw [List.reverse_eq_iff]
  rw [hReverse, trimStart_eq_self_iff, List.head?_reverse]

/- Trimming the start keeps an end of the text. -/
theorem trimStart_isSuffix
    (text : Text) :
    text.trimStart <:+ text :=
  List.dropWhile_suffix isBlank

/- Trimming the end keeps a start of the text. -/
theorem trimEnd_isPrefix
    (text : Text) :
    text.trimEnd <+: text :=
  List.rdropWhile_prefix isBlank text

/-
  A text is trimmed when neither its first nor its last
  character is a blank.
-/
theorem trimmed_iff
    {text : Text} :
    text.Trimmed ↔
      (∀ c ∈ text.head?, isBlank c = false) ∧
      (∀ c ∈ text.getLast?, isBlank c = false) := by
  rw [← trimStart_eq_self_iff, ← trimEnd_eq_self_iff]
  unfold Trimmed trim
  constructor
  · intro hTrim
    have hStart : text.trimStart = text := by
      have hLong : text.length ≤ text.trimStart.length := by
        have hLength := (trimEnd_isPrefix text.trimStart).length_le
        rwa [hTrim] at hLength
      exact (trimStart_isSuffix text).eq_of_length_le hLong
    rw [hStart] at hTrim
    exact ⟨hStart, hTrim⟩
  · rintro ⟨hStart, hEnd⟩
    rw [hStart, hEnd]

/- What trimming leaves is trimmed. -/
theorem trimmed_trim
    (text : Text) :
    Trimmed text.trim := by
  rw [trimmed_iff]
  constructor
  · intro c hHead
    rcases trimEnd_isPrefix text.trimStart with ⟨blanks, hStart⟩
    apply head?_trimStart text c
    rw [← hStart, List.head?_append]
    exact congrArg (·.or blanks.head?) hHead
  · apply trimEnd_eq_self_iff.mp
    unfold trim trimEnd
    rw [List.reverse_reverse, List.dropWhile_idempotent]

/- What trimming leaves is a part of the text. -/
theorem trim_isInfix
    (text : Text) :
    text.trim <:+: text :=
  (trimEnd_isPrefix text.trimStart).isInfix.trans
    (trimStart_isSuffix text).isInfix

/- A text without blanks is trimmed. -/
theorem Solid.trimmed
    {text : Text}
    (hSolid : text.Solid) :
    text.Trimmed := by
  rw [trimmed_iff]
  constructor
  · intro c hHead
    exact hSolid c (List.mem_of_head? hHead)
  · intro c hLast
    exact hSolid c (List.mem_of_getLast? hLast)

/- Blanks in front of a text do not count when it is trimmed. -/
theorem trim_blank_append
    {blanks : Text}
    (hBlank : blanks.AllBlank)
    (text : Text) :
    trim (blanks ++ text) = text.trim := by
  unfold trim
  rw [trimStart_append hBlank]

/- Nor do blanks behind it. -/
theorem trim_append_blank
    (text : Text)
    {blanks : Text}
    (hBlank : blanks.AllBlank) :
    trim (text ++ blanks) = text.trim := by
  induction text with
  | nil => exact trim_of_allBlank hBlank
  | cons c rest ih =>
      cases hChar : isBlank c with
      | true =>
          have hFront : AllBlank [c] := by
            simpa [AllBlank] using hChar
          have hLeft := trim_blank_append hFront (rest ++ blanks)
          have hRight := trim_blank_append hFront rest
          exact hLeft.trans (ih.trans hRight.symm)
      | false =>
          unfold trim
          rw [List.cons_append, trimStart_cons hChar,
            trimStart_cons hChar, ← List.cons_append,
            trimEnd_append hBlank]

/- Trimming the start first makes no difference. -/
theorem trim_trimStart
    (text : Text) :
    trim text.trimStart = text.trim := by
  unfold trim trimStart
  rw [List.dropWhile_idempotent]

/- A text of which nothing is left is blank. -/
theorem allBlank_of_trim
    {text : Text}
    (hTrim : text.trim = []) :
    text.AllBlank := by
  have hStart : AllBlank text.trimStart := by
    intro c hMember
    exact List.dropWhile_eq_nil_iff.mp
      (List.reverse_eq_nil_iff.mp hTrim) c
      (List.mem_reverse.mpr hMember)
  have hSplit : text.takeWhile isBlank ++ text.trimStart = text :=
    List.takeWhile_append_dropWhile
  have hFront : AllBlank (text.takeWhile isBlank) := by
    intro c hMember
    exact List.mem_takeWhile_imp hMember
  rw [← hSplit]
  exact hFront.append hStart

/- A text is what trimming its end leaves, and blanks. -/
theorem exists_trimEnd_append
    (text : Text) :
    ∃ blanks : Text,
      blanks.AllBlank ∧ text = text.trimEnd ++ blanks := by
  refine ⟨(text.reverse.takeWhile isBlank).reverse, ?_, ?_⟩
  · intro c hMember
    exact List.mem_takeWhile_imp (List.mem_reverse.mp hMember)
  · unfold trimEnd
    rw [← List.reverse_append, List.takeWhile_append_dropWhile,
      List.reverse_reverse]

/-
  A text in front of one that opens with no blank is trimmed
  at its start alone.
-/
theorem trimStart_append_of_head
    (first : Text)
    {last : Text}
    (hHead : ∀ c ∈ last.head?, isBlank c = false) :
    trimStart (first ++ last) = first.trimStart ++ last := by
  have hLast : last.dropWhile isBlank = last :=
    trimStart_eq_self_iff.mpr hHead
  unfold trimStart
  rw [List.dropWhile_append, hLast]
  split
  · rename_i hEmpty
    rw [List.isEmpty_iff.mp hEmpty, List.nil_append]
  · rfl

/- A text behind one that is not blank keeps its start. -/
theorem trimStart_append_of_not_blank
    {first : Text}
    (hInk : ¬first.AllBlank)
    (last : Text) :
    trimStart (first ++ last) = first.trimStart ++ last := by
  have hSome : ¬(first.dropWhile isBlank).isEmpty = true := by
    rw [List.isEmpty_iff, List.dropWhile_eq_nil_iff]
    exact hInk
  unfold trimStart
  rw [List.dropWhile_append, if_neg hSome]

/- A text before one that is not blank keeps its end. -/
theorem trimEnd_append_of_not_blank
    (first : Text)
    {last : Text}
    (hInk : ¬last.AllBlank) :
    trimEnd (first ++ last) = first ++ last.trimEnd := by
  have hSome : (last.reverse.dropWhile isBlank).isEmpty = false := by
    rw [← Bool.not_eq_true, List.isEmpty_iff, List.dropWhile_eq_nil_iff]
    intro hBlank
    apply hInk
    intro c hMember
    exact hBlank c (List.mem_reverse.mpr hMember)
  unfold trimEnd
  rw [List.reverse_append, List.dropWhile_append, hSome]
  simp

/- Two trimmed texts are trimmed together, whatever is between. -/
theorem Trimmed.append
    {first last : Text}
    (hFirst : first.Trimmed)
    (hFirstInk : first ≠ [])
    (hLast : last.Trimmed)
    (hLastInk : last ≠ [])
    (between : Text) :
    Trimmed (first ++ between ++ last) := by
  rw [trimmed_iff] at hFirst hLast ⊢
  constructor
  · rw [List.append_assoc,
      List.head?_append_of_ne_nil first hFirstInk]
    exact hFirst.1
  · rw [List.getLast?_append_of_ne_nil _ hLastInk]
    exact hLast.2

end Text

end Marginalia
