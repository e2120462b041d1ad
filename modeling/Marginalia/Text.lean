import Marginalia.Text.Blank

/-
  This file defines texts as lists of characters, with the
  ways of trimming, splitting and joining them that the rest
  of the library uses.

  Key definitions include:
    * `Text`
    * `Text.trim`
    * `Text.lines`
    * `Text.splitAt`
    * `Text.join`
    * `Text.cut?`
    * `Text.precedes`
    * `Text.sorted`
    * `Text.dropEnding?`
    * `Text.unifyBreaks`
-/

namespace Marginalia

------------------------------------------------------------
-- Texts
------------------------------------------------------------

/- A text is the list of its characters. -/
abbrev Text :=
  List Char

namespace Text

------------------------------------------------------------
-- Trimming
------------------------------------------------------------

/- The text without the blanks at its start. -/
def trimStart
    (text : Text) : Text :=
  text.dropWhile isBlank

/- The text without the blanks at its end. -/
def trimEnd
    (text : Text) : Text :=
  (text.reverse.dropWhile isBlank).reverse

/- The text without the blanks at its two ends. -/
def trim
    (text : Text) : Text :=
  text.trimStart.trimEnd

------------------------------------------------------------
-- Lines and Fields
------------------------------------------------------------

/-
  Put characters in front of the first of several texts, which
  is empty if there are none.
-/
def prepend
    (front : Text) : List Text → List Text
  | [] => [front]
  | first :: rest => (front ++ first) :: rest

/-
  The lines of a text, without their breaks. A carriage return
  and a line feed are one break together, and a break at the
  end of the text starts no further line.
-/
def lines : Text → List Text
  | [] => []
  | '\r' :: '\n' :: rest => [] :: lines rest
  | c :: rest =>
      if isLineBreak c then [] :: lines rest
      else prepend [c] (lines rest)

/-
  The stretches between the occurrences of a separator; there
  is one more of them than there are separators.
-/
def splitAt
    (separator : Char) : Text → List Text
  | [] => [[]]
  | c :: rest =>
      if c = separator then [] :: splitAt separator rest
      else prepend [c] (splitAt separator rest)

/- Texts one after the other, with a separator between them. -/
def join
    (separator : Text)
    (parts : List Text) : Text :=
  List.intercalate separator parts

------------------------------------------------------------
-- Searching
------------------------------------------------------------

/-
  The text before and the text after the first occurrence of a
  mark, if there is one.
-/
def cut?
    (mark : Text) : Text → Option (Text × Text)
  | [] => if mark.isEmpty then some ([], []) else none
  | c :: rest =>
      if mark.isPrefixOf (c :: rest) then
        some ([], (c :: rest).drop mark.length)
      else
        (cut? mark rest).map fun (before, after) =>
          (c :: before, after)

/-
  A text is what stands before the first occurrence of a mark,
  the mark, and what stands after it.
-/
theorem eq_of_cut?
    {mark text before after : Text}
    (h : cut? mark text = some (before, after)) :
    text = before ++ mark ++ after := by
  induction text generalizing before after with
  | nil =>
      simp only [cut?] at h
      split at h
      · simp_all
      · simp at h
  | cons c rest ih =>
      simp only [cut?] at h
      split at h
      · rename_i hMark
        simp only [Option.some.injEq, Prod.mk.injEq] at h
        obtain ⟨rfl, rfl⟩ := h
        obtain ⟨tail, hTail⟩ := List.isPrefixOf_iff_prefix.mp hMark
        simp [← hTail]
      · obtain ⟨⟨before', after'⟩, hRest, hEq⟩ :=
          Option.map_eq_some_iff.mp h
        simp only [Prod.mk.injEq] at hEq
        obtain ⟨rfl, rfl⟩ := hEq
        simp [ih hRest]

/- What stands after a mark is shorter than the text by at least the mark. -/
theorem length_of_cut?
    {mark text before after : Text}
    (h : cut? mark text = some (before, after)) :
    before.length + mark.length + after.length = text.length := by
  rw [eq_of_cut? h]
  simp [Nat.add_assoc]

------------------------------------------------------------
-- Order
------------------------------------------------------------

/-
  A text comes before another one when its first different
  character has the smaller code point, or when it ends first.
-/
def precedes : Text → Text → Bool
  | _, [] => false
  | [], _ :: _ => true
  | a :: as, b :: bs =>
      if a = b then precedes as bs else a.toNat < b.toNat

/- Put a text at its place in an ordered list. -/
def insertSorted
    (text : Text) : List Text → List Text
  | [] => [text]
  | first :: rest =>
      if precedes first text then first :: insertSorted text rest
      else text :: first :: rest

/- Texts in order. -/
def sorted
    (texts : List Text) : List Text :=
  texts.foldr insertSorted []

------------------------------------------------------------
-- Endings and Line Ends
------------------------------------------------------------

/- The text without an ending, if it has that ending. -/
def dropEnding?
    (ending text : Text) : Option Text :=
  if ending.isSuffixOf text then
    some (text.take (text.length - ending.length))
  else none

/-
  The text with every carriage return, alone or before a line
  feed, read as a line feed.
-/
def unifyBreaks : Text → Text
  | [] => []
  | '\r' :: '\n' :: rest => '\n' :: unifyBreaks rest
  | c :: rest =>
      (if c = '\r' then '\n' else c) :: unifyBreaks rest

end Text

end Marginalia
