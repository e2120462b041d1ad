import Marginalia.Text.Ranges

/-
  This file defines the blank characters, which separate words
  and are trimmed from the ends of texts, and the line breaks
  among them.

  Key definitions include:
    * `isBlank`
    * `isLineBreak`
    * `isBlank_of_isLineBreak`
-/

namespace Marginalia

------------------------------------------------------------
-- Blanks
------------------------------------------------------------

/- The blank characters: spaces, tabs, breaks and separators. -/
def blankRanges : Ranges :=
  [ (0x09, 0x0d), (0x1c, 0x20), (0x85, 0x85), (0xa0, 0xa0),
    (0x1680, 0x1680), (0x2000, 0x200a), (0x2028, 0x2029),
    (0x202f, 0x202f), (0x205f, 0x205f), (0x3000, 0x3000)]

/- A character that separates words. -/
def isBlank
    (c : Char) : Bool :=
  blankRanges.has c.toNat

------------------------------------------------------------
-- Line Breaks
------------------------------------------------------------

/- The characters that end a line. -/
def lineBreakRanges : Ranges :=
  [ (0x0a, 0x0d), (0x1c, 0x1e), (0x85, 0x85), (0x2028, 0x2029)]

/- A character that ends a line. -/
def isLineBreak
    (c : Char) : Bool :=
  lineBreakRanges.has c.toNat

/- Every line break is blank. -/
theorem isBlank_of_isLineBreak
    {c : Char}
    (h : isLineBreak c = true) :
    isBlank c = true := by
  simp only [isLineBreak, lineBreakRanges, isBlank, blankRanges,
    Ranges.has] at h ⊢
  grind

end Marginalia
