import Marginalia.Text.Width

/-
  This file cuts texts into glyphs, which a line may be cut
  between: a character with all those after it that combine
  with it, are joined to it or make a picture of it.

  Key definitions include:
    * `Glyph`
    * `Glyph.add`
    * `Text.glyphs`
-/

namespace Marginalia

------------------------------------------------------------
-- Glyphs
------------------------------------------------------------

/- Characters that show as one, and the cells they take. -/
structure Glyph where
  text : Text
  width : Nat
  deriving DecidableEq, Repr

namespace Glyph

/- Add characters to the latest of several glyphs. -/
def add
    (text : Text)
    (width : Nat) : List Glyph → List Glyph
  | [] => [⟨text, width⟩]
  | latest :: rest =>
      ⟨latest.text ++ text, latest.width + width⟩ :: rest

end Glyph

------------------------------------------------------------
-- Glyphs of Texts
------------------------------------------------------------

namespace Text

/-
  The glyphs of a text, the latest first, after those so far and
  a character which may still become a picture.
-/
def glyphsAfter
    (done : List Glyph)
    (last : Option Char) : Text → List Glyph
  | [] => done
  | [c] =>
      if c = pictureSelector && last.any isWidened then
        Glyph.add [c] 1 done
      else if charWidth c = 0 then Glyph.add [c] 0 done
      else ⟨[c], charWidth c⟩ :: done
  | c :: next :: rest =>
      if c = joiner && !done.isEmpty then
        glyphsAfter (Glyph.add [c, next] 0 done) last rest
      else if c = pictureSelector && last.any isWidened then
        glyphsAfter (Glyph.add [c] 1 done) none (next :: rest)
      else if charWidth c = 0 then
        glyphsAfter (Glyph.add [c] 0 done) last (next :: rest)
      else
        glyphsAfter (⟨[c], charWidth c⟩ :: done) (some c)
          (next :: rest)

/- The glyphs of a text. -/
def glyphs
    (text : Text) : List Glyph :=
  (glyphsAfter [] none text).reverse

end Text

end Marginalia
