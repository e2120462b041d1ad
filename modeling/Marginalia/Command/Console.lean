import Marginalia.Command.Markup
import Marginalia.Text.Glyph

/-
  This file defines how the console lays out text: control
  characters are left out, tabs are set as spaces, and lines
  that are too long are wrapped between words. The console has
  no styles, so that only the text of markup shows.

  Key definitions include:
    * `Console.columns`
    * `Console.expandTabs`
    * `Console.words`
    * `Console.chop`
    * `Console.wrap`
    * `Console.lines`
    * `Console.shown`
-/

namespace Marginalia

namespace Console

------------------------------------------------------------
-- Characters
------------------------------------------------------------

/- The control characters that are left out. -/
def isLeftOut
    (c : Char) : Bool :=
  ['\x07', '\x08', '\x0b', '\x0c', '\r'].contains c

/- The number of cells from one tab stop to the next. -/
def tabStop : Nat :=
  8

/-
  The spaces for a tab after a text that starts at a tab stop:
  one at least, and so many that they end at a tab stop.
-/
def tabGap
    (text : Text) : Nat :=
  let size := Text.width (text ++ [' '])
  1 + (tabStop - size % tabStop) % tabStop

/- Texts one after the other with the spaces of tabs between. -/
def joinTabbed : List Text → Text
  | [] => []
  | [last] => last
  | first :: next :: rest =>
      first ++ List.replicate (tabGap first) ' ' ++
        joinTabbed (next :: rest)

/- A line with spaces for tabs. -/
def expandTabs
    (line : Text) : Text :=
  joinTabbed (Text.splitAt '\t' line)

------------------------------------------------------------
-- Words
------------------------------------------------------------

/- Put a character before words; a word starts after a blank. -/
def addToWords
    (c : Char) : List Text → List Text
  | (d :: word) :: rest =>
      if isBlank c && !isBlank d then [c] :: (d :: word) :: rest
      else (c :: d :: word) :: rest
  | words => Text.prepend [c] words

/-
  The words of a line, each with the blanks after it. Blanks at
  the start of the line belong to the first word.
-/
def words
    (line : Text) : List Text :=
  match line.foldr addToWords [] with
  | first :: second :: rest =>
      if first.all isBlank then (first ++ second) :: rest
      else first :: second :: rest
  | words => words

/-
  The parts of a word that is cut wherever a width is reached,
  if some cells of the first part are used already.
-/
def chop
    (width used : Nat) : List Glyph → List Text
  | [] => [[]]
  | glyph :: rest =>
      if width < used + glyph.width then
        [] :: Text.prepend glyph.text (chop width glyph.width rest)
      else
        Text.prepend glyph.text (chop width (used + glyph.width) rest)

------------------------------------------------------------
-- Wrapping
------------------------------------------------------------

/-
  The state of filling lines with words: the lines that are
  done, the latest first, and the line that is filled, with the
  number of cells it takes.
-/
structure Filling where
  done : List Text := []
  line : Text := []
  size : Nat := 0

namespace Filling

/- The lines so far, the latest first. -/
def all
    (filling : Filling) : List Text :=
  filling.line :: filling.done

/- The lines that are done if a new line is started. -/
def close
    (filling : Filling) : List Text :=
  if filling.line.isEmpty then filling.done else filling.all

/- The state after some lines, of which the last is filled. -/
def ofLines : List Text → Filling
  | [] => {}
  | line :: done => { done, line, size := Text.width line }

/-
  Add a word to the line if it fits there without the blanks
  after it. Else it starts a line, and is cut into parts if it
  fits on no line.
-/
def addWord
    (width : Nat)
    (filling : Filling)
    (word : Text) : Filling :=
  let size := Text.width word.trimEnd
  if filling.size + size ≤ width then
    { filling with
      line := filling.line ++ word
      size := filling.size + Text.width word }
  else if width < size then
    ofLines ((chop width 0 (Text.glyphs word)).reverse ++ filling.close)
  else ofLines (word :: filling.close)

end Filling

/-
  A line without so many of the blanks at its end as it has
  characters too many.
-/
def dropExcess
    (width : Nat)
    (line : Text) : Text :=
  let blanks := line.length - line.trimEnd.length
  line.take (line.length - min blanks (line.length - width))

/- So many glyphs as fill some cells exactly. -/
def fill
    (cells : Nat) : List Glyph → Text
  | [] => List.replicate cells ' '
  | glyph :: rest =>
      if cells = 0 then []
      else if cells < glyph.width then List.replicate cells ' '
      else glyph.text ++ fill (cells - glyph.width) rest

/- A line, cut off where it takes more than some cells. -/
def crop
    (width : Nat)
    (line : Text) : Text :=
  if width < Text.width line then fill width (Text.glyphs line)
  else line

/- The lines of some width that a line is laid out in. -/
def wrap
    (width : Nat)
    (line : Text) : List Text :=
  let filling := (words line).foldl (Filling.addWord width) {}
  filling.all.reverse.map fun part => crop width (dropExcess width part)

------------------------------------------------------------
-- Showing Markup
------------------------------------------------------------

/- The number of columns. -/
def columns : Nat :=
  1000

/- The lines of some width in which markup shows. -/
def lines
    (width : Nat)
    (markup : Text) : List Text :=
  let shown := (Markup.text markup).filter (!isLeftOut ·)
  (Text.splitAt '\n' shown).flatMap fun line =>
    wrap width (expandTabs line)

/- What the console shows of markup. -/
def shown
    (markup : Text) : Text :=
  (lines columns markup).flatMap (· ++ ['\n'])

end Console

end Marginalia
