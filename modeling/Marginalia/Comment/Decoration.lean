import Marginalia.Text

/-
  This file removes the decoration of a comment block: the
  asterisk, with the blanks around it, that may open each of
  its lines.

  Key definitions include:
    * `Decoration.stripLine`
    * `Decoration.strip`
    * `Decoration.clean`
-/

namespace Marginalia

namespace Decoration

------------------------------------------------------------
-- Decoration of a Comment Block
------------------------------------------------------------

/-
  A line without its decoration: the blanks at its start, one
  asterisk and the blanks after it. A line that has no
  asterisk there is kept as it is.
-/
def stripLine
    (line : Text) : Text :=
  match line.trimStart with
  | '*' :: rest => Text.trimStart rest
  | _ => line

/- The lines of a block without their decoration. -/
def strip
    (block : Text) : Text :=
  Text.join ['\n'] (block.lines.map stripLine)

/- A block without decoration and trimmed at both ends. -/
def clean
    (block : Text) : Text :=
  (strip block).trim

end Decoration

end Marginalia
