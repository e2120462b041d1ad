import Marginalia.Text
import Marginalia.Text.Casing
import Marginalia.Text.Word

/-
  This file writes the targets of links to headings.

  Key definitions include:
    * `Markdown.target`
-/

namespace Marginalia

namespace Markdown

------------------------------------------------------------
-- Link Targets
------------------------------------------------------------

/-
  The target of a link to a heading: its lower-case text with
  only word characters, hyphens and spaces kept, and every
  space written as a hyphen.
-/
def target
    (heading : Text) : Text :=
  ((lower (Text.trim heading)).filter fun c =>
    isWord c || c == '-' || c == ' ').map fun c =>
      if c = ' ' then '-' else c

end Markdown

end Marginalia
