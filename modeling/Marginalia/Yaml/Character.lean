import Marginalia.Text

/-
  This file defines the classes of characters that the YAML
  format tells apart.

  Key definitions include:
    * `Yaml.isAllowed`
    * `Yaml.isBreak`
    * `Yaml.breakValue`
    * `Yaml.endsWord`
    * `Yaml.separates`
-/

namespace Marginalia

namespace Yaml

------------------------------------------------------------
-- Characters
------------------------------------------------------------

/- The characters that may stand in a document. -/
def isAllowed
    (c : Char) : Bool :=
  c == '\t' || c == '\n' || c == '\r' || c == '\u0085' ||
    (0x20 ≤ c.toNat && c.toNat ≤ 0x7e) ||
    (0xa0 ≤ c.toNat && c.toNat ≤ 0xfffd) || 0x10000 ≤ c.toNat

/- The characters that end a line; carriage returns are read before. -/
def isBreak
    (c : Char) : Bool :=
  c == '\n' || c == '\u0085' || c == '\u2028' || c == '\u2029'

/-
  What a line break inside a scalar stands for. The separators
  of lines and paragraphs stand for themselves, and all other
  breaks for a line feed.
-/
def breakValue
    (c : Char) : Char :=
  if c = '\u2028' || c = '\u2029' then c else '\n'

/- The two characters that separate words within a line. -/
def isSpacing
    (c : Char) : Bool :=
  c == ' ' || c == '\t'

/- The brackets and the comma, which structure a flow. -/
def isFlowMark
    (c : Char) : Bool :=
  c == ',' || c == '[' || c == ']' || c == '{' || c == '}'

/- The letters, digits and signs of which names consist. -/
def isNameCharacter
    (c : Char) : Bool :=
  c.isAlphanum || c == '-' || c == '_'

/- The digits of hexadecimal numbers. -/
def isHexDigit
    (c : Char) : Bool :=
  c.isDigit || ('a' ≤ c && c ≤ 'f') || ('A' ≤ c && c ≤ 'F')

------------------------------------------------------------
-- Starts of Texts
------------------------------------------------------------

/- A text before which a line ends. -/
def endsLine : Text → Bool
  | [] => true
  | c :: _ => isBreak c

/- A text before which a word ends. -/
def endsWord : Text → Bool
  | [] => true
  | c :: _ => isSpacing c || isBreak c

/-
  A text before which a word ends that a tab does not end:
  what follows the name of a directive or of a tag.
-/
def endsName : Text → Bool
  | [] => true
  | c :: _ => c == ' ' || isBreak c

/- A text that starts with a separator of documents. -/
def separates : Text → Bool
  | '-' :: '-' :: '-' :: rest => endsWord rest
  | '.' :: '.' :: '.' :: rest => endsWord rest
  | _ => false

end Yaml

end Marginalia
