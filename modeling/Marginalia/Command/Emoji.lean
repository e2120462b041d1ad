import Marginalia.Command.Emoji.Codes
import Marginalia.Text
import Marginalia.Text.Casing

/-
  This file puts emoji in the place of their codes, which stand
  between two colons.

  Key definitions include:
    * `Emoji.named?`
    * `Emoji.splitVariant`
    * `Emoji.ofCode?`
    * `Emoji.replace`
-/

namespace Marginalia

namespace Emoji

------------------------------------------------------------
-- Codes
------------------------------------------------------------

/- The entries of the table of codes, and what is between them. -/
def entries : List Text :=
  (Text.splitAt '\n' emojiCodes.toList).flatMap (Text.splitAt ' ')

/- The emoji of a name, which is what follows it in its entry. -/
def named?
    (name : Text) : Option Text :=
  let stem := name ++ ['=']
  (entries.find? stem.isPrefixOf).map (·.drop stem.length)

/-
  The name in a code, and the character that asks for the look
  of an emoji or of a letter, if the code ends in such a wish.
-/
def splitVariant
    (code : Text) : Text × Text :=
  match Text.dropEnding? "-emoji".toList code,
      Text.dropEnding? "-text".toList code with
  | some name, _ => (name, ['\ufe0f'])
  | none, some name => (name, ['\ufe0e'])
  | none, none => (code, [])

/- The emoji of a code; capitals make no difference. -/
def ofCode?
    (code : Text) : Option Text :=
  let (name, variant) := splitVariant code
  (named? (lower name)).map (· ++ variant)

------------------------------------------------------------
-- Texts with Codes
------------------------------------------------------------

/-
  Put the stretches between colons together again. A stretch
  without blanks between two colons is a code, and if it names
  an emoji the emoji takes its place and that of the colons.
  The colon that ends a code starts no other one.
-/
def joinStretches : List Text → Text
  | [] => []
  | [last] => last
  | [first, last] => first ++ ':' :: last
  | first :: code :: next :: rest =>
      if code.any isBlank then
        first ++ ':' :: joinStretches (code :: next :: rest)
      else
        first ++ (ofCode? code).getD (':' :: code ++ [':']) ++
          joinStretches (next :: rest)

/- A text with emoji in the place of their codes. -/
def replace
    (text : Text) : Text :=
  joinStretches (Text.splitAt ':' text)

end Emoji

end Marginalia
