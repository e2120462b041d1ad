import Marginalia.Text

/-
  This file defines raw texts: texts in which a half of a
  surrogate pair may stand by itself, as the escapes of a
  settings file can spell it. Such a half is encoded by no
  bytes, so that only a plain text can be written to a file.

  Key definitions include:
    * `Sign`
    * `Sign.ofNat?`
    * `RawText`
    * `RawText.ofText`
    * `RawText.plain?`
-/

namespace Marginalia

------------------------------------------------------------
-- Signs
------------------------------------------------------------

/-
  A sign of a raw text: a character, or a half of a surrogate
  pair, by its number among all halves.
-/
inductive Sign where
  | char (c : Char)
  | half (index : Fin 0x800)
  deriving DecidableEq, Repr

namespace Sign

/- A sign that is a character. -/
def char? : Sign → Option Char
  | .char c => some c
  | .half _ => none

/- The sign with a code point. -/
def ofNat?
    (n : Nat) : Option Sign :=
  if n.isValidChar then some (.char (Char.ofNat n))
  else if hHalf : 0xd800 ≤ n ∧ n < 0xe000 then
    some (.half ⟨n - 0xd800, by omega⟩)
  else none

end Sign

------------------------------------------------------------
-- Raw Texts
------------------------------------------------------------

/- A raw text is the list of its signs. -/
abbrev RawText :=
  List Sign

namespace RawText

/- A text as a raw text. -/
def ofText
    (text : Text) : RawText :=
  text.map .char

/- The text that a raw text is, unless there are halves in it. -/
def plain?
    (raw : RawText) : Option Text :=
  raw.mapM Sign.char?

end RawText

end Marginalia
