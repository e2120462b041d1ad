import Marginalia.Text
import Marginalia.Text.Printable

/-
  This file writes numbers and quoted texts for messages.

  Key definitions include:
    * `Text.ofNat`
    * `Text.ofInt`
    * `Text.hexadecimal`
    * `Text.quoted`
-/

namespace Marginalia

namespace Text

------------------------------------------------------------
-- Numbers
------------------------------------------------------------

/- A natural number in decimal digits. -/
def ofNat
    (n : Nat) : Text :=
  Nat.toDigits 10 n

/- An integer in decimal digits, with a sign if negative. -/
def ofInt
    (n : Int) : Text :=
  if n < 0 then '-' :: ofNat n.natAbs else ofNat n.natAbs

/- A number in a fixed number of hexadecimal digits. -/
def hexadecimal
    (places n : Nat) : Text :=
  let digits := Nat.toDigits 16 n
  List.replicate (places - digits.length) '0' ++ digits

------------------------------------------------------------
-- Quoted Texts
------------------------------------------------------------

/-
  The quotation mark for a text: a double one if the text has
  single and no double ones, else a single one.
-/
def quotationMark
    (text : Text) : Char :=
  if text.contains '\x27' && !text.contains '"' then '"'
  else '\x27'

/-
  A character of a quoted text. The quotation mark and the
  backslash are escaped, and characters that do not print are
  written by name or by code point.
-/
def quotedChar
    (mark c : Char) : Text :=
  if c = mark || c = '\\' then ['\\', c]
  else if c = '\t' then ['\\', 't']
  else if c = '\n' then ['\\', 'n']
  else if c = '\r' then ['\\', 'r']
  else if isPrintable c then [c]
  else if c.toNat ≤ 0xff then '\\' :: 'x' :: hexadecimal 2 c.toNat
  else if c.toNat ≤ 0xffff then '\\' :: 'u' :: hexadecimal 4 c.toNat
  else '\\' :: 'U' :: hexadecimal 8 c.toNat

/- A text in quotation marks. -/
def quoted
    (text : Text) : Text :=
  let mark := quotationMark text
  mark :: text.flatMap (quotedChar mark) ++ [mark]

end Text

end Marginalia
