import Marginalia.Text.Blank

/-
  This file reads whole numbers written in any decimal digits
  of Unicode.

  Key definitions include:
    * `digitValue?`
    * `Numeral.value?`
-/

namespace Marginalia

------------------------------------------------------------
-- Decimal Digits
------------------------------------------------------------

/-
  The zeros of the sets of decimal digits, by version 14 of
  the Unicode character database; the digits one to nine
  follow each zero.
-/
def digitZeros : List Nat :=
  [ 0x30, 0x660, 0x6f0, 0x7c0, 0x966, 0x9e6, 0xa66, 0xae6, 0xb66, 0xbe6,
    0xc66, 0xce6, 0xd66, 0xde6, 0xe50, 0xed0, 0xf20, 0x1040, 0x1090, 0x17e0,
    0x1810, 0x1946, 0x19d0, 0x1a80, 0x1a90, 0x1b50, 0x1bb0, 0x1c40, 0x1c50,
    0xa620, 0xa8d0, 0xa900, 0xa9d0, 0xa9f0, 0xaa50, 0xabf0, 0xff10, 0x104a0,
    0x10d30, 0x11066, 0x110f0, 0x11136, 0x111d0, 0x112f0, 0x11450, 0x114d0,
    0x11650, 0x116c0, 0x11730, 0x118e0, 0x11950, 0x11c50, 0x11d50, 0x11da0,
    0x16a60, 0x16ac0, 0x16b50, 0x1d7ce, 0x1d7d8, 0x1d7e2, 0x1d7ec, 0x1d7f6,
    0x1e140, 0x1e2f0, 0x1e950, 0x1fbf0]

/- The value of a decimal digit. -/
def digitValue?
    (c : Char) : Option Nat :=
  (digitZeros.find? fun base =>
    base ≤ c.toNat && c.toNat < base + 10).map (c.toNat - ·)

------------------------------------------------------------
-- Numerals
------------------------------------------------------------

namespace Numeral

/-
  A blank that may stand around a numeral: a space, a tab or a
  line end of ASCII, or any blank beyond ASCII.
-/
def isPadding
    (c : Char) : Bool :=
  if c.toNat < 0x80 then
    c == ' ' || (0x09 ≤ c.toNat && c.toNat ≤ 0x0d)
  else isBlank c

/- The text without the padding at its two ends. -/
def unpad
    (text : List Char) : List Char :=
  ((text.dropWhile isPadding).reverse.dropWhile isPadding).reverse

/-
  The digits of a numeral, from the first one. A single
  underscore may stand between two digits.
-/
def digits? : List Char → Option (List Nat)
  | [] => none
  | [c] => (digitValue? c).map ([·])
  | c :: '_' :: rest =>
      match digitValue? c, digits? rest with
      | some digit, some more => some (digit :: more)
      | _, _ => none
  | c :: rest =>
      match digitValue? c, digits? rest with
      | some digit, some more => some (digit :: more)
      | _, _ => none

/- The greatest number of digits that a numeral may have. -/
def maxDigits : Nat :=
  4300

/- The number that unsigned digits stand for. -/
def natural?
    (text : List Char) : Option Nat :=
  match digits? text with
  | none => none
  | some digits =>
      if digits.length ≤ maxDigits then
        some (digits.foldl (fun sum digit => sum * 10 + digit) 0)
      else none

/- The integer that a text stands for. -/
def value?
    (text : List Char) : Option Int :=
  match unpad text with
  | '-' :: rest => (natural? rest).map fun n => -Int.ofNat n
  | '+' :: rest => (natural? rest).map Int.ofNat
  | plain => (natural? plain).map Int.ofNat

end Numeral

end Marginalia
