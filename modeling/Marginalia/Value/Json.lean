import Marginalia.Text.Quoted
import Marginalia.Value

/-
  This file writes values as JSON, in ASCII and with one entry
  a line.

  Key definitions include:
    * `Json.escapedChar`
    * `Json.quoted`
    * `Json.write`
-/

namespace Marginalia

namespace Json

------------------------------------------------------------
-- Texts
------------------------------------------------------------

/- A code unit of a character, by its number. -/
def unit
    (n : Nat) : Text :=
  '\\' :: 'u' :: Text.hexadecimal 4 n

/-
  A character of a text. Characters other than those that
  print in ASCII are written by name or by their code units.
-/
def escapedChar
    (c : Char) : Text :=
  if c = '"' || c = '\\' then ['\\', c]
  else if c = '\n' then ['\\', 'n']
  else if c = '\r' then ['\\', 'r']
  else if c = '\t' then ['\\', 't']
  else if c = '\x0c' then ['\\', 'f']
  else if c = '\x08' then ['\\', 'b']
  else if 0x20 ≤ c.toNat && c.toNat < 0x7f then [c]
  else if c.toNat < 0x10000 then unit c.toNat
  else
    let rest := c.toNat - 0x10000
    unit (0xd800 + rest / 0x400) ++ unit (0xdc00 + rest % 0x400)

/- A text in quotation marks. -/
def quoted
    (text : Text) : Text :=
  '"' :: text.flatMap escapedChar ++ ['"']

/- A sign of a raw text. A half of a pair is a code unit. -/
def escapedSign : Sign → Text
  | .char c => escapedChar c
  | .half index => unit (0xd800 + index)

/- A raw text in quotation marks. -/
def rawQuoted
    (raw : RawText) : Text :=
  '"' :: raw.flatMap escapedSign ++ ['"']

------------------------------------------------------------
-- Values
------------------------------------------------------------

/- A line end and the indentation of the next line. -/
def newLine
    (depth : Nat) : Text :=
  '\n' :: List.replicate (2 * depth) ' '

/- Parts in brackets, one a line; nothing between if there are none. -/
def bracketed
    (left right : Char)
    (depth : Nat)
    (parts : List Text) : Text :=
  if parts.isEmpty then [left, right]
  else
    left :: newLine (depth + 1) ++
      Text.join (',' :: newLine (depth + 1)) parts ++
      newLine depth ++ [right]

mutual

/-
  A value that starts at some depth of indentation. Fractions
  and dates are written by their spelling.
-/
def writeAt
    (depth : Nat) : Value → Text
  | .null => "null".toList
  | .flag true => "true".toList
  | .flag false => "false".toList
  | .number n => Text.ofInt n
  | .fraction spelling _ => quoted spelling
  | .date spelling => quoted spelling
  | .text raw => rawQuoted raw
  | .list items => bracketed '[' ']' depth (writeItems (depth + 1) items)
  | .mapping entries =>
      bracketed '{' '}' depth (writeEntries (depth + 1) entries)

/- The items of a list. -/
def writeItems
    (depth : Nat) : List Value → List Text
  | [] => []
  | item :: rest => writeAt depth item :: writeItems depth rest

/- The entries of a mapping. -/
def writeEntries
    (depth : Nat) : List (Value × Value) → List Text
  | [] => []
  | (key, value) :: rest =>
      (writeAt depth key ++ ": ".toList ++ writeAt depth value) ::
        writeEntries depth rest

end

/- A value as a text. -/
def write
    (value : Value) : Text :=
  writeAt 0 value

end Json

end Marginalia
