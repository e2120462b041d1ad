import Marginalia.Text.Raw
import Marginalia.Yaml.Character

/-
  This file reads the quoted scalars of a YAML text. They may
  go over several lines, whose breaks are then folded.

  Key definitions include:
    * `Yaml.Gap`
    * `Yaml.Gap.text`
    * `Yaml.singleQuoted?`
    * `Yaml.escapes`
    * `Yaml.codePoint?`
    * `Yaml.doubleQuoted?`
-/

namespace Marginalia

namespace Yaml

------------------------------------------------------------
-- Gaps Between Words
------------------------------------------------------------

/-
  What stands between two words of a scalar: spaces and tabs
  within a line, line breaks, of which the first is kept apart,
  or line breaks of which the first was escaped.
-/
inductive Gap where
  | spacing (text : Text)
  | breaks (first : Char) (more : Text)
  | continued (more : Text)
  deriving DecidableEq, Repr

namespace Gap

/- The gap between two characters of one word. -/
def empty : Gap :=
  .spacing []

/- A gap with a space or tab more; at the end of a line it is lost. -/
def addSpacing
    (c : Char) : Gap → Gap
  | .spacing text => .spacing (text ++ [c])
  | gap => gap

/- A gap with a line break more; spacing before it is lost. -/
def addBreak
    (c : Char) : Gap → Gap
  | .spacing _ => .breaks (breakValue c) []
  | .breaks first more => .breaks first (more ++ [breakValue c])
  | .continued more => .continued (more ++ [breakValue c])

/-
  What a gap stands for. A single line feed is folded into a
  space, and the first of several is dropped.
-/
def text : Gap → Text
  | .spacing text => text
  | .breaks '\n' [] => [' ']
  | .breaks '\n' more => more
  | .breaks first more => first :: more
  | .continued more => more

end Gap

------------------------------------------------------------
-- Single Quotes
------------------------------------------------------------

/- What is read, with something in front of it. -/
def after
    {α : Type}
    (front : List α)
    (read : Option (List α × Text)) : Option (List α × Text) :=
  read.map fun (content, rest) => (front ++ content, rest)

/-
  The content of a scalar in single quotes, and what follows
  it, from after a gap. A quote is written twice. The flag
  tells whether a line has just started; no separator of
  documents may stand there.
-/
def singleQuotedFrom?
    (gap : Gap)
    (lineStart : Bool) : Text → Option (Text × Text)
  | [] => none
  | c :: rest =>
      if lineStart && separates (c :: rest) then none
      else if isBreak c then
        singleQuotedFrom? (gap.addBreak c) true rest
      else if isSpacing c then
        singleQuotedFrom? (gap.addSpacing c) false rest
      else if c = '\x27' then
        match rest with
        | '\x27' :: more =>
            after (gap.text ++ ['\x27'])
              (singleQuotedFrom? Gap.empty false more)
        | _ => some (gap.text, rest)
      else
        after (gap.text ++ [c])
          (singleQuotedFrom? Gap.empty false rest)

/- The content of a scalar in single quotes, after the first one. -/
def singleQuoted?
    (text : Text) : Option (Text × Text) :=
  singleQuotedFrom? Gap.empty false text

------------------------------------------------------------
-- Double Quotes
------------------------------------------------------------

/- The characters that a backslash and a letter stand for. -/
def escapes : List (Char × Char) :=
  [('0', '\x00'), ('a', '\x07'), ('b', '\x08'), ('t', '\t'),
    ('\t', '\t'), ('n', '\n'), ('v', '\x0b'), ('f', '\x0c'),
    ('r', '\r'), ('e', '\x1b'), (' ', ' '), ('"', '"'),
    ('\\', '\\'), ('/', '/'), ('N', '\u0085'), ('_', '\u00a0'),
    ('L', '\u2028'), ('P', '\u2029')]

/- The value of a hexadecimal digit. -/
def hexValue
    (c : Char) : Nat :=
  if c.isDigit then c.toNat - '0'.toNat
  else if 'a' ≤ c then c.toNat - 'a'.toNat + 10
  else c.toNat - 'A'.toNat + 10

/- The number that hexadecimal digits stand for. -/
def hexNumber?
    (digits : Text) : Option Nat :=
  if digits.all isHexDigit then
    some (digits.foldl (fun sum c => sum * 16 + hexValue c) 0)
  else none

/- The sign with a code point in hexadecimal digits. -/
def codePoint?
    (digits : Text) : Option Sign :=
  hexNumber? digits >>= Sign.ofNat?

/-
  The content of a scalar in double quotes, and what follows
  it, from after a gap. A backslash at the end of a line keeps
  its break from being folded. Each escape stands for a sign by
  itself, so that the two halves of a pair stay apart.
-/
def doubleQuotedFrom?
    (gap : Gap)
    (lineStart : Bool) : Text → Option (RawText × Text)
  | [] => none
  | c :: rest =>
      let before := RawText.ofText gap.text
      let goOn (sign : Option Sign) (more : Option (RawText × Text)) :=
        sign.bind fun value => after (before ++ [value]) more
      if lineStart && separates (c :: rest) then none
      else if isBreak c then
        doubleQuotedFrom? (gap.addBreak c) true rest
      else if isSpacing c then
        doubleQuotedFrom? (gap.addSpacing c) false rest
      else if c = '"' then some (before, rest)
      else if c = '\\' then
        match rest with
        | [] => none
        | 'x' :: x₁ :: x₂ :: more =>
            goOn (codePoint? [x₁, x₂])
              (doubleQuotedFrom? Gap.empty false more)
        | 'u' :: x₁ :: x₂ :: x₃ :: x₄ :: more =>
            goOn (codePoint? [x₁, x₂, x₃, x₄])
              (doubleQuotedFrom? Gap.empty false more)
        | 'U' :: x₁ :: x₂ :: x₃ :: x₄ :: x₅ :: x₆ :: x₇ :: x₈ :: more =>
            goOn (codePoint? [x₁, x₂, x₃, x₄, x₅, x₆, x₇, x₈])
              (doubleQuotedFrom? Gap.empty false more)
        | letter :: more =>
            if isBreak letter then
              after before
                (doubleQuotedFrom? (.continued []) true more)
            else
              goOn
                ((escapes.find? (·.1 == letter)).map (.char ·.2))
                (doubleQuotedFrom? Gap.empty false more)
      else
        after (before ++ [.char c])
          (doubleQuotedFrom? Gap.empty false rest)

/- The content of a scalar in double quotes, after the first one. -/
def doubleQuoted?
    (text : Text) : Option (RawText × Text) :=
  doubleQuotedFrom? Gap.empty false text

end Yaml

end Marginalia
