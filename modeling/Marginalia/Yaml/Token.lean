import Marginalia.Text.Utf8
import Marginalia.Yaml.Quoted

/-
  This file defines the tokens of a YAML text, and reads those
  that need no more than the text they start with: directives,
  anchors, aliases and tags.

  Key definitions include:
    * `Yaml.Directive`
    * `Yaml.Token`
    * `Yaml.skipFiller`
    * `Yaml.Directive.read?`
    * `Yaml.anchorName?`
    * `Yaml.tag?`
-/

namespace Marginalia

namespace Yaml

------------------------------------------------------------
-- Tokens
------------------------------------------------------------

/-
  A directive: the version of the format, what a handle of tags
  stands for, or one without a meaning.
-/
inductive Directive where
  | version (major : Nat)
  | handle (name stem : Text)
  | reserved
  deriving DecidableEq, Repr

/-
  A token. Collections among lines have no closing mark of
  their own; `blockEnd` stands where the indentation ends them.
-/
inductive Token where
  | directive (directive : Directive)
  | documentStart
  | documentEnd
  | blockSequenceStart
  | blockMappingStart
  | blockEnd
  | flowSequenceStart
  | flowSequenceEnd
  | flowMappingStart
  | flowMappingEnd
  | blockEntry
  | flowEntry
  | key
  | value
  | alias (name : Text)
  | anchor (name : Text)
  | tag (handle : Option Text) (suffix : Text)
  | scalar (content : RawText) (plain : Bool)
  deriving DecidableEq, Repr

------------------------------------------------------------
-- Filler
------------------------------------------------------------

/-
  The text after spaces, line breaks and comments, and whether
  a line ended before it. The flag tells whether the text is
  the rest of a comment.
-/
def skipFiller
    (comment : Bool) : Text → Bool × Text
  | [] => (false, [])
  | c :: rest =>
      if isBreak c then (true, (skipFiller false rest).2)
      else if comment || c = ' ' then skipFiller comment rest
      else if c = '#' then skipFiller true rest
      else (false, c :: rest)

/- The text below a line on which only a comment may be left. -/
def nextLine?
    (text : Text) : Option Text :=
  match text.dropWhile (· == ' ') with
  | [] => some []
  | c :: rest =>
      if c = '#' then some ((rest.dropWhile (!isBreak ·)).drop 1)
      else if isBreak c then some rest
      else none

------------------------------------------------------------
-- Names and Identifiers
------------------------------------------------------------

/- The name that a text starts with, and what follows it. -/
def name?
    (text : Text) : Option (Text × Text) :=
  let name := text.takeWhile isNameCharacter
  if name.isEmpty then none
  else some (name, text.dropWhile isNameCharacter)

/- The name of an anchor or alias, which a mark must follow. -/
def anchorName?
    (text : Text) : Option (Text × Text) :=
  match name? text with
  | none => none
  | some (name, rest) =>
      let ends :=
        match rest with
        | c :: _ =>
            endsWord rest ||
              ['?', ':', ',', ']', '}', '%', '@', '\x60'].contains c
        | [] => true
      if ends then some (name, rest) else none

/- The characters of an identifier, percent signs apart. -/
def isIdentifierCharacter
    (c : Char) : Bool :=
  c.isAlphanum ||
    "-;/?:@&=+$,_.!~*'()[]".toList.contains c

/-
  The bytes of an identifier, in which a percent sign and two
  digits stand for a byte, and what follows it.
-/
def identifierBytes? : Text → Option (List UInt8 × Text)
  | [] => some ([], [])
  | '%' :: a :: b :: rest => do
      let n ← hexNumber? [a, b]
      let (bytes, following) ← identifierBytes? rest
      pure (UInt8.ofNat n :: bytes, following)
  | c :: rest =>
      if c = '%' then none
      else if isIdentifierCharacter c then do
        let (bytes, following) ← identifierBytes? rest
        pure (Utf8.encode [c] ++ bytes, following)
      else some ([], c :: rest)

/- The identifier that a text starts with, and what follows it. -/
def identifier?
    (text : Text) : Option (Text × Text) :=
  match identifierBytes? text with
  | some (byte :: bytes, rest) =>
      match Utf8.decode (byte :: bytes) with
      | .ok identifier => some (identifier, rest)
      | .error _ => none
  | _ => none

/-
  The handle that a text starts with, and what follows it: an
  exclamation mark, and if no space follows, a name that may be
  empty and another one.
-/
def handle?
    (text : Text) : Option (Text × Text) :=
  match text with
  | '!' :: ' ' :: rest => some (['!'], ' ' :: rest)
  | '!' :: rest =>
      match rest.dropWhile isNameCharacter with
      | '!' :: following =>
          some ('!' :: rest.takeWhile isNameCharacter ++ ['!'],
            following)
      | _ => none
  | _ => none

------------------------------------------------------------
-- Tags
------------------------------------------------------------

/-
  A tag from after its exclamation mark, before which a space
  or the end of a line must follow. It is given in angle
  brackets, by a handle and a suffix, or by nothing more.
-/
def tag?
    (text : Text) : Option (Token × Text) :=
  let read : Option (Token × Text) :=
    match text with
    | '<' :: rest =>
        match identifier? rest with
        | some (suffix, '>' :: following) =>
            some (.tag none suffix, following)
        | _ => none
    | _ =>
        if endsWord text then some (.tag none ['!'], text)
        else if (text.takeWhile fun c => c != ' ' && !isBreak c).contains '!'
        then do
          let (handle, rest) ← handle? ('!' :: text)
          let (suffix, following) ← identifier? rest
          pure (.tag (some handle) suffix, following)
        else do
          let (suffix, following) ← identifier? text
          pure (.tag (some ['!']) suffix, following)
  read.filter fun (_, following) => endsName following

------------------------------------------------------------
-- Directives
------------------------------------------------------------

namespace Directive

/- The number that a text starts with, and what follows it. -/
def number?
    (text : Text) : Option (Nat × Text) :=
  let digits := text.takeWhile Char.isDigit
  if digits.isEmpty then none
  else
    some (digits.foldl (fun sum c => sum * 10 + (c.toNat - '0'.toNat)) 0,
      text.dropWhile Char.isDigit)

/- A version: two numbers with a point between them. -/
def version?
    (text : Text) : Option (Directive × Text) := do
  let (major, rest) ← number? (text.dropWhile (· == ' '))
  match rest with
  | '.' :: rest =>
      let (_, following) ← number? rest
      if endsName following then some (.version major, following)
      else none
  | _ => none

/- A handle and what it stands for. -/
def expansion?
    (text : Text) : Option (Directive × Text) := do
  let (name, rest) ← handle? (text.dropWhile (· == ' '))
  if rest.head? = some ' ' then
    let (stem, following) ← identifier? (rest.dropWhile (· == ' '))
    if endsName following then some (.handle name stem, following)
    else none
  else none

/- Read a directive from after its percent sign, to its line's end. -/
def read?
    (text : Text) : Option (Directive × Text) := do
  let (name, rest) ← name? text
  if endsName rest then
    let (directive, following) ←
      if name = "YAML".toList then version? rest
      else if name = "TAG".toList then expansion? rest
      else some (.reserved, rest.dropWhile (!isBreak ·))
    let below ← nextLine? following
    pure (directive, below)
  else none

end Directive

end Yaml

end Marginalia
