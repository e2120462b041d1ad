import Marginalia.Text
import Marginalia.Text.Word
import Marginalia.Text.Casing

/-
  This file defines the tags of a comment, the entries
  `@name value` that follow its description, and reads them
  from the text of the comment.

  Key definitions include:
    * `Tag`
    * `Tag.IsNamed`
    * `Tag.segments`
    * `Tag.Entry`
    * `Tag.entries`
    * `Tag.pairs`
    * `Tag.ignoredLines`
    * `Tag.splitKey`
    * `Tag.ofBlock`
-/

namespace Marginalia

------------------------------------------------------------
-- Tags
------------------------------------------------------------

/-
  A tag `@name value`. Only a tag that describes a parameter
  has a key, the parameter's name.
-/
structure Tag where
  name : Text
  value : Text := []
  key : Option Text := none
  deriving DecidableEq, Repr

namespace Tag

/- Tag names are compared without regard to case. -/
def IsNamed
    (tag : Tag)
    (name : Text) : Prop :=
  lower tag.name = lower name

instance
    (tag : Tag)
    (name : Text) :
    Decidable (tag.IsNamed name) := by
  unfold IsNamed
  infer_instance

/- The tag that describes a parameter of a function. -/
def paramName : Text :=
  "param".toList

/- The tag that declares the columns of a table. -/
def tableName : Text :=
  "table".toList

/- The tag that declares a row of a table. -/
def rowName : Text :=
  "row".toList

------------------------------------------------------------
-- Segments of a Comment
------------------------------------------------------------

/-
  Cut a text before every `@` that opens a line: the text
  before the first one, then the segments, each of which
  starts with its `@`. The flag tells whether the text itself
  starts at the beginning of a line.
-/
def segments
    (lineStart : Bool) : Text → Text × List Text
  | [] => ([], [])
  | c :: rest =>
      let (lead, more) := segments (c == '\n') rest
      if lineStart && c == '@' then ([], (c :: lead) :: more)
      else (c :: lead, more)

/- Cutting a text into segments loses nothing. -/
theorem segments_flatten
    (lineStart : Bool)
    (text : Text) :
    (segments lineStart text).1 ++
      (segments lineStart text).2.flatten = text := by
  induction text generalizing lineStart with
  | nil => simp [segments]
  | cons c rest ih =>
      simp only [segments]
      split
      · simpa using ih (c == '\n')
      · simpa using ih (c == '\n')

/-
  The description of a comment, before the first line that
  opens with `@`, and the block of tags from there on.
-/
def splitBlock
    (text : Text) : Text × Text :=
  let (description, more) := segments true text
  (description, more.flatten)

------------------------------------------------------------
-- Entries of a Block of Tags
------------------------------------------------------------

/-
  What one segment of a block of tags is read as: the name of
  a tag with its untrimmed value, or a line that opens no tag
  and is left out with the lines below it.
-/
inductive Entry where
  | pair (name value : Text)
  | ignored (line : Text)
  deriving DecidableEq, Repr

namespace Entry

/-
  Read a segment. It is a tag when its `@` is followed by a
  name and a blank; that one blank belongs neither to the name
  nor to the value.
-/
def ofSegment
    (segment : Text) : Entry :=
  let body := segment.drop 1
  match body.takeWhile isWord, body.dropWhile isWord with
  | c :: name, blank :: value =>
      if isBlank blank then .pair (c :: name) value
      else .ignored (segment.takeWhile (· != '\n'))
  | _, _ => .ignored (segment.takeWhile (· != '\n'))

/- The name and value of an entry that is a tag. -/
def pair? : Entry → Option (Text × Text)
  | .pair name value => some (name, value)
  | .ignored _ => none

/- The line of an entry that is none. -/
def ignored? : Entry → Option Text
  | .pair _ _ => none
  | .ignored line => some line

end Entry

/-
  The entries of a block of tags, one for each `@` that opens
  a line. The end of the block counts as a line break.
-/
def entries
    (block : Text) : List Entry :=
  (segments true (block ++ ['\n'])).2.map Entry.ofSegment

/- The tags of a block, as names with untrimmed values. -/
def pairs
    (block : Text) : List (Text × Text) :=
  (entries block).filterMap Entry.pair?

/- The lines of a block that open with `@` but are no tag. -/
def ignoredLines
    (block : Text) : List Text :=
  (entries block).filterMap Entry.ignored?

------------------------------------------------------------
-- Reading Tags
------------------------------------------------------------

/-
  Split the value of a parameter's tag into the parameter's
  name, its first word, and the rest. A value without a blank
  after its first word has no key.
-/
def splitKey
    (value : Text) : Option Text × Text :=
  let start := value.trimStart
  match start.dropWhile (!isBlank ·) with
  | [] => (none, value)
  | rest =>
      (some (start.takeWhile (!isBlank ·)), Text.trimStart rest)

/- The tag of a name and an untrimmed value. -/
def ofPair : Text × Text → Tag
  | (name, value) =>
      if lower name = paramName then
        let (key, rest) := splitKey value
        { name, value := rest.trim, key }
      else { name, value := value.trim }

/- The tags of a block, in order. -/
def ofBlock
    (block : Text) : List Tag :=
  (pairs block).map ofPair

end Tag

end Marginalia
