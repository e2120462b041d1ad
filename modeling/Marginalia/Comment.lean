import Marginalia.Comment.Decoration
import Marginalia.Comment.Tag

/-
  This file defines comments: a description in free text and
  the tags that follow it.

  Key definitions include:
    * `Comment`
    * `Comment.named`
    * `Comment.params`
    * `Comment.notes`
    * `Comment.ofText`
    * `Comment.ofBlock`
-/

namespace Marginalia

------------------------------------------------------------
-- Comments
------------------------------------------------------------

/-
  A comment: its description, its tags in order, and the clean
  text that both were read from.
-/
structure Comment where
  text : Text := []
  tags : List Tag := []
  source : Text := []
  deriving DecidableEq, Repr

namespace Comment

/- The tags of one name, in order. -/
def named
    (comment : Comment)
    (name : Text) : List Tag :=
  comment.tags.filter (·.IsNamed name)

/- The first tag of one name. -/
def named?
    (comment : Comment)
    (name : Text) : Option Tag :=
  comment.tags.find? (·.IsNamed name)

/- The parameter tags that name their parameter. -/
def params
    (comment : Comment) : List Tag :=
  (comment.named Tag.paramName).filter (·.key.isSome)

/- A comment without description and tags. -/
def IsEmpty
    (comment : Comment) : Prop :=
  comment.text = [] ∧ comment.tags = []

instance
    (comment : Comment) :
    Decidable comment.IsEmpty := by
  unfold IsEmpty
  infer_instance

/-
  The tags that are shown as notes: those that neither describe
  a parameter nor belong to a table.
-/
def notes
    (tags : List Tag) : List Tag :=
  tags.filter fun tag =>
    !([Tag.paramName, Tag.tableName,
      Tag.rowName].any (tag.IsNamed ·))

------------------------------------------------------------
-- Reading Comments
------------------------------------------------------------

/- Read the comment in a clean text. -/
def ofText
    (text : Text) : Comment :=
  let (description, block) := Tag.splitBlock text
  { text := description.trim
    tags := Tag.ofBlock block
    source := text }

/- The lines of a clean text that open with `@` in vain. -/
def ignoredLines
    (text : Text) : List Text :=
  Tag.ignoredLines (Tag.splitBlock text).2

/- Read the comment in the body of a comment block. -/
def ofBlock
    (body : Text) : Comment :=
  ofText (Decoration.clean body)

end Comment

end Marginalia
