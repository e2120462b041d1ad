import Marginalia.Comment.Tag
import Marginalia.Comment.Fields

/-
  This file defines the tables that a comment declares through
  its tags: one `@table` with the columns and a `@row` for
  every row.

  Key definitions include:
    * `TagTable`
    * `TagTable.ofTags?`
-/

namespace Marginalia

------------------------------------------------------------
-- Tables Declared by Tags
------------------------------------------------------------

/-
  A table declared by tags. The rows need not have as many
  fields as there are columns.
-/
structure TagTable where
  columns : List Text := []
  rows : List (List Text) := []
  deriving DecidableEq, Repr

namespace TagTable

/-
  The table that tags declare. The first `@table` gives the
  columns, in which escaped commas stay as written, and every
  `@row` gives a row, in which they become commas. Without a
  `@table` there is no table.
-/
def ofTags?
    (tags : List Tag) : Option TagTable :=
  (tags.find? (·.IsNamed Tag.tableName)).map
    fun header =>
      { columns := Fields.split .escaped header.value
        rows :=
          (tags.filter (·.IsNamed Tag.rowName)).map
            fun row => Fields.split .plain row.value }

end TagTable

end Marginalia
