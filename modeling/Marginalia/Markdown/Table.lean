import Marginalia.Comment.Table
import Marginalia.ModuleDoc

/-
  This file writes tables in Markdown.

  Key definitions include:
    * `Markdown.cell`
    * `Markdown.row`
    * `Markdown.table`
    * `Markdown.tagTable`
    * `Markdown.argumentTable`
-/

namespace Marginalia

namespace Markdown

------------------------------------------------------------
-- Cells
------------------------------------------------------------

/- The mark of a line break inside a cell. -/
def breakMark : Text :=
  "<br/>".toList

/-
  A text with its pipes escaped and its line feeds, each with
  a carriage return before it if there is one, as break marks.
-/
def escapeCell : Text → Text
  | [] => []
  | '|' :: rest => '\\' :: '|' :: escapeCell rest
  | '\n' :: rest => breakMark ++ escapeCell rest
  | '\r' :: '\n' :: rest => breakMark ++ escapeCell rest
  | c :: rest => c :: escapeCell rest

/- A value as the content of a single cell. -/
def cell
    (value : Text) : Text :=
  escapeCell (Text.trim value)

------------------------------------------------------------
-- Tables
------------------------------------------------------------

/- A line of cells between pipes. -/
def row
    (values : List Text) : Text :=
  ['|', ' '] ++ Text.join " | ".toList (values.map cell) ++ [' ', '|']

/- The line below the headings of a table of some width. -/
def rule
    (width : Nat) : Text :=
  '|' :: (List.replicate width " --- |".toList).flatten

/- Values made up to a width by empty ones. -/
def pad
    (width : Nat)
    (values : List Text) : List Text :=
  values ++ List.replicate (width - values.length) []

/- The number of values in the longest of several lists. -/
def width : List (List Text) → Nat
  | [] => 0
  | values :: rest => max values.length (width rest)

/-
  A table as its lines. Headings and rows are made up to the
  width of the longest of them, and a table without any value
  is empty.
-/
def table
    (columns : List Text)
    (rows : List (List Text)) : Text :=
  let size := width (columns :: rows)
  if size = 0 then []
  else
    Text.join ['\n']
      (row (pad size columns) :: rule size ::
        rows.map fun values => row (pad size values))

/- The table that a comment declares; nothing without one. -/
def tagTable : Option TagTable → Text
  | none => []
  | some declared => table declared.columns declared.rows

------------------------------------------------------------
-- Argument Tables
------------------------------------------------------------

/-
  The description of an argument: the value of the last
  parameter tag with its name.
-/
def argumentDescription
    (comment : Comment)
    (name : Text) : Text :=
  match comment.params.reverse.find? (·.key == some name) with
  | some tag => tag.value
  | none => []

/- The arguments of a function with types and descriptions. -/
def argumentTable
    (function : FunctionDoc) : Text :=
  table ["Argument".toList, "Type".toList, "Description".toList]
    (function.arguments.map fun argument =>
      [argument.name, argument.datatype.getD [],
        argumentDescription function.comment argument.name])

end Markdown

end Marginalia
