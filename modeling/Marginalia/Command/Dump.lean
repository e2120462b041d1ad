import Marginalia.ModuleDoc
import Marginalia.Value.Json

/-
  This file gives the documentation of a module as a value, to
  be written as JSON.

  Key definitions include:
    * `Dump.ofModule`
    * `Dump.json`
-/

namespace Marginalia

namespace Dump

------------------------------------------------------------
-- Parts of a Module
------------------------------------------------------------

/- An optional part; its absence is a value too. -/
def optional
    {α : Type}
    (part : α → Value) : Option α → Value
  | some content => part content
  | none => .null

/- A list of parts. -/
def list
    {α : Type}
    (part : α → Value)
    (contents : List α) : Value :=
  .list (contents.map part)

/- A mapping of names to parts. -/
def record
    (fields : List (String × Value)) : Value :=
  .mapping
    (fields.map fun (name, value) => (.ofText name.toList, value))

/- A tag. -/
def ofTag
    (tag : Tag) : Value :=
  record
    [("name", .ofText tag.name), ("value", .ofText tag.value),
      ("key", optional .ofText tag.key)]

/- A comment. -/
def ofComment
    (comment : Comment) : Value :=
  record
    [("text", .ofText comment.text),
      ("annotations", list ofTag comment.tags),
      ("source", .ofText comment.source)]

/- An argument. -/
def ofArgument
    (argument : Argument) : Value :=
  record
    [("name", .ofText argument.name),
      ("datatype", optional .ofText argument.datatype)]

/- A row of a table. -/
def ofRow
    (fields : List Text) : Value :=
  record [("fields", list .ofText fields)]

/- A table. -/
def ofTable
    (table : TagTable) : Value :=
  record
    [("columns", list .ofText table.columns),
      ("rows", list ofRow table.rows)]

/- A line number. -/
def ofLine
    (line : Nat) : Value :=
  .number line

/- A documented variable. -/
def ofVariable
    (entry : VariableDoc) : Value :=
  record
    [("name", .ofText entry.name), ("comment", ofComment entry.comment),
      ("line", ofLine entry.line)]

/- A documented function. -/
def ofFunction
    (entry : FunctionDoc) : Value :=
  record
    [("name", .ofText entry.name), ("comment", ofComment entry.comment),
      ("arguments", list ofArgument entry.arguments),
      ("table", optional ofTable entry.table),
      ("line", ofLine entry.line)]

/- A documented table. -/
def ofTableDoc
    (entry : TableDoc) : Value :=
  record
    [("comment", ofComment entry.comment),
      ("table", optional ofTable entry.table),
      ("line", ofLine entry.line)]

------------------------------------------------------------
-- Modules
------------------------------------------------------------

/- The documentation of a module. -/
def ofModule
    (module : ModuleDoc) : Value :=
  record
    [("file_name", .ofText module.fileName),
      ("file_ext", .ofText module.fileExtension),
      ("comment", optional ofComment module.comment),
      ("variables", list ofVariable module.vars),
      ("functions", list ofFunction module.functions),
      ("tables", list ofTableDoc module.tables),
      ("module_name", .ofText module.name)]

/- The documentation of a module as JSON. -/
def json
    (module : ModuleDoc) : Text :=
  Json.write (ofModule module) ++ ['\n']

end Dump

end Marginalia
