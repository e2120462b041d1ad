import Marginalia.Comment
import Marginalia.Comment.Table
import Marginalia.Event
import Marginalia.Source.Argument
import Marginalia.Source.Name
import Marginalia.Source.Role

/-
  This file defines the documentation of a module, everything
  that is read from one source text.

  Key definitions include:
    * `FunctionDoc`
    * `VariableDoc`
    * `TableDoc`
    * `ModuleDoc`
    * `ModuleDoc.ofText`
    * `ModuleDoc.events`
-/

namespace Marginalia

------------------------------------------------------------
-- Documented Declarations
------------------------------------------------------------

/- A documented function. -/
structure FunctionDoc where
  name : Text
  comment : Comment := {}
  arguments : List Argument := []
  table : Option TagTable := none
  line : Nat := 0
  deriving DecidableEq, Repr

namespace FunctionDoc

/- The function's name with its arguments in parentheses. -/
def signature
    (function : FunctionDoc) : Text :=
  Argument.signature function.name function.arguments

/- The documentation of a function that follows a block. -/
def ofBlock : Block × Text × Text → FunctionDoc
  | (block, name, arguments) =>
      let comment := Comment.ofBlock block.body
      { name
        comment
        arguments := Argument.listOfText arguments
        table := TagTable.ofTags? comment.tags
        line := block.line }

end FunctionDoc

/- A documented variable. -/
structure VariableDoc where
  name : Text
  comment : Comment := {}
  line : Nat := 0
  deriving DecidableEq, Repr

namespace VariableDoc

/- The documentation of a variable that follows a block. -/
def ofBlock : Block × Text → VariableDoc
  | (block, name) =>
      { name
        comment := Comment.ofBlock block.body
        line := block.line }

end VariableDoc

/- A comment in the body of a text, usually with a table. -/
structure TableDoc where
  comment : Comment := {}
  table : Option TagTable := none
  line : Nat := 0
  deriving DecidableEq, Repr

namespace TableDoc

/- The documentation in a block of the body. -/
def ofBlock
    (block : Block) : TableDoc :=
  let comment := Comment.ofBlock block.body
  { comment
    table := TagTable.ofTags? comment.tags
    line := block.line }

end TableDoc

------------------------------------------------------------
-- Documented Modules
------------------------------------------------------------

/- The documentation of a module, read from one file. -/
structure ModuleDoc where
  fileName : Text
  fileExtension : Text := "dwl".toList
  comment : Option Comment := none
  vars : List VariableDoc := []
  functions : List FunctionDoc := []
  tables : List TableDoc := []
  deriving DecidableEq, Repr

namespace ModuleDoc

/- The name of the module. -/
def name
    (module : ModuleDoc) : Text :=
  SourceName.moduleName module.fileExtension module.fileName

/-
  Read the documentation in a source text. The file is named
  relative to the given root.
-/
def ofText
    (text fileName root fileExtension : Text) : ModuleDoc :=
  let roles := Roles.ofText text
  { fileName := SourceName.relativeTo root fileName
    fileExtension
    comment :=
      roles.header?.map fun block =>
        Comment.ofBlock block.body
    vars := roles.vars.map VariableDoc.ofBlock
    functions := roles.functions.map FunctionDoc.ofBlock
    tables := roles.tables.map TableDoc.ofBlock }

------------------------------------------------------------
-- Events of Reading
------------------------------------------------------------

/-
  The blocks of a text whose comments are read, in the order
  in which they are read.
-/
def readBlocks
    (roles : Roles) : List Block :=
  roles.functions.map (·.1) ++
    roles.vars.map (·.1) ++
    roles.tables ++
    roles.header?.toList

/-
  The events of reading a text: first the tag lines that are
  ignored, then the blocks that document nothing.
-/
def events
    (text fileName root : Text) : List Event :=
  let roles := Roles.ofText text
  let ignored :=
    (readBlocks roles).flatMap fun block =>
      Comment.ignoredLines (Decoration.clean block.body)
  let detached :=
    roles.detached.map fun block =>
      Event.commentNotAttached
        (SourceName.relativeTo root fileName) block.line
  ignored.map Event.tagLineIgnored ++ detached

end ModuleDoc

end Marginalia
