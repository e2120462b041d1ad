import Marginalia.Command.Console
import Marginalia.ModuleDoc
import Marginalia.Text.Quoted

/-
  This file shows the documentation of a module as a tree of
  labels.

  Key definitions include:
    * `Outline`
    * `Outline.lines`
    * `Outline.ofModule`
    * `Outline.text`
-/

namespace Marginalia

------------------------------------------------------------
-- Outlines
------------------------------------------------------------

/- A tree of labels, which are markup. -/
inductive Outline where
  | node (label : Text) (children : List Outline)

namespace Outline

/- The marks that stand before the lines of a node. -/
structure Guide where
  first : Text
  further : Text

/- The marks of a node, which differ for the last child. -/
def guide
    (isLast : Bool) : Guide :=
  if isLast then ⟨"└── ".toList, "    ".toList⟩
  else ⟨"├── ".toList, "│   ".toList⟩

/-
  The lines of a label: the first one after the mark of its
  branch, further ones after the mark that goes on below it.
-/
def labelLines
    (lead : Text)
    (marks : Guide)
    (label : Text) : List Text :=
  let taken := lead.length + marks.first.length
  match Console.lines (Console.columns - taken) label with
  | [] => []
  | first :: rest =>
      (lead ++ marks.first ++ first) ::
        rest.map (lead ++ marks.further ++ ·)

mutual

/- The lines of a node, given the marks of the nodes above it. -/
def nodeLines
    (lead : Text)
    (isLast : Bool) : Outline → List Text
  | .node label children =>
      let marks := guide isLast
      labelLines lead marks label ++
        childLines (lead ++ marks.further) children

/- The lines of the children of a node. -/
def childLines
    (lead : Text) : List Outline → List Text
  | [] => []
  | child :: rest =>
      nodeLines lead rest.isEmpty child ++ childLines lead rest

end

/- The lines of a whole tree; its root has no mark. -/
def lines : Outline → List Text
  | .node label children =>
      Console.lines Console.columns label ++ childLines [] children

/- A node without children. -/
def leaf
    (label : Text) : Outline :=
  .node label []

------------------------------------------------------------
-- Outlines of Modules
------------------------------------------------------------

/- The markup of a tag. -/
def tagLabel
    (tag : Tag) : Text :=
  let key :=
    match tag.key with
    | some (c :: rest) =>
        ' ' :: Markup.styled "cyan" (Markup.escape (c :: rest))
    | _ => []
  Markup.styled "magenta" ('@' :: Markup.escape tag.name) ++ key ++
    ' ' :: Markup.escape tag.value

/- The first line of a description, and the tags. -/
def commentNodes
    (comment : Comment) : List Outline :=
  (comment.text.lines.take 1).map (leaf <| Markup.escape ·) ++
    comment.tags.map fun tag => leaf (tagLabel tag)

/- The size of a table. -/
def tableSize
    (table : TagTable) : Text :=
  Text.ofNat table.columns.length ++ " columns, ".toList ++
    Text.ofNat table.rows.length ++ " rows".toList

/- The line of a declaration. -/
def lineLabel
    (line : Nat) : Text :=
  " (line ".toList ++ Text.ofNat line ++ ")".toList

/- The node of a variable. -/
def ofVariable
    (entry : VariableDoc) : Outline :=
  .node
    (Markup.styled "bold" "var".toList ++ ' ' ::
      Markup.escape entry.name ++ lineLabel entry.line)
    (commentNodes entry.comment)

/- The node of a function. -/
def ofFunction
    (entry : FunctionDoc) : Outline :=
  .node
    (Markup.styled "bold" "fun".toList ++ ' ' ::
      Markup.escape entry.signature ++ lineLabel entry.line)
    (commentNodes entry.comment ++
      (entry.table.map fun table =>
        leaf ("table: ".toList ++ tableSize table)).toList)

/- The node of a table. -/
def ofTable
    (entry : TableDoc) : Outline :=
  .node
    (Markup.styled "bold" "table".toList ++ lineLabel entry.line)
    (commentNodes entry.comment ++
      (entry.table.map fun table => leaf (tableSize table)).toList)

/- The tree of a module. -/
def ofModule
    (module : ModuleDoc) : Outline :=
  .node
    (Markup.styled "bold blue" (Markup.escape module.name) ++
      " (".toList ++ Markup.escape module.fileName ++ ")".toList)
    (.node (Markup.styled "bold" "module comment".toList)
        ((module.comment.map commentNodes).getD []) ::
      module.vars.map ofVariable ++
      module.functions.map ofFunction ++
      module.tables.map ofTable)

/- The tree of a module as a text. -/
def text
    (module : ModuleDoc) : Text :=
  (ofModule module).lines.flatMap (· ++ ['\n'])

end Outline

end Marginalia
