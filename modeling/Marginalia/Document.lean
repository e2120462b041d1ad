import Marginalia.Document.Order
import Marginalia.Markdown.Link
import Marginalia.Markdown.Table

/-
  This file writes the document: one Markdown text for several
  modules, with a section for each of them.

  Key definitions include:
    * `Document.summary`
    * `Document.moduleSection`
    * `Document.navigation`
    * `Document.Layout`
    * `Document.expand`
    * `Document.tidy`
    * `Document.render`
-/

namespace Marginalia

namespace Document

------------------------------------------------------------
-- Comments
------------------------------------------------------------

/- An empty line ends a paragraph. -/
def paragraphEnd : Text :=
  ['\n', '\n']

/- A text with something after it, or nothing if it is empty. -/
def unlessEmpty
    (text ending : Text) : Text :=
  if text.isEmpty then [] else text ++ ending

/- A tag as an item of a list. -/
def note
    (tag : Tag) : Text :=
  "- **@".toList ++ tag.name ++ "** ".toList ++
    tag.value ++ ['\n']

/- The description of a comment and its notes. -/
def commentBody
    (comment : Comment) : Text :=
  unlessEmpty comment.text paragraphEnd ++
    (Comment.notes comment.tags).flatMap note ++ ['\n']

/- A comment as a part of a section. -/
def commentPart
    (comment : Comment) : Text :=
  commentBody comment ++ ['\n']

/- The table that a comment declares as a part of a section. -/
def tablePart : Option TagTable → Text
  | none => []
  | some table =>
      Markdown.tagTable (some table) ++ paragraphEnd

------------------------------------------------------------
-- Sections of Modules
------------------------------------------------------------

/- A heading of some depth. -/
def heading
    (depth : Nat)
    (text : Text) : Text :=
  List.replicate depth '#' ++ [' '] ++ text ++ paragraphEnd

/- A part of a section: a heading and entries, if there are any. -/
def part
    {α : Type}
    (title : Text)
    (entry : α → Text)
    (entries : List α) : Text :=
  if entries.isEmpty then []
  else heading 3 title ++ entries.flatMap entry

/- The entry of a variable. -/
def variableEntry
    (entry : VariableDoc) : Text :=
  heading 4 entry.name ++ commentPart entry.comment

/- The title of a function's entry. -/
def functionTitle
    (function : FunctionDoc) : Text :=
  if function.name.isEmpty then "(anonymous)".toList
  else function.name

/- The fenced line that shows the signature of a function. -/
def signatureFence
    (function : FunctionDoc) : Text :=
  "```dataweave\nfun ".toList ++ function.signature ++
    "\n```".toList ++ paragraphEnd

/- The entry of a function. -/
def functionEntry
    (function : FunctionDoc) : Text :=
  heading 4 (functionTitle function) ++
    signatureFence function ++
    commentPart function.comment ++
    (if function.arguments.isEmpty then []
      else Markdown.argumentTable function ++ paragraphEnd) ++
    tablePart function.table

/- The entry of a table. -/
def tableEntry
    (entry : TableDoc) : Text :=
  commentPart entry.comment ++ tablePart entry.table

/- The section of a module. -/
def moduleSection
    (module : ModuleDoc) : Text :=
  heading 2 module.name ++
    (match module.comment with
      | some comment => commentPart comment
      | none => []) ++
    part "Variables".toList variableEntry module.vars ++
    part "Functions".toList functionEntry module.functions ++
    part "Tables".toList tableEntry module.tables

------------------------------------------------------------
-- Navigation
------------------------------------------------------------

/-
  The summary of a module: the first line of its description
  that is not blank, trimmed.
-/
def summary
    (module : ModuleDoc) : Text :=
  match module.comment with
  | none => []
  | some comment =>
      ((comment.text.lines.map Text.trim).find? (!·.isEmpty)).getD []

/- What the navigation table shows of a module: name and summary. -/
def shown
    (module : ModuleDoc) : Text × Text :=
  (module.name, summary module)

/- A line of the navigation table, with a link to a section. -/
def navigationRow : Text × Text → Text
  | (name, summary) =>
      "| [".toList ++ name ++ "](#".toList ++
        Markdown.target name ++ ") | ".toList ++
        Markdown.cell summary ++ " |\n".toList

/- The table that links to the sections of the modules. -/
def navigation
    (entries : List (Text × Text)) : Text :=
  "| Module | Description |\n| --- | --- |\n".toList ++
    entries.flatMap navigationRow ++ ['\n']

------------------------------------------------------------
-- Documents
------------------------------------------------------------

/- What a document holds besides the sections of its modules. -/
structure Layout where
  moduleList : List Text := []
  headerText : Text := []
  footerText : Text := []
  headerTable : Bool := false
  deriving DecidableEq, Repr

/- The parts of a document one after the other. -/
def expand
    (layout : Layout)
    (modules : List ModuleDoc) : Text :=
  unlessEmpty layout.headerText paragraphEnd ++
    (if layout.headerTable then navigation (modules.map shown)
      else []) ++
    modules.flatMap moduleSection ++
    unlessEmpty layout.footerText ['\n']

/-
  A text with at most two line feeds in a row, given how many
  of them stand right before it.
-/
def limitBreaks
    (seen : Nat) : Text → Text
  | [] => []
  | c :: rest =>
      if c = '\n' then
        if seen < 2 then c :: limitBreaks (seen + 1) rest
        else limitBreaks seen rest
      else c :: limitBreaks 0 rest

/-
  The final form of a text: no two empty lines in a row, no
  blanks at its ends, and one line feed at its very end.
-/
def tidy
    (text : Text) : Text :=
  Text.trim (limitBreaks 0 text) ++ ['\n']

/- The document of several modules. -/
def render
    (layout : Layout)
    (modules : List ModuleDoc) : Text :=
  tidy (expand layout (ModuleOrder.apply modules layout.moduleList))

end Document

end Marginalia
