import Marginalia.Fault
import Marginalia.ModuleDoc

/-
  This file defines what renders a template of its own. What a
  template can say is left open: an engine is any way to make
  a text of a template, and all else is stated for every
  engine. The program has one for templates of plain text.

  Key definitions include:
    * `Engine.Context`
    * `Engine`
    * `Engine.plain`
-/

namespace Marginalia

------------------------------------------------------------
-- Engines
------------------------------------------------------------

/-
  What a template is rendered with: the modules in the order
  of the document, the texts around them, and whether there is
  a navigation table.
-/
structure Engine.Context where
  modules : List ModuleDoc
  headerText : RawText
  footerText : RawText
  headerTable : Bool

/-
  A way to render the template in a directory of a file tree.
-/
abbrev Engine :=
  FileTree → Path → Engine.Context → Except TemplateFault RawText

namespace Engine

/- The path of the template in a directory. -/
def templatePath
    (directory : Path) : Path :=
  directory.child Fault.templateName

/- The words for a directory without a template. -/
def notFound
    (directory : Path) : Text :=
  Text.quoted Fault.templateName ++
    " not found in search path: ".toList ++
    Text.quoted directory.toText

/-
  The engine for templates of plain text, in which nothing is
  to be filled in.
-/
def plain : Engine :=
  fun tree directory _ =>
    let path := templatePath directory
    if tree.isFile path then
      match tree.readText path with
      | .ok template => .ok (RawText.ofText template)
      | .error (.decoding fault) => .error (.undecodable fault)
      | .error (.access _) => .error .unexpected
    else .error (.failed (notFound directory))

end Engine

end Marginalia
