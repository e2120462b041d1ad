import Marginalia.Path

/-
  This file defines the names of source files and of the
  modules they hold.

  Key definitions include:
    * `SourceName.relativeTo`
    * `SourceName.moduleName`
-/

namespace Marginalia

namespace SourceName

------------------------------------------------------------
-- Names Relative to a Root
------------------------------------------------------------

/- The collapsed spelling of a path. -/
def collapsed
    (name : Text) : Text :=
  (Path.ofText name).collapse.toText

/-
  The name of a file below a root directory: its collapsed
  spelling without that of the root. A file that is not below
  the root keeps its name, and an empty root removes nothing.
-/
def relativeTo
    (root name : Text) : Text :=
  if root.isEmpty then name
  else if (collapsed root ++ ['/']).isPrefixOf (collapsed name) then
    (collapsed name).drop (collapsed root).length
  else name

------------------------------------------------------------
-- Names of Modules
------------------------------------------------------------

/- The name without the extension, if it ends in it. -/
def dropExtension
    (extension name : Text) : Text :=
  if extension.isEmpty then name
  else (Text.dropEnding? ('.' :: extension) name).getD name

/-
  The name of the module in a file: the segments of the file's
  name, without its extension, with `::` between them.
-/
def moduleName
    (extension name : Text) : Text :=
  let slashed :=
    (name.map fun c => if c = '\\' then '/' else c).dropWhile
      (· == '/')
  let segments := Text.splitAt '/' (dropExtension extension slashed)
  Text.join [':', ':'] (segments.filter (!·.isEmpty))

end SourceName

end Marginalia
