import Marginalia.Text

/-
  This file splits the value of a tag into fields. A comma
  ends a field unless two backslashes stand before it.

  Key definitions include:
    * `Fields.Commas`
    * `Fields.cut`
    * `Fields.dropTrailingEmpty`
    * `Fields.removeBreaks`
    * `Fields.split`
-/

namespace Marginalia

namespace Fields

------------------------------------------------------------
-- Cutting at Commas
------------------------------------------------------------

/- How a comma after two backslashes is written in a field. -/
inductive Commas where
  | escaped
  | plain
  deriving DecidableEq, Repr

namespace Commas

/- The text that stands in a field for an escaped comma. -/
def text : Commas → Text
  | .escaped => ['\\', '\\', ',']
  | .plain => [',']

end Commas

/- The fields between the commas that are not escaped. -/
def cut
    (commas : Commas) : Text → List Text
  | [] => [[]]
  | '\\' :: '\\' :: ',' :: rest =>
      Text.prepend commas.text (cut commas rest)
  | ',' :: rest => [] :: cut commas rest
  | c :: rest => Text.prepend [c] (cut commas rest)

------------------------------------------------------------
-- Fields of a Value
------------------------------------------------------------

/- The fields without the empty ones at the end. -/
def dropTrailingEmpty : List Text → List Text
  | [] => []
  | field :: rest =>
      match dropTrailingEmpty rest with
      | [] => if field.isEmpty then [] else [field]
      | kept => field :: kept

/- A text without carriage returns and line feeds. -/
def removeBreaks
    (text : Text) : Text :=
  text.filter fun c => c != '\r' && c != '\n'

/-
  The fields of a value. The first field is always kept, empty
  fields at the end are dropped after it, and then the line
  breaks inside the fields are removed.
-/
def split
    (commas : Commas)
    (value : Text) : List Text :=
  match cut commas value with
  | [] => []
  | first :: rest =>
      (first :: dropTrailingEmpty rest).map removeBreaks

end Fields

end Marginalia
