import Marginalia.Text
import Marginalia.Text.Word

/-
  This file recognises the declarations that a comment block
  can document, by the text that follows the block.

  Key definitions include:
    * `Declaration`
    * `Declaration.ofText?`
-/

namespace Marginalia

------------------------------------------------------------
-- Declarations
------------------------------------------------------------

/-
  What may follow a comment block: the header of a module, a
  function with the text between its parentheses, or a
  variable. The name of a function may be empty.
-/
inductive Declaration where
  | moduleHeader
  | function (name arguments : Text)
  | variable (name : Text)
  deriving DecidableEq, Repr

namespace Declaration

/- What follows a keyword that a text starts with. -/
def afterKeyword?
    (keyword text : Text) : Option Text :=
  if keyword.isPrefixOf text then
    some (text.drop keyword.length)
  else none

/- A text that does not go on with a word character. -/
def endsName
    (text : Text) : Bool :=
  match text with
  | [] => true
  | c :: _ => !isWord c

/-
  Read what follows the keyword of a function: its name, which
  stands apart from the keyword, and its arguments up to the
  first closing parenthesis.
-/
def functionRest?
    (text : Text) : Option Declaration :=
  if endsName text then
    let start := Text.trimStart text
    let name := start.takeWhile isWord
    match Text.trimStart (start.dropWhile isWord) with
    | '(' :: inner =>
        (Text.cut? [')'] inner).map fun (arguments, _) =>
          .function name arguments
    | _ => none
  else none

/-
  Read what follows the keyword of a variable: at least one
  blank and a name.
-/
def variableRest?
    (text : Text) : Option Declaration :=
  match text with
  | [] => none
  | c :: _ =>
      let name := (Text.trimStart text).takeWhile isWord
      if isBlank c && !name.isEmpty then some (.variable name)
      else none

/- The declaration that a text starts with, after its blanks. -/
def ofText?
    (text : Text) : Option Declaration :=
  let start := Text.trimStart text
  match afterKeyword? "fun".toList start with
  | some rest => functionRest? rest
  | none =>
      match afterKeyword? "var".toList start with
      | some rest => variableRest? rest
      | none =>
          (afterKeyword? "%dw".toList start).map
            fun _ => .moduleHeader

end Declaration

end Marginalia
