import Marginalia.Text

/-
  This file reads and writes the argument lists of function
  declarations.

  Key definitions include:
    * `Argument`
    * `Argument.ofText?`
    * `Argument.listOfText`
    * `Argument.toText`
    * `Argument.signature`
-/

namespace Marginalia

------------------------------------------------------------
-- Arguments
------------------------------------------------------------

/- An argument of a function, with its type if it has one. -/
structure Argument where
  name : Text
  datatype : Option Text := none
  deriving DecidableEq, Repr

namespace Argument

/-
  Read one argument. Its first colon separates the name from
  the type; without a name there is no argument.
-/
def ofText?
    (text : Text) : Option Argument :=
  let (name, datatype) :=
    match Text.cut? [':'] text with
    | some (before, after) => (before, some (Text.trim after))
    | none => (text, none)
  if (Text.trim name).isEmpty then none
  else some { name := Text.trim name, datatype }

/-
  Read an argument list. Every comma separates two arguments,
  whatever stands around it.
-/
def listOfText
    (text : Text) : List Argument :=
  (Text.splitAt ',' text).filterMap ofText?

/- An argument as it is written; an empty type is left out. -/
def toText
    (argument : Argument) : Text :=
  match argument.datatype with
  | some (c :: datatype) =>
      argument.name ++ ": ".toList ++ c :: datatype
  | _ => argument.name

/- A function's name with its arguments in parentheses. -/
def signature
    (name : Text)
    (arguments : List Argument) : Text :=
  name ++ ['('] ++
    Text.join ", ".toList (arguments.map toText) ++ [')']

end Argument

end Marginalia
