import Marginalia.Text.Raw

/-
  This file defines the values that a settings file can hold.

  Key definitions include:
    * `Value`
    * `Value.isVoid`
    * `Value.raw?`
    * `Value.text?`
    * `Value.texts?`
-/

namespace Marginalia

------------------------------------------------------------
-- Values
------------------------------------------------------------

/-
  A value of a settings file. Fractions and dates, which no
  setting takes, are kept as they are spelled.
-/
inductive Value where
  | null
  | flag (value : Bool)
  | number (value : Int)
  | fraction (spelling : Text) (isZero : Bool)
  | date (spelling : Text)
  | text (value : RawText)
  | list (items : List Value)
  | mapping (entries : List (Value × Value))
  deriving Repr

namespace Value

/- A value that says nothing: absent, false, zero or empty. -/
def isVoid : Value → Bool
  | .null => true
  | .flag value => !value
  | .number value => value == 0
  | .fraction _ isZero => isZero
  | .date _ => false
  | .text value => value.isEmpty
  | .list items => items.isEmpty
  | .mapping entries => entries.isEmpty

/- A value that is a flag. -/
def flag? : Value → Option Bool
  | .flag value => some value
  | _ => none

/- A value that is a number. -/
def number? : Value → Option Int
  | .number value => some value
  | _ => none

/- A value that is a raw text. -/
def raw? : Value → Option RawText
  | .text value => some value
  | _ => none

/- A value that is a plain text. -/
def text?
    (value : Value) : Option Text :=
  value.raw?.bind RawText.plain?

/- A value that is a list of plain texts. -/
def texts? : Value → Option (List Text)
  | .list items => items.mapM text?
  | _ => none

/- A value that is absent. -/
def isNull : Value → Bool
  | .null => true
  | _ => false

/- A plain text as a value. -/
def ofText
    (text : Text) : Value :=
  .text (RawText.ofText text)

/- Plain texts as a value. -/
def ofTexts
    (texts : List Text) : Value :=
  .list (texts.map ofText)

end Value

end Marginalia
