import Marginalia.Value
import Marginalia.Yaml.Quoted

/-
  This file decides what the spelling of a plain scalar stands
  for: nothing, a flag, a number, a date, or else a text.

  Key definitions include:
    * `Yaml.integer?`
    * `Yaml.fraction?`
    * `Yaml.isDate`
    * `Yaml.spelled`
-/

namespace Marginalia

namespace Yaml

------------------------------------------------------------
-- Digits
------------------------------------------------------------

/- A digit or an underscore, which may stand between digits. -/
def isLooseDigit
    (c : Char) : Bool :=
  c.isDigit || c == '_'

/- Digits with underscores, of which the first is a digit. -/
def isLooseNumber : Text → Bool
  | [] => false
  | c :: rest => c.isDigit && rest.all isLooseDigit

/- The number that digits of a base stand for. -/
def looseValue
    (base : Nat)
    (digits : Text) : Nat :=
  (digits.filter (· != '_')).foldl
    (fun sum c => sum * base + hexValue c) 0

/- A text without the sign it may start with. -/
def unsigned : Text → Text
  | '-' :: rest => rest
  | '+' :: rest => rest
  | text => text

/- One or two digits below sixty. -/
def isSixtieth : Text → Bool
  | [c] => c.isDigit
  | [c, d] => '0' ≤ c && c ≤ '5' && d.isDigit
  | _ => false

/- The sum of digits and sixtieths. -/
def sixtiethsValue
    (parts : List Text) : Nat :=
  parts.foldl (fun sum part => sum * 60 + looseValue 10 part) 0

------------------------------------------------------------
-- Integers
------------------------------------------------------------

/-
  An unsigned integer: binary after `0b`, hexadecimal after
  `0x`, octal after `0`, and else decimal, in which colons may
  separate sixtieths.
-/
def natural?
    (text : Text) : Option Nat :=
  match text with
  | [] => none
  | '0' :: 'b' :: c :: rest =>
      if (c :: rest).all (['0', '1', '_'].contains ·) then
        some (looseValue 2 (c :: rest))
      else none
  | '0' :: 'x' :: c :: rest =>
      if (c :: rest).all fun d => isHexDigit d || d == '_' then
        some (looseValue 16 (c :: rest))
      else none
  | '0' :: rest =>
      if rest.all fun d => ('0' ≤ d && d ≤ '7') || d == '_' then
        some (looseValue 8 rest)
      else none
  | c :: rest =>
      match Text.splitAt ':' (c :: rest) with
      | whole :: parts =>
          if isLooseNumber whole && parts.all isSixtieth then
            some (sixtiethsValue (whole :: parts))
          else none
      | [] => none

/- An integer with or without a sign. -/
def integer?
    (text : Text) : Option Int :=
  (natural? (unsigned text)).map fun n =>
    if text.head? = some '-' then -Int.ofNat n else Int.ofNat n

------------------------------------------------------------
-- Fractions
------------------------------------------------------------

/- An exponent: a sign and digits. -/
def exponent? : Text → Option Int
  | [] => some 0
  | e :: sign :: c :: digits =>
      if (e = 'e' || e = 'E') && (sign = '-' || sign = '+') &&
          (c :: digits).all Char.isDigit then
        let n := Int.ofNat (looseValue 10 (c :: digits))
        some (if sign = '-' then -n else n)
      else none
  | _ => none

/-
  Whether digits with an exponent of ten are so small that a
  number of double precision takes them for zero: they are not
  above half of the least such number, two to the power -1074.
-/
def isNothing
    (digits : Text)
    (exponent : Int) : Bool :=
  let n := looseValue 10 digits
  let size := Int.ofNat digits.length + exponent
  n == 0 || size < -400 ||
    (exponent < 0 && size < 0 &&
      n * Nat.pow 2 1075 ≤ Nat.pow 10 exponent.natAbs)

/-
  Whether a plain fraction is zero, if the text is one: digits
  before the point, which may be missing without a sign, digits
  after it, and an exponent.
-/
def plainFraction?
    (text : Text) : Option Bool :=
  match Text.cut? ['.'] text with
  | none => none
  | some (before, after) =>
      let whole := unsigned before
      let part := after.takeWhile isLooseDigit
      let wellFormed :=
        isLooseNumber whole || (before.isEmpty && isLooseNumber part)
      if wellFormed then
        (exponent? (after.dropWhile isLooseDigit)).map fun exponent =>
          let digits := (whole ++ part).filter (· != '_')
          let places := (part.filter (· != '_')).length
          isNothing digits (exponent - Int.ofNat places)
      else none

/-
  Whether a fraction with sixtieths before its point is zero,
  if the text is one.
-/
def sixtiethsFraction?
    (text : Text) : Option Bool :=
  match Text.cut? ['.'] (unsigned text) with
  | none => none
  | some (before, after) =>
      match Text.splitAt ':' before with
      | whole :: part :: parts =>
          if isLooseNumber whole && (part :: parts).all isSixtieth &&
              after.all isLooseDigit then
            some ((before ++ after).all fun c => !c.isDigit || c == '0')
          else none
      | _ => none

/- The fractions that are no numbers. -/
def endlessWords : List Text :=
  [".inf".toList, ".Inf".toList, ".INF".toList]

/- Whether a fraction is zero, if the text is a fraction. -/
def fraction?
    (text : Text) : Option Bool :=
  if endlessWords.contains (unsigned text) ||
      [".nan".toList, ".NaN".toList, ".NAN".toList].contains text then
    some false
  else (plainFraction? text).or (sixtiethsFraction? text)

------------------------------------------------------------
-- Dates
------------------------------------------------------------

/- Digits, at least and at most so many. -/
def isDigits
    (least most : Nat)
    (text : Text) : Bool :=
  text.all Char.isDigit && least ≤ text.length && text.length ≤ most

/- A zone: `Z`, or a sign with hours and perhaps minutes. -/
def isZone
    (text : Text) : Bool :=
  match text with
  | ['Z'] => true
  | sign :: rest =>
      (sign == '-' || sign == '+') &&
        match Text.splitAt ':' rest with
        | [hours] => isDigits 1 2 hours
        | [hours, minutes] => isDigits 1 2 hours && isDigits 2 2 minutes
        | _ => false
  | [] => false

/- What may follow the seconds of a time: a fraction and a zone. -/
def isTimeEnd
    (text : Text) : Bool :=
  let rest :=
    match text with
    | '.' :: digits => digits.dropWhile Char.isDigit
    | _ => text
  rest.isEmpty || isZone (rest.dropWhile isSpacing)

/- A time of day. -/
def isTime
    (text : Text) : Bool :=
  match text.takeWhile Char.isDigit, text.dropWhile Char.isDigit with
  | hours, ':' :: a :: b :: ':' :: c :: d :: rest =>
      isDigits 1 2 hours && [a, b, c, d].all Char.isDigit &&
        isTimeEnd rest
  | _, _ => false

/- A date, or a date with a time of day. -/
def isDate
    (text : Text) : Bool :=
  match Text.splitAt '-' text with
  | year :: month :: more =>
      let rest := Text.join ['-'] more
      let day := rest.takeWhile Char.isDigit
      let after := rest.dropWhile Char.isDigit
      let time :=
        match after with
        | c :: time =>
            if c = 'T' || c = 't' then isTime time
            else isSpacing c && isTime (time.dropWhile isSpacing)
        | [] => false
      isDigits 4 4 year &&
        ((isDigits 2 2 month && isDigits 2 2 rest) ||
          (isDigits 1 2 month && isDigits 1 2 day && time))
  | _ => false

------------------------------------------------------------
-- Spellings
------------------------------------------------------------

/- The spellings that stand for nothing. -/
def nullWords : List Text :=
  [[], ['~'], "null".toList, "Null".toList, "NULL".toList]

/- The spellings of a true flag. -/
def trueWords : List Text :=
  ["true".toList, "True".toList, "TRUE".toList, "yes".toList,
    "Yes".toList, "YES".toList, "on".toList, "On".toList,
    "ON".toList]

/- The spellings of a false flag. -/
def falseWords : List Text :=
  ["false".toList, "False".toList, "FALSE".toList, "no".toList,
    "No".toList, "NO".toList, "off".toList, "Off".toList,
    "OFF".toList]

/- The value that a spelling stands for. -/
def spelled
    (text : Text) : Value :=
  if nullWords.contains text then .null
  else if trueWords.contains text then .flag true
  else if falseWords.contains text then .flag false
  else
    match fraction? text, integer? text with
    | some isZero, _ => .fraction text isZero
    | none, some n => .number n
    | none, none =>
        if isDate text then .date text else Value.ofText text

end Yaml

end Marginalia
