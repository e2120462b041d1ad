import Marginalia.Yaml.Quoted

/-
  This file reads the plain scalars of a YAML text, those that
  stand without quotes. They may go over several lines, whose
  breaks are then folded.

  Key definitions include:
    * `Yaml.Context`
    * `Yaml.startsPlain`
    * `Yaml.splitWord`
    * `Yaml.PlainGap`
    * `Yaml.splitGap`
    * `Yaml.Plain`
    * `Yaml.splitPlain`
-/

namespace Marginalia

namespace Yaml

------------------------------------------------------------
-- Words
------------------------------------------------------------

/- Where a scalar stands: among lines or inside brackets. -/
inductive Context where
  | block
  | flow
  deriving DecidableEq, Repr

/- The characters that start no plain scalar by themselves. -/
def isIndicator
    (c : Char) : Bool :=
  isFlowMark c || isSpacing c || isBreak c ||
    ['-', '?', ':', '#', '&', '*', '!', '|', '>', '%', '@', '"',
      '\x27', '\x60'].contains c

/-
  A text that starts with a plain scalar. A dash starts one if
  something follows it directly, and so do a question mark and
  a colon outside brackets.
-/
def startsPlain
    (context : Context) : Text → Bool
  | [] => false
  | c :: rest =>
      !isIndicator c ||
        (!endsWord rest &&
          (c == '-' || (context == .block && (c == '?' || c == ':'))))

/- A colon, before the given text, that ends a word. -/
def colonEnds
    (context : Context)
    (rest : Text) : Bool :=
  endsWord rest ||
    match context, rest with
    | .flow, c :: _ => isFlowMark c
    | _, _ => false

/- The longest word of a plain scalar, and what follows it. -/
def splitWord
    (context : Context) : Text → Text × Text
  | [] => ([], [])
  | c :: rest =>
      if isSpacing c || isBreak c ||
          (c = ':' && colonEnds context rest) ||
          (context = .flow && (isFlowMark c || c = '?')) then
        ([], c :: rest)
      else
        let (word, following) := splitWord context rest
        (c :: word, following)

/- A word is followed by a text that it makes shorter. -/
theorem length_splitWord
    (context : Context)
    (text : Text) :
    (splitWord context text).1.length +
      (splitWord context text).2.length = text.length := by
  induction text with
  | nil => simp [splitWord]
  | cons c rest ih =>
      simp only [splitWord]
      split
      · simp
      · simp only [List.length_cons]
        omega

------------------------------------------------------------
-- Gaps
------------------------------------------------------------

/-
  A gap after a word of a plain scalar, the column that it ends
  in if it goes over a line, and what follows it. A gap that
  ends at a separator of documents ends the scalar.
-/
structure PlainGap where
  gap : Gap
  column : Option Nat := none
  closed : Bool := false
  rest : Text

/- Go on with a gap that went over a line, from some column. -/
def splitBreaks
    (gap : Gap)
    (column : Nat)
    (lineStart : Bool) : Text → PlainGap
  | [] => { gap, column := some column, rest := [] }
  | c :: rest =>
      if lineStart && separates (c :: rest) then
        { gap, column := some column, closed := true, rest := c :: rest }
      else if c = ' ' then
        splitBreaks gap (column + 1) false rest
      else if isBreak c then
        splitBreaks (gap.addBreak c) 0 true rest
      else { gap, column := some column, rest := c :: rest }

/- The gap that a text starts with; a tab belongs to no gap. -/
def splitGap
    (gap : Gap) : Text → PlainGap
  | [] => { gap, rest := [] }
  | c :: rest =>
      if c = ' ' then splitGap (gap.addSpacing c) rest
      else if isBreak c then splitBreaks (gap.addBreak c) 0 true rest
      else { gap, rest := c :: rest }

/- Line breaks are followed by a text that is not longer. -/
theorem length_splitBreaks
    (gap : Gap)
    (column : Nat)
    (lineStart : Bool)
    (text : Text) :
    (splitBreaks gap column lineStart text).rest.length ≤
      text.length := by
  induction text generalizing gap column lineStart with
  | nil => simp [splitBreaks]
  | cons c rest ih =>
      simp only [splitBreaks]
      split
      · simp
      · split
        · exact Nat.le_succ_of_le (ih _ _ _)
        · split
          · exact Nat.le_succ_of_le (ih _ _ _)
          · simp

/- A gap is followed by a text that is not longer. -/
theorem length_splitGap
    (gap : Gap)
    (text : Text) :
    (splitGap gap text).rest.length ≤ text.length := by
  induction text generalizing gap with
  | nil => simp [splitGap]
  | cons c rest ih =>
      simp only [splitGap]
      split
      · exact Nat.le_succ_of_le (ih _)
      · split
        · exact Nat.le_succ_of_le (length_splitBreaks _ _ _ _)
        · simp

------------------------------------------------------------
-- Plain Scalars
------------------------------------------------------------

/-
  A plain scalar, whether the gap after it goes over a line,
  and what follows that gap.
-/
structure Plain where
  content : Text
  broken : Bool
  rest : Text

/-
  A gap that ends a plain scalar: there is none, a comment
  follows, a separator of documents follows, or outside
  brackets the next line is not indented enough.
-/
def PlainGap.ends
    (context : Context)
    (indent : Nat)
    (split : PlainGap) : Bool :=
  split.closed || split.gap.text.isEmpty ||
    split.rest.head? == some '#' ||
    (context == .block && split.column.any (· < indent))

/-
  The longest plain scalar that a text starts with. Its lines
  after the first are indented by at least the given number of
  spaces.
-/
def splitPlain
    (context : Context)
    (indent : Nat)
    (text : Text) : Plain :=
  let word := splitWord context text
  if _h : word.1 = [] then
    { content := [], broken := false, rest := text }
  else
    let next := splitGap Gap.empty word.2
    let broken := next.column.isSome
    if next.ends context indent then
      { content := word.1, broken, rest := next.rest }
    else
      let more := splitPlain context indent next.rest
      if more.content.isEmpty then
        { content := word.1, broken, rest := next.rest }
      else
        { more with content := word.1 ++ next.gap.text ++ more.content }
  termination_by text.length
  decreasing_by
    have hWord := length_splitWord context text
    have hGap := length_splitGap Gap.empty word.2
    have hPos := List.length_pos_iff.mpr _h
    simp only [word] at hGap hPos ⊢
    omega

end Yaml

end Marginalia
