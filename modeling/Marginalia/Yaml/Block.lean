import Marginalia.Yaml.Character

/-
  This file reads the block scalars of a YAML text, whose lines
  stand below a mark and are indented.

  Key definitions include:
    * `Yaml.Chomping`
    * `Yaml.BlockHeader`
    * `Yaml.BlockHeader.read?`
    * `Yaml.splitIndentation`
    * `Yaml.splitBlank`
    * `Yaml.blockLines`
    * `Yaml.blockScalar?`
-/

namespace Marginalia

namespace Yaml

------------------------------------------------------------
-- Headers
------------------------------------------------------------

/- Which line breaks at the end of a block scalar are kept. -/
inductive Chomping where
  | drop
  | keepOne
  | keepAll
  deriving DecidableEq, Repr

/-
  What stands after the mark of a block scalar: which breaks
  are kept, and by how much the lines are indented.
-/
structure BlockHeader where
  chomping : Chomping := .keepOne
  increment : Option Nat := none
  deriving DecidableEq, Repr

namespace BlockHeader

/- What a sign says about the breaks at the end. -/
def chomping?
    (c : Char) : Option Chomping :=
  if c = '+' then some .keepAll
  else if c = '-' then some .drop
  else none

/- The indentation that a digit asks for. -/
def increment?
    (c : Char) : Option Nat :=
  if c.isDigit then some (c.toNat - '0'.toNat) else none

/- The signs after a mark, in any order, and what follows them. -/
def signs
    (text : Text) : BlockHeader × Text :=
  match text with
  | [] => ({}, [])
  | c :: rest =>
      match chomping? c, increment? c, rest with
      | some chomping, _, [] => ({ chomping }, [])
      | some chomping, _, d :: more =>
          match increment? d with
          | some n => ({ chomping, increment := some n }, more)
          | none => ({ chomping }, d :: more)
      | none, some n, [] => ({ increment := some n }, [])
      | none, some n, d :: more =>
          match chomping? d with
          | some chomping => ({ chomping, increment := some n }, more)
          | none => ({ increment := some n }, d :: more)
      | none, none, _ => ({}, c :: rest)

/-
  Read a header up to the end of its line, which may hold a
  comment, and what stands below it.
-/
def read?
    (text : Text) : Option (BlockHeader × Text) :=
  let (header, following) := signs text
  let line := following.dropWhile (· == ' ')
  let line :=
    match line with
    | '#' :: _ => line.dropWhile (!isBreak ·)
    | _ => line
  if header.increment == some 0 || !endsName following ||
      !endsLine line then none
  else some (header, line.drop 1)

end BlockHeader

------------------------------------------------------------
-- Indentation
------------------------------------------------------------

/-
  The blank lines that a text starts with: what their breaks
  stand for, the deepest column that spaces reach, the column
  of the first other character, and the text from there on.
-/
def splitIndentation
    (deepest column : Nat) : Text → Text × Nat × Nat × Text
  | [] => ([], deepest, column, [])
  | c :: rest =>
      if c = ' ' then
        splitIndentation (Nat.max deepest (column + 1)) (column + 1) rest
      else if isBreak c then
        let (breaks, found) := splitIndentation deepest 0 rest
        (breakValue c :: breaks, found)
      else ([], deepest, column, c :: rest)

/-
  The blank lines that a text starts with, of which no more
  spaces are skipped than the lines are indented by: what their
  breaks stand for, the column reached, and the text from there.
-/
def splitBlank
    (indent column : Nat) : Text → Text × Nat × Text
  | [] => ([], column, [])
  | c :: rest =>
      if c = ' ' && column < indent then
        splitBlank indent (column + 1) rest
      else if isBreak c then
        let (breaks, found) := splitBlank indent 0 rest
        (breakValue c :: breaks, found)
      else ([], column, c :: rest)

/- Blank lines are followed by a text that is not longer. -/
theorem length_splitBlank
    (indent column : Nat)
    (text : Text) :
    (splitBlank indent column text).2.2.length ≤ text.length := by
  induction text generalizing column with
  | nil => simp [splitBlank]
  | cons c rest ih =>
      simp only [splitBlank]
      split
      · exact Nat.le_succ_of_le (ih _)
      · split
        · exact Nat.le_succ_of_le (ih _)
        · simp

/- The lines below the first line are shorter than the text. -/
theorem length_below
    (indent : Nat)
    (text : Text)
    (h : text ≠ []) :
    (splitBlank indent 0
      ((text.dropWhile (!isBreak ·)).drop 1)).2.2.length <
        text.length := by
  have hBlank :=
    length_splitBlank indent 0 ((text.dropWhile (!isBreak ·)).drop 1)
  have hDrop : (text.dropWhile (!isBreak ·)).length ≤ text.length :=
    (List.dropWhile_suffix _).length_le
  have hPos := List.length_pos_iff.mpr h
  simp only [List.length_drop] at hBlank
  omega

------------------------------------------------------------
-- Lines
------------------------------------------------------------

/- What is kept at the end of a block scalar. -/
def Chomping.ending
    (chomping : Chomping)
    (last blank : Text) : Text :=
  match chomping with
  | .drop => []
  | .keepOne => last
  | .keepAll => last ++ blank

/- A text that goes on with a space or a tab. -/
def startsSpacing : Text → Bool
  | [] => false
  | c :: _ => isSpacing c

/-
  What joins two lines of a block scalar, given the break after
  the first one and the blank lines between them. In a folded
  scalar a single line feed becomes a space, unless one of the
  lines starts with spacing.
-/
def lineJoint
    (folded : Bool)
    (line last blank next : Text) : Text :=
  if folded && last == ['\n'] && !startsSpacing line &&
      !startsSpacing next then
    if blank.isEmpty then [' '] else []
  else last

/-
  The lines of a block scalar, from a column after some blank
  lines, and what follows the scalar.
-/
def blockLines
    (folded : Bool)
    (chomping : Chomping)
    (indent column : Nat)
    (blank text : Text) : Text × Text :=
  let line := text.takeWhile (!isBreak ·)
  let following := text.dropWhile (!isBreak ·)
  let last := (following.take 1).map breakValue
  let next := splitBlank indent 0 (following.drop 1)
  if _h : column = indent ∧ text ≠ [] then
    if next.2.1 = indent && !next.2.2.isEmpty then
      let (more, rest) :=
        blockLines folded chomping indent next.2.1 next.1 next.2.2
      (blank ++ line ++ lineJoint folded line last next.1 next.2.2 ++
        more, rest)
    else
      (blank ++ line ++ chomping.ending last next.1, next.2.2)
  else (chomping.ending [] blank, text)
  termination_by text.length
  decreasing_by exact length_below indent text _h.2

/-
  Read a block scalar from after its mark, below a block that
  is indented by less than the given number of spaces.
-/
def blockScalar?
    (folded : Bool)
    (indent : Nat)
    (text : Text) : Option (Text × Text) :=
  (BlockHeader.read? text).map fun (header, lines) =>
    let least := Nat.max indent 1
    match header.increment with
    | some n =>
        let depth := least + n - 1
        let (blank, column, rest) := splitBlank depth 0 lines
        blockLines folded header.chomping depth column blank rest
    | none =>
        let (blank, deepest, column, rest) := splitIndentation 0 0 lines
        blockLines folded header.chomping (Nat.max least deepest) column
          blank rest

end Yaml

end Marginalia
