import Marginalia.Text

/-
  This file finds the comment blocks of a source text, the
  stretches from each `/**` to the next `*/`.

  Key definitions include:
    * `Block`
    * `Block.scan`
    * `Block.following`
-/

namespace Marginalia

------------------------------------------------------------
-- Comment Blocks
------------------------------------------------------------

/-
  A comment block: the offset of its opening mark, the offset
  just past its closing mark, the text between the marks, and
  the line of the opening mark.
-/
structure Block where
  start : Nat
  stop : Nat
  body : Text
  line : Nat
  deriving DecidableEq, Repr

namespace Block

/- The mark that opens a comment block. -/
def openMark : Text :=
  ['/', '*', '*']

/- The mark that closes a comment block. -/
def closeMark : Text :=
  ['*', '/']

/-
  The first comment block of the rest of a text that starts at
  the given offset and line, with what follows the block. A
  mark that is opened and never closed opens no block.
-/
def next?
    (offset line : Nat)
    (text : Text) : Option (Block × Text) :=
  match Text.cut? openMark text with
  | none => none
  | some (before, opened) =>
      match Text.cut? closeMark opened with
      | none => none
      | some (body, after) =>
          let start := offset + before.length
          some
            ({ start
               stop := start + openMark.length + body.length +
                 closeMark.length
               body
               line := line + before.count '\n' },
             after)

/- What follows a block is shorter than the text it was found in. -/
theorem length_lt_of_next?
    {offset line : Nat}
    {text after : Text}
    {block : Block}
    (h : next? offset line text = some (block, after)) :
    after.length < text.length := by
  unfold next? at h
  split at h
  · simp at h
  · rename_i before opened hOpen
    split at h
    · simp at h
    · rename_i body rest hClose
      have hOpened := Text.length_of_cut? hOpen
      have hClosed := Text.length_of_cut? hClose
      simp only [Option.some.injEq, Prod.mk.injEq] at h
      obtain ⟨-, rfl⟩ := h
      simp [openMark, closeMark] at hOpened hClosed
      omega

/-
  The comment blocks of the rest of a text that starts at the
  given offset and line.
-/
def scanFrom
    (offset line : Nat)
    (text : Text) : List Block :=
  match _h : next? offset line text with
  | none => []
  | some (block, after) =>
      block ::
        scanFrom block.stop (block.line + block.body.count '\n') after
  termination_by text.length
  decreasing_by exact length_lt_of_next? _h

/- The comment blocks of a text, in order. -/
def scan
    (text : Text) : List Block :=
  scanFrom 0 1 text

/- The text that follows a block. -/
def following
    (text : Text)
    (block : Block) : Text :=
  text.drop block.stop

end Block

end Marginalia
