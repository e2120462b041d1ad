import Marginalia.Proofs.Source.Scan
import Marginalia.Proofs.Text.Search

/-
  This file cuts a text around its comments: into pieces that
  each end with the first comment in them, and a rest that has
  no comment. There is one such dissection of every text, and
  the scan finds exactly the comments of its pieces.

  Key definitions include:
    * `Block.Piece`
    * `Block.Piece.block`
    * `Block.Unclosed`
    * `Block.Dissection`
    * `Block.Dissection.blocks`

  Main results:
    * `Block.next?_eq_none_iff`
    * `Block.next?_piece`
    * `Block.exists_pieces`
    * `Block.pieces_unique`
    * `Block.scanFrom_eq_blocksBehind`
    * `Block.scan_eq_blocks`
-/

namespace Marginalia

namespace Block

------------------------------------------------------------
-- Pieces of a Text
------------------------------------------------------------

/- The body of a comment, and what stands before the comment. -/
structure Piece where
  gap : Text
  body : Text

namespace Piece

/- A piece as it is written, with the marks of its comment. -/
def text
    (piece : Piece) : Text :=
  piece.gap ++ openMark ++ piece.body ++ closeMark

/- A piece that ends with the first comment in it. -/
structure Proper
    (piece : Piece) : Prop where
  gap : ¬openMark <:+: piece.gap
  body : ¬closeMark <:+: piece.body

/-
  The block of the comment of a piece, where the given text
  stands before the piece.
-/
def block
    (before : Text)
    (piece : Piece) : Block :=
  { start := (before ++ piece.gap).length
    stop := (before ++ piece.text).length
    body := piece.body
    line := 1 + (before ++ piece.gap).count '\n' }

end Piece

/-
  A text without comments: no mark opens one, or no mark
  closes what the first mark opens.
-/
def Unclosed
    (text : Text) : Prop :=
  ¬openMark <:+: text ∨
    ∃ before opened,
      text = before ++ openMark ++ opened ∧
      ¬openMark <:+: before ∧
      ¬closeMark <:+: opened

/-
  A dissection of a text: it consists of proper pieces and of
  a rest without comments.
-/
@[ext] structure Dissection
    (text : Text) where
  pieces : List Piece
  rest : Text
  text_eq : text = pieces.flatMap Piece.text ++ rest
  proper : ∀ piece ∈ pieces, piece.Proper
  unclosed : Unclosed rest

/- The blocks of pieces that follow each other behind a text. -/
def blocksBehind
    (before : Text)
    (pieces : List Piece) : List Block :=
  pieces.mapIdx fun index piece =>
    piece.block (before ++ (pieces.take index).flatMap Piece.text)

/- The blocks of a dissection, in order. -/
def Dissection.blocks
    {text : Text}
    (dissection : Dissection text) : List Block :=
  blocksBehind [] dissection.pieces

/- The first piece stands before the others. -/
theorem blocksBehind_cons
    (before : Text)
    (piece : Piece)
    (rest : List Piece) :
    blocksBehind before (piece :: rest) =
      piece.block before ::
        blocksBehind (before ++ piece.text) rest := by
  simp only [blocksBehind, List.mapIdx_cons, List.take_zero,
    List.flatMap_nil, List.append_nil, List.take_succ_cons,
    List.flatMap_cons, List.append_assoc]

------------------------------------------------------------
-- Marks
------------------------------------------------------------

/- The opening mark is found behind a text without one. -/
theorem cut?_openMark_eq_some_iff
    {text before opened : Text} :
    Text.cut? openMark text = some (before, opened) ↔
      text = before ++ openMark ++ opened ∧
        ¬openMark <:+: before :=
  Text.cut?_eq_some_iff (Text.unbordered_of_first (by decide))
    (by decide)

/- The closing mark is found behind a text without one. -/
theorem cut?_closeMark_eq_some_iff
    {text before closed : Text} :
    Text.cut? closeMark text = some (before, closed) ↔
      text = before ++ closeMark ++ closed ∧
        ¬closeMark <:+: before :=
  Text.cut?_eq_some_iff (Text.unbordered_of_first (by decide))
    (by decide)

/- The marks of a proper piece are found where they stand. -/
theorem Piece.Proper.cuts
    {piece : Piece}
    (hProper : piece.Proper)
    (after : Text) :
    Text.cut? openMark (piece.text ++ after) =
        some (piece.gap, piece.body ++ closeMark ++ after) ∧
      Text.cut? closeMark (piece.body ++ closeMark ++ after) =
        some (piece.body, after) := by
  constructor
  · apply cut?_openMark_eq_some_iff.mpr
    refine ⟨?_, hProper.gap⟩
    simp only [Piece.text, List.append_assoc]
  · apply cut?_closeMark_eq_some_iff.mpr
    exact ⟨rfl, hProper.body⟩

------------------------------------------------------------
-- One Step of the Scan
------------------------------------------------------------

/- A text has no next block when it is without comments. -/
theorem next?_eq_none_iff
    {offset line : Nat}
    {text : Text} :
    next? offset line text = none ↔ Unclosed text := by
  have hOpenMark : openMark ≠ [] := List.cons_ne_nil _ _
  have hCloseMark : closeMark ≠ [] := List.cons_ne_nil _ _
  constructor
  · intro hNext
    cases hOpen : Text.cut? openMark text with
    | none => exact Or.inl ((Text.cut?_eq_none_iff hOpenMark).mp hOpen)
    | some cut =>
        rcases cut with ⟨before, opened⟩
        have hOpened : Text.cut? closeMark opened = none := by
          apply Option.eq_none_iff_forall_ne_some.mpr
          intro cut hClose
          simp [next?, hOpen, hClose] at hNext
        rcases cut?_openMark_eq_some_iff.mp hOpen with ⟨hText, hBefore⟩
        exact Or.inr ⟨before, opened, hText, hBefore,
          (Text.cut?_eq_none_iff hCloseMark).mp hOpened⟩
  · intro hUnclosed
    rcases hUnclosed with
      hNoMark | ⟨before, opened, hText, hBefore, hOpened⟩
    · simp [next?, (Text.cut?_eq_none_iff hOpenMark).mpr hNoMark]
    · simp [next?, cut?_openMark_eq_some_iff.mpr ⟨hText, hBefore⟩,
        (Text.cut?_eq_none_iff hCloseMark).mpr hOpened]

/- The next block of a text that opens with a piece is its block. -/
theorem next?_piece
    {piece : Piece}
    (hProper : piece.Proper)
    (before after : Text) :
    next? before.length (1 + before.count '\n')
        (piece.text ++ after) =
      some (piece.block before, after) := by
  rcases hProper.cuts after with ⟨hOpen, hClose⟩
  apply next?_eq_some_iff.mpr
  refine ⟨piece.gap, piece.body ++ closeMark ++ after, hOpen, hClose,
    ?_, ?_, ?_⟩
  · simp only [Piece.block, List.length_append]
  · simp only [Piece.block, Piece.text, List.length_append]
    omega
  · simp only [Piece.block, List.count_append]
    omega

------------------------------------------------------------
-- One Dissection for Every Text
------------------------------------------------------------

/- Every text has a dissection, piece by piece as it is scanned. -/
theorem exists_pieces
    (offset line : Nat)
    (text : Text) :
    ∃ (pieces : List Piece) (rest : Text),
      text = pieces.flatMap Piece.text ++ rest ∧
      (∀ piece ∈ pieces, piece.Proper) ∧
      Unclosed rest := by
  fun_induction scanFrom offset line text with
  | case1 offset line text hNext =>
      exact ⟨[], text, rfl, List.forall_mem_nil _,
        next?_eq_none_iff.mp hNext⟩
  | case2 offset line text block after hNext ih =>
      rcases next?_eq_some_iff.mp hNext with
        ⟨gap, opened, hOpen, hClose, -⟩
      rcases cut?_openMark_eq_some_iff.mp hOpen with ⟨rfl, hGap⟩
      rcases cut?_closeMark_eq_some_iff.mp hClose with ⟨rfl, hBody⟩
      rcases ih with ⟨pieces, rest, rfl, hPieces, hRest⟩
      refine ⟨⟨gap, block.body⟩ :: pieces, rest, ?_, ?_, hRest⟩
      · simp only [List.flatMap_cons, Piece.text, List.append_assoc]
      · exact List.forall_mem_cons.mpr ⟨⟨hGap, hBody⟩, hPieces⟩

/- A text that opens with a proper piece has a comment. -/
theorem not_unclosed_piece
    {piece : Piece}
    (hProper : piece.Proper)
    (after : Text) :
    ¬Unclosed (piece.text ++ after) := by
  intro hUnclosed
  have hNext := next?_piece hProper [] after
  rw [next?_eq_none_iff.mpr hUnclosed] at hNext
  exact absurd hNext (Option.some_ne_none _).symm

/- A text opens with one proper piece only. -/
theorem piece_unique
    {left right : Piece}
    (hLeft : left.Proper)
    (hRight : right.Proper)
    {leftAfter rightAfter : Text}
    (hText : left.text ++ leftAfter = right.text ++ rightAfter) :
    left = right ∧ leftAfter = rightAfter := by
  rcases hLeft.cuts leftAfter with ⟨hOpen, hClose⟩
  rcases hRight.cuts rightAfter with ⟨hOpen', hClose'⟩
  rw [hText, hOpen', Option.some.injEq, Prod.mk.injEq] at hOpen
  rcases hOpen with ⟨hGap, hOpened⟩
  rw [← hOpened, hClose', Option.some.injEq, Prod.mk.injEq] at hClose
  rcases hClose with ⟨hBody, hAfter⟩
  rcases left with ⟨gap, body⟩
  rcases right with ⟨gap', body'⟩
  exact ⟨congrArg₂ Piece.mk hGap.symm hBody.symm, hAfter.symm⟩

/- A text is cut into proper pieces in one way only. -/
theorem pieces_unique
    {left right : List Piece}
    (hLeft : ∀ piece ∈ left, piece.Proper)
    (hRight : ∀ piece ∈ right, piece.Proper)
    {leftRest rightRest : Text}
    (hLeftRest : Unclosed leftRest)
    (hRightRest : Unclosed rightRest)
    (hText :
      left.flatMap Piece.text ++ leftRest =
        right.flatMap Piece.text ++ rightRest) :
    left = right ∧ leftRest = rightRest := by
  induction left generalizing right with
  | nil =>
      cases right with
      | nil => exact ⟨rfl, hText⟩
      | cons piece more =>
          rcases List.forall_mem_cons.mp hRight with ⟨hPiece, -⟩
          rw [List.flatMap_nil, List.nil_append, List.flatMap_cons,
            List.append_assoc] at hText
          rw [hText] at hLeftRest
          exact absurd hLeftRest (not_unclosed_piece hPiece _)
  | cons first rest ih =>
      rcases List.forall_mem_cons.mp hLeft with ⟨hFirst, hRest⟩
      rw [List.flatMap_cons, List.append_assoc] at hText
      cases right with
      | nil =>
          rw [List.flatMap_nil, List.nil_append] at hText
          rw [← hText] at hRightRest
          exact absurd hRightRest (not_unclosed_piece hFirst _)
      | cons piece more =>
          rcases List.forall_mem_cons.mp hRight with ⟨hPiece, hMore⟩
          rw [List.flatMap_cons, List.append_assoc] at hText
          rcases piece_unique hFirst hPiece hText with
            ⟨hSame, hAfter⟩
          rcases ih hRest hMore hAfter with ⟨hOthers, hEnd⟩
          exact ⟨by rw [hSame, hOthers], hEnd⟩

------------------------------------------------------------
-- The Blocks of a Dissection
------------------------------------------------------------

/-
  The scan behind a text finds the blocks of the pieces that
  follow: its offset is the length of that text, and its line
  counts the line breaks of that text.
-/
theorem scanFrom_eq_blocksBehind
    {pieces : List Piece}
    {rest : Text}
    (hPieces : ∀ piece ∈ pieces, piece.Proper)
    (hRest : Unclosed rest)
    (before : Text) :
    scanFrom before.length (1 + before.count '\n')
        (pieces.flatMap Piece.text ++ rest) =
      blocksBehind before pieces := by
  induction pieces generalizing before with
  | nil => exact scanFrom_of_none (next?_eq_none_iff.mpr hRest)
  | cons piece more ih =>
      rcases List.forall_mem_cons.mp hPieces with ⟨hPiece, hMore⟩
      have hOpenLines : openMark.count '\n' = 0 :=
        List.count_eq_zero.mpr (by decide)
      have hCloseLines : closeMark.count '\n' = 0 :=
        List.count_eq_zero.mpr (by decide)
      have hLine :
          (piece.block before).line + piece.body.count '\n' =
            1 + (before ++ piece.text).count '\n' := by
        simp only [Piece.block, Piece.text, List.count_append,
          hOpenLines, hCloseLines]
        omega
      rw [List.flatMap_cons, List.append_assoc,
        scanFrom_of_some (next?_piece hPiece before _),
        blocksBehind_cons, ← ih hMore (before ++ piece.text), ← hLine]
      rfl

/-
  The scan finds exactly the comments of a text. There is one
  way to write the text as comments with gaps that open none,
  bodies that close none, and a rest without comments; and the
  blocks of the scan are those of this dissection, in order,
  with their offsets and lines.
-/
theorem scan_eq_blocks
    (text : Text) :
    ∃ dissection : Dissection text,
      (∀ other : Dissection text, other = dissection) ∧
      scan text = dissection.blocks := by
  rcases exists_pieces 0 1 text with
    ⟨pieces, rest, hText, hPieces, hRest⟩
  refine ⟨⟨pieces, rest, hText, hPieces, hRest⟩, ?_, ?_⟩
  · intro other
    rcases pieces_unique other.proper hPieces other.unclosed hRest
        (other.text_eq.symm.trans hText) with ⟨hSame, hEnd⟩
    exact Dissection.ext hSame hEnd
  · have hScan := congrArg (scanFrom 0 1) hText
    exact hScan.trans (scanFrom_eq_blocksBehind hPieces hRest [])

-- A mark that opens a comment does not take part in closing it,
-- and one that closes it does not take part in opening the next.
example :
    scan "//**/x*/**y*/\n/***/".toList =
      [⟨1, 8, "/x".toList, 1⟩, ⟨14, 19, [], 2⟩] := by
  decide +kernel

end Block

end Marginalia
