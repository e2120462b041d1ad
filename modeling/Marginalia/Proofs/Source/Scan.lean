import Mathlib.Data.List.Nodup
import Marginalia.Source.Block

/-
  This file shows where the scan for comment blocks finds its
  blocks: one after the other, without overlap.

  Main results:
    * `Block.next?_eq_some_iff`
    * `Block.scan_pairwise`
    * `Block.eq_of_start_eq`
-/

namespace Marginalia

namespace Block

------------------------------------------------------------
-- One Step of the Scan
------------------------------------------------------------

/-
  The next block lies between the first opening mark of the
  text and the first closing mark after it.
-/
theorem next?_eq_some_iff
    {offset line : Nat}
    {text after : Text}
    {block : Block} :
    next? offset line text = some (block, after) ↔
      ∃ before opened,
        Text.cut? openMark text = some (before, opened) ∧
        Text.cut? closeMark opened = some (block.body, after) ∧
        block.start = offset + before.length ∧
        block.stop = block.start + openMark.length +
          block.body.length + closeMark.length ∧
        block.line = line + before.count '\n' := by
  constructor
  · intro hNext
    unfold next? at hNext
    split at hNext
    · simp at hNext
    · rename_i before opened hOpen
      split at hNext
      · simp at hNext
      · rename_i body rest hClose
        simp only [Option.some.injEq, Prod.mk.injEq] at hNext
        rcases hNext with ⟨rfl, rfl⟩
        exact ⟨before, opened, hOpen, hClose, rfl, rfl, rfl⟩
  · rintro ⟨before, opened, hOpen, hClose, hStart, hStop, hLine⟩
    rcases block with ⟨start, stop, body, line'⟩
    simp only at hClose hStart hStop hLine
    subst hStart hStop hLine
    simp [next?, hOpen, hClose]

/- A block starts where its text does, or later. -/
theorem offset_le_start
    {offset line : Nat}
    {text after : Text}
    {block : Block}
    (hNext : next? offset line text = some (block, after)) :
    offset ≤ block.start := by
  rcases next?_eq_some_iff.mp hNext with
    ⟨before, opened, -, -, hStart, -, -⟩
  omega

/- A block stops after it starts. -/
theorem start_lt_stop_of_next?
    {offset line : Nat}
    {text after : Text}
    {block : Block}
    (hNext : next? offset line text = some (block, after)) :
    block.start < block.stop := by
  rcases next?_eq_some_iff.mp hNext with
    ⟨before, opened, -, -, -, hStop, -⟩
  simp only [openMark, closeMark, List.length_cons,
    List.length_nil] at hStop
  omega

/- A block stops where the rest of its text starts. -/
theorem exists_taken_of_next?
    {offset line : Nat}
    {text after : Text}
    {block : Block}
    (hNext : next? offset line text = some (block, after)) :
    ∃ taken : Text,
      text = taken ++ after ∧ block.stop = offset + taken.length := by
  rcases next?_eq_some_iff.mp hNext with
    ⟨before, opened, hOpen, hClose, hStart, hStop, -⟩
  refine ⟨before ++ openMark ++ block.body ++ closeMark, ?_, ?_⟩
  · rw [Text.eq_of_cut? hOpen, Text.eq_of_cut? hClose]
    simp only [List.append_assoc]
  · simp only [List.length_append]
    omega

------------------------------------------------------------
-- The Whole Scan
------------------------------------------------------------

/- Without a next block the scan is over. -/
theorem scanFrom_of_none
    {offset line : Nat}
    {text : Text}
    (hNext : next? offset line text = none) :
    scanFrom offset line text = [] := by
  rw [scanFrom]
  split
  · rfl
  · rename_i hSome
    rw [hNext] at hSome
    cases hSome

/- A scan goes on behind its first block. -/
theorem scanFrom_of_some
    {offset line : Nat}
    {text after : Text}
    {block : Block}
    (hNext : next? offset line text = some (block, after)) :
    scanFrom offset line text =
      block ::
        scanFrom block.stop (block.line + block.body.count '\n')
          after := by
  rw [scanFrom]
  split
  · rename_i hNone
    rw [hNext] at hNone
    cases hNone
  · rename_i other rest hSome
    rw [hNext] at hSome
    cases hSome
    rfl

/-
  Whatever holds of every next block, wherever the scan has
  got to, holds of every block of the scan.
-/
theorem forall_mem_scanFrom
    {P : Block → Prop}
    {offset : Nat}
    (hStep :
      ∀ {reached line : Nat} {text after : Text} {block : Block},
        offset ≤ reached →
        next? reached line text = some (block, after) →
        P block)
    {line : Nat}
    {text : Text} :
    ∀ block ∈ scanFrom offset line text, P block := by
  -- The scan is generalized to any later offset, so that the
  -- induction can follow it.
  suffices hLater :
      ∀ reached line text, offset ≤ reached →
        ∀ block ∈ scanFrom reached line text, P block from
    hLater offset line text (Nat.le_refl offset)
  intro reached line text hReached
  fun_induction scanFrom reached line text with
  | case1 => simp
  | case2 reached line text block after hNext ih =>
      intro found hFound
      have hPast : offset ≤ block.stop := by
        have hStart := offset_le_start hNext
        have hStop := start_lt_stop_of_next? hNext
        omega
      rcases List.mem_cons.mp hFound with rfl | hFound
      · exact hStep hReached hNext
      · exact ih hPast found hFound

/- Every block of a scan starts behind the scan's offset. -/
theorem offset_le_start_of_mem
    {offset line : Nat}
    {text : Text} :
    ∀ block ∈ scanFrom offset line text,
      offset ≤ block.start := by
  apply forall_mem_scanFrom
  intro reached line text after block hReached hNext
  exact Nat.le_trans hReached (offset_le_start hNext)

/- Every block of a text stops after it starts. -/
theorem start_lt_stop
    {text : Text} :
    ∀ block ∈ scan text, block.start < block.stop := by
  apply forall_mem_scanFrom
  intro reached line text after block hReached hNext
  exact start_lt_stop_of_next? hNext

/- Each block of a scan stops before the later ones start. -/
theorem scanFrom_pairwise
    (offset line : Nat)
    (text : Text) :
    (scanFrom offset line text).Pairwise
      fun earlier later => earlier.stop ≤ later.start := by
  fun_induction scanFrom offset line text with
  | case1 => exact List.Pairwise.nil
  | case2 offset line text block after hNext ih =>
      exact List.Pairwise.cons offset_le_start_of_mem ih

/- The blocks of a text follow each other without overlap. -/
theorem scan_pairwise
    (text : Text) :
    (scan text).Pairwise
      fun earlier later => earlier.stop ≤ later.start :=
  scanFrom_pairwise 0 1 text

/- The blocks of a text start at increasing offsets. -/
theorem scan_pairwise_start
    (text : Text) :
    (scan text).Pairwise
      fun earlier later => earlier.start < later.start := by
  apply (scan_pairwise text).imp_of_mem
  intro earlier later hEarlier hLater hStop
  have hStart := start_lt_stop earlier hEarlier
  omega

/- No block is found twice. -/
theorem scan_nodup
    (text : Text) :
    (scan text).Nodup := by
  apply (scan_pairwise_start text).imp
  intro earlier later hStart hEq
  subst hEq
  exact Nat.lt_irrefl _ hStart

/- Blocks of one text are told apart by their starts. -/
theorem eq_of_start_eq
    {text : Text}
    {left right : Block}
    (hLeft : left ∈ scan text)
    (hRight : right ∈ scan text)
    (hStart : left.start = right.start) :
    left = right := by
  have hInjective :
      ((scan text).map start).Nodup := by
    apply List.pairwise_map.mpr
    apply (scan_pairwise_start text).imp
    intro earlier later hLt
    exact Nat.ne_of_lt hLt
  exact List.inj_on_of_nodup_map hInjective hLeft hRight hStart

end Block

end Marginalia
