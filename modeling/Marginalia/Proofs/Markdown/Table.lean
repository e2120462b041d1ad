import Mathlib.Data.List.Forall2
import Marginalia.Markdown.Table
import Marginalia.Proofs.Text.Lines
import Marginalia.Proofs.Text.Replace

/-
  This file reads the lines of a table back. The borders of a
  line are its pipes without a backslash before them. Every
  line of a table has one border more than the table is wide,
  and between the borders its values can be read.

  Key definitions include:
    * `Markdown.borders`
    * `Markdown.stretch?`
    * `Markdown.fence`
    * `Markdown.Framed`
    * `Markdown.readCell`
    * `Markdown.Readable`

  Main results:
    * `Markdown.borders_append`
    * `Markdown.borders_cons_append`
    * `Markdown.framed_fence`
    * `Markdown.stretch?_fence`
    * `Markdown.escapeCell_eq`
    * `Markdown.readCell_shown`
    * `Markdown.table_reads_back`
-/

namespace Marginalia

namespace Markdown

------------------------------------------------------------
-- Borders
------------------------------------------------------------

/- An offset of a pipe that no backslash stands right before. -/
def IsBorder
    (text : Text)
    (offset : Nat) : Prop :=
  text[offset]? = some '|' ∧
    ¬(0 < offset ∧ text[offset - 1]? = some '\\')

instance
    (text : Text)
    (offset : Nat) :
    Decidable (IsBorder text offset) := by
  unfold IsBorder
  infer_instance

/- The borders of a text, in order. -/
def borders
    (text : Text) : List Nat :=
  (List.range text.length).filter (IsBorder text ·)

/- The text from one of the borders up to the next, by number. -/
def stretch?
    (line : Text)
    (number : Nat) : Option Text := do
  let start ← (borders line)[number]?
  let stop ← (borders line)[number + 1]?
  return line.extract (start + 1) stop

/-
  A line with one border more than its size, that starts and
  ends with a border.
-/
structure Framed
    (size : Nat)
    (line : Text) : Prop where
  count : (borders line).length = size + 1
  first : IsBorder line 0
  last : IsBorder line (line.length - 1)

/- What is among the borders is a border. -/
theorem isBorder_of_mem
    {text : Text}
    {offset : Nat}
    (hBorder : offset ∈ borders text) :
    IsBorder text offset :=
  of_decide_eq_true (List.mem_filter.mp hBorder).2

/- The borders of a text stay when it goes on. -/
theorem isBorder_append_left
    {front : Text}
    {offset : Nat}
    (hOffset : offset < front.length)
    (back : Text) :
    IsBorder (front ++ back) offset ↔ IsBorder front offset := by
  unfold IsBorder
  rw [List.getElem?_append_left hOffset,
    List.getElem?_append_left (by omega)]

/- Behind a text that escapes no pipe the borders are moved on. -/
theorem isBorder_append_right
    {front : Text}
    (hFront : front.getLast? ≠ some '\\')
    (back : Text)
    (offset : Nat) :
    IsBorder (front ++ back) (front.length + offset) ↔
      IsBorder back offset := by
  unfold IsBorder
  cases offset with
  | zero =>
      -- What stands before is the end of the first text.
      have hOpen :
          ¬(0 < front.length + 0 ∧
            (front ++ back)[front.length + 0 - 1]? = some '\\') := by
        rintro ⟨hSome, hBackslash⟩
        rw [List.getElem?_append_left (by omega), Nat.add_zero,
          ← List.getLast?_eq_getElem?] at hBackslash
        exact hFront hBackslash
      have hStart : ¬(0 < 0 ∧ back[0 - 1]? = some '\\') := by
        simp
      rw [and_iff_left hOpen, and_iff_left hStart,
        List.getElem?_append_right (Nat.le_add_right _ 0),
        Nat.add_sub_cancel_left]
  | succ offset =>
      have hPrevious :
          front.length + (offset + 1) - 1 = front.length + offset := by
        omega
      have hSome : 0 < front.length + (offset + 1) := by
        omega
      rw [hPrevious, List.getElem?_append_right (by omega),
        List.getElem?_append_right (by omega)]
      simp [hSome]

/- The borders of two texts, if the first escapes no pipe. -/
theorem borders_append
    {front : Text}
    (hFront : front.getLast? ≠ some '\\')
    (back : Text) :
    borders (front ++ back) =
      borders front ++ (borders back).map (front.length + ·) := by
  have hBefore :
      ∀ offset ∈ List.range front.length,
        decide (IsBorder (front ++ back) offset) =
          decide (IsBorder front offset) := by
    intro offset hOffset
    exact decide_eq_decide.mpr
      (isBorder_append_left (List.mem_range.mp hOffset) back)
  have hBehind :
      ∀ offset ∈ List.range back.length,
        ((fun place => decide (IsBorder (front ++ back) place)) ∘
            (front.length + ·)) offset =
          decide (IsBorder back offset) := by
    intro offset hOffset
    exact decide_eq_decide.mpr (isBorder_append_right hFront back offset)
  unfold borders
  rw [List.length_append, List.range_add, List.filter_append,
    List.filter_map, List.filter_congr hBefore,
    List.filter_congr hBehind]

/- A text has no border if its pipes are escaped. -/
theorem borders_of_guarded
    {text : Text}
    (hText : Text.Guarded ['\\'] '|' text) :
    borders text = [] := by
  unfold borders
  rw [List.filter_eq_nil_iff]
  intro offset hOffset hBorder
  rcases of_decide_eq_true hBorder with ⟨hPipe, hOpen⟩
  rcases List.getElem?_eq_some_iff.mp hPipe with ⟨hLength, hPipe⟩
  have hParts :
      text = text.take offset ++ '|' :: text.drop (offset + 1) := by
    rw [← hPipe, List.getElem_cons_drop, List.take_append_drop]
  rcases hText _ _ hParts with ⟨before, hBefore⟩
  have hPlace : before.length + 1 = offset := by
    have hLengths := congrArg List.length hBefore
    simp only [List.length_append, List.length_singleton,
      List.length_take] at hLengths
    omega
  apply hOpen
  rw [hParts, ← hBefore, ← hPlace]
  simp

------------------------------------------------------------
-- Fences
------------------------------------------------------------

/- Texts as a line, with a pipe before and behind each of them. -/
def fence
    (stretches : List Text) : Text :=
  stretches.flatMap ('|' :: ·) ++ ['|']

/- A text that adds no border and escapes none. -/
def Enclosed
    (stretch : Text) : Prop :=
  Text.Guarded ['\\'] '|' stretch ∧ stretch.getLast? ≠ some '\\'

theorem fence_cons
    (stretch : Text)
    (rest : List Text) :
    fence (stretch :: rest) = ('|' :: stretch) ++ fence rest := by
  unfold fence
  rw [List.flatMap_cons, List.append_assoc]

/- A pipe before a text without borders is the only border. -/
theorem borders_cons_of_guarded
    {stretch : Text}
    (hStretch : Text.Guarded ['\\'] '|' stretch) :
    borders ('|' :: stretch) = [0] := by
  rw [← List.singleton_append, borders_append (by simp),
    borders_of_guarded hStretch]
  rfl

/- The first border is at the start, the others are moved on. -/
theorem borders_cons_append
    {stretch : Text}
    (hStretch : Enclosed stretch)
    (behind : Text) :
    borders (('|' :: stretch) ++ behind) =
      0 :: (borders behind).map (stretch.length + 1 + ·) := by
  have hLast : ('|' :: stretch).getLast? ≠ some '\\' := by
    rw [List.getLast?_cons]
    cases hStretch' : stretch.getLast? with
    | none => simp
    | some c =>
        rw [← hStretch']
        simpa [hStretch'] using hStretch.2
  rw [borders_append hLast, borders_cons_of_guarded hStretch.1,
    List.length_cons, List.singleton_append]

/- A pipe at the start is a border. -/
theorem head_borders_cons
    (behind : Text) :
    (borders ('|' :: behind))[0]? = some 0 := by
  rw [← List.singleton_append, borders_append (by simp)]
  rfl

/- A text between two pipes at the start is the first stretch. -/
theorem stretch?_cons_append
    {stretch : Text}
    (hStretch : Enclosed stretch)
    (behind : Text) :
    stretch? (('|' :: stretch) ++ '|' :: behind) 0 = some stretch := by
  unfold stretch?
  rw [borders_cons_append hStretch]
  simp [head_borders_cons]

/- So it is in a fence. -/
theorem borders_fence_cons
    {stretch : Text}
    (hStretch : Enclosed stretch)
    (rest : List Text) :
    borders (fence (stretch :: rest)) =
      0 :: (borders (fence rest)).map (stretch.length + 1 + ·) := by
  rw [fence_cons, borders_cons_append hStretch]

/- A fence starts with a border. -/
theorem head_borders_fence
    {stretches : List Text}
    (hStretches : ∀ stretch ∈ stretches, Enclosed stretch) :
    (borders (fence stretches))[0]? = some 0 := by
  cases stretches with
  | nil => rfl
  | cons stretch rest =>
      rw [borders_fence_cons
        (hStretches stretch List.mem_cons_self)]
      rfl

/- A fence has one border more than it has stretches. -/
theorem framed_fence
    {stretches : List Text}
    (hStretches : ∀ stretch ∈ stretches, Enclosed stretch) :
    Framed stretches.length (fence stretches) := by
  constructor
  · induction stretches with
    | nil => rfl
    | cons stretch rest ih =>
        rw [borders_fence_cons (hStretches stretch List.mem_cons_self),
          List.length_cons, List.length_map, List.length_cons,
          ih fun other hOther =>
            hStretches other (List.mem_cons_of_mem stretch hOther)]
  · exact isBorder_of_mem
      (List.mem_of_getElem? (head_borders_fence hStretches))
  · apply isBorder_of_mem
    induction stretches with
    | nil => decide
    | cons stretch rest ih =>
        have hRest := ih fun other hOther =>
          hStretches other (List.mem_cons_of_mem stretch hOther)
        have hLength : 0 < (fence rest).length := by simp [fence]
        rw [borders_fence_cons (hStretches stretch List.mem_cons_self),
          List.mem_cons, List.mem_map]
        right
        refine ⟨(fence rest).length - 1, hRest, ?_⟩
        rw [fence_cons, List.length_append, List.length_cons]
        omega

/- A part behind a text is the same part of what follows it. -/
theorem extract_append
    (front back : Text)
    (start stop : Nat) :
    (front ++ back).extract (front.length + start)
        (front.length + stop) =
      back.extract start stop := by
  rw [List.extract_eq_take_drop, List.extract_eq_take_drop,
    Nat.add_sub_add_left, List.drop_length_add_append]

/- The stretches of a fence are what it was made of. -/
theorem stretch?_fence
    {stretches : List Text}
    (hStretches : ∀ stretch ∈ stretches, Enclosed stretch)
    (number : Nat) :
    stretch? (fence stretches) number = stretches[number]? := by
  induction stretches generalizing number with
  | nil => simp [stretch?, fence, borders, IsBorder]
  | cons stretch rest ih =>
      have hFirst := hStretches stretch List.mem_cons_self
      have hRest :
          ∀ other ∈ rest, Enclosed other := by
        intro other hOther
        exact hStretches other (List.mem_cons_of_mem stretch hOther)
      unfold stretch?
      rw [borders_fence_cons hFirst, fence_cons]
      cases number with
      | zero => simp [head_borders_fence hRest]
      | succ number =>
          have hMoved :
              ∀ start stop : Nat,
                (('|' :: stretch) ++ fence rest).extract
                    (stretch.length + 1 + start + 1)
                    (stretch.length + 1 + stop) =
                  (fence rest).extract (start + 1) stop := by
            intro start stop
            exact extract_append ('|' :: stretch) (fence rest)
              (start + 1) stop
          rw [List.getElem?_cons_succ, List.getElem?_cons_succ,
            List.getElem?_cons_succ, ← ih hRest number, stretch?,
            List.getElem?_map, List.getElem?_map]
          cases (borders (fence rest))[number]? with
          | none => rfl
          | some start =>
              cases (borders (fence rest))[number + 1]? with
              | none => rfl
              | some stop => exact congrArg some (hMoved start stop)

------------------------------------------------------------
-- Cells
------------------------------------------------------------

/- A cell is escaped mark by mark. -/
theorem escapeCell_eq
    (text : Text) :
    escapeCell text =
      ((text.replaceAll ['\r', '\n'] ['\n']).replaceAll ['\n']
        breakMark).replaceAll ['|'] ['\\', '|'] := by
  have hBreak :
      ∀ rest : Text,
        (breakMark ++ rest).replaceAll ['|'] ['\\', '|'] =
          breakMark ++ rest.replaceAll ['|'] ['\\', '|'] := by
    intro rest
    rw [Text.replaceAll_singleton_append]
    rfl
  fun_induction escapeCell text with
  | case1 => rfl
  | case2 rest ih =>
      rw [Text.replaceAll_cons_of_not_opens (by simp),
        Text.replaceAll_cons_of_ne (by decide),
        Text.replaceAll_cons_self, ← ih]
      rfl
  | case3 rest ih =>
      rw [Text.replaceAll_cons_of_not_opens (by simp),
        Text.replaceAll_cons_self, hBreak, ← ih]
  | case4 rest ih =>
      have hMark :
          Text.replaceAll ('\r' :: '\n' :: rest) ['\r', '\n'] ['\n'] =
            '\n' :: Text.replaceAll rest ['\r', '\n'] ['\n'] :=
        Text.replaceAll_append (List.cons_ne_nil '\r' ['\n']) ['\n'] rest
      rw [hMark, Text.replaceAll_cons_self, hBreak, ← ih]
  | case5 c rest hPipe hFeed hReturn ih =>
      have hMark : ¬['\r', '\n'] <+: c :: rest := by
        rintro ⟨after, hText⟩
        exact hReturn after (List.cons.inj hText).1.symm
          (List.cons.inj hText).2.symm
      rw [Text.replaceAll_cons_of_not_opens hMark,
        Text.replaceAll_cons_of_ne hFeed,
        Text.replaceAll_cons_of_ne hPipe, ← ih]

/- A value as it stands between two borders. -/
def shown
    (value : Text) : Text :=
  ' ' :: (cell value ++ [' '])

/- A shown value adds no border and escapes none. -/
theorem enclosed_shown
    (value : Text) :
    Enclosed (shown value) := by
  have hSpace : Text.Guarded ['\\'] '|' [' '] :=
    Text.guarded_of_notMem ['\\'] (by decide)
  have hCell : Text.Guarded ['\\'] '|' (cell value) := by
    unfold cell
    rw [escapeCell_eq]
    exact Text.guarded_replaceAll (by decide) _
  constructor
  · exact hSpace.append (hCell.append hSpace)
  · rw [shown, ← List.cons_append, List.getLast?_concat]
    decide

/- A shown value is on one line. -/
theorem newline_notMem_shown
    (value : Text) :
    '\n' ∉ shown value := by
  have hCell : '\n' ∉ cell value := by
    intro hMember
    unfold cell at hMember
    rw [escapeCell_eq] at hMember
    rcases Text.mem_of_mem_replaceAll_singleton hMember with
      hPipe | ⟨hMember, -⟩
    · exact absurd hPipe (by decide)
    · rcases Text.mem_of_mem_replaceAll_singleton hMember with
        hBreak | ⟨-, hOther⟩
      · exact absurd hBreak (by decide)
      · exact hOther rfl
  simp [shown, hCell]

------------------------------------------------------------
-- Reading Cells
------------------------------------------------------------

/- The value that stands between two borders. -/
def readCell
    (stretch : Text) : Text :=
  (stretch.trim.replaceAll ['\\', '|'] ['|']).replaceAll breakMark
    ['\n']

/- A pipe is not read from a text without pipes. -/
theorem pipe_notMem_readCell
    {stretch : Text}
    (hPipe : '|' ∉ stretch) :
    '|' ∉ readCell stretch := by
  have hTrim : '|' ∉ stretch.trim := by
    intro hMember
    exact hPipe ((Text.trim_isInfix stretch).subset hMember)
  have hMark : ¬['\\', '|'] <:+: stretch.trim := by
    intro hInside
    exact hTrim (hInside.subset (by decide))
  intro hMember
  unfold readCell at hMember
  rw [Text.replaceAll_of_not_infix hMark] at hMember
  rcases Text.mem_of_mem_replaceFrom hMember with hBreak | hMember
  · exact absurd hBreak (by decide)
  · exact hTrim hMember

/- A value without carriage returns and break marks. -/
def Readable
    (value : Text) : Prop :=
  '\r' ∉ value ∧ ¬breakMark <:+: value

instance
    (value : Text) :
    Decidable (Readable value) := by
  unfold Readable
  infer_instance

/- A value without carriage returns has only line feeds to escape. -/
theorem cell_of_notMem
    {value : Text}
    (hReturn : '\r' ∉ value) :
    cell value =
      (value.trim.replaceAll ['\n'] breakMark).replaceAll ['|']
        ['\\', '|'] := by
  have hMark : ¬['\r', '\n'] <:+: value.trim := by
    intro hInside
    exact hReturn
      ((hInside.trans (Text.trim_isInfix value)).subset
        List.mem_cons_self)
  rw [cell, escapeCell_eq, Text.replaceAll_of_not_infix hMark]

/- What is shown of a readable value is read as the value. -/
theorem readCell_shown
    {value : Text}
    (hValue : Readable value) :
    readCell (shown value) = value.trim := by
  have hSpace : Text.AllBlank [' '] := by decide
  have hTrimmed : Text.Trimmed (cell value) := by
    rw [cell_of_notMem hValue.1]
    exact Text.trimmed_replaceAll
      (Text.trimmed_replaceAll (Text.trimmed_trim value) (by decide)
        (by decide) '\n')
      (by decide) (by decide) '|'
  have hTrim : Text.trim (shown value) = cell value :=
    calc Text.trim ([' '] ++ (cell value ++ [' ']))
        = Text.trim (cell value ++ [' ']) :=
          Text.trim_blank_append hSpace _
      _ = Text.trim (cell value) :=
          Text.trim_append_blank (cell value) hSpace
      _ = cell value := hTrimmed
  have hBreak : ¬breakMark <:+: value.trim := by
    intro hInside
    exact hValue.2 (hInside.trans (Text.trim_isInfix value))
  have hPipes :
      (cell value).replaceAll ['\\', '|'] ['|'] =
        value.trim.replaceAll ['\n'] breakMark := by
    rw [cell_of_notMem hValue.1]
    exact Text.replaceAll_replaceAll
      (Text.unbordered_of_first (by decide)) (by decide)
      (Or.inl (by decide))
  rw [readCell, hTrim, hPipes]
  exact Text.replaceAll_replaceAll
    (Text.unbordered_of_first (by decide)) (by decide) (Or.inr hBreak)

------------------------------------------------------------
-- Lines of a Table
------------------------------------------------------------

/- A line of cells shows its values between borders. -/
theorem row_eq_fence
    {values : List Text}
    (hValues : values ≠ []) :
    row values = fence (values.map shown) := by
  induction values with
  | nil => exact absurd rfl hValues
  | cons value rest ih =>
      by_cases hRest : rest = []
      · simp [hRest, row, fence, shown, Text.join_singleton]
      · rw [List.map_cons, fence_cons, ← ih hRest]
        unfold row
        rw [List.map_cons, Text.join_cons _ _ (by simpa using hRest)]
        simp [shown]

/- The line below the headings has the same borders. -/
theorem rule_eq_fence
    (size : Nat) :
    rule size = fence (List.replicate size " --- ".toList) := by
  induction size with
  | zero => rfl
  | succ size ih =>
      rw [List.replicate_succ, fence_cons, ← ih, rule, rule,
        List.replicate_succ, List.flatten_cons]
      rfl

/- A fence is on one line if its stretches are. -/
theorem newline_notMem_fence
    {stretches : List Text}
    (hStretches : ∀ stretch ∈ stretches, '\n' ∉ stretch) :
    '\n' ∉ fence stretches := by
  unfold fence
  rw [List.mem_append, List.mem_flatMap]
  rintro (⟨stretch, hStretch, hMember⟩ | hMember)
  · rcases List.mem_cons.mp hMember with hPipe | hMember
    · exact absurd hPipe (by decide)
    · exact hStretches stretch hStretch hMember
  · exact absurd hMember (by decide)

/- No line is longer than the width. -/
theorem length_le_width
    {lists : List (List Text)}
    {values : List Text}
    (hValues : values ∈ lists) :
    values.length ≤ width lists := by
  induction lists with
  | nil => exact absurd hValues List.not_mem_nil
  | cons first rest ih =>
      rw [width]
      rcases List.mem_cons.mp hValues with rfl | hRest
      · exact Nat.le_max_left _ _
      · exact (ih hRest).trans (Nat.le_max_right _ _)

/- Values are made up to the width. -/
theorem length_pad
    {size : Nat}
    {values : List Text}
    (hSize : values.length ≤ size) :
    (pad size values).length = size := by
  rw [pad, List.length_append, List.length_replicate]
  omega

/- Behind the values there are empty ones. -/
theorem getElem?_pad
    {size number : Nat}
    (hNumber : number < size)
    (values : List Text) :
    (pad size values)[number]? = some (values.getD number []) := by
  unfold pad
  by_cases hInside : number < values.length
  · rw [List.getElem?_append_left hInside]
    simp [hInside]
  · rw [List.getElem?_append_right (Nat.le_of_not_lt hInside),
      List.getElem?_replicate, if_pos (by omega)]
    simp [Nat.le_of_not_lt hInside]

/-
  A line shows some values, made up to a size by empty ones,
  if they can be read from its stretches.
-/
def Shows
    (size : Nat)
    (values : List Text)
    (line : Text) : Prop :=
  ∀ number < size,
    Readable (values.getD number []) →
      (stretch? line number).map readCell =
        some (Text.trim (values.getD number []))

/- A line of cells has the borders for its values and shows them. -/
theorem row_shows
    {size : Nat}
    (hSize : 0 < size)
    {values : List Text}
    (hValues : values.length ≤ size) :
    Framed size (row (pad size values)) ∧
      Shows size values (row (pad size values)) ∧
      '\n' ∉ row (pad size values) := by
  have hLength := length_pad hValues
  have hPadded : pad size values ≠ [] := by
    apply List.ne_nil_of_length_pos
    rwa [hLength]
  have hEnclosed :
      ∀ stretch ∈ (pad size values).map shown, Enclosed stretch := by
    intro stretch hStretch
    rcases List.mem_map.mp hStretch with ⟨value, -, rfl⟩
    exact enclosed_shown value
  rw [row_eq_fence hPadded]
  refine ⟨?_, ?_, ?_⟩
  · have hFramed := framed_fence hEnclosed
    rwa [List.length_map, hLength] at hFramed
  · intro number hNumber hValue
    rw [stretch?_fence hEnclosed, List.getElem?_map,
      getElem?_pad hNumber, Option.map_some, Option.map_some,
      readCell_shown hValue]
  · apply newline_notMem_fence
    intro stretch hStretch
    rcases List.mem_map.mp hStretch with ⟨value, -, rfl⟩
    exact newline_notMem_shown value

/- The line below the headings has the borders for the width. -/
theorem rule_framed
    (size : Nat) :
    Framed size (rule size) ∧ '\n' ∉ rule size := by
  have hEnclosed :
      ∀ stretch ∈ List.replicate size " --- ".toList,
        Enclosed stretch := by
    intro stretch hStretch
    rw [List.eq_of_mem_replicate hStretch]
    exact ⟨Text.guarded_of_notMem _ (by decide), by decide⟩
  rw [rule_eq_fence]
  constructor
  · have hFramed := framed_fence hEnclosed
    rwa [List.length_replicate] at hFramed
  · apply newline_notMem_fence
    intro stretch hStretch
    rw [List.eq_of_mem_replicate hStretch]
    decide

/- A table that has any value is split into its lines. -/
theorem splitAt_table
    {columns : List Text}
    {rows : List (List Text)}
    (hWidth : 0 < width (columns :: rows)) :
    Text.splitAt '\n' (table columns rows) =
      row (pad (width (columns :: rows)) columns) ::
        rule (width (columns :: rows)) ::
          rows.map fun values =>
            row (pad (width (columns :: rows)) values) := by
  have hRow :
      ∀ values ∈ columns :: rows,
        '\n' ∉ row (pad (width (columns :: rows)) values) := by
    intro values hValues
    exact (row_shows hWidth (length_le_width hValues)).2.2
  unfold table
  simp only [Nat.ne_of_gt hWidth, if_false]
  rw [Text.splitAt_eq_splitOn]
  apply List.splitOn_intercalate
  · intro line hLine
    rcases List.mem_cons.mp hLine with rfl | hLine
    · exact hRow columns List.mem_cons_self
    · rcases List.mem_cons.mp hLine with rfl | hLine
      · exact (rule_framed _).2
      · rcases List.mem_map.mp hLine with ⟨values, hValues, rfl⟩
        exact hRow values (List.mem_cons_of_mem columns hValues)
  · exact List.cons_ne_nil _ _

/-
  A table that has any value is split into the headings, the
  line below them and a line for every row. Every line starts
  and ends with a border and has one more of them than the
  table is wide, and what stands between the borders is read
  as the values, trimmed, and as empty ones behind them.
-/
theorem table_reads_back
    (columns : List Text)
    (rows : List (List Text))
    (hWidth : 1 ≤ width (columns :: rows)) :
    (Text.splitAt '\n' (table columns rows)).length =
        rows.length + 2 ∧
      (∀ line ∈ Text.splitAt '\n' (table columns rows),
        Framed (width (columns :: rows)) line) ∧
      ∃ header body,
        Text.splitAt '\n' (table columns rows) =
          header :: rule (width (columns :: rows)) :: body ∧
        List.Forall₂ (Shows (width (columns :: rows)))
          (columns :: rows) (header :: body) := by
  have hRow :
      ∀ values ∈ columns :: rows,
        Framed (width (columns :: rows))
            (row (pad (width (columns :: rows)) values)) ∧
          Shows (width (columns :: rows)) values
            (row (pad (width (columns :: rows)) values)) := by
    intro values hValues
    have hShows := row_shows hWidth (length_le_width hValues)
    exact ⟨hShows.1, hShows.2.1⟩
  rw [splitAt_table hWidth]
  refine ⟨by simp, ?_, _, _, rfl, ?_⟩
  · intro line hLine
    rcases List.mem_cons.mp hLine with rfl | hLine
    · exact (hRow columns List.mem_cons_self).1
    · rcases List.mem_cons.mp hLine with rfl | hLine
      · exact (rule_framed _).1
      · rcases List.mem_map.mp hLine with ⟨values, hValues, rfl⟩
        exact (hRow values (List.mem_cons_of_mem columns hValues)).1
  · refine List.Forall₂.cons (hRow columns List.mem_cons_self).2 ?_
    rw [List.forall₂_map_right_iff, List.forall₂_same]
    intro values hValues
    exact (hRow values (List.mem_cons_of_mem columns hValues)).2

/-
  A pipe, a line feed, an escaped pipe and a backslash at the
  end of a cell are read back, with empty cells between them.
-/
theorem table_reads_back_escapes :
    1 ≤ width
        [["a|b".toList, " c\nd ".toList], ["\\|".toList],
          ["e".toList, [], "f\\".toList]] ∧
      ∃ header first second,
        Text.splitAt '\n'
            (table ["a|b".toList, " c\nd ".toList]
              [["\\|".toList], ["e".toList, [], "f\\".toList]]) =
          [header, rule 3, first, second] ∧
        (stretch? header 0).map readCell = some "a|b".toList ∧
        (stretch? header 1).map readCell = some "c\nd".toList ∧
        (stretch? header 2).map readCell = some [] ∧
        (stretch? first 0).map readCell = some "\\|".toList ∧
        (stretch? second 2).map readCell = some "f\\".toList := by
  have hWidth :
      1 ≤ width
        [["a|b".toList, " c\nd ".toList], ["\\|".toList],
          ["e".toList, [], "f\\".toList]] := by
    decide
  rcases table_reads_back _ _ hWidth with
    ⟨-, -, header, body, hLines, hShows⟩
  rcases hShows with _ | ⟨hHeader, hBody⟩
  rcases hBody with _ | ⟨hFirst, hBody⟩
  rcases hBody with _ | ⟨hSecond, hNone⟩
  rcases hNone with _ | _
  exact ⟨hWidth, header, _, _, hLines,
    hHeader 0 (by decide) (by decide),
    hHeader 1 (by decide) (by decide),
    hHeader 2 (by decide) (by decide),
    hFirst 0 (by decide) (by decide),
    hSecond 2 (by decide) (by decide)⟩

end Markdown

end Marginalia
