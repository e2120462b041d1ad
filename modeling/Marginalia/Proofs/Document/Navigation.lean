import Marginalia.Proofs.Document.Breaks
import Marginalia.Proofs.Document.Order
import Marginalia.Proofs.Markdown.Table
import Marginalia.Proofs.Source.Name

/-
  This file reads the navigation table back from a document.
  Right below the header and the headings of the table stands
  one row for each module, with a link to the module's section
  and the module's summary between its borders. The summary is
  escaped and the name in the link is not, so that a row is
  one line with two cells exactly if the name of its module
  has neither a pipe nor a line feed.

  Key definitions include:
    * `Document.link`
    * `Document.rowTo`
    * `Document.LinksTo`
    * `Document.header`
    * `Document.Tabulates`

  Main results:
    * `Document.linksTo_rowTo`
    * `Document.notMem_name_of_linksTo`
    * `Document.exists_render_eq_lines`
    * `Document.render_tabulates_iff`
-/

namespace Marginalia

namespace Markdown

------------------------------------------------------------
-- Characters of Targets
------------------------------------------------------------

/- A target has only word characters and hyphens. -/
theorem isWord_or_eq_of_mem_target
    {heading : Text}
    {c : Char}
    (hMember : c ∈ target heading) :
    isWord c = true ∨ c = '-' := by
  rcases List.mem_map.mp hMember with ⟨kept, hKept, rfl⟩
  by_cases hSpace : kept = ' '
  · exact .inr (if_pos hSpace)
  · rw [if_neg hSpace]
    simpa [hSpace] using (List.mem_filter.mp hKept).2

/- A character that is neither is in no target. -/
theorem notMem_target
    {c : Char}
    (hWord : isWord c = false)
    (hHyphen : c ≠ '-')
    (heading : Text) :
    c ∉ target heading := by
  intro hMember
  rcases isWord_or_eq_of_mem_target hMember with hTrue | hEq
  · rw [hWord] at hTrue
    exact absurd hTrue Bool.false_ne_true
  · exact hHyphen hEq

end Markdown

namespace Document

------------------------------------------------------------
-- Rows of the Navigation Table
------------------------------------------------------------

/- A link with some words to a target. -/
def link
    (words target : Text) : Text :=
  "[".toList ++ words ++ "](#".toList ++ target ++ ")".toList

/- A link as it stands between two borders. -/
def linkStretch
    (words target : Text) : Text :=
  ' ' :: (link words target ++ [' '])

/- A row of the navigation table without its line feed. -/
def navigationLine
    (words target summary : Text) : Text :=
  Markdown.fence [linkStretch words target, Markdown.shown summary]

/-
  The row of a module in a document, with a link to a target.
  As in all of the document, the line feeds that stand in a
  row in the name are limited.
-/
def rowTo
    (module : ModuleDoc)
    (target : Text) : Text :=
  navigationLine (limitBreaks 0 module.name) target (summary module)

/- A row is written as a line of the table and a line feed. -/
theorem navigationRow_eq
    (name summary : Text) :
    navigationRow (name, summary) =
      navigationLine name (Markdown.target name) summary ++
        ['\n'] := by
  change "| [".toList ++ name ++ "](#".toList ++
      Markdown.target name ++ ") | ".toList ++
      Markdown.cell summary ++ " |\n".toList = _
  simp [navigationLine, linkStretch, link, Markdown.fence,
    Markdown.shown]

/- A row ends with a border. -/
theorem getLast?_navigationLine
    (words target summary : Text) :
    (navigationLine words target summary).getLast? = some '|' :=
  List.getLast?_concat

/- A row starts with a border and ends with one. -/
theorem bounded_navigationLine
    (words target summary : Text) :
    Bounded (navigationLine words target summary) where
  ink := List.cons_ne_nil _ _
  head := by
    change some '|' ≠ some '\n'
    decide
  last := by
    rw [getLast?_navigationLine]
    decide

/- Only the line feeds in the words of a link are limited. -/
theorem limitBreaks_navigationLine
    (words summary : Text)
    {target : Text}
    (hTarget : '\n' ∉ target) :
    limitBreaks 0 (navigationLine words target summary) =
      navigationLine (limitBreaks 0 words) target summary := by
  let behind : Text :=
    "](#".toList ++ target ++ ") |".toList ++
      (Markdown.shown summary ++ ['|'])
  have hLine (inner : Text) :
      navigationLine inner target summary =
        "| [".toList ++ (inner ++ behind) := by
    simp [navigationLine, linkStretch, link, Markdown.fence, behind]
  have hOpen : '\n' ∉ "| [".toList := by decide
  have hHead : behind.head? ≠ some '\n' := by
    change some ']' ≠ some '\n'
    decide
  have hBehind : '\n' ∉ behind := by
    have hShown := Markdown.newline_notMem_shown summary
    simp [behind, hTarget, hShown]
  rw [hLine, hLine, limitBreaks_append_of_notMem hOpen,
    limitBreaks_append (Nat.zero_le 2), limitBreaks_eq_of_head hHead,
    limitBreaks_of_notMem hBehind]

/- No line feed is in a target. -/
theorem newline_notMem_target
    (name : Text) :
    '\n' ∉ Markdown.target name :=
  Markdown.notMem_target (by decide) (by decide) name

------------------------------------------------------------
-- Reading Rows
------------------------------------------------------------

/-
  A cell holds a value if the value stands in it as it is or is
  read from it.
-/
def Holds
    (stretch value : Text) : Prop :=
  stretch.trim = value ∨ Markdown.readCell stretch = value

/-
  A line with two cells: a link to the section of a module and
  the module's summary.
-/
structure LinksTo
    (module : ModuleDoc)
    (line : Text) : Prop where
  framed : Markdown.Framed 2 line
  name :
    ∃ stretch,
      Markdown.stretch? line 0 = some stretch ∧
        Holds stretch
          (link module.name (Markdown.target module.name))
  description :
    Markdown.stretch? line 1 = some (Markdown.shown (summary module))

/- A link between its borders is held there. -/
theorem holds_linkStretch
    (words target : Text) :
    Holds (linkStretch words target) (link words target) := by
  have hSpace : Text.AllBlank [' '] := by decide
  have hTrimmed : Text.Trimmed (link words target) := by
    rw [Text.trimmed_iff]
    constructor
    · intro c hChar
      cases hChar
      decide
    · intro c hChar
      rw [link, List.getLast?_append] at hChar
      cases hChar
      decide
  left
  calc Text.trim ([' '] ++ (link words target ++ [' ']))
      = Text.trim (link words target ++ [' ']) :=
        Text.trim_blank_append hSpace _
    _ = Text.trim (link words target) :=
        Text.trim_append_blank _ hSpace
    _ = link words target := hTrimmed

/-
  A character that neither marks a link nor may be in a target
  is between the borders only as a part of the name.
-/
theorem mem_linkStretch_iff
    {c : Char}
    (hMark : c ∉ [' ', '[', ']', '(', '#', ')', '-'])
    (hWord : isWord c = false)
    (name : Text) :
    c ∈ linkStretch name (Markdown.target name) ↔ c ∈ name := by
  have hHyphen : c ≠ '-' := by
    rintro rfl
    exact hMark (by decide)
  have hTarget := Markdown.notMem_target hWord hHyphen name
  simp only [List.mem_cons, List.not_mem_nil, or_false,
    not_or] at hMark
  simp [linkStretch, link, hTarget, hMark]

/- A link to a name without pipes adds no border. -/
theorem enclosed_linkStretch
    {name : Text}
    (hPipe : '|' ∉ name) :
    Markdown.Enclosed (linkStretch name (Markdown.target name)) := by
  constructor
  · apply Text.guarded_of_notMem
    rwa [mem_linkStretch_iff (by decide) (by decide)]
  · rw [linkStretch, ← List.cons_append, List.getLast?_concat]
    decide

/- The row of a module links to it if its name has no marks. -/
theorem linksTo_rowTo
    {module : ModuleDoc}
    (hPipe : '|' ∉ module.name)
    (hFeed : '\n' ∉ module.name) :
    LinksTo module (rowTo module (Markdown.target module.name)) := by
  unfold rowTo
  rw [limitBreaks_of_notMem hFeed]
  have hStretches :
      ∀ stretch ∈
          [linkStretch module.name (Markdown.target module.name),
            Markdown.shown (summary module)],
        Markdown.Enclosed stretch := by
    rw [List.forall_mem_cons, List.forall_mem_singleton]
    exact ⟨enclosed_linkStretch hPipe, Markdown.enclosed_shown _⟩
  exact ⟨Markdown.framed_fence hStretches,
    ⟨_, Markdown.stretch?_fence hStretches 0,
      holds_linkStretch _ _⟩,
    Markdown.stretch?_fence hStretches 1⟩

/- It is then one line. -/
theorem newline_notMem_rowTo
    {module : ModuleDoc}
    (hFeed : '\n' ∉ module.name) :
    '\n' ∉ rowTo module (Markdown.target module.name) := by
  unfold rowTo
  rw [limitBreaks_of_notMem hFeed]
  apply Markdown.newline_notMem_fence
  rw [List.forall_mem_cons, List.forall_mem_singleton,
    mem_linkStretch_iff (by decide) (by decide)]
  exact ⟨hFeed, Markdown.newline_notMem_shown _⟩

/-
  A row starts with the name up to its first pipe or line feed,
  and this character.
-/
theorem exists_rowTo_eq
    {module : ModuleDoc}
    {before after : Text}
    {c : Char}
    (hName : module.name = before ++ c :: after)
    (hBefore : '\n' ∉ before)
    (target : Text) :
    ∃ behind,
      rowTo module target =
        ('|' :: ' ' :: '[' :: before) ++ ([c] ++ behind) := by
  have hKept :
      ∃ kept,
        limitBreaks 0 module.name = before ++ c :: kept := by
    rw [hName, limitBreaks_append_of_notMem hBefore, limitBreaks]
    split
    · exact ⟨_, rfl⟩
    · exact ⟨_, rfl⟩
  rcases hKept with ⟨kept, hKept⟩
  refine ⟨kept ++ "](#".toList ++ target ++ ") |".toList ++
    (Markdown.shown (summary module) ++ ['|']), ?_⟩
  unfold rowTo navigationLine linkStretch link Markdown.fence
  rw [hKept]
  simp

/- A name with a pipe or a line feed has a first one of them. -/
theorem exists_first_mark
    {name : Text}
    (hMarked : ¬('|' ∉ name ∧ '\n' ∉ name)) :
    ∃ before c after,
      name = before ++ c :: after ∧ (c = '|' ∨ c = '\n') ∧
        '|' ∉ before ∧ '\n' ∉ before := by
  cases hFind : name.find? fun c => c = '|' ∨ c = '\n' with
  | none =>
      have hNone := List.find?_eq_none.mp hFind
      exfalso
      apply hMarked
      constructor
      · intro hMember
        exact hNone _ hMember (by decide)
      · intro hMember
        exact hNone _ hMember (by decide)
  | some c =>
      rcases List.find?_eq_some_iff_append.mp hFind with
        ⟨hMark, before, after, hName, hBefore⟩
      refine ⟨before, c, after, hName, of_decide_eq_true hMark, ?_, ?_⟩
      · intro hMember
        exact absurd (hBefore _ hMember) (by decide)
      · intro hMember
        exact absurd (hBefore _ hMember) (by decide)

/- A line with one border links to nothing. -/
theorem not_linksTo_of_notMem
    {opening : Text}
    (hOpening : '|' ∉ opening)
    (module : ModuleDoc) :
    ¬LinksTo module ('|' :: opening) := by
  intro hLinks
  have hCount := hLinks.framed.count
  rw [Markdown.borders_cons_of_guarded
    (Text.guarded_of_notMem _ hOpening)] at hCount
  exact absurd hCount (by decide)

/-
  A line with a border at the first pipe of a name does not
  link to the module: the first cell ends before this pipe.
-/
theorem not_linksTo_of_mem
    {opening : Text}
    (hOpening : '|' ∉ opening)
    (hBackslash : '\\' ∉ opening)
    {module : ModuleDoc}
    (hPipe : '|' ∈ module.name)
    (tail : Text) :
    ¬LinksTo module (('|' :: opening) ++ '|' :: tail) := by
  intro hLinks
  have hEnclosed : Markdown.Enclosed opening :=
    ⟨Text.guarded_of_notMem _ hOpening,
      fun hLast => hBackslash (List.mem_of_getLast? hLast)⟩
  rcases hLinks.name with ⟨stretch, hStretch, hHolds⟩
  rw [Markdown.stretch?_cons_append hEnclosed] at hStretch
  cases hStretch
  have hLink :
      '|' ∈ link module.name (Markdown.target module.name) := by
    simp [link, hPipe]
  rcases hHolds with hTrim | hRead
  · rw [← hTrim] at hLink
    exact hOpening ((Text.trim_isInfix opening).subset hLink)
  · rw [← hRead] at hLink
    exact Markdown.pipe_notMem_readCell hOpening hLink

/-
  Where the first line of a row links to its module, the name
  has no pipe and no line feed. A line feed ends the line
  before its second border. A pipe is a border, since there are
  no backslashes in names.
-/
theorem notMem_name_of_linksTo
    {module : ModuleDoc}
    {target behind line : Text}
    {rest : List Text}
    (hSplit :
      Text.splitAt '\n' (rowTo module target ++ behind) =
        line :: rest)
    (hLinks : LinksTo module line) :
    '|' ∉ module.name ∧ '\n' ∉ module.name := by
  by_contra hMarked
  rcases exists_first_mark hMarked with
    ⟨before, c, after, hName, hMark, hPipe, hFeed⟩
  rcases exists_rowTo_eq hName hFeed target with ⟨tail, hRow⟩
  have hOpening : '|' ∉ ' ' :: '[' :: before := by simp [hPipe]
  have hLine : '\n' ∉ '|' :: ' ' :: '[' :: before := by simp [hFeed]
  rw [hRow, List.append_assoc, List.append_assoc] at hSplit
  rcases hMark with rfl | rfl
  · have hBackslash : '\\' ∉ ' ' :: '[' :: before := by
      have hNone := SourceName.backslash_notMem_moduleName
        module.fileExtension module.fileName
      change '\\' ∉ module.name at hNone
      rw [hName, List.mem_append, not_or] at hNone
      simp [hNone.1]
    have hBorder :
        '\n' ∉ ('|' :: ' ' :: '[' :: before) ++ ['|'] := by
      simp [hFeed]
    rw [← List.append_assoc] at hSplit
    rcases Text.prefix_of_splitAt_append hBorder hSplit with
      ⟨further, rfl⟩
    rw [List.append_assoc] at hLinks
    refine not_linksTo_of_mem hOpening hBackslash ?_ further hLinks
    simp [hName]
  · rw [Text.splitAt_append hLine, List.singleton_append,
      Text.splitAt, if_pos rfl] at hSplit
    cases hSplit
    rw [List.append_nil] at hLinks
    exact not_linksTo_of_notMem hOpening module hLinks

------------------------------------------------------------
-- The Lines of a Document
------------------------------------------------------------

/- The headings of the navigation table and the line below them. -/
def headings : List Text :=
  ["| Module | Description |".toList, "| --- | --- |".toList]

/- The navigation table as it is written, row by row. -/
def writtenLines
    (modules : List ModuleDoc) : List Text :=
  headings ++
    modules.map fun module =>
      navigationLine module.name (Markdown.target module.name)
        (summary module)

/- The rows of modules in a document. -/
def rows
    (modules : List ModuleDoc) : List Text :=
  modules.map fun module => rowTo module (Markdown.target module.name)

/- The navigation table of a document, row by row. -/
def tableLines
    (modules : List ModuleDoc) : List Text :=
  headings ++ rows modules

/- The header as it stands above the table. -/
def header
    (headerText : Text) : Text :=
  Text.trimStart (limitBreaks 0 (unlessEmpty headerText paragraphEnd))

/- The table is its rows and an empty line. -/
theorem navigation_eq
    (modules : List ModuleDoc) :
    navigation (modules.map shown) =
      (writtenLines modules).flatMap (· ++ ['\n']) ++ ['\n'] := by
  have hRows :
      (modules.map shown).flatMap navigationRow =
        (modules.map fun module =>
          navigationLine module.name (Markdown.target module.name)
            (summary module)).flatMap (· ++ ['\n']) := by
    rw [List.flatMap_map, List.flatMap_map]
    exact List.flatMap_congr fun module _ =>
      navigationRow_eq module.name (summary module)
  unfold navigation writtenLines
  rw [hRows, List.flatMap_append]
  rfl

/- The headings are lines that start and end with a border. -/
theorem headings_lines :
    ∀ line ∈ headings,
      line.head? = some '|' ∧ line.getLast? = some '|' ∧
        '\n' ∉ line := by
  decide

/- So does every row that is written. -/
theorem bounded_of_mem_writtenLines
    {modules : List ModuleDoc}
    {line : Text}
    (hLine : line ∈ writtenLines modules) :
    Bounded line := by
  rcases List.mem_append.mp hLine with hLine | hLine
  · rcases headings_lines line hLine with ⟨hHead, hLast, -⟩
    constructor
    · rintro rfl
      exact absurd hHead (by decide)
    · rw [hHead]
      decide
    · rw [hLast]
      decide
  · rcases List.mem_map.mp hLine with ⟨module, -, rfl⟩
    exact bounded_navigationLine _ _ _

/- The rows are limited one by one. -/
theorem map_limitBreaks_writtenLines
    (modules : List ModuleDoc) :
    (writtenLines modules).map (limitBreaks 0) =
      tableLines modules := by
  have hHeadings : headings.map (limitBreaks 0) = headings := by
    decide
  unfold writtenLines tableLines rows
  rw [List.map_append, hHeadings, List.map_map]
  apply congrArg (headings ++ ·)
  apply List.map_congr_left
  intro module _
  exact limitBreaks_navigationLine _ _ (newline_notMem_target _)

/- A row of the table ends with a border. -/
theorem getLast?_of_mem_tableLines
    {modules : List ModuleDoc}
    {line : Text}
    (hLine : line ∈ tableLines modules) :
    line.getLast? = some '|' := by
  rcases List.mem_append.mp hLine with hLine | hLine
  · exact (headings_lines line hLine).2.1
  · rcases List.mem_map.mp hLine with ⟨module, -, rfl⟩
    exact getLast?_navigationLine _ _ _

/- The header is empty or ends in a line feed. -/
theorem getLast?_header
    (headerText : Text) :
    ∀ c ∈ (header headerText).getLast?, c = '\n' := by
  unfold header unlessEmpty
  split
  · simp [limitBreaks, Text.trimStart]
  · have hBreaks :
        0 < breaksAfter 0 (headerText ++ paragraphEnd) := by
      rw [breaksAfter_append,
        breaksAfter_paragraphEnd (breaksAfter_le (Nat.zero_le 2) _)]
      decide
    have hLast := getLast?_limitBreaks hBreaks
    rcases Text.trimStart_isSuffix
        (limitBreaks 0 (headerText ++ paragraphEnd)) with
      ⟨blanks, hBlanks⟩
    intro c hChar
    rw [← hBlanks, List.getLast?_append, hChar] at hLast
    exact Option.some.inj hLast

/-
  Trimming behind lines that end with a border and an empty
  line leaves the lines, and an empty line or nothing.
-/
theorem exists_trimEnd_lines
    (front : Text)
    {lines : List Text}
    (hSome : lines ≠ [])
    (hLines : ∀ line ∈ lines, line.getLast? = some '|')
    (behind : Text) :
    ∃ rest : Text,
      (∀ c ∈ rest.head?, c = '\n') ∧
        Text.trimEnd
              (front ++ (lines.flatMap (· ++ ['\n']) ++
                '\n' :: behind)) ++
            ['\n'] =
          front ++ (lines.flatMap (· ++ ['\n']) ++ rest) := by
  by_cases hBehind : behind.AllBlank
  · rcases List.eq_nil_or_concat lines with hEmpty | ⟨init, last, rfl⟩
    · exact absurd hEmpty hSome
    · -- Only the line feed behind the last border is put back.
      have hLast : last.getLast? = some '|' := by
        apply hLines
        simp
      have hBlank : Text.AllBlank ('\n' :: '\n' :: behind) := by
        intro c hMember
        rcases List.mem_cons.mp hMember with rfl | hMember
        · decide
        · rcases List.mem_cons.mp hMember with rfl | hMember
          · decide
          · exact hBehind c hMember
      have hTrim :
          Text.trimEnd
              (front ++ init.flatMap (· ++ ['\n']) ++ last ++
                '\n' :: '\n' :: behind) =
            front ++ init.flatMap (· ++ ['\n']) ++ last := by
        rw [Text.trimEnd_append hBlank, Text.trimEnd_eq_self_iff,
          List.getLast?_append, hLast]
        intro c hChar
        cases hChar
        decide
      refine ⟨[], by simp, ?_⟩
      simp only [List.concat_eq_append, List.flatMap_append,
        List.flatMap_singleton, List.append_assoc,
        List.singleton_append, List.append_nil] at hTrim ⊢
      rw [hTrim]
      simp
  · refine ⟨'\n' :: (behind.trimEnd ++ ['\n']), by simp, ?_⟩
    have hTrim := Text.trimEnd_append_of_not_blank
      (front ++ (lines.flatMap (· ++ ['\n']) ++ ['\n'])) hBehind
    simp only [List.append_assoc, List.singleton_append] at hTrim ⊢
    rw [hTrim]
    simp

/-
  A document with a navigation table is the header, the rows
  of the table, and nothing else before an empty line.
-/
theorem exists_render_eq_lines
    (layout : Layout)
    {modules ordered : List ModuleDoc}
    (hTable : layout.headerTable = true)
    (hOrder : ModuleOrder.apply modules layout.moduleList = ordered) :
    ∃ rest : Text,
      (∀ c ∈ rest.head?, c = '\n') ∧
        render layout modules =
          header layout.headerText ++
            ((tableLines ordered).flatMap (· ++ ['\n']) ++ rest) := by
  have hSome : writtenLines ordered ≠ [] := List.cons_ne_nil _ _
  have hExpand :
      expand layout ordered =
        unlessEmpty layout.headerText paragraphEnd ++
          ((writtenLines ordered).flatMap (· ++ ['\n']) ++
            '\n' :: (ordered.flatMap moduleSection ++
              unlessEmpty layout.footerText ['\n'])) := by
    unfold expand
    rw [if_pos hTable, navigation_eq]
    simp
  have hHead :
      ∀ behind : Text,
        ∀ c ∈ ((tableLines ordered).flatMap (· ++ ['\n']) ++
          behind).head?, isBlank c = false := by
    intro behind c hChar
    cases hChar
    decide
  have hSeen :=
    breaksAfter_le (Nat.zero_le 2)
      (unlessEmpty layout.headerText paragraphEnd)
  unfold render tidy Text.trim
  rw [hOrder, hExpand, limitBreaks_append (Nat.zero_le 2),
    limitBreaks_rows_append hSome
      (fun line hLine => bounded_of_mem_writtenLines hLine) hSeen,
    map_limitBreaks_writtenLines,
    Text.trimStart_append_of_head _ (hHead _)]
  exact exists_trimEnd_lines _ (List.cons_ne_nil _ _)
    (fun line hLine => getLast?_of_mem_tableLines hLine) _

------------------------------------------------------------
-- Reading the Table
------------------------------------------------------------

/- The lines of the header above the table. -/
def headerLines
    (headerText : Text) : List Text :=
  (Text.splitAt '\n' (header headerText)).dropLast

/-
  A document with, right below the lines of its header, the
  headings of a navigation table, one line for each of some
  modules, in order, and then an empty line.
-/
def Tabulates
    (headerText : Text)
    (modules : List ModuleDoc)
    (document : Text) : Prop :=
  ∃ lines below : List Text,
    Text.splitAt '\n' document =
        headerLines headerText ++ (headings ++ (lines ++ below)) ∧
      below.head? = some [] ∧
      List.Forall₂ LinksTo modules lines

/- Lines below a header are split off from it. -/
theorem splitAt_header_append
    (headerText behind : Text) :
    Text.splitAt '\n' (header headerText ++ behind) =
      headerLines headerText ++ Text.splitAt '\n' behind := by
  unfold headerLines
  rcases List.eq_nil_or_concat (header headerText) with
    hEmpty | ⟨front, c, hHeader⟩
  · rw [hEmpty]
    rfl
  · have hLast : c = '\n' := by
      apply getLast?_header headerText
      rw [hHeader, List.concat_eq_append, List.getLast?_concat]
      rfl
    rw [hHeader, List.concat_eq_append, hLast, List.append_assoc,
      List.singleton_append]
    simp only [Text.splitAt_eq_splitOn, List.splitOn_append_cons_self]
    simp

/- The headings are the first lines of the table. -/
theorem splitAt_tableLines_append
    (modules : List ModuleDoc)
    (behind : Text) :
    Text.splitAt '\n'
        ((tableLines modules).flatMap (· ++ ['\n']) ++ behind) =
      headings ++
        Text.splitAt '\n'
          ((rows modules).flatMap (· ++ ['\n']) ++ behind) := by
  unfold tableLines
  rw [List.flatMap_append, List.append_assoc,
    Text.splitAt_flatMap_append fun line hLine =>
      (headings_lines line hLine).2.2]

/- Where lines link to the modules of the rows, the names have no marks. -/
theorem notMem_name_of_forall₂
    {modules : List ModuleDoc}
    {lines below : List Text}
    (hLines : List.Forall₂ LinksTo modules lines)
    {behind : Text}
    (hSplit :
      Text.splitAt '\n'
          ((rows modules).flatMap (· ++ ['\n']) ++ behind) =
        lines ++ below) :
    ∀ module ∈ modules,
      '|' ∉ module.name ∧ '\n' ∉ module.name := by
  induction hLines with
  | nil => exact List.forall_mem_nil _
  | cons hLinks hRest ih =>
      rw [rows, List.map_cons, List.flatMap_cons,
        List.append_assoc, List.append_assoc] at hSplit
      have hName := notMem_name_of_linksTo hSplit hLinks
      have hRow := newline_notMem_rowTo hName.2
      rw [List.singleton_append, Text.splitAt_append hRow, Text.splitAt,
        if_pos rfl] at hSplit
      rw [List.forall_mem_cons]
      exact ⟨hName, ih (List.cons.inj hSplit).2⟩

/-
  With its navigation table, a document has right below its
  header and the headings of the table one line for each module
  in their order, with three borders, the link to the module's
  section and its summary, exactly if no module has a pipe or a
  line feed in its name.
-/
theorem render_tabulates_iff
    (layout : Layout)
    (modules : List ModuleDoc)
    (hTable : layout.headerTable = true) :
    Tabulates layout.headerText
        (ModuleOrder.apply modules layout.moduleList)
        (render layout modules) ↔
      ∀ module ∈ modules,
        '|' ∉ module.name ∧ '\n' ∉ module.name := by
  have hPerm := ModuleOrder.apply_perm modules layout.moduleList
  rcases exists_render_eq_lines layout hTable rfl with
    ⟨rest, hRest, hRender⟩
  unfold Tabulates
  rw [hRender, splitAt_header_append, splitAt_tableLines_append]
  constructor
  · rintro ⟨lines, below, hSplit, -, hLines⟩ module hModule
    exact notMem_name_of_forall₂ hLines
      (List.append_cancel_left (List.append_cancel_left hSplit))
      module (hPerm.mem_iff.mpr hModule)
  · intro hNames
    have hOrdered :
        ∀ module ∈ ModuleOrder.apply modules layout.moduleList,
          '|' ∉ module.name ∧ '\n' ∉ module.name := by
      intro module hModule
      exact hNames module (hPerm.mem_iff.mp hModule)
    refine ⟨rows (ModuleOrder.apply modules layout.moduleList),
      Text.splitAt '\n' rest, ?_, Text.head?_splitAt hRest, ?_⟩
    · rw [Text.splitAt_flatMap_append]
      intro line hLine
      rcases List.mem_map.mp hLine with ⟨module, hModule, rfl⟩
      exact newline_notMem_rowTo (hOrdered module hModule).2
    · rw [rows, List.forall₂_map_right_iff, List.forall₂_same]
      intro module hModule
      exact linksTo_rowTo (hOrdered module hModule).1
        (hOrdered module hModule).2

/-
  Of two modules the second is asked for first. The first has
  a pipe and a backslash in its summary, and a space in its
  name.
-/
theorem render_tabulates_iff_swapped :
    let first : ModuleDoc :=
      { fileName := "a/b c.dwl".toList
        comment := some { text := "\n x|y\\ \nz".toList } }
    let second : ModuleDoc := { fileName := "d.dwl".toList }
    let layout : Layout :=
      { moduleList := ["d".toList]
        headerText := " H\n\n\n".toList
        footerText := " \n".toList
        headerTable := true }
    layout.headerTable = true ∧
      (∀ module ∈ [first, second],
        '|' ∉ module.name ∧ '\n' ∉ module.name) ∧
      headerLines layout.headerText = ["H".toList, []] ∧
      Tabulates layout.headerText [second, first]
        (render layout [first, second]) := by
  intro first second layout
  have hOrder :
      ModuleOrder.apply [first, second] layout.moduleList =
        [second, first] := by
    decide
  have hNames :
      ∀ module ∈ [first, second],
        '|' ∉ module.name ∧ '\n' ∉ module.name := by
    decide
  have hTabulates :=
    (render_tabulates_iff layout [first, second] rfl).mpr hNames
  rw [hOrder] at hTabulates
  exact ⟨rfl, hNames, by decide, hTabulates⟩

/-
  A pipe in a name is a border of the line, which has four of
  them and shows other cells. A document with the pipe escaped
  is one with the table.
-/
theorem not_tabulates_pipe :
    let module : ModuleDoc := { fileName := "a|b.dwl".toList }
    let layout : Layout := { headerTable := true }
    let document (line : Text) : Text :=
      Text.join ['\n']
        (headings ++ [line, [], "## a|b".toList, []])
    let line : Text := "| [a|b](#ab) |  |".toList
    let escaped : Text := "| [a\\|b](#ab) |  |".toList
    render layout [module] = document line ∧
      (Markdown.borders line).length = 4 ∧
      ¬Tabulates [] [module] (render layout [module]) ∧
      Tabulates [] [module] (document escaped) := by
  intro module layout document line escaped
  have hRender : render layout [module] = document line := by decide
  refine ⟨hRender, by decide, ?_, ?_⟩
  · rintro ⟨lines, below, hSplit, -, hLines⟩
    have hDocument :
        Text.splitAt '\n' (document line) =
          headings ++ line :: [[], "## a|b".toList, []] := by
      decide
    rw [hRender, hDocument] at hSplit
    cases hLines with
    | cons hLinks hRest =>
        have hLine := (List.cons.inj (List.append_cancel_left hSplit)).1
        rw [← hLine] at hLinks
        exact absurd hLinks.framed.count (by decide)
  · refine ⟨[escaped], [[], "## a|b".toList, []], by decide, rfl,
      .cons ?_ .nil⟩
    exact ⟨⟨by decide, by decide, by decide⟩,
      ⟨_, rfl, .inr (by decide)⟩, by decide⟩

end Document

end Marginalia
