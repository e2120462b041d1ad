import Marginalia.Proofs.Document.Breaks
import Marginalia.Proofs.Document.Order

/-
  This file shows that a document is local to its modules: it
  is an opening, the sections as they stand when each module
  is rendered alone, blanks between them, and a closing.

  Key definitions include:
    * `Document.alone`
    * `Document.opening`
    * `Document.closing`
    * `Document.spaced`

  Main results:
    * `Document.alone_eq`
    * `Document.render_eq_trimEnd`
    * `Document.render_sections`
-/

namespace Marginalia

namespace Document

------------------------------------------------------------
-- Sections Rendered Alone
------------------------------------------------------------

/-
  The document of one module, with nothing besides, without
  the line feed at its end.
-/
def alone
    (module : ModuleDoc) : Text :=
  (render {} [module]).dropLast

/- A text that opens with the mark of a heading has no blank there. -/
theorem isBlank_of_head?_eq_mark
    {text : Text}
    (hHead : text.head? = some '#') :
    ∀ c ∈ text.head?, isBlank c = false := by
  rw [hHead]
  intro c hChar
  cases hChar
  decide

/- A limited section is not blank. -/
theorem not_allBlank_limited
    (module : ModuleDoc) :
    ¬Text.AllBlank (limited module) :=
  Text.not_allBlank_of_mem (List.mem_of_head? (head?_limited module))
    (by decide)

/- The document of one module is its section, trimmed. -/
theorem render_singleton
    (module : ModuleDoc) :
    render {} [module] =
      Text.trimEnd (limited module) ++ ['\n'] := by
  have hOrder : ModuleOrder.apply [module] [] = [module] := rfl
  have hExpand : expand {} [module] = moduleSection module := by
    simp [expand, unlessEmpty]
  have hStart : Text.trimStart (limited module) = limited module :=
    Text.trimStart_eq_self_iff.mpr
      (isBlank_of_head?_eq_mark (head?_limited module))
  unfold limited at hStart ⊢
  unfold render tidy Text.trim
  rw [hOrder, hExpand, hStart]

/- Alone, a section is what trimming its end leaves. -/
theorem alone_eq
    (module : ModuleDoc) :
    alone module = Text.trimEnd (limited module) := by
  unfold alone
  rw [render_singleton, List.dropLast_concat]

/- A limited section is the section alone, and blanks. -/
theorem exists_limited_eq
    (module : ModuleDoc) :
    ∃ blanks : Text,
      blanks.AllBlank ∧ limited module = alone module ++ blanks := by
  rw [alone_eq]
  exact Text.exists_trimEnd_append _

------------------------------------------------------------
-- Openings and Closings
------------------------------------------------------------

/- The header and the navigation table, where they are asked for. -/
def preamble
    (headerText : Text)
    (headerTable : Bool)
    (entries : List (Text × Text)) : Text :=
  unlessEmpty headerText paragraphEnd ++
    if headerTable then navigation entries else []

/-
  What stands before the sections: the header and the table
  that shows a name and a summary for each module.
-/
def opening
    (headerText : Text)
    (headerTable : Bool)
    (entries : List (Text × Text)) : Text :=
  Text.trimStart
    (limitBreaks 0 (preamble headerText headerTable entries))

/- The footer as it stands behind the sections. -/
def footer
    (footerText : Text) : Text :=
  limitBreaks 2 (unlessEmpty footerText ['\n'])

/- What stands behind the sections, with the last line feed. -/
def closing
    (footerText : Text) : Text :=
  Text.trimEnd (footer footerText) ++ ['\n']

------------------------------------------------------------
-- Sections One After the Other
------------------------------------------------------------

/- Each module's section alone, with some blanks behind it. -/
def spaced
    (modules : List ModuleDoc)
    (blanks : List Text) : Text :=
  (List.zipWith (fun module blank => alone module ++ blank)
    modules blanks).flatten

/- The limited sections are the spaced ones, for some blanks. -/
theorem exists_spaced
    (modules : List ModuleDoc) :
    ∃ blanks : List Text,
      blanks.length = modules.length ∧
        (∀ blank ∈ blanks, blank.AllBlank) ∧
        modules.flatMap limited = spaced modules blanks := by
  induction modules with
  | nil => exact ⟨[], rfl, by simp, rfl⟩
  | cons module rest ih =>
      rcases ih with ⟨blanks, hLength, hBlanks, hEq⟩
      rcases exists_limited_eq module with ⟨blank, hBlank, hSection⟩
      refine ⟨blank :: blanks, ?_, ?_, ?_⟩
      · rw [List.length_cons, List.length_cons, hLength]
      · exact List.forall_mem_cons.mpr ⟨hBlank, hBlanks⟩
      · rw [List.flatMap_cons, hEq, hSection]
        rfl

/- The last section is spaced behind the others. -/
theorem spaced_concat
    {modules : List ModuleDoc}
    {blanks : List Text}
    (hLength : blanks.length = modules.length)
    (last : ModuleDoc)
    (blank : Text) :
    spaced (modules ++ [last]) (blanks ++ [blank]) =
      spaced modules blanks ++ (alone last ++ blank) := by
  unfold spaced
  rw [List.zipWith_append hLength.symm, List.flatten_append]
  simp

/-
  Trimming behind the sections takes the blanks of the last
  one and leaves all that is before them.
-/
theorem exists_trimEnd_sections
    (front : Text)
    {modules : List ModuleDoc}
    (hSome : modules ≠ []) :
    ∃ blanks : List Text,
      blanks.length = modules.length ∧
        (∀ blank ∈ blanks, blank.AllBlank) ∧
        Text.trimEnd (front ++ modules.flatMap limited) =
          front ++ spaced modules blanks := by
  rcases List.eq_nil_or_concat modules with hEmpty | ⟨init, last, rfl⟩
  · exact absurd hEmpty hSome
  · rcases exists_spaced init with ⟨blanks, hLength, hBlanks, hEq⟩
    refine ⟨blanks ++ [[]], ?_, ?_, ?_⟩
    · simp [hLength]
    · intro blank hMember
      rcases List.mem_append.mp hMember with hMember | hMember
      · exact hBlanks blank hMember
      · rw [List.mem_singleton.mp hMember]
        exact List.forall_mem_nil _
    · rw [List.concat_eq_append, spaced_concat hLength,
        List.flatMap_append, List.flatMap_singleton, hEq,
        ← List.append_assoc,
        Text.trimEnd_append_of_not_blank _ (not_allBlank_limited last),
        ← alone_eq, List.append_nil, List.append_assoc]

------------------------------------------------------------
-- Documents as Sections
------------------------------------------------------------

/-
  Limiting a document leaves its sections as they are limited
  one by one, between what stands before and behind them.
-/
theorem limitBreaks_expand
    (layout : Layout)
    {modules : List ModuleDoc}
    (hSome : modules ≠ []) :
    limitBreaks 0 (expand layout modules) =
      limitBreaks 0
          (preamble layout.headerText layout.headerTable
            (modules.map shown)) ++
        (modules.flatMap limited ++ footer layout.footerText) := by
  cases modules with
  | nil => exact absurd rfl hSome
  | cons first rest =>
      have hExpand :
          expand layout (first :: rest) =
            preamble layout.headerText layout.headerTable
                ((first :: rest).map shown) ++
              (moduleSection first ++
                (rest.flatMap moduleSection ++
                  unlessEmpty layout.footerText ['\n'])) := by
        simp [expand, preamble]
      rw [hExpand, limitBreaks_append (Nat.zero_le 2),
        limitBreaks_moduleSection_append
          (breaksAfter_le (Nat.zero_le 2) _),
        limitBreaks_flatMap_append, List.flatMap_cons,
        List.append_assoc, footer]

/-
  A document is its opening, its sections and its footer, with
  the end of all that trimmed.
-/
theorem render_eq_trimEnd
    (layout : Layout)
    {modules ordered : List ModuleDoc}
    (hOrder : ModuleOrder.apply modules layout.moduleList = ordered)
    (hSome : ordered ≠ []) :
    render layout modules =
      Text.trimEnd
          (opening layout.headerText layout.headerTable
              (ordered.map shown) ++
            (ordered.flatMap limited ++
              footer layout.footerText)) ++
        ['\n'] := by
  have hHead :
      (ordered.flatMap limited ++
        footer layout.footerText).head? = some '#' := by
    cases ordered with
    | nil => exact absurd rfl hSome
    | cons first rest =>
        rw [List.flatMap_cons, List.append_assoc, List.head?_append,
          head?_limited]
        rfl
  unfold render tidy Text.trim opening
  rw [hOrder, limitBreaks_expand layout hSome,
    Text.trimStart_append_of_head _ (isBlank_of_head?_eq_mark hHead)]

------------------------------------------------------------
-- Locality
------------------------------------------------------------

/-
  A document is local to its modules. They are put in order,
  none lost or repeated, and the document is an opening, which
  is made of the header and of names and summaries, each
  module's section as it is rendered alone, followed by
  blanks, and a closing, which is made of the footer.
-/
theorem render_sections
    (layout : Layout)
    {modules : List ModuleDoc}
    (hSome : modules ≠ []) :
    let ordered := ModuleOrder.apply modules layout.moduleList
    ordered.Perm modules ∧
      (∀ module ∈ ordered,
        render {} [module] = alone module ++ ['\n']) ∧
      ∃ blanks : List Text,
        blanks.length = ordered.length ∧
          (∀ blank ∈ blanks, blank.AllBlank) ∧
          render layout modules =
            opening layout.headerText layout.headerTable
                (ordered.map shown) ++
              spaced ordered blanks ++
              closing layout.footerText := by
  intro ordered
  have hPerm : ordered.Perm modules :=
    ModuleOrder.apply_perm modules layout.moduleList
  have hOrdered : ordered ≠ [] := by
    intro hEmpty
    rw [hEmpty] at hPerm
    exact hSome hPerm.symm.eq_nil
  refine ⟨hPerm, ?_, ?_⟩
  · intro module _
    rw [render_singleton, alone_eq]
  · rw [render_eq_trimEnd layout rfl hOrdered, ← List.append_assoc]
    by_cases hFooter : (footer layout.footerText).AllBlank
    · -- A blank footer is trimmed with what follows the last section.
      rcases exists_trimEnd_sections
          (opening layout.headerText layout.headerTable
            (ordered.map shown)) hOrdered with
        ⟨blanks, hLength, hBlanks, hEq⟩
      refine ⟨blanks, hLength, hBlanks, ?_⟩
      have hClosing :
          Text.trimEnd ([] ++ footer layout.footerText) = [] :=
        Text.trimEnd_append hFooter
      rw [List.nil_append] at hClosing
      rw [Text.trimEnd_append hFooter, hEq, closing, hClosing,
        List.nil_append]
    · rcases exists_spaced ordered with ⟨blanks, hLength, hBlanks, hEq⟩
      refine ⟨blanks, hLength, hBlanks, ?_⟩
      rw [Text.trimEnd_append_of_not_blank _ hFooter, hEq, closing,
        List.append_assoc]

/-
  Of two modules the second is asked for first. Neither the
  line feeds at the end of a description nor those before the
  footer reach into another part.
-/
theorem render_sections_swapped :
    let first : ModuleDoc :=
      { fileName := "a.dwl".toList
        comment := some { text := "A.\n\n\n".toList } }
    let second : ModuleDoc := { fileName := "b.dwl".toList }
    let layout : Layout :=
      { moduleList := ["b".toList]
        headerText := " H".toList
        footerText := "\n\nF ".toList
        headerTable := true }
    [first, second] ≠ [] ∧
      alone first = "## a\n\nA.".toList ∧
      alone second = "## b".toList ∧
      ∃ blanks : List Text,
        blanks.length = 2 ∧
          (∀ blank ∈ blanks, blank.AllBlank) ∧
          render layout [first, second] =
            opening " H".toList true
                [("b".toList, []), ("a".toList, "A.".toList)] ++
              spaced [second, first] blanks ++
              "F\n".toList := by
  intro first second layout
  have hSome : [first, second] ≠ [] := List.cons_ne_nil _ _
  have hOrder :
      ModuleOrder.apply [first, second] layout.moduleList =
        [second, first] := by
    decide
  have hShown :
      [second, first].map shown =
        [("b".toList, []), ("a".toList, "A.".toList)] := by
    decide
  have hClosing : closing layout.footerText = "F\n".toList := by
    decide
  rcases render_sections layout hSome with
    ⟨_, _, blanks, hLength, hBlanks, hRender⟩
  rw [hOrder] at hLength
  rw [hOrder, hShown, hClosing] at hRender
  exact ⟨hSome, by decide, by decide, blanks, hLength, hBlanks,
    hRender⟩

end Document

end Marginalia
