import Marginalia.Proofs.Document.Navigation
import Marginalia.Proofs.Document.NormalForm

/-
  This file shows which header and footer texts stand in a
  document as they were given. A document is brought into its
  final form as a whole, the two texts with it, so that they
  are kept exactly when nothing in them is taken for space
  around the other parts: no three line feeds in a row, no
  blank at the start of the header and none at the end of the
  footer.

  Key definitions include:
    * `Document.FitsStart`
    * `Document.FitsEnd`
    * `Document.contents`

  Main results:
    * `Document.exists_limitBreaks_append`
    * `Document.prefix_tidy_append`
    * `Document.suffix_tidy_append`
    * `Document.header_kept_iff`
    * `Document.footer_kept_iff`
    * `Document.render_verbatim_iff`
-/

namespace Marginalia

namespace Document

------------------------------------------------------------
-- Texts That Fit a Document
------------------------------------------------------------

/- A text with which a document may start. -/
structure FitsStart
    (text : Text) : Prop where
  spaced : ¬breaks 3 <:+: text
  inked : ∃ first ∈ text.head?, isBlank first = false

/- A text with which a document may end before its line feed. -/
structure FitsEnd
    (text : Text) : Prop where
  spaced : ¬breaks 3 <:+: text
  inked : ∃ last ∈ text.getLast?, isBlank last = false

/- A text that fits the start of a document is not blank. -/
theorem FitsStart.not_allBlank
    {text : Text}
    (hFits : FitsStart text) :
    ¬text.AllBlank := by
  rcases hFits.inked with ⟨first, hHead, hInk⟩
  exact Text.not_allBlank_of_mem (List.mem_of_head? hHead) hInk

/- Nor is one that fits its end. -/
theorem FitsEnd.not_allBlank
    {text : Text}
    (hFits : FitsEnd text) :
    ¬text.AllBlank := by
  rcases hFits.inked with ⟨last, hLast, hInk⟩
  exact Text.not_allBlank_of_mem (List.mem_of_getLast? hLast) hInk

section Normal

variable
  {document text : Text}

/- What a normal document starts with fits there. -/
theorem Normal.fitsStart
    (hNormal : Normal document)
    (hSome : document ≠ ['\n'])
    (hText : text ≠ [])
    (hStarts : text <+: document) :
    FitsStart text := by
  rcases hNormal with ⟨hSpaced, content, rfl, -, hInked⟩
  refine ⟨fun hInside => hSpaced (hInside.trans hStarts.isInfix), ?_⟩
  rcases hInked with hEmpty | ⟨⟨first, hHead, hInk⟩, -⟩
  · rw [hEmpty] at hSome
    exact absurd rfl hSome
  · rcases List.exists_cons_of_ne_nil hText with ⟨c, tail, rfl⟩
    rcases List.head?_eq_some_iff.mp hHead with ⟨more, rfl⟩
    have hSame := (List.cons_prefix_cons.mp hStarts).1
    exact ⟨c, rfl, hSame ▸ hInk⟩

/- What it ends with before its last line feed fits there. -/
theorem Normal.fitsEnd
    (hNormal : Normal document)
    (hText : text ≠ [])
    (hEnds : text ++ ['\n'] <:+ document) :
    FitsEnd text := by
  rcases hNormal with ⟨hSpaced, content, rfl, -, hInked⟩
  rcases hEnds with ⟨front, hFront⟩
  rw [← List.append_assoc] at hFront
  have hContent : front ++ text = content :=
    List.append_cancel_right hFront
  subst hContent
  constructor
  · intro hInside
    exact hSpaced (hInside.trans ⟨front, ['\n'], rfl⟩)
  · rcases hInked with hEmpty | ⟨-, last, hLast, hInk⟩
    · exact absurd (List.append_eq_nil_iff.mp hEmpty).2 hText
    · rw [List.getLast?_append_of_ne_nil front hText] at hLast
      exact ⟨last, hLast, hInk⟩

end Normal

------------------------------------------------------------
-- Limited Texts
------------------------------------------------------------

/- Limiting line feeds, which are blanks, takes no ink away. -/
theorem allBlank_limitBreaks_iff
    (seen : Nat)
    (text : Text) :
    Text.AllBlank (limitBreaks seen text) ↔ text.AllBlank := by
  have hFilter (part : Text) :
      Text.AllBlank (part.filter (· != '\n')) ↔ part.AllBlank := by
    constructor
    · intro hBlank c hMember
      by_cases hBreak : c = '\n'
      · rw [hBreak]
        decide
      · exact hBlank c
          (List.mem_filter.mpr ⟨hMember, bne_iff_ne.mpr hBreak⟩)
    · intro hBlank c hMember
      exact hBlank c (List.mem_of_mem_filter hMember)
  rw [← hFilter, filter_limitBreaks, hFilter]

/- The line feeds that are counted stand at the end of the text. -/
theorem breaks_suffix_limitBreaks
    {seen : Nat}
    (hSeen : seen ≤ 2)
    (text : Text) :
    breaks (breaksAfter seen text) <:+
      breaks seen ++ limitBreaks seen text := by
  induction text generalizing seen with
  | nil => exact ⟨[], by simp [limitBreaks, breaksAfter]⟩
  | cons c rest ih =>
      unfold breaksAfter limitBreaks
      by_cases hBreak : c = '\n'
      · rw [if_pos hBreak, if_pos hBreak, hBreak]
        by_cases hFew : seen < 2
        · have hNext : min (seen + 1) 2 = seen + 1 := by omega
          have hMore :
              breaks seen ++ '\n' :: limitBreaks (seen + 1) rest =
                breaks (seen + 1) ++ limitBreaks (seen + 1) rest := by
            unfold breaks
            rw [List.replicate_succ', List.append_assoc,
              List.singleton_append]
          rw [if_pos hFew, hNext, hMore]
          exact ih hFew
        · have hNext : min (seen + 1) 2 = seen := by omega
          rw [if_neg hFew, hNext]
          exact ih hSeen
      · rw [if_neg hBreak, if_neg hBreak]
        have hRest := (ih (Nat.zero_le 2)).trans
          (List.suffix_cons c (limitBreaks 0 rest))
        exact hRest.trans (List.suffix_append (breaks seen) _)

/-
  A text without three line feeds in a row is what is left of
  it behind an empty line, with a few line feeds before that.
-/
theorem exists_breaks_append
    {seen : Nat}
    (hSeen : seen ≤ 2)
    {text : Text}
    (hSpaced : Spaced seen text) :
    ∃ count, seen + count ≤ 2 ∧
      text = breaks count ++ limitBreaks 2 text := by
  induction text generalizing seen with
  | nil => exact ⟨0, hSeen, rfl⟩
  | cons c rest ih =>
      by_cases hBreak : c = '\n'
      · rw [hBreak, spaced_cons_iff_of_eq hSeen] at hSpaced
        rcases ih hSpaced.1 hSpaced.2 with ⟨count, hCount, hRest⟩
        refine ⟨count + 1, by omega, ?_⟩
        calc c :: rest
            = '\n' :: (breaks count ++ limitBreaks 2 rest) := by
              rw [hBreak, ← hRest]
          _ = breaks (count + 1) ++ limitBreaks 2 (c :: rest) := by
              rw [hBreak]
              rfl
      · have hHead : (c :: rest).head? ≠ some '\n' := by
          simpa using hBreak
        have hZero := (spaced_cons_iff_of_ne hBreak hSeen).mp hSpaced
        have hText : Spaced 0 (c :: rest) :=
          (spaced_cons_iff_of_ne hBreak (Nat.zero_le 2)).mpr hZero
        refine ⟨0, hSeen, ?_⟩
        rw [limitBreaks_eq_of_head hHead,
          limitBreaks_of_spaced (Nat.zero_le 2) hText]
        rfl

/-
  A text without three line feeds in a row is kept behind an
  empty line. Line feeds at its start are not written again,
  but the empty line has as many of them.
-/
theorem exists_limitBreaks_append
    {front back : Text}
    (hFront : breaksAfter 0 front = 2)
    (hBack : ¬breaks 3 <:+: back) :
    ∃ kept count,
      limitBreaks 0 front = kept ++ breaks count ∧
        limitBreaks 0 (front ++ back) = kept ++ back := by
  have hEnd := breaks_suffix_limitBreaks (Nat.zero_le 2) front
  rw [hFront] at hEnd
  rcases hEnd with ⟨before, hBefore⟩
  rcases exists_breaks_append (Nat.zero_le 2)
      (spaced_zero_iff.mpr hBack) with ⟨count, hCount, hParts⟩
  have hTwo : breaks 2 = breaks (2 - count) ++ breaks count := by
    unfold breaks
    rw [← List.replicate_add]
    congr 1
    omega
  have hLimited :
      limitBreaks 0 front =
        before ++ breaks (2 - count) ++ breaks count := by
    rw [List.append_assoc, ← hTwo, hBefore]
    rfl
  refine ⟨before ++ breaks (2 - count), count, hLimited, ?_⟩
  rw [limitBreaks_append (Nat.zero_le 2), hFront, hLimited,
    List.append_assoc, ← hParts]

------------------------------------------------------------
-- The Two Ends of a Final Form
------------------------------------------------------------

/- Blanks behind a text do not count for its final form. -/
theorem tidy_append_blank
    (text : Text)
    {blanks : Text}
    (hBlank : blanks.AllBlank) :
    tidy (text ++ blanks) = tidy text := by
  unfold tidy
  rw [limitBreaks_append (Nat.zero_le 2),
    Text.trim_append_blank _
      ((allBlank_limitBreaks_iff _ blanks).mpr hBlank)]

/- The final form is a line feed alone for blank texts only. -/
theorem tidy_ne_newline
    {text : Text}
    (hInk : ¬text.AllBlank) :
    tidy text ≠ ['\n'] := by
  intro hTidy
  have hTrim : Text.trim (limitBreaks 0 text) = [] :=
    List.append_left_eq_self.mp hTidy
  exact hInk
    ((allBlank_limitBreaks_iff 0 text).mp (Text.allBlank_of_trim hTrim))

/- A text that fits the start is kept before one with some ink. -/
theorem prefix_tidy_append
    {front rest : Text}
    (hFits : FitsStart front)
    (hRest : ¬rest.AllBlank) :
    front <+: tidy (front ++ rest) := by
  have hFront : limitBreaks 0 front = front :=
    limitBreaks_of_spaced (Nat.zero_le 2)
      (spaced_zero_iff.mpr hFits.spaced)
  have hBehind :
      ¬Text.AllBlank (limitBreaks (breaksAfter 0 front) rest) := by
    rwa [allBlank_limitBreaks_iff]
  have hStart (behind : Text) :
      Text.trimStart (front ++ behind) = front ++ behind := by
    rcases hFits.inked with ⟨first, hHead, hInk⟩
    rcases List.head?_eq_some_iff.mp hHead with ⟨tail, rfl⟩
    exact Text.trimStart_cons hInk
  unfold tidy Text.trim
  rw [limitBreaks_append (Nat.zero_le 2), hFront, hStart,
    Text.trimEnd_append_of_not_blank _ hBehind, List.append_assoc]
  exact List.prefix_append _ _

/- A text that fits the end is kept behind one with ink that closes. -/
theorem suffix_tidy_append
    {front back : Text}
    (hCloses : Closes front)
    (hFront : ¬front.AllBlank)
    (hFits : FitsEnd back) :
    back ++ ['\n'] <:+ tidy (front ++ back) := by
  have hSome : front ≠ [] := by
    rintro rfl
    exact hFront (List.forall_mem_nil _)
  have hBreaks : breaksAfter 0 front = 2 :=
    hCloses.breaksAfter_eq hSome (Nat.zero_le 2)
  rcases exists_limitBreaks_append hBreaks hFits.spaced with
    ⟨kept, count, hKept, hWhole⟩
  have hInk : ¬Text.AllBlank kept := by
    intro hBlank
    have hBreaksBlank : Text.AllBlank (breaks count) := by
      intro c hMember
      rw [List.eq_of_mem_replicate hMember]
      decide
    apply hFront
    rw [← allBlank_limitBreaks_iff 0 front, hKept]
    exact Text.AllBlank.append hBlank hBreaksBlank
  have hEnd (before : Text) :
      Text.trimEnd (before ++ back) = before ++ back := by
    rcases hFits.inked with ⟨last, hLast, hLastInk⟩
    rw [Text.trimEnd_eq_self_iff]
    intro c hChar
    rw [List.getLast?_append, hLast] at hChar
    cases hChar
    exact hLastInk
  unfold tidy Text.trim
  rw [hWhole, Text.trimStart_append_of_not_blank hInk, hEnd,
    List.append_assoc]
  exact List.suffix_append _ _

------------------------------------------------------------
-- Between Header and Footer
------------------------------------------------------------

/- What stands between the header and the footer of a document. -/
def contents
    (layout : Layout)
    (modules : List ModuleDoc) : Text :=
  (if layout.headerTable then navigation (modules.map shown)
    else []) ++
    modules.flatMap moduleSection

/- The navigation table closes. -/
theorem closes_navigation
    (modules : List ModuleDoc) :
    Closes (navigation (modules.map shown)) := by
  rcases List.eq_nil_or_concat (writtenLines modules) with
    hNone | ⟨front, line, hLines⟩
  · exact absurd hNone (List.cons_ne_nil _ _)
  · rw [navigation_eq, hLines, List.concat_eq_append,
      List.flatMap_append, List.flatMap_singleton]
    right
    exact ⟨front.flatMap (· ++ ['\n']) ++ line, by simp [paragraphEnd]⟩

/- The table and the sections close. -/
theorem closes_contents
    (layout : Layout)
    (modules : List ModuleDoc) :
    Closes (contents layout modules) := by
  apply Closes.append
  · split
    · exact closes_navigation modules
    · exact .inl rfl
  · exact closes_flatMap closes_moduleSection modules

/- A table or a section has some ink. -/
theorem not_allBlank_contents
    {layout : Layout}
    {modules : List ModuleDoc}
    (hSome : layout.headerTable = true ∨ modules ≠ []) :
    ¬Text.AllBlank (contents layout modules) := by
  rcases hSome with hTable | hModules
  · have hPipe : '|' ∈ contents layout modules := by
      unfold contents
      rw [if_pos hTable]
      exact List.mem_append_left _ List.mem_cons_self
    exact Text.not_allBlank_of_mem hPipe (by decide)
  · rcases List.exists_mem_of_ne_nil modules hModules with
      ⟨module, hModule⟩
    have hMark : '#' ∈ moduleSection module :=
      List.mem_of_head? (head?_moduleSection module)
    have hContents : '#' ∈ contents layout modules :=
      List.mem_append_right _
        (List.mem_flatMap.mpr ⟨module, hModule, hMark⟩)
    exact Text.not_allBlank_of_mem hContents (by decide)

------------------------------------------------------------
-- Header and Footer
------------------------------------------------------------

/- A text that is not empty is written with its ending. -/
theorem unlessEmpty_of_ne_nil
    {text : Text}
    (hText : text ≠ [])
    (ending : Text) :
    unlessEmpty text ending = text ++ ending := by
  unfold unlessEmpty
  rw [if_neg]
  rwa [List.isEmpty_iff]

/- A text is blank if it is so where it is written. -/
theorem allBlank_of_unlessEmpty
    {text ending : Text}
    (hBlank : Text.AllBlank (unlessEmpty text ending)) :
    text.AllBlank := by
  intro c hMember
  rw [unlessEmpty_of_ne_nil (List.ne_nil_of_mem hMember)] at hBlank
  exact hBlank c (List.mem_append_left _ hMember)

section Texts

variable
  {layout : Layout}
  {modules : List ModuleDoc}

/-
  A header above something that is not blank is kept exactly
  when it fits the start of a document.
-/
theorem header_kept_iff
    (hHeader : layout.headerText ≠ [])
    (hInk :
      ¬Text.AllBlank
        (contents layout modules ++ layout.footerText)) :
    layout.headerText <+: tidy (expand layout modules) ↔
      FitsStart layout.headerText := by
  let rest :=
    paragraphEnd ++
      (contents layout modules ++ unlessEmpty layout.footerText ['\n'])
  have hExpand : expand layout modules = layout.headerText ++ rest := by
    unfold expand
    rw [unlessEmpty_of_ne_nil hHeader]
    simp [contents, rest]
  have hRest : ¬Text.AllBlank rest := by
    intro hBlank
    apply hInk
    have hBehind := (List.forall_mem_append.mp hBlank).2
    rw [List.forall_mem_append] at hBehind
    exact Text.AllBlank.append hBehind.1
      (allBlank_of_unlessEmpty hBehind.2)
  have hWhole : ¬Text.AllBlank (layout.headerText ++ rest) := by
    intro hBlank
    exact hRest (List.forall_mem_append.mp hBlank).2
  rw [hExpand]
  constructor
  · exact (normal_tidy _).fitsStart (tidy_ne_newline hWhole) hHeader
  · intro hFits
    exact prefix_tidy_append hFits hRest

/-
  A footer below something that is not blank is kept exactly
  when it fits the end of a document.
-/
theorem footer_kept_iff
    (hFooter : layout.footerText ≠ [])
    (hInk :
      ¬Text.AllBlank
        (layout.headerText ++ contents layout modules)) :
    layout.footerText ++ ['\n'] <:+ tidy (expand layout modules) ↔
      FitsEnd layout.footerText := by
  let front :=
    unlessEmpty layout.headerText paragraphEnd ++
      contents layout modules
  have hExpand :
      expand layout modules =
        front ++ layout.footerText ++ ['\n'] := by
    unfold expand
    rw [unlessEmpty_of_ne_nil hFooter]
    simp [contents, front]
  have hCloses : Closes front := by
    apply Closes.append
    · unfold unlessEmpty
      split
      · exact .inl rfl
      · exact closes_append_paragraphEnd _
    · exact closes_contents layout modules
  have hFront : ¬Text.AllBlank front := by
    intro hBlank
    apply hInk
    have hBefore := List.forall_mem_append.mp hBlank
    exact Text.AllBlank.append (allBlank_of_unlessEmpty hBefore.1)
      hBefore.2
  have hNewline : Text.AllBlank ['\n'] := by decide
  rw [hExpand, tidy_append_blank _ hNewline]
  constructor
  · exact (normal_tidy _).fitsEnd hFooter
  · exact suffix_tidy_append hCloses hFront

end Texts

/-
  A document starts with its header and ends with its footer,
  both as they were given, exactly when the header fits the
  start and the footer the end of a document. If there is a
  navigation table or a module between them, this is so for
  each of them apart from the other.
-/
theorem render_verbatim_iff
    (layout : Layout)
    (modules : List ModuleDoc)
    (hHeader : layout.headerText ≠ [])
    (hFooter : layout.footerText ≠ []) :
    let document := render layout modules
    (layout.headerText <+: document ∧
        layout.footerText ++ ['\n'] <:+ document ↔
      FitsStart layout.headerText ∧ FitsEnd layout.footerText) ∧
    (layout.headerTable = true ∨ modules ≠ [] →
      (layout.headerText <+: document ↔
        FitsStart layout.headerText) ∧
      (layout.footerText ++ ['\n'] <:+ document ↔
        FitsEnd layout.footerText)) := by
  intro document
  let ordered := ModuleOrder.apply modules layout.moduleList
  constructor
  · have hStart (hEnd : FitsEnd layout.footerText) :
        layout.headerText <+: document ↔
          FitsStart layout.headerText := by
      apply header_kept_iff hHeader
      intro hBlank
      exact hEnd.not_allBlank (List.forall_mem_append.mp hBlank).2
    constructor
    · rintro ⟨hStarts, hEnds⟩
      have hEnd := (normal_tidy (expand layout ordered)).fitsEnd
        hFooter hEnds
      exact ⟨(hStart hEnd).mp hStarts, hEnd⟩
    · rintro ⟨hFits, hEnd⟩
      refine ⟨(hStart hEnd).mpr hFits, ?_⟩
      refine (footer_kept_iff hFooter ?_).mpr hEnd
      intro hBlank
      exact hFits.not_allBlank (List.forall_mem_append.mp hBlank).1
  · intro hSome
    have hOrdered : layout.headerTable = true ∨ ordered ≠ [] := by
      apply hSome.imp_right
      intro hModules hNone
      have hPerm : ordered.Perm modules :=
        ModuleOrder.apply_perm modules layout.moduleList
      rw [hNone] at hPerm
      exact hModules hPerm.symm.eq_nil
    have hContents := not_allBlank_contents hOrdered
    constructor
    · apply header_kept_iff hHeader
      intro hBlank
      exact hContents (List.forall_mem_append.mp hBlank).1
    · apply footer_kept_iff hFooter
      intro hBlank
      exact hContents (List.forall_mem_append.mp hBlank).2

/-
  A header keeps the blanks at its end and a footer those at
  its start, with a module between them. With another header,
  which is not kept, the footer still is.
-/
theorem render_verbatim_iff_indented :
    let layout : Layout :=
      { headerText := "# T\n\n ".toList
        footerText := "\n\n  end".toList }
    let blank : Layout := { layout with headerText := " T".toList }
    let modules : List ModuleDoc := [{ fileName := "m.dwl".toList }]
    layout.headerText ≠ [] ∧ layout.footerText ≠ [] ∧
      layout.headerText <+: render layout modules ∧
      layout.footerText ++ ['\n'] <:+ render layout modules ∧
      ¬blank.headerText <+: render blank modules ∧
      blank.footerText ++ ['\n'] <:+ render blank modules := by
  intro layout blank modules
  have hHeader : layout.headerText ≠ [] := List.cons_ne_nil _ _
  have hFooter : layout.footerText ≠ [] := List.cons_ne_nil _ _
  have hStart : FitsStart layout.headerText :=
    ⟨by decide, '#', rfl, by decide⟩
  have hEnd : FitsEnd layout.footerText :=
    ⟨by decide, 'd', rfl, by decide⟩
  have hBlank : ¬FitsStart blank.headerText := by
    rintro ⟨-, first, hFirst, hInk⟩
    cases hFirst
    exact absurd hInk (by decide)
  have hBoth :=
    (render_verbatim_iff layout modules hHeader hFooter).1.mpr
      ⟨hStart, hEnd⟩
  rcases (render_verbatim_iff blank modules (List.cons_ne_nil _ _)
    hFooter).2 (.inr (List.cons_ne_nil _ _)) with
    ⟨hStarts, hEnds⟩
  exact ⟨hHeader, hFooter, hBoth.1, hBoth.2,
    fun hKept => hBlank (hStarts.mp hKept), hEnds.mpr hEnd⟩

/-
  A second empty line in the header is lost, and so is a line
  feed at the end of the footer.
-/
theorem header_and_footer_changed :
    let layout : Layout :=
      { headerText := "a\n\n\nb".toList
        footerText := "c\n".toList }
    let document := render layout [{ fileName := "m.dwl".toList }]
    layout.headerText ≠ [] ∧ layout.footerText ≠ [] ∧
      ¬layout.headerText <+: document ∧
      ¬layout.footerText ++ ['\n'] <:+ document ∧
      document = "a\n\nb\n\n## m\n\nc\n".toList := by
  decide

end Document

end Marginalia
