import Marginalia.Proofs.Document.Breaks

/-
  This file shows which form every document has, that a text
  of this form is left as it is when it is brought into the
  final form again, and that the final form of a text has the
  same characters in the same order as the trimmed text, line
  feeds aside.

  Key definitions include:
    * `Document.Spaced`
    * `Document.Normal`

  Main results:
    * `Document.spaced_limitBreaks`
    * `Document.tidy_eq_self_iff`
    * `Document.filter_tidy`
    * `Document.render_normal`
-/

namespace Marginalia

namespace Document

------------------------------------------------------------
-- At Most Two Line Feeds in a Row
------------------------------------------------------------

/- Line feeds in a row. -/
def breaks
    (count : Nat) : Text :=
  List.replicate count '\n'

/-
  A text without three line feeds in a row, where some of them
  stand right before it.
-/
structure Spaced
    (seen : Nat)
    (text : Text) : Prop where
  start : ¬breaks (3 - seen) <+: text
  inside : ¬breaks 3 <:+: text

/- With nothing before it, only the text itself counts. -/
theorem spaced_zero_iff
    {text : Text} :
    Spaced 0 text ↔ ¬breaks 3 <:+: text := by
  constructor
  · exact Spaced.inside
  · intro hInside
    exact ⟨fun hStart => hInside hStart.isInfix, hInside⟩

/- An empty text has no line feeds. -/
theorem spaced_nil
    {seen : Nat}
    (hSeen : seen ≤ 2) :
    Spaced seen [] := by
  constructor
  · rw [List.prefix_nil, breaks, List.replicate_eq_nil_iff]
    omega
  · decide

/- A character that is no line feed ends those before it. -/
theorem spaced_cons_iff_of_ne
    {c : Char}
    (hChar : c ≠ '\n')
    {seen : Nat}
    (hSeen : seen ≤ 2)
    {rest : Text} :
    Spaced seen (c :: rest) ↔ Spaced 0 rest := by
  have hStart (count : Nat) : ¬breaks (count + 1) <+: c :: rest := by
    rw [breaks, List.replicate_succ, List.cons_prefix_cons]
    exact fun hBoth => hChar hBoth.1.symm
  have hCount : 3 - seen = (2 - seen) + 1 := by omega
  rw [spaced_zero_iff]
  constructor
  · intro hSpaced hInside
    exact hSpaced.inside (List.infix_cons hInside)
  · intro hRest
    constructor
    · rw [hCount]
      exact hStart _
    · rw [List.infix_cons_iff]
      exact not_or_intro (hStart 2) hRest

/- A line feed counts for the rest, if it may stand there. -/
theorem spaced_cons_iff_of_eq
    {seen : Nat}
    (hSeen : seen ≤ 2)
    {rest : Text} :
    Spaced seen ('\n' :: rest) ↔ seen < 2 ∧ Spaced (seen + 1) rest := by
  have hStart (count : Nat) :
      breaks (count + 1) <+: '\n' :: rest ↔ breaks count <+: rest := by
    rw [breaks, List.replicate_succ, List.cons_prefix_cons]
    exact and_iff_right rfl
  have hCount : 3 - seen = (3 - (seen + 1)) + 1 := by omega
  constructor
  · intro hSpaced
    have hRest := hSpaced.start
    rw [hCount, hStart] at hRest
    refine ⟨?_, hRest, fun hInside =>
      hSpaced.inside (List.infix_cons hInside)⟩
    by_contra hMany
    have hNone : 3 - (seen + 1) = 0 := by omega
    rw [hNone] at hRest
    exact hRest (List.nil_prefix)
  · rintro ⟨-, hRest⟩
    constructor
    · rw [hCount, hStart]
      exact hRest.start
    · rw [List.infix_cons_iff]
      refine not_or_intro ?_ hRest.inside
      rw [hStart 2]
      -- Two line feeds open with the fewer that are not there.
      intro hTwo
      apply hRest.start
      have hFewer : breaks (3 - (seen + 1)) <+: breaks 2 := by
        have hSplit : 2 = (3 - (seen + 1)) + seen := by omega
        rw [hSplit]
        unfold breaks
        rw [List.replicate_add]
        exact List.prefix_append _ _
      exact hFewer.trans hTwo

/- Limiting line feeds leaves no three of them in a row. -/
theorem spaced_limitBreaks
    {seen : Nat}
    (hSeen : seen ≤ 2)
    (text : Text) :
    Spaced seen (limitBreaks seen text) := by
  induction text generalizing seen with
  | nil => exact spaced_nil hSeen
  | cons c rest ih =>
      unfold limitBreaks
      by_cases hBreak : c = '\n'
      · rw [if_pos hBreak, hBreak]
        split
        · rename_i hFew
          exact (spaced_cons_iff_of_eq hSeen).mpr ⟨hFew, ih hFew⟩
        · exact ih hSeen
      · rw [if_neg hBreak, spaced_cons_iff_of_ne hBreak hSeen]
        exact ih (Nat.zero_le 2)

/- Where there are no three in a row, limiting changes nothing. -/
theorem limitBreaks_of_spaced
    {seen : Nat}
    (hSeen : seen ≤ 2)
    {text : Text}
    (hSpaced : Spaced seen text) :
    limitBreaks seen text = text := by
  induction text generalizing seen with
  | nil => rfl
  | cons c rest ih =>
      unfold limitBreaks
      by_cases hBreak : c = '\n'
      · rw [hBreak, spaced_cons_iff_of_eq hSeen] at hSpaced
        rw [if_pos hBreak, if_pos hSpaced.1, ih hSpaced.1 hSpaced.2]
      · rw [spaced_cons_iff_of_ne hBreak hSeen] at hSpaced
        rw [if_neg hBreak, ih (Nat.zero_le 2) hSpaced]

------------------------------------------------------------
-- Characters Besides Line Feeds
------------------------------------------------------------

/- Limiting line feeds takes nothing else away. -/
theorem filter_limitBreaks
    (seen : Nat)
    (text : Text) :
    (limitBreaks seen text).filter (· != '\n') =
      text.filter (· != '\n') := by
  induction text generalizing seen with
  | nil => rfl
  | cons c rest ih =>
      unfold limitBreaks
      by_cases hBreak : c = '\n'
      · subst hBreak
        rw [if_pos rfl]
        split <;> simp [ih]
      · rw [if_neg hBreak, List.filter_cons, List.filter_cons, ih]

/-
  Blanks at the start are the same whether line feeds, which
  are blanks, are taken away before or after.
-/
theorem filter_trimStart
    (text : Text) :
    text.trimStart.filter (· != '\n') =
      Text.trimStart (text.filter (· != '\n')) := by
  induction text with
  | nil => rfl
  | cons c rest ih =>
      cases hBlank : isBlank c with
      | true =>
          have hPassed (behind : Text) :
              Text.trimStart (c :: behind) = behind.trimStart :=
            List.dropWhile_cons_of_pos hBlank
          rw [hPassed, ih, List.filter_cons]
          split
          · rw [hPassed]
          · rfl
      | false =>
          have hChar : (c != '\n') = true := by
            rw [bne_iff_ne]
            rintro rfl
            exact absurd hBlank (by decide)
          rw [Text.trimStart_cons hBlank, List.filter_cons, if_pos hChar,
            Text.trimStart_cons hBlank]

/- So are those at the two ends. -/
theorem filter_trim
    (text : Text) :
    text.trim.filter (· != '\n') =
      Text.trim (text.filter (· != '\n')) := by
  have hEnd (part : Text) :
      part.trimEnd.filter (· != '\n') =
        Text.trimEnd (part.filter (· != '\n')) := by
    have hReverse := filter_trimStart part.reverse
    unfold Text.trimStart at hReverse
    unfold Text.trimEnd
    rw [List.filter_reverse, hReverse, List.filter_reverse]
  unfold Text.trim
  rw [hEnd, filter_trimStart]

/-
  The final form of a text has the characters of the trimmed
  text in the same order, line feeds aside.
-/
theorem filter_tidy
    (text : Text) :
    (tidy text).filter (· != '\n') =
      text.trim.filter (· != '\n') := by
  unfold tidy
  rw [List.filter_append, filter_trim, filter_limitBreaks,
    ← filter_trim]
  exact List.append_nil _

------------------------------------------------------------
-- Normal Documents
------------------------------------------------------------

/-
  A document without three line feeds in a row that ends in
  exactly one, with nothing before it or else a text that has
  no blank at either end.
-/
structure Normal
    (document : Text) : Prop where
  spaced : ¬breaks 3 <:+: document
  ends :
    ∃ content : Text,
      document = content ++ ['\n'] ∧
        content.getLast? ≠ some '\n' ∧
        (content = [] ∨
          (∃ first ∈ content.head?, isBlank first = false) ∧
            ∃ last ∈ content.getLast?, isBlank last = false)

/- A text is trimmed if it is empty or has no blank at either end. -/
theorem trimmed_iff_inked
    {content : Text} :
    Text.Trimmed content ↔
      content = [] ∨
        (∃ first ∈ content.head?, isBlank first = false) ∧
          ∃ last ∈ content.getLast?, isBlank last = false := by
  rw [Text.trimmed_iff]
  cases content with
  | nil => simp
  | cons c rest =>
      rw [List.head?_cons,
        List.getLast?_eq_some_getLast (List.cons_ne_nil c rest)]
      simp

/- A line feed behind a trimmed text makes it normal. -/
theorem normal_append
    {content : Text}
    (hSpaced : ¬breaks 3 <:+: content)
    (hTrimmed : content.Trimmed) :
    Normal (content ++ ['\n']) := by
  have hOnce : content.getLast? ≠ some '\n' := by
    intro hBreak
    have hInk := (Text.trimmed_iff.mp hTrimmed).2 '\n' hBreak
    exact absurd hInk (by decide)
  refine ⟨?_, content, rfl, hOnce, trimmed_iff_inked.mp hTrimmed⟩
  rw [List.infix_concat_iff]
  refine not_or_intro ?_ hSpaced
  -- Three line feeds at the end would leave two before the last.
  rintro ⟨front, hFront⟩
  have hParts : front ++ breaks 2 ++ ['\n'] = content ++ ['\n'] := by
    rw [← hFront, List.append_assoc]
    rfl
  apply hOnce
  rw [← List.append_cancel_right hParts, List.getLast?_append]
  rfl

/- The final form of every text is normal. -/
theorem normal_tidy
    (text : Text) :
    Normal (tidy text) := by
  apply normal_append
  · intro hInside
    exact (spaced_limitBreaks (Nat.zero_le 2) text).inside
      (hInside.trans (Text.trim_isInfix _))
  · exact Text.trimmed_trim _

/- The normal texts are those that are in their final form. -/
theorem tidy_eq_self_iff
    {document : Text} :
    tidy document = document ↔ Normal document := by
  constructor
  · intro hTidy
    rw [← hTidy]
    exact normal_tidy document
  · rintro ⟨hSpaced, content, rfl, -, hInked⟩
    have hTrimmed : Text.trim content = content :=
      trimmed_iff_inked.mpr hInked
    have hBlank : Text.AllBlank ['\n'] := by decide
    unfold tidy
    rw [limitBreaks_of_spaced (Nat.zero_le 2)
      (spaced_zero_iff.mpr hSpaced),
      Text.trim_append_blank _ hBlank, hTrimmed]

/-
  Every document is normal, stays the same when it is brought
  into the final form again, and has the characters of the
  trimmed parts of the document in the same order, line feeds
  aside.
-/
theorem render_normal
    (layout : Layout)
    (modules : List ModuleDoc) :
    let parts :=
      expand layout (ModuleOrder.apply modules layout.moduleList)
    Normal (render layout modules) ∧
      tidy (render layout modules) = render layout modules ∧
      (render layout modules).filter (· != '\n') =
        parts.trim.filter (· != '\n') := by
  intro parts
  have hNormal : Normal (render layout modules) := normal_tidy parts
  exact ⟨hNormal, tidy_eq_self_iff.mpr hNormal, filter_tidy parts⟩

end Document

end Marginalia
