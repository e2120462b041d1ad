import Marginalia.Document
import Marginalia.Proofs.Text.Blank

/-
  This file shows how line feeds in a row are limited piece by
  piece, and that the section of a module neither meets the
  line feeds before it nor leaves the count of those behind it
  open: it opens with a mark and closes with an empty line.

  Key definitions include:
    * `Document.breaksAfter`
    * `Document.Bounded`
    * `Document.Closes`
    * `Document.limited`

  Main results:
    * `Document.limitBreaks_append`
    * `Document.limitBreaks_rows_append`
    * `Document.closes_moduleSection`
    * `Document.limitBreaks_moduleSection_append`
-/

namespace Marginalia

namespace Document

------------------------------------------------------------
-- Line Feeds in a Row
------------------------------------------------------------

/-
  How many line feeds, two at most, stand at the end of a text
  with some of them right before it.
-/
def breaksAfter
    (seen : Nat) : Text → Nat
  | [] => seen
  | c :: rest =>
      if c = '\n' then breaksAfter (min (seen + 1) 2) rest
      else breaksAfter 0 rest

/- No more than two line feeds are counted. -/
theorem breaksAfter_le
    {seen : Nat}
    (hSeen : seen ≤ 2)
    (text : Text) :
    breaksAfter seen text ≤ 2 := by
  induction text generalizing seen with
  | nil => exact hSeen
  | cons c rest ih =>
      unfold breaksAfter
      split
      · exact ih (Nat.min_le_right _ 2)
      · exact ih (Nat.zero_le 2)

/- Line feeds are counted through one text and then the next. -/
theorem breaksAfter_append
    (seen : Nat)
    (first last : Text) :
    breaksAfter seen (first ++ last) =
      breaksAfter (breaksAfter seen first) last := by
  induction first generalizing seen with
  | nil => rfl
  | cons c rest ih =>
      simp only [List.cons_append, breaksAfter]
      split <;> exact ih _

/- Behind an empty line two line feeds are counted. -/
theorem breaksAfter_paragraphEnd
    {seen : Nat}
    (hSeen : seen ≤ 2) :
    breaksAfter seen paragraphEnd = 2 := by
  simp only [paragraphEnd, breaksAfter, if_true]
  omega

/-
  Limiting a text that is put together goes on behind the
  first part with the line feeds at its end.
-/
theorem limitBreaks_append
    {seen : Nat}
    (hSeen : seen ≤ 2)
    (first last : Text) :
    limitBreaks seen (first ++ last) =
      limitBreaks seen first ++
        limitBreaks (breaksAfter seen first) last := by
  induction first generalizing seen with
  | nil => rfl
  | cons c rest ih =>
      simp only [List.cons_append, limitBreaks, breaksAfter]
      by_cases hBreak : c = '\n'
      · by_cases hFew : seen < 2
        · have hNext : min (seen + 1) 2 = seen + 1 := by omega
          simp only [hBreak, hFew, if_true, hNext, List.cons_append]
          rw [ih (by omega)]
        · have hNext : min (seen + 1) 2 = seen := by omega
          simp only [hBreak, hFew, if_true, if_false, hNext]
          exact ih hSeen
      · simp only [hBreak, if_false, List.cons_append]
        rw [ih (Nat.zero_le 2)]

/- A text that opens with no line feed does not meet others. -/
theorem limitBreaks_eq_of_head
    {text : Text}
    (hHead : text.head? ≠ some '\n')
    (seen : Nat) :
    limitBreaks seen text = limitBreaks 0 text := by
  cases text with
  | nil => rfl
  | cons c rest =>
      have hChar : c ≠ '\n' := by simpa using hHead
      simp only [limitBreaks, hChar, if_false]

/- The first character is kept unless it is a line feed. -/
theorem head?_limitBreaks
    {text : Text}
    (hHead : text.head? ≠ some '\n')
    (seen : Nat) :
    (limitBreaks seen text).head? = text.head? := by
  cases text with
  | nil => rfl
  | cons c rest =>
      have hChar : c ≠ '\n' := by simpa using hHead
      simp only [limitBreaks, hChar, if_false, List.head?_cons]

/- A text that ends in line feeds still does when they are limited. -/
theorem getLast?_limitBreaks
    {text : Text}
    (hBreaks : 0 < breaksAfter 0 text) :
    (limitBreaks 0 text).getLast? = some '\n' := by
  induction text using List.reverseRecOn with
  | nil => exact absurd hBreaks (Nat.lt_irrefl 0)
  | append_singleton front c ih =>
      have hSeen := breaksAfter_le (Nat.zero_le 2) front
      rw [breaksAfter_append] at hBreaks
      rw [limitBreaks_append (Nat.zero_le 2)]
      by_cases hBreak : c = '\n'
      · simp only [limitBreaks, hBreak, if_true]
        split
        · rw [List.getLast?_concat]
        · -- A third line feed is dropped, so two stand before it.
          rw [List.append_nil]
          exact ih (by omega)
      · simp [breaksAfter, hBreak] at hBreaks

/- A front without line feeds is kept. -/
theorem limitBreaks_append_of_notMem
    {front : Text}
    (hFront : '\n' ∉ front)
    (behind : Text) :
    limitBreaks 0 (front ++ behind) =
      front ++ limitBreaks 0 behind := by
  induction front with
  | nil => rfl
  | cons c rest ih =>
      rw [List.mem_cons, not_or] at hFront
      have hChar : c ≠ '\n' := Ne.symm hFront.1
      simp only [List.cons_append, limitBreaks, hChar, if_false]
      rw [ih hFront.2]

/- So is a whole text without them. -/
theorem limitBreaks_of_notMem
    {text : Text}
    (hText : '\n' ∉ text) :
    limitBreaks 0 text = text := by
  have hKept := limitBreaks_append_of_notMem hText []
  rwa [limitBreaks, List.append_nil] at hKept

/- No line feeds are counted behind another character. -/
theorem breaksAfter_of_getLast?
    {text : Text}
    (hInk : text ≠ [])
    (hLast : text.getLast? ≠ some '\n')
    (seen : Nat) :
    breaksAfter seen text = 0 := by
  rcases List.eq_nil_or_concat text with hEmpty | ⟨front, c, rfl⟩
  · exact absurd hEmpty hInk
  · have hChar : c ≠ '\n' := by simpa using hLast
    rw [List.concat_eq_append, breaksAfter_append, breaksAfter,
      if_neg hChar, breaksAfter]

/-
  A text that neither opens nor ends with a line feed, so that
  those around it are counted apart from those within it.
-/
structure Bounded
    (text : Text) : Prop where
  ink : text ≠ []
  head : text.head? ≠ some '\n'
  last : text.getLast? ≠ some '\n'

/- A bounded text is limited by itself, with one line feed behind. -/
theorem Bounded.limitBreaks_append
    {row : Text}
    (hRow : Bounded row)
    {seen : Nat}
    (hSeen : seen ≤ 2)
    (behind : Text) :
    limitBreaks seen (row ++ '\n' :: behind) =
      limitBreaks 0 row ++ '\n' :: limitBreaks 1 behind := by
  rw [Document.limitBreaks_append hSeen,
    limitBreaks_eq_of_head hRow.head,
    breaksAfter_of_getLast? hRow.ink hRow.last]
  rfl

/- So are several of them, with an empty line behind. -/
theorem limitBreaks_rows_append
    {rows : List Text}
    (hSome : rows ≠ [])
    (hRows : ∀ row ∈ rows, Bounded row)
    {seen : Nat}
    (hSeen : seen ≤ 2)
    (behind : Text) :
    limitBreaks seen
        (rows.flatMap (· ++ ['\n']) ++ '\n' :: behind) =
      (rows.map (limitBreaks 0)).flatMap (· ++ ['\n']) ++
        '\n' :: limitBreaks 2 behind := by
  induction rows generalizing seen with
  | nil => exact absurd rfl hSome
  | cons row rest ih =>
      rw [List.forall_mem_cons] at hRows
      rw [List.flatMap_cons, List.append_assoc, List.append_assoc,
        List.singleton_append, hRows.1.limitBreaks_append hSeen,
        List.map_cons, List.flatMap_cons, List.append_assoc,
        List.append_assoc, List.singleton_append]
      by_cases hRest : rest = []
      · simp [hRest, limitBreaks]
      · rw [ih hRest hRows.2 (by decide)]

------------------------------------------------------------
-- Texts That Close With an Empty Line
------------------------------------------------------------

/- A text that is empty or ends in an empty line. -/
def Closes
    (text : Text) : Prop :=
  text = [] ∨ paragraphEnd <:+ text

/- An empty line behind a text closes it. -/
theorem closes_append_paragraphEnd
    (text : Text) :
    Closes (text ++ paragraphEnd) :=
  .inr (List.suffix_append text paragraphEnd)

/- Texts that close do so together. -/
theorem Closes.append
    {first last : Text}
    (hFirst : Closes first)
    (hLast : Closes last) :
    Closes (first ++ last) := by
  rcases hLast with rfl | hLast
  · rwa [List.append_nil]
  · exact .inr (hLast.trans (List.suffix_append first last))

/- Entries that close do so one after the other. -/
theorem closes_flatMap
    {α : Type}
    {entry : α → Text}
    (hEntry : ∀ value, Closes (entry value))
    (values : List α) :
    Closes (values.flatMap entry) := by
  induction values with
  | nil => exact .inl rfl
  | cons value rest ih =>
      rw [List.flatMap_cons]
      exact (hEntry value).append ih

/- Behind a text that closes two line feeds are counted. -/
theorem Closes.breaksAfter_eq
    {text : Text}
    (hCloses : Closes text)
    (hInk : text ≠ [])
    {seen : Nat}
    (hSeen : seen ≤ 2) :
    breaksAfter seen text = 2 := by
  rcases hCloses with hEmpty | ⟨front, rfl⟩
  · exact absurd hEmpty hInk
  · rw [breaksAfter_append]
    exact breaksAfter_paragraphEnd (breaksAfter_le hSeen front)

/- A heading closes. -/
theorem closes_heading
    (depth : Nat)
    (text : Text) :
    Closes (heading depth text) :=
  closes_append_paragraphEnd _

/- A comment closes, even one that says nothing. -/
theorem closes_commentPart
    (comment : Comment) :
    Closes (commentPart comment) := by
  unfold commentPart commentBody
  rw [List.append_assoc]
  exact closes_append_paragraphEnd _

/- The table of a comment closes. -/
theorem closes_tablePart
    (table : Option TagTable) :
    Closes (tablePart table) := by
  cases table with
  | none => exact .inl rfl
  | some table => exact closes_append_paragraphEnd _

/- A part of a section closes when its entries do. -/
theorem closes_part
    {α : Type}
    {entry : α → Text}
    (hEntry : ∀ value, Closes (entry value))
    (title : Text)
    (values : List α) :
    Closes (part title entry values) := by
  unfold part
  split
  · exact .inl rfl
  · exact (closes_heading 3 title).append
      (closes_flatMap hEntry values)

/- The entry of a variable closes. -/
theorem closes_variableEntry
    (entry : VariableDoc) :
    Closes (variableEntry entry) :=
  (closes_heading 4 entry.name).append
    (closes_commentPart entry.comment)

/- The entry of a function closes. -/
theorem closes_functionEntry
    (function : FunctionDoc) :
    Closes (functionEntry function) := by
  have hArguments :
      Closes
        (if function.arguments.isEmpty then []
          else Markdown.argumentTable function ++ paragraphEnd) := by
    split
    · exact .inl rfl
    · exact closes_append_paragraphEnd _
  unfold functionEntry signatureFence
  exact ((((closes_heading 4 _).append
    (closes_append_paragraphEnd _)).append
    (closes_commentPart function.comment)).append
    hArguments).append (closes_tablePart function.table)

/- The entry of a table closes. -/
theorem closes_tableEntry
    (entry : TableDoc) :
    Closes (tableEntry entry) :=
  (closes_commentPart entry.comment).append
    (closes_tablePart entry.table)

/- The section of a module closes. -/
theorem closes_moduleSection
    (module : ModuleDoc) :
    Closes (moduleSection module) := by
  unfold moduleSection
  refine ((((closes_heading 2 module.name).append ?_).append
    (closes_part closes_variableEntry _ _)).append
    (closes_part closes_functionEntry _ _)).append
    (closes_part closes_tableEntry _ _)
  cases module.comment with
  | some comment => exact closes_commentPart comment
  | none => exact .inl rfl

------------------------------------------------------------
-- Sections in Their Final Form
------------------------------------------------------------

/- The section of a module opens with the mark of a heading. -/
theorem head?_moduleSection
    (module : ModuleDoc) :
    (moduleSection module).head? = some '#' :=
  rfl

/- The section of a module with its line feeds limited. -/
def limited
    (module : ModuleDoc) : Text :=
  limitBreaks 0 (moduleSection module)

/- When it is limited, a section still opens with its mark. -/
theorem head?_limited
    (module : ModuleDoc) :
    (limited module).head? = some '#' := by
  have hHead : (moduleSection module).head? ≠ some '\n' := by
    rw [head?_moduleSection]
    decide
  unfold limited
  rw [head?_limitBreaks hHead, head?_moduleSection]

/-
  The section of a module is limited by itself: nothing before
  it matters, and what follows meets two line feeds.
-/
theorem limitBreaks_moduleSection_append
    {seen : Nat}
    (hSeen : seen ≤ 2)
    (module : ModuleDoc)
    (behind : Text) :
    limitBreaks seen (moduleSection module ++ behind) =
      limited module ++ limitBreaks 2 behind := by
  have hHead : (moduleSection module).head? ≠ some '\n' := by
    rw [head?_moduleSection]
    decide
  have hInk : moduleSection module ≠ [] := by
    intro hEmpty
    have hOpen := head?_moduleSection module
    rw [hEmpty] at hOpen
    exact absurd hOpen (by decide)
  rw [limitBreaks_append hSeen,
    (closes_moduleSection module).breaksAfter_eq hInk hSeen,
    limitBreaks_eq_of_head hHead, limited]

/- Sections are limited one by one. -/
theorem limitBreaks_flatMap_append
    (modules : List ModuleDoc)
    (behind : Text) :
    limitBreaks 2 (modules.flatMap moduleSection ++ behind) =
      modules.flatMap limited ++ limitBreaks 2 behind := by
  induction modules with
  | nil => rfl
  | cons module rest ih =>
      rw [List.flatMap_cons, List.flatMap_cons, List.append_assoc,
        limitBreaks_moduleSection_append (Nat.le_refl 2), ih,
        List.append_assoc]

end Document

end Marginalia
