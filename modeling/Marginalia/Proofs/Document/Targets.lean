import Mathlib.Logic.Relation
import Marginalia.Proofs.Document.Navigation

/-
  This file shows which names of modules have the same target
  in the navigation table. A target keeps less than a name
  says: it is in lower case, it leaves out all but word
  characters, hyphens and spaces, the colons between segments
  among them, and it writes spaces as hyphens. So two modules
  may share a target although their names are different.

  Key definitions include:
    * `Markdown.Respelled`
    * `Markdown.Alike`
    * `Document.targets`
    * `Document.tableTo`

  Main results:
    * `Markdown.slug_eq_of_respelled`
    * `Markdown.respelled_slug`
    * `Markdown.target_eq_iff`
    * `Document.targets_nodup_iff`
-/

namespace Marginalia

namespace Markdown

------------------------------------------------------------
-- Spellings With One Target
------------------------------------------------------------

/- A character that is not left out of a target. -/
def isKept
    (c : Char) : Bool :=
  isWord c || c == '-' || c == ' '

/- A space is written as a hyphen. -/
def hyphenate
    (c : Char) : Char :=
  if c = ' ' then '-' else c

/- What a target keeps of a lower-case text. -/
def slug
    (text : Text) : Text :=
  (text.filter isKept).map hyphenate

/-
  A change of spelling that no target shows: a character that
  is not kept is left out, or a hyphen takes the place of a
  space.
-/
inductive Respelled : Text → Text → Prop where
  | omitted
      (before : Text)
      {c : Char}
      (hKept : isKept c = false)
      (after : Text) :
      Respelled (before ++ c :: after) (before ++ after)
  | hyphenated
      (before after : Text) :
      Respelled (before ++ ' ' :: after) (before ++ '-' :: after)

/-
  Names that become the same in lower case, without the blanks
  at their ends, by such changes and their reverses.
-/
def Alike
    (name other : Text) : Prop :=
  Relation.EqvGen Respelled (lower (Text.trim name))
    (lower (Text.trim other))

/- A target is the slug of the trimmed name in lower case. -/
theorem target_eq_slug
    (name : Text) :
    target name = slug (lower (Text.trim name)) :=
  rfl

/- Slugs are made part by part. -/
theorem slug_append
    (first last : Text) :
    slug (first ++ last) = slug first ++ slug last := by
  unfold slug
  rw [List.filter_append, List.map_append]

/- A change of spelling is not seen in the slug. -/
theorem slug_eq_of_respelled
    {text other : Text}
    (hStep : Respelled text other) :
    slug text = slug other := by
  cases hStep with
  | omitted before hKept after =>
      have hNone (c : Char) (hChar : isKept c = false) :
          slug (c :: after) = slug after := by
        simp [slug, hChar]
      rw [slug_append, slug_append, hNone _ hKept]
  | hyphenated before after =>
      have hSame : slug (' ' :: after) = slug ('-' :: after) := by
        simp [slug, isKept, hyphenate]
      rw [slug_append, slug_append, hSame]

/- A change behind a character is a change of the whole text. -/
theorem Respelled.cons
    {text other : Text}
    (hStep : Respelled text other)
    (c : Char) :
    Respelled (c :: text) (c :: other) := by
  cases hStep with
  | omitted before hKept after =>
      exact .omitted (c :: before) hKept after
  | hyphenated before after =>
      exact .hyphenated (c :: before) after

/- Every text is turned into its slug by such changes. -/
theorem respelled_slug
    (text : Text) :
    Relation.ReflTransGen Respelled text (slug text) := by
  induction text with
  | nil => exact .refl
  | cons c rest ih =>
      have hRest :
          Relation.ReflTransGen Respelled (c :: rest) (c :: slug rest) :=
        ih.lift (c :: ·) fun _ _ hStep => hStep.cons c
      -- What is left is to change the first character.
      refine hRest.trans ?_
      cases hKept : isKept c with
      | false =>
          have hSlug : slug (c :: rest) = slug rest := by
            simp [slug, hKept]
          rw [hSlug]
          exact .single (.omitted [] hKept _)
      | true =>
          have hSlug : slug (c :: rest) = hyphenate c :: slug rest := by
            simp [slug, hKept]
          rw [hSlug]
          by_cases hSpace : c = ' '
          · subst hSpace
            exact .single (.hyphenated [] _)
          · have hSame : hyphenate c = c := if_neg hSpace
            rw [hSame]

/- Texts have the same slug exactly if such changes relate them. -/
theorem slug_eq_iff
    {text other : Text} :
    slug text = slug other ↔ Relation.EqvGen Respelled text other := by
  constructor
  · intro hSlug
    have hReach (start : Text) :
        Relation.EqvGen Respelled start (slug start) :=
      Relation.EqvGen.reflTransGen_le_eqvGen Respelled _ _
        (respelled_slug start)
    have hText := hReach text
    rw [hSlug] at hText
    exact hText.trans _ _ _ ((hReach other).symm _ _)
  · intro hRelated
    induction hRelated with
    | rel text next hStep => exact slug_eq_of_respelled hStep
    | refl text => rfl
    | symm text next _ ih => exact ih.symm
    | trans text next last _ _ hFirst hLast => exact hFirst.trans hLast

/- Names have the same target exactly if they are alike. -/
theorem target_eq_iff
    {name other : Text} :
    target name = target other ↔ Alike name other := by
  rw [target_eq_slug, target_eq_slug]
  exact slug_eq_iff

end Markdown

namespace Document

------------------------------------------------------------
-- Targets in the Navigation Table
------------------------------------------------------------

/- The targets of the links to some modules, in their order. -/
def targets
    (modules : List ModuleDoc) : List Text :=
  modules.map fun module => Markdown.target module.name

/- The navigation table of modules whose links have given targets. -/
def tableTo
    (modules : List ModuleDoc)
    (targets : List Text) : Text :=
  (headings ++ List.zipWith rowTo modules targets).flatMap
    (· ++ ['\n'])

/- The rows in a document link to the targets of the modules. -/
theorem tableTo_targets
    (modules : List ModuleDoc) :
    tableTo modules (targets modules) =
      (tableLines modules).flatMap (· ++ ['\n']) := by
  unfold tableTo targets tableLines rows
  rw [List.zipWith_map_right, List.zipWith_self]

/-
  Right below the header of a document stands the navigation
  table, and then an empty line or nothing. Its rows link, in
  the order of the modules, to the targets of their names, and
  no two of these targets are the same exactly if no two names
  are alike.
-/
theorem targets_nodup_iff
    (layout : Layout)
    (modules : List ModuleDoc) :
    let ordered := ModuleOrder.apply modules layout.moduleList
    (∃ rest : Text,
      (∀ c ∈ rest.head?, c = '\n') ∧
        render { layout with headerTable := true } modules =
          header layout.headerText ++
            (tableTo ordered (targets ordered) ++ rest)) ∧
      ((targets ordered).Nodup ↔
        (modules.map ModuleDoc.name).Pairwise fun name other =>
          ¬Markdown.Alike name other) := by
  intro ordered
  constructor
  · rw [tableTo_targets]
    exact exists_render_eq_lines { layout with headerTable := true }
      rfl rfl
  · have hPerm : (targets ordered).Perm (targets modules) :=
      (ModuleOrder.apply_perm modules layout.moduleList).map _
    rw [hPerm.nodup_iff]
    unfold targets List.Nodup
    rw [List.pairwise_map, List.pairwise_map]
    simp only [ne_eq, Markdown.target_eq_iff]

/-
  Two modules with different names share a target: no target
  shows where one segment of a name ends.
-/
theorem targets_shared :
    let first : ModuleDoc := { fileName := "a/b.dwl".toList }
    let second : ModuleDoc := { fileName := "ab.dwl".toList }
    let layout : Layout := { headerTable := true }
    [first, second].map ModuleDoc.name =
        ["a::b".toList, "ab".toList] ∧
      ([first, second].map ModuleDoc.name).Nodup ∧
      targets [first, second] = ["ab".toList, "ab".toList] ∧
      ¬(targets [first, second]).Nodup ∧
      render layout [first, second] =
        Text.join ['\n']
          ["| Module | Description |".toList, "| --- | --- |".toList,
            "| [a::b](#ab) |  |".toList, "| [ab](#ab) |  |".toList, [],
            "## a::b".toList, [], "## ab".toList, []] := by
  intro first second layout
  exact ⟨by decide, by decide, by decide, by decide, by decide⟩

end Document

end Marginalia
