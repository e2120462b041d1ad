import Marginalia.Proofs.Source.Name
import Marginalia.Proofs.Text.Search

/-
  This file shows that the name of a module tells its file
  apart from others: the folders and the stem of a file whose
  segments have no colon can be read back from the module's
  name, whatever slashes stand before them and whatever dots
  stand in them.

  Key definitions include:
    * `Text.splitAtMark`
    * `SourceName.IsPlain`
    * `SourceName.PlainName`

  Main results:
    * `Text.splitAtMark_join`
    * `SourceName.PlainName.moduleName_toText`
    * `SourceName.PlainName.splitAtMark_moduleName`
    * `SourceName.PlainName.moduleName_tells_apart`
-/

namespace Marginalia

namespace Text

------------------------------------------------------------
-- Splitting at a Mark
------------------------------------------------------------

/-
  The stretches between the occurrences of a mark, which are
  found from left to right. An empty mark splits nothing.
-/
def splitAtMark
    (mark text : Text) : List Text :=
  if _hMark : mark = [] then [text]
  else
    match _hCut : cut? mark text with
    | none => [text]
    | some (before, after) => before :: splitAtMark mark after
termination_by text.length
decreasing_by
  have hLength := length_of_cut? _hCut
  have hPositive := List.length_pos_iff.mpr _hMark
  omega

/- A text without the mark is one stretch. -/
theorem splitAtMark_of_none
    {mark text : Text}
    (hCut : cut? mark text = none) :
    splitAtMark mark text = [text] := by
  unfold splitAtMark
  split
  · rfl
  · split
    · rfl
    · rename_i hSome
      rw [hCut] at hSome
      cases hSome

/- A stretch ends at the first mark, and the others follow. -/
theorem splitAtMark_of_some
    {mark text before after : Text}
    (hMark : mark ≠ [])
    (hCut : cut? mark text = some (before, after)) :
    splitAtMark mark text = before :: splitAtMark mark after := by
  rw [splitAtMark, dif_neg hMark]
  split
  · rename_i hNone
    rw [hCut] at hNone
    cases hNone
  · rename_i hSome
    rw [hCut] at hSome
    cases hSome
    rfl

/-
  A mark is found behind a text without its first character,
  even one that overlaps with itself.
-/
theorem cut?_append_of_notMem
    {c : Char}
    {tail before : Text}
    (hFree : c ∉ before)
    (after : Text) :
    cut? (c :: tail) (before ++ (c :: tail) ++ after) =
      some (before, after) := by
  induction before with
  | nil =>
      rw [List.nil_append, cut?_of_opens (List.prefix_append _ _),
        List.drop_left]
  | cons d before ih =>
      rw [List.mem_cons, not_or] at hFree
      have hLater :
          ¬c :: tail <+: d :: (before ++ (c :: tail) ++ after) := by
        rw [List.cons_prefix_cons]
        exact fun hOpens => hFree.1 hOpens.1
      rw [List.cons_append, List.cons_append,
        cut?_cons_of_not_opens hLater, ih hFree.2]
      rfl

/- Joined parts without the mark's first character are split again. -/
theorem splitAtMark_join
    {c : Char}
    (tail : Text)
    {parts : List Text}
    (hSome : parts ≠ [])
    (hFree : ∀ part ∈ parts, c ∉ part) :
    splitAtMark (c :: tail) (join (c :: tail) parts) = parts := by
  have hMark : c :: tail ≠ [] := List.cons_ne_nil c tail
  induction parts with
  | nil => exact absurd rfl hSome
  | cons part rest ih =>
      rw [List.forall_mem_cons] at hFree
      by_cases hRest : rest = []
      · have hNone : cut? (c :: tail) part = none := by
          rw [cut?_eq_none_iff hMark]
          intro hInside
          exact hFree.1 (hInside.subset List.mem_cons_self)
        rw [hRest, join_singleton, splitAtMark_of_none hNone]
      · rw [join_cons (c :: tail) part hRest,
          splitAtMark_of_some hMark
            (cut?_append_of_notMem hFree.1 _),
          ih hRest hFree.2]

end Text

namespace SourceName

------------------------------------------------------------
-- Plain Names
------------------------------------------------------------

/-
  A segment that a module's name can show: not empty, with no
  slash in either direction and no colon.
-/
structure IsPlain
    (segment : Text) : Prop where
  ne_nil : segment ≠ []
  no_slash : '/' ∉ segment
  no_backslash : '\\' ∉ segment
  no_colon : ':' ∉ segment

instance
    (segment : Text) :
    Decidable (IsPlain segment) :=
  decidable_of_iff
    (segment ≠ [] ∧ '/' ∉ segment ∧ '\\' ∉ segment ∧ ':' ∉ segment)
    (by
      constructor
      · rintro ⟨hNonempty, hSlash, hBackslash, hColon⟩
        exact ⟨hNonempty, hSlash, hBackslash, hColon⟩
      · intro hPlain
        exact ⟨hPlain.ne_nil, hPlain.no_slash, hPlain.no_backslash,
          hPlain.no_colon⟩)

/-
  The name of a file with an extension: slashes, folders and
  the file itself, which has a stem before the extension. All
  segments are plain.
-/
structure PlainName
    (extension : Text) where
  slashes : Nat
  folders : List Text
  stem : Text
  stem_ne_nil : stem ≠ []
  isPlain :
    ∀ segment ∈ folders ++ [stem ++ '.' :: extension],
      IsPlain segment

namespace PlainName

variable
  {extension : Text}

/- The segments of a name, the last of them with the extension. -/
def segments
    (name : PlainName extension) : List Text :=
  name.folders ++ [name.stem ++ '.' :: extension]

/- The name as it is written. -/
def toText
    (name : PlainName extension) : Text :=
  List.replicate name.slashes '/' ++ Text.join ['/'] name.segments

/- The folders and the stem, without the extension. -/
def parts
    (name : PlainName extension) : List Text :=
  name.folders ++ [name.stem]

/- The folders of a name are plain. -/
theorem isPlain_of_mem_folders
    (name : PlainName extension)
    {folder : Text}
    (hFolder : folder ∈ name.folders) :
    IsPlain folder :=
  name.isPlain folder (List.mem_append_left _ hFolder)

/- The file of a name is plain. -/
theorem isPlain_file
    (name : PlainName extension) :
    IsPlain (name.stem ++ '.' :: extension) :=
  name.isPlain _ (List.mem_append_right _ (List.mem_singleton_self _))

/- Neither the folders nor the stem have a colon. -/
theorem colon_notMem_of_mem_parts
    (name : PlainName extension) :
    ∀ part ∈ name.parts, ':' ∉ part := by
  unfold parts
  rw [List.forall_mem_append, List.forall_mem_singleton]
  constructor
  · intro folder hFolder
    exact (name.isPlain_of_mem_folders hFolder).no_colon
  · intro hColon
    exact name.isPlain_file.no_colon (List.mem_append_left _ hColon)

/- Names with the same extension differ in folders or stem. -/
theorem parts_eq_iff
    {first second : PlainName extension} :
    first.parts = second.parts ↔ first.segments = second.segments := by
  unfold parts segments
  rw [List.append_singleton_inj, List.append_singleton_inj,
    List.append_left_inj]

------------------------------------------------------------
-- Names of Modules
------------------------------------------------------------

/- A module is named by the folders and the stem of its file. -/
theorem moduleName_toText
    (hExtension : extension ≠ [])
    (name : PlainName extension) :
    moduleName extension name.toText =
      Text.join [':', ':'] name.parts := by
  have hLead :
      ∀ c ∈ List.replicate name.slashes '/', (c == '/') = true := by
    intro c hMember
    rw [List.eq_of_mem_replicate hMember]
    rfl
  have hFolders : name.folders.flatMap segmentsOf = name.folders := by
    apply flatMap_segmentsOf_of_notMem
    · intro folder hFolder
      exact (name.isPlain_of_mem_folders hFolder).ne_nil
    · intro folder hFolder
      exact (name.isPlain_of_mem_folders hFolder).no_slash
    · intro folder hFolder
      exact (name.isPlain_of_mem_folders hFolder).no_backslash
  have hName :=
    moduleName_join hLead name.folders name.stem_ne_nil hExtension
      name.isPlain_file.no_slash name.isPlain_file.no_backslash
  rw [hFolders] at hName
  exact hName

/- They are read back from the module's name. -/
theorem splitAtMark_moduleName
    (hExtension : extension ≠ [])
    (name : PlainName extension) :
    Text.splitAtMark [':', ':'] (moduleName extension name.toText) =
      name.parts := by
  have hSome : name.parts ≠ [] :=
    List.append_ne_nil_of_right_ne_nil _ (List.cons_ne_nil _ _)
  rw [name.moduleName_toText hExtension,
    Text.splitAtMark_join [':'] hSome name.colon_notMem_of_mem_parts]

/-
  The name of a module is split at its double colons into the
  folders and the stem of its file, so that two files with the
  same extension have modules of the same name exactly when
  their segments are the same.
-/
theorem moduleName_tells_apart
    (hExtension : extension ≠ [])
    (name : PlainName extension) :
    Text.splitAtMark [':', ':'] (moduleName extension name.toText) =
        name.folders ++ [name.stem] ∧
      ∀ other : PlainName extension,
        moduleName extension other.toText =
            moduleName extension name.toText ↔
          other.segments = name.segments := by
  refine ⟨name.splitAtMark_moduleName hExtension, ?_⟩
  intro other
  constructor
  · intro hSame
    rw [← parts_eq_iff, ← other.splitAtMark_moduleName hExtension,
      hSame, name.splitAtMark_moduleName hExtension]
  · intro hSegments
    rw [other.moduleName_toText hExtension,
      name.moduleName_toText hExtension, parts_eq_iff.mpr hSegments]

/-
  Of an extension that is repeated only the last one is
  dropped, and a folder keeps its own.
-/
theorem moduleName_tells_apart_repeated :
    let extension := "dwl".toList
    let name := "//../a.dwl/x.dwl.dwl".toList
    extension ≠ [] ∧
      Text.splitAtMark [':', ':'] (moduleName extension name) =
        ["..".toList, "a.dwl".toList, "x.dwl".toList] ∧
      moduleName extension "/../a.dwl/x.dwl".toList ≠
        moduleName extension name := by
  intro extension name
  have hExtension : extension ≠ [] := by decide
  let twice : PlainName extension :=
    { slashes := 2
      folders := ["..".toList, "a.dwl".toList]
      stem := "x.dwl".toList
      stem_ne_nil := by decide
      isPlain := by decide }
  let once : PlainName extension :=
    { slashes := 1
      folders := ["..".toList, "a.dwl".toList]
      stem := "x".toList
      stem_ne_nil := by decide
      isPlain := by decide }
  rcases moduleName_tells_apart hExtension twice with ⟨hSplit, hSame⟩
  have hSegments : once.segments ≠ twice.segments := by decide
  exact ⟨hExtension, hSplit, fun hEq => hSegments ((hSame once).mp hEq)⟩

end PlainName

end SourceName

end Marginalia
