import Marginalia.Command
import Marginalia.Proofs.Path

/-
  This file shows which name a module gets from the path of its
  file and the root that the path goes out from, and when that
  name is the same for all spellings of the root.

  Key definitions include:
    * `SourceName.toSlash`
    * `SourceName.segmentsOf`
    * `Source.below`
    * `Command.extracted`

  Main results:
    * `SourceName.backslash_notMem_moduleName`
    * `SourceName.moduleName_append`
    * `SourceName.relativeTo_append`
    * `SourceName.moduleName_relativeTo`
    * `SourceName.moduleName_relativeTo_iff`
    * `ModuleDoc.name_iff_not_returns`
-/

namespace Marginalia

namespace SourceName

------------------------------------------------------------
-- Segments of a Name
------------------------------------------------------------

/- A backslash separates segments as a slash does. -/
def toSlash
    (c : Char) : Char :=
  if c = '\\' then '/' else c

/- The segments of a name between slashes in both directions. -/
def segmentsOf
    (name : Text) : List Text :=
  Text.pieces (· == '/') (name.map toSlash)

/- A name without backslashes is not changed. -/
theorem map_toSlash_of_notMem
    {name : Text}
    (hBackslash : '\\' ∉ name) :
    name.map toSlash = name := by
  have hSame : ∀ c ∈ name, toSlash c = id c := by
    intro c hMember
    apply if_neg
    rintro rfl
    exact hBackslash hMember
  rw [List.map_congr_left hSame, List.map_id]

/- A name without slashes is one segment. -/
theorem segmentsOf_of_notMem
    {name : Text}
    (hNonempty : name ≠ [])
    (hSlash : '/' ∉ name)
    (hBackslash : '\\' ∉ name) :
    segmentsOf name = [name] := by
  unfold segmentsOf
  rw [map_toSlash_of_notMem hBackslash]
  apply Text.pieces_of_uncut hNonempty
  intro c hMember
  rw [beq_eq_false_iff_ne]
  rintro rfl
  exact hSlash hMember

/- Names without slashes are their own segments. -/
theorem flatMap_segmentsOf_of_notMem
    {names : List Text}
    (hNonempty : ∀ name ∈ names, name ≠ [])
    (hSlash : ∀ name ∈ names, '/' ∉ name)
    (hBackslash : ∀ name ∈ names, '\\' ∉ name) :
    names.flatMap segmentsOf = names := by
  rw [List.flatMap_congr fun name hName =>
    segmentsOf_of_notMem (hNonempty name hName) (hSlash name hName)
      (hBackslash name hName)]
  exact List.flatMap_singleton' names

/- So are the names of files and directories. -/
theorem flatMap_segmentsOf_of_isName
    {names : List Text}
    (hNames : ∀ name ∈ names, Path.IsName name) :
    names.flatMap segmentsOf = names := by
  apply flatMap_segmentsOf_of_notMem
  · intro name hName
    exact Path.ne_nil_of_keeps (hNames name hName).isKept
  · intro name hName
    exact (hNames name hName).no_slash
  · intro name hName
    exact (hNames name hName).no_backslash

/- Behind leading slashes, joined parts have their segments. -/
theorem segmentsOf_append_join
    {lead : Text}
    (hLead : ∀ c ∈ lead, (c == '/') = true)
    (parts : List Text) :
    segmentsOf (lead ++ Text.join ['/'] parts) =
      parts.flatMap segmentsOf := by
  have hSlashes : ∀ c ∈ lead.map toSlash, (c == '/') = true := by
    intro c hMember
    rcases List.mem_map.mp hMember with ⟨d, hLeading, rfl⟩
    rw [eq_of_beq (hLead d hLeading)]
    rfl
  unfold segmentsOf
  rw [List.map_append, Text.pieces_cut_append hSlashes,
    Text.map_join]
  exact (Text.pieces_join '/' (parts.map (List.map toSlash))).trans
    (List.flatMap_map _ _ parts)

------------------------------------------------------------
-- Names of Modules
------------------------------------------------------------

/- An extension at the end of a name is dropped. -/
theorem dropExtension_append
    {extension : Text}
    (hExtension : extension ≠ [])
    (name : Text) :
    dropExtension extension (name ++ '.' :: extension) = name := by
  have hSuffix :
      ('.' :: extension).isSuffixOf (name ++ '.' :: extension) =
        true :=
    List.isSuffixOf_iff_suffix.mpr (List.suffix_append _ _)
  unfold dropExtension Text.dropEnding?
  rw [if_pos hSuffix]
  simp [hExtension]

/- What is left of a name is a start of it. -/
theorem dropExtension_isPrefix
    (extension name : Text) :
    dropExtension extension name <+: name := by
  unfold dropExtension Text.dropEnding?
  split
  · exact List.prefix_refl name
  · split
    · exact List.take_prefix _ name
    · exact List.prefix_refl name

/- No backslash is left in the name of a module. -/
theorem backslash_notMem_moduleName
    (extension name : Text) :
    '\\' ∉ moduleName extension name := by
  intro hMember
  rcases Text.mem_or_mem_of_mem_join hMember with
    hColon | ⟨segment, hSegment, hMember⟩
  · exact absurd hColon (by decide)
  · have hName := Text.mem_join ['/'] (List.mem_of_mem_filter hSegment)
      hMember
    rw [Text.join_splitAt] at hName
    have hSlashed :=
      (List.dropWhile_suffix _).subset
        ((dropExtension_isPrefix extension _).subset hName)
    rcases List.mem_map.mp hSlashed with ⟨c, -, hChar⟩
    split at hChar
    · exact absurd hChar (by decide)
    · contradiction

/-
  The name of a module has the segments of the file's name
  before its extension.
-/
theorem moduleName_append
    {front extension : Text}
    (hFront : ∃ c ∈ front, c ≠ '/' ∧ c ≠ '\\')
    (hExtension : extension ≠ [])
    (hBackslash : '\\' ∉ extension) :
    moduleName extension (front ++ '.' :: extension) =
      Text.join [':', ':'] (segmentsOf front) := by
  have hMap :
      (front ++ '.' :: extension).map toSlash =
        front.map toSlash ++ '.' :: extension := by
    rw [List.map_append, List.map_cons,
      map_toSlash_of_notMem hBackslash]
    rfl
  have hDrop :
      (front.map toSlash ++ '.' :: extension).dropWhile
          (· == '/') =
        (front.map toSlash).dropWhile (· == '/') ++
          '.' :: extension := by
    rcases hFront with ⟨c, hMember, hSlash, hNoBackslash⟩
    have hSome :
        ¬((front.map toSlash).dropWhile
          (· == '/')).isEmpty = true := by
      intro hEmpty
      have hAll := List.dropWhile_eq_nil_iff.mp
        (List.isEmpty_iff.mp hEmpty) (toSlash c)
        (List.mem_map_of_mem hMember)
      rw [toSlash, if_neg hNoBackslash] at hAll
      exact hSlash (eq_of_beq hAll)
    rw [List.dropWhile_append, if_neg hSome]
  calc moduleName extension (front ++ '.' :: extension)
      = Text.join [':', ':']
          ((Text.splitAt '/' (dropExtension extension
            (((front ++ '.' :: extension).map toSlash).dropWhile
              (· == '/')))).filter (!·.isEmpty)) := rfl
    _ = Text.join [':', ':'] (segmentsOf front) := by
        rw [hMap, hDrop, dropExtension_append hExtension,
          Text.filter_splitAt, Text.pieces_dropWhile]
        rfl

/- The segments of a module's name are those of its file's name. -/
theorem moduleName_join
    {lead : Text}
    (hLead : ∀ c ∈ lead, (c == '/') = true)
    (parts : List Text)
    {stem extension : Text}
    (hStem : stem ≠ [])
    (hExtension : extension ≠ [])
    (hFileSlash : '/' ∉ stem ++ '.' :: extension)
    (hFileBackslash : '\\' ∉ stem ++ '.' :: extension) :
    moduleName extension
        (lead ++ Text.join ['/']
          (parts ++ [stem ++ '.' :: extension])) =
      Text.join [':', ':']
        (parts.flatMap segmentsOf ++ [stem]) := by
  have hSlash : '/' ∉ stem := by
    intro hMember
    exact hFileSlash (List.mem_append_left _ hMember)
  have hBackslash : '\\' ∉ stem := by
    intro hMember
    exact hFileBackslash (List.mem_append_left _ hMember)
  have hNoBackslash : '\\' ∉ extension := by
    intro hMember
    exact hFileBackslash (List.mem_append_right _
      (List.mem_cons_of_mem _ hMember))
  have hInk :
      ∃ c ∈ lead ++ Text.join ['/'] (parts ++ [stem]),
        c ≠ '/' ∧ c ≠ '\\' := by
    rcases List.exists_mem_of_ne_nil stem hStem with ⟨c, hMember⟩
    refine ⟨c, ?_, ?_, ?_⟩
    · apply List.mem_append_right
      exact Text.mem_join ['/']
        (List.mem_append_right parts (List.mem_singleton_self stem))
        hMember
    · rintro rfl
      exact hSlash hMember
    · rintro rfl
      exact hBackslash hMember
  rw [Text.join_append_singleton_append, ← List.append_assoc,
    moduleName_append hInk hExtension hNoBackslash,
    segmentsOf_append_join hLead, List.flatMap_append,
    List.flatMap_singleton,
    segmentsOf_of_notMem hStem hSlash hBackslash]

------------------------------------------------------------
-- Names Below a Root
------------------------------------------------------------

/-
  A name below a root loses the root, unless the root collapses
  to where it starts: then it is kept as it is.
-/
theorem relativeTo_append
    {root : Path}
    (hRoot : root.IsStored)
    {names : List Text}
    (hNames : ∀ name ∈ names, Path.IsName name)
    (hSome : names ≠ []) :
    relativeTo root.toText
        (root.append { segments := names }).toText =
      if root.collapse.segments = [] then
        (root.append { segments := names }).toText
      else '/' :: Text.join ['/'] names := by
  have hUp : Path.up ∉ names := by
    intro hMember
    exact (hNames Path.up hMember).ne_up rfl
  have hRootText :
      collapsed root.toText = root.collapse.toText := by
    rw [collapsed, Path.ofText_toText hRoot]
  have hPathText :
      collapsed (root.append { segments := names }).toText =
        (root.collapse.append { segments := names }).toText := by
    rw [collapsed, Path.ofText_toText (hRoot.append hNames),
      Path.collapse_append root hUp]
  have hEmpty : ¬root.toText.isEmpty = true := by
    rw [List.isEmpty_iff]
    exact Path.toText_ne_nil hRoot
  unfold relativeTo
  rw [if_neg hEmpty, hRootText, hPathText]
  by_cases hCollapse : root.collapse.segments = []
  · have hNot :=
      Path.not_prefix_append hCollapse hNames hSome
    rw [← List.isPrefixOf_iff_prefix] at hNot
    rw [if_neg hNot, if_pos hCollapse]
  · have hPrefix :
        (root.collapse.toText ++ ['/']).isPrefixOf
            (root.collapse.toText ++
              '/' :: Text.join ['/'] names) =
          true := by
      apply List.isPrefixOf_iff_prefix.mpr
      exact ⟨Text.join ['/'] names, by simp⟩
    rw [Path.toText_append hCollapse hSome, if_pos hPrefix,
      if_neg hCollapse, List.drop_left]

section Below

variable
  {root : Path}
  {folders : List Text}
  {stem extension : Text}

/-
  The name of a module below a root has the folders and the
  stem of its file, and before them the segments of a root that
  collapses to where it starts.
-/
theorem moduleName_relativeTo
    (hRoot : root.IsStored)
    (hFolders : ∀ folder ∈ folders, Path.IsName folder)
    (hStem : stem ≠ [])
    (hExtension : extension ≠ [])
    (hFile : Path.IsName (stem ++ '.' :: extension)) :
    moduleName extension
        (relativeTo root.toText
          (root.append
            { segments :=
                folders ++ [stem ++ '.' :: extension] }).toText) =
      Text.join [':', ':']
        ((if root.collapse.segments = [] then
            root.segments.flatMap segmentsOf
          else []) ++ (folders ++ [stem])) := by
  have hNames :
      ∀ name ∈ folders ++ [stem ++ '.' :: extension],
        Path.IsName name :=
    List.forall_mem_append.mpr
      ⟨hFolders, List.forall_mem_singleton.mpr hFile⟩
  have hSome :
      folders ++ [stem ++ '.' :: extension] ≠ [] := by
    simp
  rw [relativeTo_append hRoot hNames hSome]
  by_cases hCollapse : root.collapse.segments = []
  · have hSegments :
        (root.append
          { segments :=
              folders ++ [stem ++ '.' :: extension] }).segments ≠
          [] :=
      List.append_ne_nil_of_right_ne_nil root.segments hSome
    have hText :
        (root.append
          { segments :=
              folders ++ [stem ++ '.' :: extension] }).toText =
          root.origin.toText ++ Text.join ['/']
            (root.segments ++ folders ++
              [stem ++ '.' :: extension]) := by
      rw [Path.toText_of_ne_nil hSegments, List.append_assoc]
      rfl
    rw [if_pos hCollapse, if_pos hCollapse, hText,
      moduleName_join
        (fun c hMember => Path.Origin.eq_slash_of_mem_toText hMember)
        (root.segments ++ folders) hStem hExtension hFile.no_slash
        hFile.no_backslash,
      List.flatMap_append, flatMap_segmentsOf_of_isName hFolders,
      List.append_assoc]
  · have hLead : ∀ c ∈ ['/'], (c == '/') = true :=
      List.forall_mem_singleton.mpr rfl
    have hName :=
      moduleName_join hLead folders hStem hExtension hFile.no_slash
        hFile.no_backslash
    rw [if_neg hCollapse, if_neg hCollapse,
      ← List.singleton_append, hName,
      flatMap_segmentsOf_of_isName hFolders, List.nil_append]

/-
  The name of a module does not show the root exactly when the
  root is not one that returns.
-/
theorem moduleName_relativeTo_iff
    (hRoot : root.IsStored)
    (hFolders : ∀ folder ∈ folders, Path.IsName folder)
    (hStem : stem ≠ [])
    (hExtension : extension ≠ [])
    (hFile : Path.IsName (stem ++ '.' :: extension)) :
    moduleName extension
        (relativeTo root.toText
          (root.append
            { segments :=
                folders ++ [stem ++ '.' :: extension] }).toText) =
      Text.join [':', ':'] (folders ++ [stem]) ↔
    ¬root.Returns := by
  rw [moduleName_relativeTo hRoot hFolders hStem hExtension hFile]
  by_cases hReturns : root.Returns
  · have hUp : Path.up ∈ root.segments.flatMap segmentsOf := by
      apply List.mem_flatMap.mpr
      exact ⟨Path.up, Path.up_mem_of_returns hReturns, by decide⟩
    have hFront : root.segments.flatMap segmentsOf ≠ [] :=
      List.ne_nil_of_mem hUp
    rw [if_pos hReturns.2,
      Text.join_append [':', ':'] hFront (by simp)]
    constructor
    · intro hEq
      have hLength := congrArg List.length hEq
      simp only [List.length_append, List.length_cons] at hLength
      omega
    · intro hNot
      exact absurd hReturns hNot
  · have hNone :
        (if root.collapse.segments = [] then
          root.segments.flatMap segmentsOf else []) = [] := by
      by_cases hCollapse : root.collapse.segments = []
      · have hSegments : root.segments = [] := by
          by_contra hSegments
          exact hReturns ⟨hSegments, hCollapse⟩
        rw [if_pos hCollapse, hSegments]
        rfl
      · rw [if_neg hCollapse]
    rw [hNone, List.nil_append]
    exact iff_of_true rfl hReturns

end Below

end SourceName

------------------------------------------------------------
-- Names of Read Modules
------------------------------------------------------------

namespace Source

/- The source of a file at a place below a root. -/
def below
    (root : Path)
    (place : Place)
    (fileExtension : Text) : Source :=
  { root
    path := root.append { segments := place }
    fileExtension }

/-
  The name of the current directory, which is empty, does to a
  file below it what its spelling does.
-/
theorem relativeTo_rootName_below
    {root : Path}
    (hRoot : root.IsStored)
    {place : Place}
    (hPlace : ∀ name ∈ place, Path.IsName name)
    (hSome : place ≠ [])
    (fileExtension : Text) :
    SourceName.relativeTo
        (below root place fileExtension).rootName
        (below root place fileExtension).fileName =
      SourceName.relativeTo root.toText
        (root.append { segments := place }).toText := by
  unfold rootName fileName below
  by_cases hHere : root = Path.here
  · have hCollapse : root.collapse.segments = [] := by
      rw [hHere]
      rfl
    rw [if_pos hHere,
      SourceName.relativeTo_append hRoot hPlace hSome,
      if_pos hCollapse]
    rfl
  · rw [if_neg hHere]

end Source

namespace Command

/- The module that `extract` reads from the text of a file. -/
def extracted
    (request : ExtractRequest)
    (text : Text) : ModuleDoc :=
  ModuleDoc.ofText text (Path.ofText request.path).toText
    (Path.ofText request.path).parent.toText
    (sourceExtension request.fileExtension
      (Path.ofText request.path))

/- What `extract` prints of a file that can be read. -/
theorem output_runExtract
    {tree : FileTree}
    {request : ExtractRequest}
    {text : Text}
    (hFile : namesFile tree request.path = true)
    (hRead :
      Source.readPath tree (Path.ofText request.path)
        (Path.ofText request.path).toText = .ok text) :
    (runExtract tree request).output =
      if request.json then Dump.json (extracted request text)
      else Outline.text (extracted request text) := by
  unfold runExtract
  simp only [hFile, hRead]
  rfl

end Command

namespace ModuleDoc

/-
  A module is named by the folders and the stem of its file
  below the root, or by the stem if it is extracted from its
  own directory, exactly when that root or directory is not one
  that goes through segments back to where it starts.
-/
theorem name_iff_not_returns
    {root : Path}
    {folders : List Text}
    {stem extension : Text}
    (hRoot : root.IsStored)
    (hFolders : ∀ folder ∈ folders, Path.IsName folder)
    (hStem : stem ≠ [])
    (hExtension : extension ≠ [])
    (hFile : Path.IsName (stem ++ '.' :: extension))
    (text : Text) :
    let source :=
      Source.below root (folders ++ [stem ++ '.' :: extension])
        extension
    ((ofText text source.fileName source.rootName
        source.fileExtension).name =
      Text.join [':', ':'] (folders ++ [stem]) ↔
        ¬root.Returns) ∧
    ∀ (tree : FileTree) (request : ExtractRequest),
      Path.ofText request.path = source.path →
      Command.sourceExtension request.fileExtension source.path =
        extension →
      Command.namesFile tree request.path = true →
      Source.readPath tree source.path source.fileName =
        .ok text →
      (Command.runExtract tree request).output =
        (if request.json then
          Dump.json (Command.extracted request text)
        else Outline.text (Command.extracted request text)) ∧
      ((Command.extracted request text).name = stem ↔
        ¬source.path.parent.Returns) := by
  intro source
  constructor
  · have hPlace :
        ∀ name ∈ folders ++ [stem ++ '.' :: extension],
          Path.IsName name :=
      List.forall_mem_append.mpr
        ⟨hFolders, List.forall_mem_singleton.mpr hFile⟩
    have hName :=
      Source.relativeTo_rootName_below hRoot hPlace (by simp)
        extension
    unfold name ofText
    rw [hName]
    exact SourceName.moduleName_relativeTo_iff hRoot hFolders hStem
      hExtension hFile
  · intro tree request hPath hAsked hNames hRead
    constructor
    · apply Command.output_runExtract hNames
      rw [hPath]
      exact hRead
    · -- The directory of the file is a root with no folders.
      have hName :=
        SourceName.moduleName_relativeTo_iff
          (hRoot.append hFolders) (List.forall_mem_nil _) hStem
          hExtension hFile
      rw [List.nil_append, List.nil_append,
        ← Path.append_append, Text.join_singleton] at hName
      have hParent :
          source.path.parent =
            root.append { segments := folders } :=
        Path.parent_append root folders (stem ++ '.' :: extension)
      unfold Command.extracted name ofText
      rw [hPath, hAsked, hParent]
      exact hName

/-
  A root that goes up, down and up again does not show in the
  names of the modules below it.
-/
theorem name_iff_not_returns_up :
    let tree : FileTree :=
      { root := .directory
          [("a".toList, .directory []),
            ("m".toList,
              .directory [("x.y.dwl".toList, .file [])])]
        home := ["a".toList] }
    let request : ExtractRequest :=
      { path := "../a/..//m/x.y.dwl".toList }
    (ofText [] "../a/../m/x.y.dwl".toList "../a/..".toList
        "dwl".toList).name = "m::x.y".toList ∧
    (Command.runExtract tree request).output =
      Outline.text (Command.extracted request []) ∧
    (Command.extracted request []).name = "x.y".toList := by
  intro tree request
  have hRoot := Path.isStored_ofText "../a/..".toList
  have hFolders :
      ∀ folder ∈ ["m".toList], Path.IsName folder :=
    List.forall_mem_singleton.mpr
      ⟨by decide, by decide, by decide, by decide⟩
  have hFile : Path.IsName ("x.y".toList ++ '.' :: "dwl".toList) :=
    ⟨by decide, by decide, by decide, by decide⟩
  rcases name_iff_not_returns hRoot hFolders (by decide)
      (by decide) hFile [] with ⟨hSource, hExtract⟩
  rcases hExtract tree request (by decide) (by decide) (by decide)
      (by rfl) with ⟨hOutput, hName⟩
  exact ⟨hSource.mpr (by decide), hOutput,
    hName.mpr (by decide)⟩

/-
  Below the root `a/..`, which returns, the module of `x.dwl` is
  not named `x` but `a::..::x`.
-/
theorem name_ne_of_returning_root :
    let source :=
      Source.below (Path.ofText "a/..".toList) ["x.dwl".toList]
        "dwl".toList
    let module :=
      ofText [] source.fileName source.rootName
        source.fileExtension
    module.name ≠ Text.join [':', ':'] ["x".toList] ∧
      module.name = "a::..::x".toList := by
  decide

end ModuleDoc

end Marginalia
