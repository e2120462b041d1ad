import Marginalia.Proofs.Attempts
import Marginalia.Proofs.FileTree.Listing
import Marginalia.Source

/-
  This file shows which sources are collected and by which of
  them reading is stopped. Sources that are found below a
  directory are files, and so are those that are named, so
  that only their bytes can make them unreadable.

  Key definitions include:
    * `Source.ofName`
    * `Source.sought`
    * `Source.AllFound`

  Main results:
    * `Source.isFile_of_mem_discover`
    * `Source.collect_eq_ok_iff`
    * `Source.collect_eq_error_iff`
    * `Source.parse_eq_error_iff`
-/

namespace Marginalia

------------------------------------------------------------
-- Collecting Sources
------------------------------------------------------------

namespace Source

/- What is found below a directory is a file. -/
theorem isFile_of_mem_discover
    {tree : FileTree}
    (hTree : tree.Lawful)
    {fileExtension : Text}
    {directory : Path}
    {source : Source}
    (hSource : source ∈ discover tree fileExtension directory) :
    tree.isFile source.path = true := by
  unfold discover at hSource
  split at hSource
  · rename_i entries hFind
    rcases FileTree.find_eq_ok_iff.mp hFind with
      ⟨start, hFollow, hStart⟩
    rcases List.mem_map.mp hSource with
      ⟨⟨place, content⟩, hMember, rfl⟩
    have hFile :
        (place, content) ∈ (Node.directory entries).sorted.files := by
      unfold Node.sorted Node.files
      exact (List.mem_filter.mp hMember).1
    have hNode : tree.node? (start ++ place) = some (.file content) := by
      unfold FileTree.node? at hStart ⊢
      rw [Node.get?_append, hStart]
      exact Node.mem_files_sorted_iff.mp hFile
    have hUp : Path.up ∉ place := by
      intro hMember
      exact hTree.named _ _ hNode (List.mem_append_right _ hMember)
    have hFound :
        tree.find
            { directory with segments := directory.segments ++ place } =
          .ok (.file content) := by
      rw [FileTree.find_eq_ok_iff]
      refine ⟨start ++ place, ?_, hNode⟩
      unfold FileTree.follow at hFollow ⊢
      rw [FileTree.followFrom_append]
      change tree.followFrom (tree.origin directory) _ >>= _ = _
      rw [hFollow]
      exact FileTree.followFrom_of_node? hNode hUp
    unfold FileTree.isFile
    rw [hFound]
    rfl
  · cases hSource

/- The source that settings give by a name. -/
def ofName
    (settings : Settings)
    (name : Text) : Source where
  root := settings.projectRoot
  path := settings.projectRoot.append (Path.ofText name)
  fileExtension := settings.fileExtension

/-
  The sources that settings ask for: those below the
  directories, then those that are named, in the given order.
-/
def sought
    (tree : FileTree)
    (settings : Settings) : List Source :=
  settings.directories.flatMap (fun directory =>
    discover tree settings.fileExtension
      (settings.projectRoot.append (Path.ofText directory))) ++
    settings.files.map (ofName settings)

/- All sources that are named are files. -/
def AllFound
    (tree : FileTree)
    (settings : Settings) : Prop :=
  ∀ name ∈ settings.files,
    tree.isFile (ofName settings name).path = true

/- A name stands for its source if that is a file. -/
theorem resolve_eq
    (tree : FileTree)
    (settings : Settings)
    (name : Text) :
    resolve tree settings.fileExtension settings.projectRoot name =
      if tree.isFile (ofName settings name).path then
        .ok (ofName settings name)
      else .error (.sourceNotFound (ofName settings name).fileName) :=
  rfl

/- A name is found if its source is a file. -/
theorem exists_resolve_iff
    {tree : FileTree}
    {settings : Settings}
    {name : Text} :
    (∃ source,
      resolve tree settings.fileExtension settings.projectRoot name =
        .ok source) ↔
      tree.isFile (ofName settings name).path = true := by
  rw [resolve_eq]
  split
  · exact ⟨fun _ => ‹_›, fun _ => ⟨_, rfl⟩⟩
  · simp_all

/- A name that is not found is reported by its path. -/
theorem resolve_eq_error_iff
    {tree : FileTree}
    {settings : Settings}
    {name : Text}
    {fault : Fault} :
    resolve tree settings.fileExtension settings.projectRoot name =
        .error fault ↔
      tree.isFile (ofName settings name).path = false ∧
        fault = .sourceNotFound (ofName settings name).fileName := by
  rw [resolve_eq]
  split
  · simp_all
  · rename_i hMissing
    rw [Bool.not_eq_true] at hMissing
    simp only [hMissing, true_and, Except.error.injEq]
    exact eq_comm

/- All that is asked for is collected if the named files are there. -/
theorem collect_eq_ok_iff
    {tree : FileTree}
    {settings : Settings}
    {sources : List Source} :
    collect tree settings = .ok sources ↔
      AllFound tree settings ∧ sources = sought tree settings := by
  have hNamed (hFiles : AllFound tree settings) :
      settings.files.mapM
          (resolve tree settings.fileExtension settings.projectRoot) =
        .ok (settings.files.map (ofName settings)) := by
    rw [Attempts.mapM_eq_ok_iff, List.map_map]
    apply List.map_congr_left
    intro name hName
    rw [resolve_eq, if_pos (hFiles name hName)]
    rfl
  constructor
  · intro hCollect
    unfold collect at hCollect
    cases hResolved : settings.files.mapM
        (resolve tree settings.fileExtension settings.projectRoot) with
    | error fault =>
        rw [hResolved] at hCollect
        cases hCollect
    | ok named =>
        have hFiles : AllFound tree settings := by
          intro name hName
          have hAll := Attempts.mapM_eq_ok_iff.mp hResolved
          have hMember :=
            List.mem_map_of_mem (f := resolve tree
              settings.fileExtension settings.projectRoot) hName
          rw [hAll] at hMember
          rcases List.mem_map.mp hMember with ⟨source, _, hSource⟩
          exact exists_resolve_iff.mp ⟨source, hSource.symm⟩
        rw [hNamed hFiles] at hCollect
        cases hCollect
        exact ⟨hFiles, rfl⟩
  · rintro ⟨hFiles, rfl⟩
    unfold collect
    rw [hNamed hFiles]
    rfl

/- Collecting stops at the first named file that is missing. -/
theorem collect_eq_error_iff
    {tree : FileTree}
    {settings : Settings}
    {fault : Fault} :
    collect tree settings = .error fault ↔
      ∃ before name after,
        settings.files = before ++ name :: after ∧
          (∀ earlier ∈ before,
            tree.isFile (ofName settings earlier).path = true) ∧
          tree.isFile (ofName settings name).path = false ∧
          fault = .sourceNotFound (ofName settings name).fileName := by
  have hCollect :
      collect tree settings = .error fault ↔
        settings.files.mapM
            (resolve tree settings.fileExtension
              settings.projectRoot) =
          .error fault := by
    unfold collect
    cases settings.files.mapM
        (resolve tree settings.fileExtension settings.projectRoot) <;>
      simp [Except.map]
  rw [hCollect, Attempts.mapM_eq_error_iff]
  simp only [exists_resolve_iff, resolve_eq_error_iff]

------------------------------------------------------------
-- Reading Sources
------------------------------------------------------------

/- Every source that is collected is a file. -/
theorem isFile_of_mem_sought
    {tree : FileTree}
    (hTree : tree.Lawful)
    {settings : Settings}
    (hFiles : AllFound tree settings)
    {source : Source}
    (hSource : source ∈ sought tree settings) :
    tree.isFile source.path = true := by
  rcases List.mem_append.mp hSource with hFound | hNamed
  · rcases List.mem_flatMap.mp hFound with ⟨directory, _, hFound⟩
    exact isFile_of_mem_discover hTree hFound
  · rcases List.mem_map.mp hNamed with ⟨name, hName, rfl⟩
    exact hFiles name hName

/- A source is parsed if its text can be read. -/
theorem exists_parse_iff
    {tree : FileTree}
    {source : Source} :
    (∃ module, parse tree source = .ok module) ↔
      ∃ text, tree.readText source.path = .ok text := by
  unfold parse readPath
  split
  · rename_i text hText
    exact ⟨fun _ => ⟨text, hText⟩, fun _ => ⟨_, rfl⟩⟩
  · simp_all [Except.map]
  · simp_all [Except.map]

/- A file is not parsed only if its bytes cannot be decoded. -/
theorem parse_eq_error_iff
    {tree : FileTree}
    {source : Source}
    (hFile : tree.isFile source.path = true)
    {fault : Fault} :
    parse tree source = .error fault ↔
      ∃ broken,
        tree.readText source.path = .error (.decoding broken) ∧
          fault =
            .sourceUnreadable source.fileName source.path
              (.decoding broken) := by
  unfold parse readPath
  rcases FileTree.readText_cases hFile with
    ⟨text, hText⟩ | ⟨broken, hText⟩
  · simp [hText, Except.map]
  · simp [hText, Except.map, eq_comm]

end Source

end Marginalia
