import Marginalia.Proofs.Attempts
import Marginalia.Proofs.FileTree.Listing

/-
  This file shows that a file tree stays lawful when a file is
  stored in it, that the paths that led to files before still
  lead there, and that storing the same file again changes
  nothing.

  Main results:
    * `FileTree.Lawful.empty`
    * `FileTree.Lawful.store`
    * `FileTree.Stored.read_eq`
    * `FileTree.store_again`
-/

namespace Marginalia

namespace FileTree

open Node

------------------------------------------------------------
-- Lawful Trees
------------------------------------------------------------

/- No way through a tree leads to a name that leads upwards. -/
theorem up_notMem_of_followFrom
    {tree : FileTree}
    {start place : Place}
    (hStart : Path.up ∉ start)
    {segments : List Text}
    (hFollow : tree.followFrom start segments = .ok place) :
    Path.up ∉ place := by
  induction segments generalizing start with
  | nil =>
      cases hFollow
      exact hStart
  | cons segment rest ih =>
      unfold followFrom at hFollow
      split at hFollow
      · split at hFollow
        · apply ih _ hFollow
          intro hMember
          exact hStart (List.dropLast_subset _ hMember)
        · rename_i hSegment
          apply ih _ hFollow
          intro hMember
          rcases List.mem_append.mp hMember with hOld | hNew
          · exact hStart hOld
          · exact hSegment (List.mem_singleton.mp hNew).symm
      · cases hFollow
      · cases hFollow

namespace Lawful

/- What stands at a place has no name that leads upwards. -/
theorem up_notMem_of_kind?
    {tree : FileTree}
    (hTree : tree.Lawful)
    {place : Place}
    {kind : Kind}
    (hKind : tree.kind? place = some kind) :
    Path.up ∉ place := by
  rcases Option.map_eq_some_iff.mp hKind with ⟨node, hNode, -⟩
  exact hTree.named place node hNode

/- A leaf may be put where a path leads and no directory stands. -/
theorem put
    {tree : FileTree}
    (hTree : tree.Lawful)
    {path : Path}
    {place : Place}
    (hFollow : tree.follow path = .ok place)
    (hPlace : tree.kind? place ≠ some .directory)
    {new : Node}
    (hLeaf : ∀ name rest, Node.kind? (name :: rest) new = none)
    (hNew : new.WellFormed) :
    (tree.put place new).Lawful := by
  have hKind :=
    kind?_put_of_offers (offers_of_follow hTree.home hFollow) hPlace
      hLeaf
  have hOrigin : Path.up ∉ tree.origin path :=
    hTree.up_notMem_of_kind? (kind?_origin hTree.home path)
  refine ⟨?_, wellFormed_put hNew place hTree.ordered, ?_⟩
  · change (tree.put place new).kind? tree.home = some .directory
    rw [hKind, if_neg]
    · exact hTree.home
    · intro hHome
      rw [← hHome] at hPlace
      exact hPlace hTree.home
  · intro other node hNode
    have hOther : (tree.put place new).kind? other = some node.kind := by
      unfold FileTree.kind? Node.kind?
      exact Option.map_eq_some_iff.mpr ⟨node, hNode, rfl⟩
    rw [hKind] at hOther
    split at hOther
    · rename_i hSame
      rw [hSame]
      exact up_notMem_of_followFrom hOrigin hFollow
    · exact hTree.up_notMem_of_kind? hOther

/- A tree without files is lawful. -/
theorem empty : Lawful {} where
  home := rfl
  ordered := by
    unfold WellFormed emptyDirectory OrderedEntries
    trivial
  named := by
    intro place node hNode
    cases place with
    | nil => exact List.not_mem_nil
    | cons name rest => cases hNode

/- A tree stays lawful when a directory is made. -/
theorem makeDirectory
    {tree made : FileTree}
    (hTree : tree.Lawful)
    {path : Path}
    (hMade : tree.makeDirectory path = .ok made) :
    made.Lawful := by
  unfold FileTree.makeDirectory at hMade
  split at hMade
  · cases hMade
  · rename_i place hFollow
    split at hMade
    · cases hMade
    · rename_i hNode
      cases hMade
      apply hTree.put hFollow _ kind?_cons_emptyDirectory
      · unfold WellFormed emptyDirectory OrderedEntries
        trivial
      · intro hDirectory
        rcases exists_get?_eq_directory_iff.mpr hDirectory with
          ⟨entries, hEntries⟩
        cases hNode.symm.trans hEntries

/- A tree stays lawful when a file is stored. -/
theorem store
    {tree written : FileTree}
    (hTree : tree.Lawful)
    {path : Path}
    {content : List UInt8}
    (hStore : tree.store path content = (.ok (), written)) :
    written.Lawful := by
  rcases store_eq_ok_iff.mp hStore with ⟨made, hMade, hWritten⟩
  have hDirectories : made.Lawful := by
    have hKept :
        (tree.makeDirectories path.parent).2.Lawful := by
      apply makeDirectoriesTo_keeps _ hTree
      intro before made path hBefore hMade
      exact hBefore.makeDirectory hMade
    rw [hMade] at hKept
    exact hKept
  rcases write_eq_ok_iff.mp hWritten with
    ⟨place, hFollow, hPlace, rfl⟩
  apply hDirectories.put hFollow hPlace (kind?_cons_file content)
  unfold WellFormed
  trivial

end Lawful

------------------------------------------------------------
-- Reading after Storing
------------------------------------------------------------

/- A file is read where its path leads. -/
theorem read_eq_ok_iff
    {tree : FileTree}
    {path : Path}
    {content : List UInt8} :
    tree.read path = .ok content ↔
      ∃ place,
        tree.follow path = .ok place ∧
          tree.kind? place = some (.file content) := by
  have hRead :
      tree.read path = .ok content ↔
        tree.find path = .ok (.file content) := by
    unfold read
    cases tree.find path with
    | error fault => simp
    | ok node => cases node <;> simp
  rw [hRead, find_eq_ok_iff]
  simp only [node?_eq_file_iff]

namespace Stored

variable
    {before after : FileTree}
    {place : Place}
    {content : List UInt8}

/- Paths lead where they led before. -/
theorem follow_eq
    (hStored : Stored before after place content)
    {path : Path}
    {other : Place}
    (hFollow : before.follow path = .ok other) :
    after.follow path = .ok other := by
  have hOrigin : after.origin path = before.origin path := by
    unfold origin
    rw [hStored.home]
  unfold follow at hFollow ⊢
  rw [hOrigin]
  exact followFrom_of_directories hStored.directory hFollow

/- What was a file is one. -/
theorem isFile
    (hStored : Stored before after place content)
    {path : Path}
    (hFile : before.isFile path = true) :
    after.isFile path = true := by
  rw [isFile_iff] at hFile ⊢
  rcases hFile with ⟨bytes, hRead⟩
  rcases read_eq_ok_iff.mp hRead with ⟨other, hFollow, hKind⟩
  have hAfter := hStored.follow_eq hFollow
  by_cases hOther : other = place
  · rw [hOther] at hAfter
    exact ⟨content,
      read_eq_ok_iff.mpr ⟨place, hAfter, hStored.stored⟩⟩
  · exact ⟨bytes, read_eq_ok_iff.mpr
      ⟨other, hAfter, (hStored.file other hOther bytes).mpr hKind⟩⟩

/- A file at another place is read as before. -/
theorem read_eq
    (hStored : Stored before after place content)
    {path : Path}
    (hFile : before.isFile path = true)
    (hOther : after.follow path ≠ .ok place) :
    after.read path = before.read path := by
  rcases isFile_iff.mp hFile with ⟨bytes, hRead⟩
  rcases read_eq_ok_iff.mp hRead with ⟨other, hFollow, hKind⟩
  have hAfter := hStored.follow_eq hFollow
  have hPlace : other ≠ place := by
    intro hSame
    rw [hSame] at hAfter
    exact hOther hAfter
  rw [hRead, read_eq_ok_iff]
  exact ⟨other, hAfter, (hStored.file other hPlace bytes).mpr hKind⟩

end Stored

------------------------------------------------------------
-- Storing Again
------------------------------------------------------------

/- Nothing is made where there is a directory. -/
theorem ensureDirectory_of_isDirectory
    {tree : FileTree}
    {path : Path}
    (hDirectory : tree.isDirectory path = true) :
    tree.ensureDirectory path = .ok tree := by
  have hExists : tree.makeDirectory path = .error .alreadyExists := by
    unfold isDirectory at hDirectory
    split at hDirectory
    · rename_i node hFind
      rcases find_eq_ok_iff.mp hFind with ⟨place, hFollow, hNode⟩
      unfold makeDirectory
      rw [hFollow]
      dsimp only
      rw [hNode]
    · cases hDirectory
  unfold ensureDirectory
  rw [hExists]
  dsimp only
  rw [if_pos hDirectory]

/- No directories are made above one that is there. -/
theorem makeDirectories_of_isDirectory
    {tree : FileTree}
    {path : Path}
    (hDirectory : tree.isDirectory path = true) :
    tree.makeDirectories path = (.ok (), tree) := by
  have hEnsure := ensureDirectory_of_isDirectory hDirectory
  unfold makeDirectories
  cases hSegments : path.segments.reverse with
  | nil =>
      have hPath : { origin := path.origin } = path := by
        rw [List.reverse_eq_nil_iff] at hSegments
        rw [← hSegments]
      unfold makeDirectoriesTo
      rw [hPath, hEnsure]
  | cons last before =>
      have hPath :
          { origin := path.origin
            segments := (last :: before).reverse } = path := by
        rw [← hSegments, List.reverse_reverse]
      unfold makeDirectoriesTo
      dsimp only
      rw [hPath, hEnsure]

/- A path to a file goes through a directory. -/
theorem isDirectory_parent
    {tree : FileTree}
    (hHome : tree.kind? tree.home = some .directory)
    {path : Path}
    {place : Place}
    {content : List UInt8}
    (hFollow : tree.follow path = .ok place)
    (hFile : tree.kind? place = some (.file content)) :
    tree.isDirectory path.parent = true := by
  unfold follow at hFollow
  rcases List.eq_nil_or_concat path.segments with
    hSegments | ⟨init, last, hSegments⟩
  · rw [hSegments] at hFollow
    cases hFollow
    rw [kind?_origin hHome path] at hFile
    cases hFile
  · rw [hSegments, List.concat_eq_append, followFrom_append,
      Attempts.bind_eq_ok_iff] at hFollow
    rcases hFollow with ⟨above, hAbove, hLast⟩
    have hParent : tree.follow path.parent = .ok above := by
      unfold Path.parent
      rw [hSegments, List.concat_eq_append, List.dropLast_concat]
      exact hAbove
    unfold followFrom at hLast
    split at hLast
    · rename_i entries hNode
      unfold isDirectory
      rw [find_eq_ok_iff.mpr ⟨above, hParent, hNode⟩]
      rfl
    · cases hLast
    · cases hLast

/- A file that is stored where it stands changes nothing. -/
theorem store_again
    {tree : FileTree}
    (hTree : tree.Lawful)
    {path : Path}
    {place : Place}
    {content : List UInt8}
    (hFollow : tree.follow path = .ok place)
    (hFile : tree.kind? place = some (.file content)) :
    tree.store path content = (.ok (), tree) := by
  have hParent := isDirectory_parent hTree.home hFollow hFile
  have hSame : tree.put place (.file content) = tree := by
    unfold FileTree.put
    rw [put_self hTree.ordered (get?_eq_file_iff.mpr hFile)]
  apply store_eq_ok_iff.mpr
  refine ⟨tree, makeDirectories_of_isDirectory hParent, ?_⟩
  apply write_eq_ok_iff.mpr
  refine ⟨place, hFollow, ?_, hSame.symm⟩
  rw [hFile]
  simp

end FileTree

end Marginalia
