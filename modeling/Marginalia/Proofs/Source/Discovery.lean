import Marginalia.Proofs.FileTree.Listing
import Marginalia.Proofs.Source.Collection

/-
  This file describes which sources are found below a
  directory: one for each file with the extension, in the
  order of their places. What is found therefore depends only
  on where such files stand.

  Key definitions include:
    * `Source.listed`
    * `Source.ofPlace`

  Main results:
    * `Source.discover_eq_of_follow`
    * `Source.discover_eq`
    * `Source.mem_listed_iff`
    * `Source.listed_pairwise`
    * `Source.follow_ofPlace`
    * `Source.discover_lists`
-/

namespace Marginalia

------------------------------------------------------------
-- Following Straight Paths
------------------------------------------------------------

namespace FileTree

/- Segments that never lead upwards lead to their own place. -/
theorem place_eq_of_followFrom
    {tree : FileTree}
    {start place : Place}
    {segments : List Text}
    (hUp : Path.up ∉ segments)
    (hFollow : tree.followFrom start segments = .ok place) :
    place = start ++ segments := by
  induction segments generalizing start with
  | nil =>
      cases hFollow
      exact (List.append_nil place).symm
  | cons segment rest ih =>
      have hSegment : segment ≠ Path.up := by
        rintro rfl
        exact hUp List.mem_cons_self
      have hRest : Path.up ∉ rest := by
        intro hMember
        exact hUp (List.mem_cons_of_mem _ hMember)
      unfold followFrom at hFollow
      split at hFollow
      · rw [if_neg hSegment] at hFollow
        rw [ih hRest hFollow, ← List.append_cons]
      · cases hFollow
      · cases hFollow

/- The files below a place are those that stand there. -/
theorem mem_filesBelow_iff
    {tree : FileTree}
    {start place : Place}
    {content : List UInt8} :
    (place, content) ∈ tree.filesBelow start ↔
      tree.kind? (start ++ place) = some (.file content) := by
  rw [← node?_eq_file_iff]
  unfold filesBelow node?
  rw [Node.get?_append]
  cases Node.get? start tree.root with
  | none => simp
  | some node => exact Node.mem_files_sorted_iff

/- The files below a place are listed in order. -/
theorem filesBelow_pairwise
    (tree : FileTree)
    (start : Place) :
    (tree.filesBelow start).Pairwise fun left right =>
      Place.Precedes left.1 right.1 := by
  unfold filesBelow
  cases tree.node? start with
  | none => exact List.Pairwise.nil
  | some node =>
      exact Node.files_pairwise (Node.wellFormed_sorted node)

end FileTree

------------------------------------------------------------
-- Sources Below a Directory
------------------------------------------------------------

namespace Source

/- The places of the files with the extension below a place. -/
def listed
    (tree : FileTree)
    (fileExtension : Text)
    (start : Place) : List Place :=
  ((tree.filesBelow start).map Prod.fst).filter
    (matchesExtension fileExtension)

/- The source at a place below a directory. -/
def ofPlace
    (fileExtension : Text)
    (directory : Path)
    (place : Place) : Source where
  root := directory
  path := { directory with segments := directory.segments ++ place }
  fileExtension := fileExtension

/-
  What is found below a directory is what is listed at the
  place that its path leads to.
-/
theorem discover_eq_of_follow
    {tree : FileTree}
    (fileExtension : Text)
    {directory : Path}
    {start : Place}
    (hFollow : tree.follow directory = .ok start) :
    discover tree fileExtension directory =
      (listed tree fileExtension start).map
        (ofPlace fileExtension directory) := by
  unfold discover FileTree.find listed FileTree.filesBelow
  rw [hFollow]
  cases hNode : tree.node? start with
  | none => simp [hNode]
  | some node =>
      cases node with
      | file content => simp [hNode, Node.sorted, Node.files,
          matchesExtension]
      | directory entries =>
          simp only [hNode]
          rw [Node.sorted, Node.files, List.filter_map, List.map_map]
          rfl

/- What is found below a directory is what is listed there. -/
theorem discover_eq
    (tree : FileTree)
    (fileExtension : Text)
    {directory : Path}
    (hUp : Path.up ∉ directory.segments) :
    discover tree fileExtension directory =
      (listed tree fileExtension
        (tree.origin directory ++ directory.segments)).map
        (ofPlace fileExtension directory) := by
  cases hFollow : tree.follow directory with
  | ok start =>
      rw [discover_eq_of_follow fileExtension hFollow,
        FileTree.place_eq_of_followFrom hUp hFollow]
  | error fault =>
      -- Something at this place could be found.
      have hNone :
          tree.node? (tree.origin directory ++ directory.segments) =
            none := by
        apply Option.eq_none_iff_forall_ne_some.mpr
        intro node hNode
        have hFound := FileTree.followFrom_of_node? hNode hUp
        unfold FileTree.follow at hFollow
        rw [hFound] at hFollow
        cases hFollow
      unfold discover FileTree.find listed FileTree.filesBelow
      rw [hFollow, hNone]
      rfl

/- What is listed below a place. -/
theorem mem_listed_iff
    {tree : FileTree}
    {fileExtension : Text}
    {start place : Place} :
    place ∈ listed tree fileExtension start ↔
      matchesExtension fileExtension place = true ∧
        ∃ content,
          tree.kind? (start ++ place) = some (.file content) := by
  unfold listed
  rw [List.mem_filter, List.mem_map, and_comm]
  apply and_congr_right
  intro hMatches
  constructor
  · rintro ⟨⟨found, content⟩, hMember, rfl⟩
    exact ⟨content, FileTree.mem_filesBelow_iff.mp hMember⟩
  · rintro ⟨content, hKind⟩
    exact ⟨_, FileTree.mem_filesBelow_iff.mpr hKind, rfl⟩

/- What is listed comes in order. -/
theorem listed_pairwise
    (tree : FileTree)
    (fileExtension : Text)
    (start : Place) :
    (listed tree fileExtension start).Pairwise Place.Precedes := by
  unfold listed
  apply List.Pairwise.filter
  exact List.pairwise_map.mpr (FileTree.filesBelow_pairwise tree start)

/- The path of a source that is listed leads to its file. -/
theorem follow_ofPlace
    {tree : FileTree}
    (hTree : tree.Lawful)
    {fileExtension : Text}
    {directory : Path}
    (hUp : Path.up ∉ directory.segments)
    {place : Place}
    (hPlace :
      place ∈ listed tree fileExtension
        (tree.origin directory ++ directory.segments)) :
    tree.follow (ofPlace fileExtension directory place).path =
      .ok (tree.origin directory ++ directory.segments ++ place) := by
  rcases mem_listed_iff.mp hPlace with
    ⟨-, content, hKind⟩
  have hNode := FileTree.node?_eq_file_iff.mpr hKind
  have hBelow : Path.up ∉ place := by
    intro hMember
    exact hTree.named _ _ hNode (List.mem_append_right _ hMember)
  rw [List.append_assoc] at hNode ⊢
  apply FileTree.followFrom_of_node? hNode
  intro hMember
  rcases List.mem_append.mp hMember with hAbove | hAt
  · exact hUp hAbove
  · exact hBelow hAt

------------------------------------------------------------
-- All Sources Below a Directory
------------------------------------------------------------

/- The last name at a place is what has to end in the extension. -/
theorem matchesExtension_iff
    {fileExtension : Text}
    {place : Place} :
    matchesExtension fileExtension place = true ↔
      ∃ above stem,
        place = above ++ [stem ++ '.' :: fileExtension] := by
  unfold matchesExtension
  rcases List.eq_nil_or_concat place with rfl | ⟨above, name, rfl⟩
  · simp
  · rw [List.concat_eq_append, List.getLast?_concat]
    dsimp only
    rw [List.isSuffixOf_iff_suffix]
    constructor
    · intro hEnding
      rcases hEnding with ⟨stem, rfl⟩
      exact ⟨above, stem, rfl⟩
    · intro hParts
      rcases hParts with ⟨other, stem, hPlace⟩
      rcases List.append_inj' hPlace rfl with ⟨-, hName⟩
      rw [List.singleton_inj.mp hName]
      exact List.suffix_append stem ('.' :: fileExtension)

/- Nothing is listed twice. -/
theorem listed_nodup
    (tree : FileTree)
    (fileExtension : Text)
    (start : Place) :
    (listed tree fileExtension start).Nodup := by
  apply (listed_pairwise tree fileExtension start).imp
  intro left right hBefore hSame
  rw [hSame] at hBefore
  exact Std.Asymm.asymm _ _ hBefore hBefore

/- Sources at different places are different. -/
theorem ofPlace_injective
    (fileExtension : Text)
    (directory : Path) :
    Function.Injective (ofPlace fileExtension directory) := by
  intro left right hSame
  have hSegments :=
    congrArg (fun source : Source => source.path.segments) hSame
  exact List.append_cancel_left hSegments

/-
  Below a directory, the files whose names end in the extension
  are found at every depth, each of them once and nothing else,
  in the order of their places. Where there is no directory
  nothing is found, and one warning is given.
-/
theorem discover_lists
    (tree : FileTree)
    (fileExtension : Text)
    (directory : Path) :
    (tree.isDirectory directory = true →
      (discover tree fileExtension directory).Nodup ∧
      discoverEvents tree directory = [] ∧
      ∃ (start : Place) (places : List Place),
        tree.follow directory = .ok start ∧
        discover tree fileExtension directory =
          places.map (ofPlace fileExtension directory) ∧
        places.Pairwise Place.Precedes ∧
        ∀ place,
          place ∈ places ↔
            (∃ content,
              tree.node? (start ++ place) = some (.file content)) ∧
            ∃ above stem,
              place = above ++ [stem ++ '.' :: fileExtension]) ∧
    (tree.isDirectory directory = false →
      discover tree fileExtension directory = [] ∧
      ∃ event,
        discoverEvents tree directory = [event] ∧
        event.level = .warning) := by
  unfold FileTree.isDirectory
  constructor
  · intro hDirectory
    cases hFind : tree.find directory with
    | error fault =>
        rw [hFind] at hDirectory
        cases hDirectory
    | ok node =>
        cases node with
        | file content =>
            rw [hFind] at hDirectory
            cases hDirectory
        | directory entries =>
            rcases FileTree.find_eq_ok_iff.mp hFind with
              ⟨start, hFollow, -⟩
            have hFound := discover_eq_of_follow fileExtension hFollow
            refine ⟨?_, ?_, start, listed tree fileExtension start,
              hFollow, hFound,
              listed_pairwise tree fileExtension start, ?_⟩
            · rw [hFound]
              exact (listed_nodup tree fileExtension start).map
                (ofPlace_injective fileExtension directory)
            · unfold discoverEvents
              rw [hFind]
            · intro place
              rw [mem_listed_iff, matchesExtension_iff, and_comm]
              simp only [FileTree.node?_eq_file_iff]
  · intro hDirectory
    unfold discover discoverEvents
    cases hFind : tree.find directory with
    | error fault => exact ⟨rfl, _, rfl, rfl⟩
    | ok node =>
        cases node with
        | file content => exact ⟨rfl, _, rfl, rfl⟩
        | directory entries =>
            rw [hFind] at hDirectory
            cases hDirectory

/-
  The entries are given in no order. A directory that ends in
  the extension is entered and not found itself, and what is
  below a directory comes before a file whose name goes on. A
  file that is no directory gives a warning.
-/
theorem discover_lists_mixed :
    let tree : FileTree :=
      { root :=
          .directory
            [("s".toList,
              .directory
                [("d.x".toList, .directory [("b.x".toList, .file [])]),
                  ("a.x".toList, .file []),
                  ("n.y".toList, .file []),
                  ("a".toList, .directory [("c.x".toList, .file [])])])] }
    let directory : Path := Path.ofText "s/../s".toList
    tree.isDirectory directory = true ∧
      tree.isDirectory (Path.ofText "s/n.y".toList) = false ∧
      (∃ places : List Place,
        discover tree ['x'] directory =
          places.map (ofPlace ['x'] directory) ∧
        places.Pairwise Place.Precedes ∧
        ["a".toList, "c.x".toList] ∈ places ∧
        ["d.x".toList, "b.x".toList] ∈ places ∧
        ["d.x".toList] ∉ places) ∧
      discover tree ['x'] (Path.ofText "s/n.y".toList) = [] ∧
      ∃ event,
        discoverEvents tree (Path.ofText "s/n.y".toList) = [event] ∧
        event.level = .warning := by
  intro tree directory
  have hDirectory : tree.isDirectory directory = true := rfl
  have hFile :
      tree.isDirectory (Path.ofText "s/n.y".toList) = false := rfl
  rcases (discover_lists tree ['x'] directory).1 hDirectory with
    ⟨-, -, start, places, hFollow, hFound, hOrder, hPlaces⟩
  have hStart : start = ["s".toList] := by
    cases hFollow
    rfl
  have hDeep : ["a".toList, "c.x".toList] ∈ places := by
    rw [hPlaces, hStart]
    exact ⟨⟨[], rfl⟩, ["a".toList], ['c'], rfl⟩
  have hEntered : ["d.x".toList, "b.x".toList] ∈ places := by
    rw [hPlaces, hStart]
    exact ⟨⟨[], rfl⟩, ["d.x".toList], ['b'], rfl⟩
  have hNotFound : ["d.x".toList] ∉ places := by
    rw [hPlaces, hStart]
    intro hPlace
    rcases hPlace with ⟨⟨content, hNode⟩, -⟩
    cases hNode
  exact ⟨hDirectory, hFile,
    ⟨places, hFound, hOrder, hDeep, hEntered, hNotFound⟩,
    (discover_lists tree ['x'] _).2 hFile⟩

end Source

end Marginalia
