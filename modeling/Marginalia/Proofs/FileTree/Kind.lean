import Mathlib.Data.List.Basic
import Marginalia.FileTree

/-
  This file looks at a file tree by what stands at each place,
  a file with its bytes or a directory, and shows what making
  directories and writing a file change of that.

  Key definitions include:
    * `Node.Kind`
    * `Node.kind?`
    * `FileTree.kind?`
    * `FileTree.Grows`
    * `FileTree.Stored`

  Main results:
    * `Node.kind?_put_of_leaf`
    * `FileTree.makeDirectories_grows`
    * `FileTree.grows_of_store_eq_error`
    * `FileTree.exists_stored_of_store_eq_ok`
-/

namespace Marginalia

------------------------------------------------------------
-- Kinds of Nodes
------------------------------------------------------------

namespace Node

/- What stands at a place, without what is below it. -/
inductive Kind where
  | file (content : List UInt8)
  | directory

/- What a node is. -/
def kind : Node → Kind
  | .file content => .file content
  | .directory _ => .directory

/- What stands at a place below a node. -/
def kind?
    (place : Place)
    (node : Node) : Option Kind :=
  (get? place node).map kind

/- A file at a place is seen from its kind. -/
theorem get?_eq_file_iff
    {place : Place}
    {node : Node}
    {content : List UInt8} :
    get? place node = some (.file content) ↔
      kind? place node = some (.file content) := by
  unfold kind?
  cases get? place node with
  | none => simp
  | some found => cases found <;> simp [kind]

/- A directory at a place is seen from its kind. -/
theorem exists_get?_eq_directory_iff
    {place : Place}
    {node : Node} :
    (∃ entries, get? place node = some (.directory entries)) ↔
      kind? place node = some .directory := by
  unfold kind?
  cases get? place node with
  | none => simp
  | some found => cases found <;> simp [kind]

/- What stands below an entry of a directory. -/
theorem kind?_cons_directory
    (name : Text)
    (rest : Place)
    (entries : List (Text × Node)) :
    kind? (name :: rest) (.directory entries) =
      (lookup name entries).bind (kind? rest) := by
  cases hLookup : lookup name entries <;>
    simp [kind?, get?, hLookup]

/- A place is found through each place above it. -/
theorem get?_append
    (above below : Place)
    (node : Node) :
    get? (above ++ below) node =
      (get? above node).bind (get? below) := by
  induction above generalizing node with
  | nil => rfl
  | cons name rest ih =>
      cases node with
      | file content => rfl
      | directory entries =>
          simp only [List.cons_append, get?]
          cases lookup name entries with
          | none => rfl
          | some child => exact ih child

/- Nothing stands below what is no directory. -/
theorem kind?_append_cons_of_ne
    {above : Place}
    {node : Node}
    (hAbove : kind? above node ≠ some .directory)
    (name : Text)
    (below : Place) :
    kind? (above ++ name :: below) node = none := by
  rw [Ne, ← exists_get?_eq_directory_iff] at hAbove
  unfold kind?
  rw [get?_append]
  cases hFound : get? above node with
  | none => rfl
  | some found =>
      cases found with
      | file content => rfl
      | directory entries => exact absurd ⟨entries, hFound⟩ hAbove

/- Above what stands anywhere there is a directory. -/
theorem kind?_dropLast
    {place : Place}
    {node : Node}
    (hPlace : kind? place node = some .directory) :
    kind? place.dropLast node = some .directory := by
  rcases List.eq_nil_or_concat place with rfl | ⟨above, name, rfl⟩
  · exact hPlace
  · rw [List.concat_eq_append] at hPlace ⊢
    rw [List.dropLast_concat]
    by_contra hAbove
    rw [kind?_append_cons_of_ne hAbove name []] at hPlace
    cases hPlace

------------------------------------------------------------
-- Putting Nodes
------------------------------------------------------------

/- A name that is put has its node, and the others keep theirs. -/
theorem lookup_insert
    (name other : Text)
    (node : Node)
    (entries : List (Text × Node)) :
    lookup other (insert name node entries) =
      if other = name then some node else lookup other entries := by
  induction entries with
  | nil =>
      unfold insert lookup
      by_cases hName : other = name
      · rw [if_pos hName.symm, if_pos hName]
      · rw [if_neg (Ne.symm hName), if_neg hName]
        rfl
  | cons entry rest ih =>
      rcases entry with ⟨first, old⟩
      unfold insert
      split
      · rename_i hFirst
        subst hFirst
        by_cases hName : other = first
        · simp [lookup, hName]
        · simp [lookup, hName, Ne.symm hName]
      · rename_i hFirst
        split
        · by_cases hName : other = name
          · simp [lookup, hName]
          · simp [lookup, hName, Ne.symm hName]
        · by_cases hOther : first = other
          · subst hOther
            simp [lookup, hFirst]
          · simp [lookup, hOther, ih]

/-
  A node that is put into a directory is seen at and below its
  place, and everything else is as before.
-/
theorem kind?_put
    (new : Node)
    (name : Text)
    {above : Place}
    {node : Node}
    (hAbove : kind? above node = some .directory)
    (other : Place) :
    kind? other (put new (above ++ [name]) node) =
      if above ++ [name] <+: other then
        kind? (other.drop (above.length + 1)) new
      else kind? other node := by
  induction above generalizing node other with
  | nil =>
      cases node with
      | file content => cases hAbove
      | directory entries =>
          rw [List.nil_append]
          unfold put
          cases other with
          | nil => simp [kind?, get?, kind]
          | cons first rest =>
              rw [kind?_cons_directory, lookup_insert,
                kind?_cons_directory]
              by_cases hName : first = name
              · subst hName
                simp [put]
              · simp [hName, Ne.symm hName]
  | cons next above ih =>
      cases node with
      | file content => cases hAbove
      | directory entries =>
          rw [kind?_cons_directory] at hAbove
          rcases Option.bind_eq_some_iff.mp hAbove with
            ⟨child, hChild, hBelow⟩
          rw [List.cons_append]
          unfold put
          cases other with
          | nil => simp [kind?, get?, kind]
          | cons first rest =>
              rw [kind?_cons_directory, lookup_insert,
                kind?_cons_directory]
              by_cases hName : first = next
              · subst hName
                simp [hChild, ih hBelow rest]
              · simp [hName, Ne.symm hName]

/-
  A leaf that is put where no directory stands changes what
  stands at its place and nothing else.
-/
theorem kind?_put_of_leaf
    {new : Node}
    (hLeaf : ∀ name rest, kind? (name :: rest) new = none)
    {name : Text}
    {above : Place}
    {node : Node}
    (hAbove : kind? above node = some .directory)
    (hPlace : kind? (above ++ [name]) node ≠ some .directory)
    (other : Place) :
    kind? other (put new (above ++ [name]) node) =
      if other = above ++ [name] then some new.kind
      else kind? other node := by
  rw [kind?_put new name hAbove]
  by_cases hBelow : above ++ [name] <+: other
  · rcases hBelow with ⟨below, rfl⟩
    rw [if_pos (List.prefix_append _ _),
      List.drop_append_of_le_length (by simp),
      List.drop_of_length_le (by simp), List.nil_append]
    cases below with
    | nil =>
        rw [List.append_nil, if_pos rfl]
        rfl
    | cons first rest =>
        rw [hLeaf, if_neg (by simp), kind?_append_cons_of_ne hPlace]
  · rw [if_neg hBelow, if_neg]
    rintro rfl
    exact hBelow (List.prefix_refl _)

/- Nothing stands below a file. -/
theorem kind?_cons_file
    (content : List UInt8)
    (name : Text)
    (rest : Place) :
    kind? (name :: rest) (.file content) = none :=
  rfl

/- Nothing stands below an empty directory. -/
theorem kind?_cons_emptyDirectory
    (name : Text)
    (rest : Place) :
    kind? (name :: rest) emptyDirectory = none :=
  rfl

end Node

------------------------------------------------------------
-- Following Paths
------------------------------------------------------------

namespace FileTree

open Node

/- What stands at a place of a tree. -/
def kind?
    (tree : FileTree)
    (place : Place) : Option Kind :=
  Node.kind? place tree.root

/- Files are seen from the kinds at their places. -/
theorem node?_eq_file_iff
    {tree : FileTree}
    {place : Place}
    {content : List UInt8} :
    tree.node? place = some (.file content) ↔
      tree.kind? place = some (.file content) :=
  get?_eq_file_iff

/- A place at which a directory stands or could be made. -/
def Offers
    (tree : FileTree)
    (place : Place) : Prop :=
  tree.kind? place = some .directory ∨
    ∃ above name,
      place = above ++ [name] ∧ tree.kind? above = some .directory

/- Segments lead from one offered place to another. -/
theorem offers_of_followFrom
    {tree : FileTree}
    {start place : Place}
    {segments : List Text}
    (hStart : tree.Offers start)
    (hFollow : tree.followFrom start segments = .ok place) :
    tree.Offers place := by
  induction segments generalizing start with
  | nil =>
      cases hFollow
      exact hStart
  | cons segment rest ih =>
      unfold followFrom at hFollow
      split at hFollow
      · rename_i entries hNode
        have hDirectory : tree.kind? start = some .directory :=
          exists_get?_eq_directory_iff.mp ⟨entries, hNode⟩
        split at hFollow
        · exact ih (.inl (kind?_dropLast hDirectory)) hFollow
        · exact ih (.inr ⟨start, segment, rfl, hDirectory⟩) hFollow
      · cases hFollow
      · cases hFollow

/- Every path starts at a directory. -/
theorem kind?_origin
    {tree : FileTree}
    (hHome : tree.kind? tree.home = some .directory)
    (path : Path) :
    tree.kind? (tree.origin path) = some .directory := by
  have hRoot : tree.kind? [] = some .directory := by
    cases hPlace : tree.home with
    | nil => rw [← hPlace, hHome]
    | cons name rest =>
        by_contra hNot
        have hNone := kind?_append_cons_of_ne hNot name rest
        rw [List.nil_append, ← hPlace] at hNone
        cases hHome.symm.trans hNone
  unfold origin
  split
  · exact hHome
  · exact hRoot

/- A path leads to an offered place. -/
theorem offers_of_follow
    {tree : FileTree}
    (hHome : tree.kind? tree.home = some .directory)
    {path : Path}
    {place : Place}
    (hFollow : tree.follow path = .ok place) :
    tree.Offers place :=
  offers_of_followFrom (.inl (kind?_origin hHome path)) hFollow

/- Segments lead to the same place while directories stay. -/
theorem followFrom_of_directories
    {before after : FileTree}
    (hDirectory :
      ∀ place, before.kind? place = some .directory →
        after.kind? place = some .directory)
    {start place : Place}
    {segments : List Text}
    (hFollow : before.followFrom start segments = .ok place) :
    after.followFrom start segments = .ok place := by
  induction segments generalizing start with
  | nil => exact hFollow
  | cons segment rest ih =>
      unfold followFrom at hFollow
      split at hFollow
      · rename_i entries hNode
        have hAfter :=
          hDirectory start
            (exists_get?_eq_directory_iff.mp ⟨entries, hNode⟩)
        rcases exists_get?_eq_directory_iff.mpr hAfter with
          ⟨others, hOthers⟩
        have hNode : after.node? start = some (.directory others) :=
          hOthers
        unfold followFrom
        rw [hNode]
        split at hFollow
        · rename_i hUp
          simp only [if_pos hUp]
          exact ih hFollow
        · rename_i hUp
          simp only [if_neg hUp]
          exact ih hFollow
      · cases hFollow
      · cases hFollow

------------------------------------------------------------
-- Making Directories
------------------------------------------------------------

/-
  A tree with more directories than another one, which has the
  same files.
-/
structure Grows
    (before after : FileTree) : Prop where
  home : after.home = before.home
  file :
    ∀ place content,
      after.kind? place = some (.file content) ↔
        before.kind? place = some (.file content)
  directory :
    ∀ place, before.kind? place = some .directory →
      after.kind? place = some .directory

namespace Grows

/- A tree grows to itself. -/
theorem refl
    (tree : FileTree) : Grows tree tree :=
  ⟨rfl, fun _ _ => Iff.rfl, fun _ hDirectory => hDirectory⟩

/- What grows further has grown from the start. -/
theorem trans
    {first second third : FileTree}
    (hFirst : Grows first second)
    (hSecond : Grows second third) :
    Grows first third where
  home := hSecond.home.trans hFirst.home
  file place content :=
    (hSecond.file place content).trans (hFirst.file place content)
  directory place hDirectory :=
    hSecond.directory place (hFirst.directory place hDirectory)

/- The current directory stays one. -/
theorem kind?_home
    {before after : FileTree}
    (hGrows : Grows before after)
    (hHome : before.kind? before.home = some .directory) :
    after.kind? after.home = some .directory := by
  rw [hGrows.home]
  exact hGrows.directory _ hHome

end Grows

/- What a leaf changes that is put at an offered place. -/
theorem kind?_put_of_offers
    {tree : FileTree}
    {place : Place}
    (hOffers : tree.Offers place)
    (hPlace : tree.kind? place ≠ some .directory)
    {new : Node}
    (hLeaf : ∀ name rest, Node.kind? (name :: rest) new = none)
    (other : Place) :
    (tree.put place new).kind? other =
      if other = place then some new.kind else tree.kind? other := by
  rcases hOffers with hDirectory | ⟨above, name, rfl, hAbove⟩
  · exact absurd hDirectory hPlace
  · exact kind?_put_of_leaf hLeaf hAbove hPlace other

/- Making one directory adds that directory only. -/
theorem makeDirectory_grows
    {tree made : FileTree}
    (hHome : tree.kind? tree.home = some .directory)
    {path : Path}
    (hMade : tree.makeDirectory path = .ok made) :
    Grows tree made := by
  unfold makeDirectory at hMade
  split at hMade
  · cases hMade
  · rename_i place hFollow
    split at hMade
    · cases hMade
    · rename_i hNode
      cases hMade
      have hNone : tree.kind? place = none := by
        unfold FileTree.kind? Node.kind?
        rw [show get? place tree.root = none from hNode]
        rfl
      have hKind :=
        kind?_put_of_offers (offers_of_follow hHome hFollow)
          (by simp [hNone]) kind?_cons_emptyDirectory
      refine ⟨rfl, ?_, ?_⟩
      · intro other content
        rw [hKind]
        split
        · rename_i hOther
          rw [hOther, hNone]
          simp [kind, emptyDirectory]
        · exact Iff.rfl
      · intro other hDirectory
        rw [hKind]
        split
        · rfl
        · exact hDirectory

section

variable
    {P : FileTree → Prop}
    (hMake :
      ∀ {before made : FileTree} {path : Path},
        P before → before.makeDirectory path = .ok made → P made)
    {tree : FileTree}

include hMake

/- Making sure of one directory keeps what making it keeps. -/
theorem ensureDirectory_keeps
    (hTree : P tree)
    {made : FileTree}
    {path : Path}
    (hMade : tree.ensureDirectory path = .ok made) :
    P made := by
  unfold ensureDirectory at hMade
  split at hMade
  · rename_i other hOther
    cases hMade
    exact hMake hTree hOther
  · split at hMade
    · cases hMade
      exact hTree
    · cases hMade

/-
  What making one directory keeps is kept by making several of
  them, even if that fails.
-/
theorem makeDirectoriesTo_keeps
    (hTree : P tree)
    (origin : Path.Origin)
    (segments : List Text) :
    P (tree.makeDirectoriesTo origin segments).2 := by
  induction segments with
  | nil =>
      unfold makeDirectoriesTo
      split
      · rename_i made hMade
        exact ensureDirectory_keeps hMake hTree hMade
      · exact hTree
  | cons last before ih =>
      unfold makeDirectoriesTo
      extract_lets path
      split
      · rename_i made hMade
        exact ensureDirectory_keeps hMake hTree hMade
      · split
        · rename_i fault made hAbove
          rw [hAbove] at ih
          exact ih
        · rename_i made hAbove
          rw [hAbove] at ih
          split
          · rename_i complete hComplete
            exact ensureDirectory_keeps hMake ih hComplete
          · exact ih
      · exact hTree

end

/- Making all directories of a path adds directories only. -/
theorem makeDirectories_grows
    {tree : FileTree}
    (hHome : tree.kind? tree.home = some .directory)
    (path : Path) :
    Grows tree (tree.makeDirectories path).2 := by
  apply makeDirectoriesTo_keeps _ (Grows.refl tree)
  intro before made path hBefore hMade
  exact hBefore.trans
    (makeDirectory_grows (hBefore.kind?_home hHome) hMade)

------------------------------------------------------------
-- Writing Files
------------------------------------------------------------

/- Writing puts the file where no directory stands. -/
theorem write_eq_ok_iff
    {tree written : FileTree}
    {path : Path}
    {content : List UInt8} :
    tree.write path content = .ok written ↔
      ∃ place,
        tree.follow path = .ok place ∧
          tree.kind? place ≠ some .directory ∧
          written = tree.put place (.file content) := by
  unfold write
  cases tree.follow path with
  | error fault => simp
  | ok place =>
      have hKind :
          tree.kind? place = (tree.node? place).map Node.kind := rfl
      cases hNode : tree.node? place with
      | none =>
          rw [hNode] at hKind
          simp [hNode, hKind, eq_comm]
      | some node =>
          rw [hNode] at hKind
          cases node with
          | file bytes => simp [hNode, hKind, kind, eq_comm]
          | directory entries => simp [hNode, hKind, kind]

/- Storing writes the file below the directories it has made. -/
theorem store_eq_ok_iff
    {tree written : FileTree}
    {path : Path}
    {content : List UInt8} :
    tree.store path content = (.ok (), written) ↔
      ∃ made,
        tree.makeDirectories path.parent = (.ok (), made) ∧
          made.write path content = .ok written := by
  unfold store
  rcases tree.makeDirectories path.parent with ⟨attempt, made⟩
  cases attempt with
  | error fault => simp
  | ok passed =>
      cases hWrite : made.write path content with
      | error fault => simp [hWrite]
      | ok after => simp [hWrite]

/- A file that is written stands at its path, and all else stays. -/
theorem exists_place_of_write_eq_ok
    {tree written : FileTree}
    (hHome : tree.kind? tree.home = some .directory)
    {path : Path}
    {content : List UInt8}
    (hWritten : tree.write path content = .ok written) :
    ∃ place,
      written.home = tree.home ∧
        written.follow path = .ok place ∧
        tree.kind? place ≠ some .directory ∧
        ∀ other, written.kind? other =
          if other = place then some (.file content)
          else tree.kind? other := by
  rcases write_eq_ok_iff.mp hWritten with
    ⟨place, hFollow, hPlace, rfl⟩
  have hKind :=
    kind?_put_of_offers (offers_of_follow hHome hFollow) hPlace
      (kind?_cons_file content)
  refine ⟨place, rfl, ?_, hPlace, hKind⟩
  apply followFrom_of_directories ?_ hFollow
  intro other hDirectory
  rw [hKind, if_neg]
  · exact hDirectory
  · rintro rfl
    exact hPlace hDirectory

/- A file that cannot be stored leaves all files as they are. -/
theorem grows_of_store_eq_error
    {tree made : FileTree}
    (hHome : tree.kind? tree.home = some .directory)
    {path : Path}
    {content : List UInt8}
    {fault : AccessFault}
    (hStore : tree.store path content = (.error fault, made)) :
    Grows tree made := by
  have hGrows := makeDirectories_grows hHome path.parent
  unfold store at hStore
  split at hStore
  · rename_i other grown hMade
    rw [hMade] at hGrows
    cases hStore
    exact hGrows
  · rename_i grown hMade
    rw [hMade] at hGrows
    split at hStore
    · cases hStore
      exact hGrows
    · cases hStore

/-
  A tree in which a file has been stored at a place: other
  files are as they were, and directories are still there.
-/
structure Stored
    (before after : FileTree)
    (place : Place)
    (content : List UInt8) : Prop where
  home : after.home = before.home
  stored : after.kind? place = some (.file content)
  file :
    ∀ other, other ≠ place → ∀ bytes,
      after.kind? other = some (.file bytes) ↔
        before.kind? other = some (.file bytes)
  directory :
    ∀ other, before.kind? other = some .directory →
      after.kind? other = some .directory

/- A file that is stored stands at its path. -/
theorem exists_stored_of_store_eq_ok
    {tree written : FileTree}
    (hHome : tree.kind? tree.home = some .directory)
    {path : Path}
    {content : List UInt8}
    (hStore : tree.store path content = (.ok (), written)) :
    ∃ place,
      written.follow path = .ok place ∧
        Stored tree written place content := by
  rcases store_eq_ok_iff.mp hStore with ⟨made, hMade, hWritten⟩
  have hGrows := makeDirectories_grows hHome path.parent
  rw [hMade] at hGrows
  rcases exists_place_of_write_eq_ok (hGrows.kind?_home hHome)
    hWritten with ⟨place, hSame, hFollow, hPlace, hKind⟩
  refine ⟨place, hFollow, hSame.trans hGrows.home, ?_, ?_, ?_⟩
  · rw [hKind, if_pos rfl]
  · intro other hOther bytes
    rw [hKind, if_neg hOther]
    exact hGrows.file other bytes
  · intro other hDirectory
    have hStill := hGrows.directory other hDirectory
    rw [hKind, if_neg]
    · exact hStill
    · intro hOther
      rw [hOther] at hStill
      exact hPlace hStill

/- A file that is stored is the only file that may change. -/
theorem exists_place_of_store_eq_ok
    {tree written : FileTree}
    (hHome : tree.kind? tree.home = some .directory)
    {path : Path}
    {content : List UInt8}
    (hStore : tree.store path content = (.ok (), written)) :
    ∃ place,
      written.follow path = .ok place ∧
        written.node? place = some (.file content) ∧
        ∀ other, other ≠ place → ∀ bytes,
          written.node? other = some (.file bytes) ↔
            tree.node? other = some (.file bytes) := by
  rcases exists_stored_of_store_eq_ok hHome hStore with
    ⟨place, hFollow, hStored⟩
  refine ⟨place, hFollow, node?_eq_file_iff.mpr hStored.stored, ?_⟩
  intro other hOther bytes
  rw [node?_eq_file_iff, node?_eq_file_iff]
  exact hStored.file other hOther bytes

end FileTree

end Marginalia
