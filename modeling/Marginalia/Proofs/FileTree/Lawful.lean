import Marginalia.Proofs.FileTree.Kind

/-
  This file shows that what is listed in a file tree can be
  read: the files below a directory stand at their places, the
  names on the way lead there, and a file is read as text
  unless its bytes cannot be decoded.

  Key definitions include:
    * `FileTree.Lawful`

  Main results:
    * `Node.get?_of_mem_files`
    * `FileTree.followFrom_of_node?`
    * `FileTree.readText_cases`
-/

namespace Marginalia

------------------------------------------------------------
-- Files Below a Node
------------------------------------------------------------

/- No text comes before itself. -/
theorem Text.precedes_self
    (text : Text) :
    Text.precedes text text = false := by
  induction text with
  | nil => rfl
  | cons c rest ih =>
      unfold Text.precedes
      rw [if_pos rfl, ih]

namespace Node

/- A node that is found under a name is among the entries. -/
theorem mem_of_lookup
    {name : Text}
    {node : Node}
    {entries : List (Text × Node)}
    (hLookup : lookup name entries = some node) :
    (name, node) ∈ entries := by
  induction entries with
  | nil => cases hLookup
  | cons entry rest ih =>
      unfold lookup at hLookup
      split at hLookup
      · rename_i hFirst
        cases hLookup
        rw [← hFirst]
        exact List.mem_cons_self
      · exact List.mem_cons_of_mem _ (ih hLookup)

/- The nodes of ordered entries are well-formed. -/
theorem wellFormed_of_mem
    {entries : List (Text × Node)}
    (hEntries : OrderedEntries entries)
    {entry : Text × Node}
    (hEntry : entry ∈ entries) :
    entry.2.WellFormed := by
  induction entries with
  | nil => cases hEntry
  | cons first rest ih =>
      unfold OrderedEntries at hEntries
      rcases List.mem_cons.mp hEntry with rfl | hEntry
      · exact hEntries.1
      · exact ih hEntries.2.2 hEntry

mutual

/- The files at and below a node stand at their places. -/
theorem get?_of_mem_files
    {node : Node}
    (hNode : node.WellFormed)
    {place : Place}
    {content : List UInt8}
    (hFile : (place, content) ∈ node.files) :
    get? place node = some (.file content) := by
  cases node with
  | file bytes =>
      unfold files at hFile
      cases List.mem_singleton.mp hFile
      rfl
  | directory entries =>
      unfold files at hFile
      unfold WellFormed at hNode
      exact get?_of_mem_filesOf hNode hFile

/- The files below some entries stand at their places. -/
theorem get?_of_mem_filesOf
    {entries : List (Text × Node)}
    (hEntries : OrderedEntries entries)
    {place : Place}
    {content : List UInt8}
    (hFile : (place, content) ∈ filesOf entries) :
    get? place (.directory entries) = some (.file content) := by
  cases entries with
  | nil => cases hFile
  | cons entry rest =>
      rcases entry with ⟨first, child⟩
      unfold OrderedEntries at hEntries
      rcases hEntries with ⟨hChild, hFirst, hRest⟩
      unfold filesOf at hFile
      rcases List.mem_append.mp hFile with hFile | hFile
      · rcases List.mem_map.mp hFile with
          ⟨⟨below, bytes⟩, hBelow, hPair⟩
        cases hPair
        have hFound := get?_of_mem_files hChild hBelow
        simp only [get?, lookup, if_true]
        exact hFound
      · have hFound := get?_of_mem_filesOf hRest hFile
        cases place with
        | nil => cases hFound
        | cons name below =>
            unfold get? at hFound ⊢
            split at hFound
            · rename_i found hLookup
              -- Names increase, so the first entry has another name.
              have hOther : first ≠ name := by
                rintro rfl
                have hBefore := hFirst _ (mem_of_lookup hLookup)
                rw [Text.precedes_self] at hBefore
                cases hBefore
              simp only [lookup, if_neg hOther, hLookup]
              exact hFound
            · cases hFound

end

end Node

------------------------------------------------------------
-- Following Names
------------------------------------------------------------

namespace FileTree

/-
  A tree as file systems have them: the current directory is
  there, each name is given once, and no name leads upwards.
-/
structure Lawful
    (tree : FileTree) : Prop where
  home : tree.kind? tree.home = some .directory
  ordered : tree.root.WellFormed
  named :
    ∀ place node, tree.node? place = some node → Path.up ∉ place

/- Segments are followed one part after the other. -/
theorem followFrom_append
    (tree : FileTree)
    (start : Place)
    (first second : List Text) :
    tree.followFrom start (first ++ second) =
      tree.followFrom start first >>= (tree.followFrom · second) := by
  induction first generalizing start with
  | nil => rfl
  | cons segment rest ih =>
      simp only [List.cons_append, followFrom]
      split
      · split
        · exact ih start.dropLast
        · exact ih (start ++ [segment])
      · rfl
      · rfl

/- The names on the way to a node lead there. -/
theorem followFrom_of_node?
    {tree : FileTree}
    {start place : Place}
    {node : Node}
    (hNode : tree.node? (start ++ place) = some node)
    (hUp : Path.up ∉ place) :
    tree.followFrom start place = .ok (start ++ place) := by
  induction place generalizing start with
  | nil =>
      rw [List.append_nil]
      rfl
  | cons name rest ih =>
      have hStart : tree.kind? start = some .directory := by
        by_contra hNot
        have hNone := Node.kind?_append_cons_of_ne hNot name rest
        rw [Node.kind?, Option.map_eq_none_iff] at hNone
        cases hNone.symm.trans hNode
      rcases Node.exists_get?_eq_directory_iff.mpr hStart with
        ⟨entries, hEntries⟩
      have hEntries : tree.node? start = some (.directory entries) :=
        hEntries
      have hName : name ≠ Path.up := by
        rintro rfl
        exact hUp List.mem_cons_self
      unfold followFrom
      rw [hEntries]
      simp only [if_neg hName]
      have hNext : start ++ name :: rest = start ++ [name] ++ rest :=
        List.append_cons start name rest
      rw [hNext] at hNode ⊢
      exact ih hNode fun hMember =>
        hUp (List.mem_cons_of_mem _ hMember)

/- A path finds what stands at the place that it leads to. -/
theorem find_eq_ok_iff
    {tree : FileTree}
    {path : Path}
    {node : Node} :
    tree.find path = .ok node ↔
      ∃ place,
        tree.follow path = .ok place ∧
          tree.node? place = some node := by
  unfold find
  cases tree.follow path with
  | error fault => simp
  | ok place => cases hNode : tree.node? place <;> simp [hNode]

/- A path to a file is one that can be read. -/
theorem isFile_iff
    {tree : FileTree}
    {path : Path} :
    tree.isFile path = true ↔
      ∃ content, tree.read path = .ok content := by
  unfold isFile read
  cases tree.find path with
  | error fault => simp
  | ok node => cases node <;> simp [Node.isFile]

/- A file is read as text unless its bytes cannot be decoded. -/
theorem readText_cases
    {tree : FileTree}
    {path : Path}
    (hFile : tree.isFile path = true) :
    (∃ text, tree.readText path = .ok text) ∨
      ∃ fault, tree.readText path = .error (.decoding fault) := by
  rcases isFile_iff.mp hFile with ⟨content, hRead⟩
  unfold readText
  rw [hRead]
  cases hText : Utf8.decode content with
  | error fault => exact .inr ⟨fault, by simp only [hText]⟩
  | ok text => exact .inl ⟨text.unifyBreaks, by simp only [hText]⟩

end FileTree

end Marginalia
