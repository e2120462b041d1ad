import Marginalia.Text

/-
  This file defines the nodes of a file tree, files and
  directories, and how a node below another one is found, put
  and removed by its place.

  Key definitions include:
    * `Place`
    * `Node`
    * `Node.WellFormed`
    * `Node.get?`
    * `Node.put`
    * `Node.erase`
    * `Node.sorted`
    * `Node.files`
    * `Node.directories`
-/

namespace Marginalia

------------------------------------------------------------
-- Nodes
------------------------------------------------------------

/- A place below a node: the names on the way to it. -/
abbrev Place :=
  List Text

/-
  A node of a file tree: a file with its bytes, or a directory
  with its entries.
-/
inductive Node where
  | file (content : List UInt8)
  | directory (entries : List (Text × Node))

namespace Node

/- A directory without entries. -/
def emptyDirectory : Node :=
  .directory []

/- A node that is a directory. -/
def isDirectory : Node → Bool
  | .file _ => false
  | .directory _ => true

/- A node that is a file. -/
def isFile : Node → Bool
  | .file _ => true
  | .directory _ => false

mutual

/-
  A node all of whose directories name each of their entries
  once, in order.
-/
def WellFormed : Node → Prop
  | .file _ => True
  | .directory entries => OrderedEntries entries

/- Entries with increasing names and well-formed nodes. -/
def OrderedEntries : List (Text × Node) → Prop
  | [] => True
  | (name, node) :: rest =>
      node.WellFormed ∧ (∀ entry ∈ rest, Text.precedes name entry.1) ∧
        OrderedEntries rest

end

------------------------------------------------------------
-- Entries
------------------------------------------------------------

/- The node of a name. -/
def lookup
    (name : Text) : List (Text × Node) → Option Node
  | [] => none
  | (first, node) :: rest =>
      if first = name then some node else lookup name rest

/- Put a node under a name, in place of the one it names. -/
def insert
    (name : Text)
    (node : Node) : List (Text × Node) → List (Text × Node)
  | [] => [(name, node)]
  | (first, other) :: rest =>
      if first = name then (name, node) :: rest
      else if Text.precedes name first then
        (name, node) :: (first, other) :: rest
      else (first, other) :: insert name node rest

/- Remove the node of a name. -/
def remove
    (name : Text)
    (entries : List (Text × Node)) : List (Text × Node) :=
  entries.filter (·.1 != name)

------------------------------------------------------------
-- Nodes by Place
------------------------------------------------------------

/- The node at a place. -/
def get? : Place → Node → Option Node
  | [], node => some node
  | _ :: _, .file _ => none
  | name :: rest, .directory entries =>
      match lookup name entries with
      | some child => get? rest child
      | none => none

/-
  Put a node at a place. Directories on the way are made where
  nothing stands, and nothing is put below a file.
-/
def put
    (new : Node) : Place → Node → Node
  | [], _ => new
  | _ :: _, .file content => .file content
  | name :: rest, .directory entries =>
      let child := (lookup name entries).getD emptyDirectory
      .directory (insert name (put new rest child) entries)

/- Remove the node at a place other than the node itself. -/
def erase : Place → Node → Node
  | [], node => node
  | _ :: _, .file content => .file content
  | [name], .directory entries => .directory (remove name entries)
  | name :: rest, .directory entries =>
      match lookup name entries with
      | some child =>
          .directory (insert name (erase rest child) entries)
      | none => .directory entries

------------------------------------------------------------
-- Nodes in Order
------------------------------------------------------------

mutual

/-
  A node with the entries of all its directories in the order
  of their names.
-/
def sorted : Node → Node
  | .file content => .file content
  | .directory entries => .directory (sortedEntries entries)

/- Entries in the order of their names, with sorted nodes. -/
def sortedEntries : List (Text × Node) → List (Text × Node)
  | [] => []
  | (name, node) :: rest =>
      insert name (sorted node) (sortedEntries rest)

end

------------------------------------------------------------
-- Nodes Below a Node
------------------------------------------------------------

mutual

/- The places and bytes of the files at and below a node. -/
def files : Node → List (Place × List UInt8)
  | .file content => [([], content)]
  | .directory entries => filesOf entries

/- The places and bytes of the files below some entries. -/
def filesOf : List (Text × Node) → List (Place × List UInt8)
  | [] => []
  | (name, node) :: rest =>
      (files node).map (fun (place, content) =>
        (name :: place, content)) ++ filesOf rest

end

mutual

/- The places of the directories at and below a node. -/
def directories : Node → List Place
  | .file _ => []
  | .directory entries => [] :: directoriesOf entries

/- The places of the directories below some entries. -/
def directoriesOf : List (Text × Node) → List Place
  | [] => []
  | (name, node) :: rest =>
      (directories node).map (name :: ·) ++ directoriesOf rest

end

end Node

end Marginalia
