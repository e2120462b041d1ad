import Marginalia.FileTree.Node
import Marginalia.Path
import Marginalia.Text.Quoted
import Marginalia.Text.Utf8

/-
  This file defines file trees with a current directory: how a
  path leads to a node, and how files are read and written.

  Key definitions include:
    * `AccessFault`
    * `AccessFault.message`
    * `FileTree`
    * `FileTree.follow`
    * `FileTree.find`
    * `FileTree.read`
    * `FileTree.readText`
    * `FileTree.makeDirectories`
    * `FileTree.write`
    * `FileTree.store`
    * `FileTree.changes`
-/

namespace Marginalia

------------------------------------------------------------
-- Faults
------------------------------------------------------------

/- Why a path does not lead to what is asked for. -/
inductive AccessFault where
  | notFound
  | alreadyExists
  | notADirectory
  | isADirectory
  deriving DecidableEq, Repr

namespace AccessFault

/- The number by which a fault is known. -/
def number : AccessFault → Nat
  | .notFound => 2
  | .alreadyExists => 17
  | .notADirectory => 20
  | .isADirectory => 21

/- The words for a fault. -/
def words : AccessFault → Text
  | .notFound => "No such file or directory".toList
  | .alreadyExists => "File exists".toList
  | .notADirectory => "Not a directory".toList
  | .isADirectory => "Is a directory".toList

/- The words for a fault of a path. -/
def message
    (fault : AccessFault)
    (path : Path) : Text :=
  "[Errno ".toList ++ Text.ofNat fault.number ++ "] ".toList ++
    fault.words ++ ": ".toList ++ Text.quoted path.toText

end AccessFault

/- Why a file cannot be read as text. -/
inductive ReadFault where
  | access (fault : AccessFault)
  | decoding (fault : Utf8.Fault)
  deriving DecidableEq, Repr

namespace ReadFault

/- The words for a fault of a path. -/
def message
    (fault : ReadFault)
    (path : Path) : Text :=
  match fault with
  | .access fault => fault.message path
  | .decoding fault => fault.message

end ReadFault

------------------------------------------------------------
-- File Trees
------------------------------------------------------------

/- A file tree and the place of the current directory in it. -/
structure FileTree where
  root : Node := Node.emptyDirectory
  home : Place := []

namespace FileTree

/- The node at a place. -/
def node?
    (tree : FileTree)
    (place : Place) : Option Node :=
  Node.get? place tree.root

/- The tree with a node put at a place. -/
def put
    (tree : FileTree)
    (place : Place)
    (node : Node) : FileTree :=
  { tree with root := Node.put node place tree.root }

/- The place where a path starts. -/
def origin
    (tree : FileTree)
    (path : Path) : Place :=
  match path.origin with
  | .here => tree.home
  | _ => []

/-
  The place that segments lead to. Every segment needs a
  directory to start from; that something stands at the place
  itself is not asked for.
-/
def followFrom
    (tree : FileTree)
    (place : Place) : List Text → Except AccessFault Place
  | [] => .ok place
  | segment :: rest =>
      match tree.node? place with
      | some (.directory _) =>
          if segment = Path.up then followFrom tree place.dropLast rest
          else followFrom tree (place ++ [segment]) rest
      | some (.file _) => .error .notADirectory
      | none => .error .notFound

/- The place that a path leads to. -/
def follow
    (tree : FileTree)
    (path : Path) : Except AccessFault Place :=
  tree.followFrom (tree.origin path) path.segments

/- The node that a path leads to. -/
def find
    (tree : FileTree)
    (path : Path) : Except AccessFault Node :=
  match tree.follow path with
  | .error fault => .error fault
  | .ok place =>
      match tree.node? place with
      | some node => .ok node
      | none => .error .notFound

/- A path that leads to a file. -/
def isFile
    (tree : FileTree)
    (path : Path) : Bool :=
  match tree.find path with
  | .ok node => node.isFile
  | .error _ => false

/- A path that leads to a directory. -/
def isDirectory
    (tree : FileTree)
    (path : Path) : Bool :=
  match tree.find path with
  | .ok node => node.isDirectory
  | .error _ => false

------------------------------------------------------------
-- Reading
------------------------------------------------------------

/- The bytes of the file that a path leads to. -/
def read
    (tree : FileTree)
    (path : Path) : Except AccessFault (List UInt8) :=
  match tree.find path with
  | .ok (.file content) => .ok content
  | .ok (.directory _) => .error .isADirectory
  | .error fault => .error fault

/-
  The text of the file that a path leads to, with all line
  ends read as line feeds.
-/
def readText
    (tree : FileTree)
    (path : Path) : Except ReadFault Text :=
  match tree.read path with
  | .error fault => .error (.access fault)
  | .ok bytes =>
      match Utf8.decode bytes with
      | .error fault => .error (.decoding fault)
      | .ok text => .ok text.unifyBreaks

------------------------------------------------------------
-- Writing
------------------------------------------------------------

/- Make a directory where nothing stands. -/
def makeDirectory
    (tree : FileTree)
    (path : Path) : Except AccessFault FileTree :=
  match tree.follow path with
  | .error fault => .error fault
  | .ok place =>
      match tree.node? place with
      | some _ => .error .alreadyExists
      | none => .ok (tree.put place Node.emptyDirectory)

/- Make a directory unless the path already leads to one. -/
def ensureDirectory
    (tree : FileTree)
    (path : Path) : Except AccessFault FileTree :=
  match tree.makeDirectory path with
  | .ok made => .ok made
  | .error fault =>
      if tree.isDirectory path then .ok tree else .error fault

/-
  Make the directory of a path, given by its origin and its
  segments in reverse. The directory above is made first if it
  is missing, and what is made stays even if a later step
  fails.
-/
def makeDirectoriesTo
    (tree : FileTree)
    (origin : Path.Origin) :
    List Text → Except AccessFault Unit × FileTree
  | [] =>
      match tree.ensureDirectory { origin } with
      | .ok made => (.ok (), made)
      | .error fault => (.error fault, tree)
  | last :: before =>
      let path : Path :=
        { origin, segments := (last :: before).reverse }
      match tree.ensureDirectory path with
      | .ok made => (.ok (), made)
      | .error .notFound =>
          match makeDirectoriesTo tree origin before with
          | (.error fault, made) => (.error fault, made)
          | (.ok (), made) =>
              match made.ensureDirectory path with
              | .ok complete => (.ok (), complete)
              | .error fault => (.error fault, made)
      | .error fault => (.error fault, tree)

/- Make the directory of a path and all directories above it. -/
def makeDirectories
    (tree : FileTree)
    (path : Path) : Except AccessFault Unit × FileTree :=
  tree.makeDirectoriesTo path.origin path.segments.reverse

/- Write a file into a directory that is there. -/
def write
    (tree : FileTree)
    (path : Path)
    (content : List UInt8) : Except AccessFault FileTree :=
  match tree.follow path with
  | .error fault => .error fault
  | .ok place =>
      match tree.node? place with
      | some (.directory _) => .error .isADirectory
      | _ => .ok (tree.put place (.file content))

/- Write a file, with the directories above it. -/
def store
    (tree : FileTree)
    (path : Path)
    (content : List UInt8) : Except AccessFault Unit × FileTree :=
  match tree.makeDirectories path.parent with
  | (.error fault, made) => (.error fault, made)
  | (.ok (), made) =>
      match made.write path content with
      | .error fault => (.error fault, made)
      | .ok written => (.ok (), written)

/- Remove the file that a path leads to. -/
def removeFile
    (tree : FileTree)
    (path : Path) : Except AccessFault FileTree :=
  match tree.follow path with
  | .error fault => .error fault
  | .ok place =>
      match tree.node? place with
      | some (.file _) =>
          .ok { tree with root := Node.erase place tree.root }
      | some (.directory _) => .error .isADirectory
      | none => .error .notFound

------------------------------------------------------------
-- Changes
------------------------------------------------------------

/- The files below a place, by their places relative to it, in order. -/
def filesBelow
    (tree : FileTree)
    (place : Place) : List (Place × List UInt8) :=
  match tree.node? place with
  | some node => node.sorted.files
  | none => []

/-
  The files of a tree that another tree does not have or has
  with other bytes, by their places.
-/
def changes
    (before after : FileTree) : List (Place × List UInt8) :=
  after.root.files.filter fun (place, content) =>
    match before.node? place with
    | some (.file old) => old != content
    | _ => true

/- The directories of a tree that another tree does not have. -/
def newDirectories
    (before after : FileTree) : List Place :=
  after.root.directories.filter fun place =>
    (before.node? place).isNone

end FileTree

end Marginalia
