import Marginalia.Fault
import Marginalia.ModuleDoc

/-
  This file finds the sources of a run in the file tree and
  reads the modules in them.

  Key definitions include:
    * `Source`
    * `Source.discover`
    * `Source.discoverEvents`
    * `Source.resolve`
    * `Source.readPath`
    * `Source.readText`
    * `Source.parse`
    * `Source.parseAll`
    * `Source.collect`
-/

namespace Marginalia

------------------------------------------------------------
-- Sources
------------------------------------------------------------

/-
  A source file, the directory that its name is relative to,
  and the extension of source files.
-/
structure Source where
  root : Path
  path : Path
  fileExtension : Text
  deriving DecidableEq, Repr

namespace Source

/- The name of the file. -/
def fileName
    (source : Source) : Text :=
  source.path.toText

/- The name of the root, empty for the current directory. -/
def rootName
    (source : Source) : Text :=
  if source.root = Path.here then [] else source.root.toText

------------------------------------------------------------
-- Finding Sources
------------------------------------------------------------

/- A place whose last name ends in the extension. -/
def matchesExtension
    (fileExtension : Text)
    (place : Place) : Bool :=
  match place.getLast? with
  | some name => ('.' :: fileExtension).isSuffixOf name
  | none => false

/-
  The sources below a directory: its files with the extension,
  at any depth. The entries of every directory are taken in the
  order of their names. Where there is no directory there are
  no sources.
-/
def discover
    (tree : FileTree)
    (fileExtension : Text)
    (directory : Path) : List Source :=
  match tree.find directory with
  | .ok (.directory entries) =>
      ((Node.filesOf (Node.sortedEntries entries)).filter
        fun (place, _) =>
          matchesExtension fileExtension place).map fun (place, _) =>
          { root := directory
            path :=
              { directory with
                segments := directory.segments ++ place }
            fileExtension }
  | _ => []

/- The event of looking for sources where no directory is. -/
def discoverEvents
    (tree : FileTree)
    (directory : Path) : List Event :=
  match tree.find directory with
  | .ok (.directory _) => []
  | .ok (.file _) => [.notADirectory directory.toText]
  | .error _ => [.directoryNotFound directory.toText]

/- The source that a name stands for. -/
def resolve
    (tree : FileTree)
    (fileExtension : Text)
    (root : Path)
    (name : Text) : Except Fault Source :=
  let path := root.append (Path.ofText name)
  if tree.isFile path then .ok { root, path, fileExtension }
  else .error (.sourceNotFound path.toText)

/-
  The sources that settings name: those below the directories,
  then the single files, each in the given order.
-/
def collect
    (tree : FileTree)
    (settings : Settings) : Except Fault (List Source) :=
  let found :=
    settings.directories.flatMap fun directory =>
      discover tree settings.fileExtension
        (settings.projectRoot.append (Path.ofText directory))
  (settings.files.mapM
    (resolve tree settings.fileExtension settings.projectRoot)).map
      (found ++ ·)

/- The events of collecting the sources that settings name. -/
def collectEvents
    (tree : FileTree)
    (settings : Settings) : List Event :=
  settings.directories.flatMap fun directory =>
    discoverEvents tree
      (settings.projectRoot.append (Path.ofText directory))

------------------------------------------------------------
-- Reading Sources
------------------------------------------------------------

/-
  The text of the source file that a path leads to. A fault
  calls the file by the given name.
-/
def readPath
    (tree : FileTree)
    (path : Path)
    (name : Text) : Except Fault Text :=
  match tree.readText path with
  | .ok text => .ok text
  | .error (.access .notFound) => .error (.sourceNotFound name)
  | .error fault => .error (.sourceUnreadable name path fault)

/- The text of the source file of a name. -/
def readText
    (tree : FileTree)
    (name : Text) : Except Fault Text :=
  readPath tree (Path.ofText name) name

/- The module in a source. -/
def parse
    (tree : FileTree)
    (source : Source) : Except Fault ModuleDoc :=
  (readPath tree source.path source.fileName).map fun text =>
    ModuleDoc.ofText text source.fileName source.rootName
      source.fileExtension

/- The events of reading the module in a source. -/
def parseEvents
    (tree : FileTree)
    (source : Source) : List Event :=
  match readPath tree source.path source.fileName with
  | .error _ => []
  | .ok text =>
      let module :=
        ModuleDoc.ofText text source.fileName source.rootName
          source.fileExtension
      ModuleDoc.events text source.fileName source.rootName ++
        [.sourceParsed module.fileName module.functions.length
          module.vars.length module.tables.length]

/-
  The modules in several sources, in their order, or the fault
  of the first source that cannot be read.
-/
def parseAll
    (tree : FileTree)
    (sources : List Source) : Except Fault (List ModuleDoc) :=
  sources.mapM (parse tree)

end Source

end Marginalia
