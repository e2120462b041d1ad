import Marginalia.Command
import Marginalia.Command.Log
import Marginalia.Yaml.Loader

/-
  This file is the command line of the program. It reads the
  files below the current directory, runs the command on them
  in memory, and then prints and writes what the command did.
-/

namespace Marginalia

namespace Main

------------------------------------------------------------
-- Reading the Files
------------------------------------------------------------

/- The name and node of a directory entry; links are left out. -/
partial def loadEntry
    (entry : IO.FS.DirEntry) : IO (Option (Text × Node)) := do
  let name := entry.fileName.toList
  match (← entry.path.symlinkMetadata).type with
  | .dir =>
      let mut entries := []
      for child in (← entry.path.readDir) do
        if let some (childName, node) ← loadEntry child then
          entries := Node.insert childName node entries
      pure (some (name, .directory entries))
  | .file =>
      let content ← IO.FS.readBinFile entry.path
      pure (some (name, .file content.toList))
  | _ => pure none

/- The file tree as it is seen from the current directory. -/
def loadTree : IO FileTree := do
  let current ← IO.currentDir
  let mut entries := []
  for child in (← current.readDir) do
    if let some (name, node) ← loadEntry child then
      entries := Node.insert name node entries
  let home := (current.components.filter (· != "")).map String.toList
  pure
    { root := Node.put (.directory entries) home Node.emptyDirectory
      home }

------------------------------------------------------------
-- Writing the Files
------------------------------------------------------------

/- The absolute path of a place. -/
def placePath
    (place : Place) : String :=
  String.ofList (['/'] ++ Text.join ['/'] place)

/- Write what differs between two file trees. -/
def storeChanges
    (before after : FileTree) : IO Unit := do
  for place in before.newDirectories after do
    IO.FS.createDirAll (placePath place)
  for (place, content) in before.changes after do
    IO.FS.writeBinFile (placePath place) ⟨content.toArray⟩

/- Print what a command shows. -/
def printOutcome
    (outcome : Command.Outcome) : IO Unit := do
  let format := outcome.logFormat.getD .console
  for event in outcome.events do
    IO.eprintln (String.ofList (Log.line format event))
  IO.print (String.ofList outcome.output)
  IO.eprint (String.ofList outcome.errors)
  if let some fault := outcome.unhandled then
    IO.eprint (String.ofList (Command.errorLine fault.message))

end Main

end Marginalia

open Marginalia in
/- Run the command that the arguments ask for. -/
def main
    (arguments : List String) : IO UInt32 := do
  let tree ← Main.loadTree
  let outcome :=
    Command.run Engine.plain Yaml.loader tree
      (arguments.map String.toList)
  Main.storeChanges tree outcome.tree
  Main.printOutcome outcome
  pure outcome.exitCode.toUInt32
