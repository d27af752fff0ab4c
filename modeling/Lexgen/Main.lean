import Lexgen.Command
import Lexgen.Scope

/-!
The program. It copies the parts of the disk that a run looks at, runs the command on the copy, and
carries out on the disk what the run changed in the copy.
-/

namespace Lexgen

open Lexgen.Text

/-- Adds what lies below a directory to a tree. -/
partial def copyBelow (tree : FileTree) (place : Place) : IO FileTree := do
  let here ← IO.currentDir
  let mut tree := tree
  for entry in ← (here / (Scope.absolute place).text).readDir do
    let inner := place ++ [entry.fileName]
    if ← entry.path.isDir then
      tree ← copyBelow (tree.put inner .directory) inner
    else
      tree := tree.put inner (.file (← IO.FS.readBinFile entry.path).data.toList)
  return tree

/-- Adds the way to a place to a tree, as far as it exists. -/
def copyWay (tree : FileTree) (place : Place) : IO FileTree := do
  let here ← IO.currentDir
  let mut tree := tree
  for length in List.range place.length do
    let outer := place.take (length + 1)
    let path := here / (Scope.absolute outer).text
    if ← path.isDir then tree := tree.put outer .directory
    else if ← path.pathExists then
      tree := tree.put outer (.file (← IO.FS.readBinFile path).data.toList)
  return tree

/-- Adds the way to a place, and what lies below it, to a tree. -/
def copyPlace (tree : FileTree) (place : Place) : IO FileTree := do
  let tree ← copyWay tree place
  if ← ((← IO.currentDir) / (Scope.absolute place).text).isDir then copyBelow tree place
  else return tree

/-- Removes an entry from the disk. -/
def removeEntry (place : Place) : Entry → IO Unit
  | .directory => IO.FS.removeDir (Scope.absolute place).text
  | .file _ => IO.FS.removeFile (Scope.absolute place).text

/-- Sets an entry on the disk. -/
def setEntry (place : Place) : Entry → IO Unit
  | .directory => IO.FS.createDirAll (Scope.absolute place).text
  | .file contents => IO.FS.writeBinFile (Scope.absolute place).text ⟨contents.toArray⟩

/-- A copy of the parts of the disk that a run with some arguments looks at. -/
def copyFor (argv : List String) (workingDirectory : Place) : IO Disk := do
  let .ok args := Arguments.parse argv | return { workingDirectory := workingDirectory }
  let mut tree ← copyWay .empty workingDirectory
  for path in Scope.configFiles args do
    tree ← copyPlace tree (Scope.place workingDirectory path)
  let .ok config := Inputs.discoverConfig { tree, workingDirectory } args.config
    | return { tree, workingDirectory }
  let .ok settings := Settings.resolve args config | return { tree, workingDirectory }
  for path in Scope.roots settings do
    tree ← copyPlace tree (Scope.place workingDirectory path)
  return { tree, workingDirectory }

end Lexgen

open Lexgen in
def main (argv : List String) : IO UInt32 := do
  let here ← IO.currentDir
  let disk ← copyFor argv ((Text.segments '/' here.toString).filter (· ≠ ""))
  let result := Command.run 1 argv { disk := disk }
  for (place, entry) in Scope.removals disk.tree result.world.disk.tree do
    removeEntry place entry
  for (place, entry) in Scope.changes disk.tree result.world.disk.tree do
    setEntry place entry
  IO.print result.stdout
  IO.eprint result.stderr
  return UInt32.ofNat result.exitCode
