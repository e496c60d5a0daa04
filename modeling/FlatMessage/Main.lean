import FlatMessage.CommandLine.Extent
import FlatMessage.CommandLine.Program
import FlatMessage.Files.Difference
import FlatMessage.Schema.References

/-!
# Command line

The files in the extent of a command are read from the disk into a file tree, the
program runs on the tree, and the difference that it makes is carried over to the
disk.
-/

namespace FlatMessage.Disk

open CommandLine (Command Extent)
open Files (Difference Entry Item Place Tree)

/-- Whether a path leads to a directory of the disk. -/
def isDirectory (path : String) : IO Bool := do
  try
    (← IO.FS.realPath path).isDir
  catch _ => return false

/-- The names in a directory of the disk. -/
def names (path : String) : IO (List String) := do
  let entries ← (← IO.FS.realPath path).readDir
  return (entries.map fun entry => entry.fileName).toList

/-- The content of a file of the disk, if it can be read. -/
def content? (path : String) : IO (Option (List UInt8)) := do
  try
    return some (← IO.FS.readBinFile path).toList
  catch _ => return none

/-- Add the directories on the way to a path, and a directory it leads to. -/
def addDirectories (tree : Tree) (path : String) : IO Tree := do
  let mut tree := tree
  for outer in (Tree.lineage path (path.length + 1)).reverse do
    if ← isDirectory outer then
      tree := (tree.makeDirectory outer).toOption.getD tree
  return tree

/-- Add the file that a path leads to. -/
def addFile (tree : Tree) (path : String) : IO Tree := do
  let tree ← addDirectories tree path
  if tree.exists? path then return tree
  match ← content? path with
  | some content => return (tree.writeFile path content).toOption.getD tree
  | none => return tree

/-- Add a directory with everything inside it, or a file in its place. -/
partial def addAll (tree : Tree) (path : String) : IO Tree := do
  let mut tree ← addFile tree path
  if ← isDirectory path then
    for name in ← names path do
      tree ← addAll tree (Files.Path.join path name)
  return tree

/-- Add schemas and everything they refer to. -/
partial def addSchemas (tree : Tree) : List String → IO Tree
  | [] => return tree
  | location :: rest => do
      if tree.isFile location then addSchemas tree rest
      else
        let tree ← addFile tree location
        match tree.readText location with
        | .ok text => addSchemas tree (Schema.locationsIn location text ++ rest)
        | .error _ => addSchemas tree rest

/-- A tree with nothing but the working directory. -/
def start : IO Tree := do
  let working := ((Files.Path.parts (← IO.currentDir).toString).filter (· ≠ ""))
  return ⟨Entry.empty.put .empty working, working⟩

/-- The part of the disk that a command reads and changes. -/
def read (command : Command) : IO Tree := do
  let tree ← command.configurationPath?.toList.foldlM addFile (← start)
  let extent := command.extent tree
  let tree ← addSchemas tree extent.schemas
  let tree ← extent.texts.foldlM addFile tree
  let tree ← extent.directories.foldlM addAll tree
  extent.files.foldlM addDirectories tree

/-- Take an item away from the disk. -/
def remove (item : Item) : IO Unit :=
  let path := Place.path item.place
  if item.content.isSome then IO.FS.removeFile path else IO.FS.removeDir path

/-- Write an item to the disk. -/
def write (item : Item) : IO Unit :=
  let path := Place.path item.place
  match item.content with
  | some content => IO.FS.writeBinFile path content.toByteArray
  | none => IO.FS.createDirAll path

/-- Carry a difference over to the disk.  What is inside a directory is taken away
before it, and written after it. -/
def carry (difference : Difference) : IO Unit := do
  difference.removed.reverse.forM remove
  difference.written.forM write

end FlatMessage.Disk

open FlatMessage in
/-- Run the program on the disk. -/
def main (arguments : List String) : IO UInt32 := do
  let tree ←
    match CommandLine.Command.ofArguments arguments with
    | .ok command => Disk.read command
    | .error _ => Disk.start
  let (ending, after) := CommandLine.program tree arguments
  Disk.carry (tree.difference after [])
  IO.print ending.output
  if let some report := ending.report then IO.eprint report
  return ending.code
