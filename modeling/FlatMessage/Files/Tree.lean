import FlatMessage.Files.FileError
import FlatMessage.Files.Path
import FlatMessage.Keyed
import FlatMessage.Text.Utf8

/-!
# File trees

A file tree is a directory at the root with everything inside it, and the place of
the working directory.  A place is the list of names on the way from the root.

A path leads to a place by walking its parts: empty parts and single dots stay,
double dots go up, and every part asks for a directory before it.  There are no
links, so a place is the canonical form of every path that leads to it.
-/

namespace FlatMessage.Files

/-- What a name in a directory stands for. -/
inductive Entry
  | file (content : List UInt8)
  | directory (entries : List (String × Entry))
  deriving Inhabited

/-- The names on the way from the root. -/
abbrev Place :=
  List String

namespace Entry

/-- An empty directory. -/
def empty : Entry :=
  directory []

/-- The entry at a place. -/
def at? (entry : Entry) : Place → Option Entry
  | [] => some entry
  | name :: rest =>
      match entry with
      | file _ => none
      | directory entries =>
          match Keyed.get? name entries with
          | some inner => inner.at? rest
          | none => none

/-- Put an entry at a place, with directories on the way to it. -/
def put (entry : Entry) (new : Entry) : Place → Entry
  | [] => new
  | name :: rest =>
      let entries :=
        match entry with
        | file _ => []
        | directory entries => entries
      let inner := (Keyed.get? name entries).getD empty
      directory (Keyed.insert name (inner.put new rest) entries)

/-- Take away the entry at a place; the root stays. -/
def remove (entry : Entry) : Place → Entry
  | [] => entry
  | name :: rest =>
      match entry with
      | file content => file content
      | directory entries =>
          match rest with
          | [] => directory (Keyed.erase name entries)
          | rest =>
              match Keyed.get? name entries with
              | some inner => directory (Keyed.insert name (inner.remove rest) entries)
              | none => directory entries

mutual

/-- The number of files in an entry. -/
def fileCount : Entry → Nat
  | file _ => 1
  | directory entries => fileCountIn entries

/-- The number of files in the entries of a directory. -/
def fileCountIn : List (String × Entry) → Nat
  | [] => 0
  | (_, entry) :: rest => entry.fileCount + fileCountIn rest

end

/-- Whether an entry is a directory. -/
def isDirectory : Entry → Bool
  | directory _ => true
  | file _ => false

end Entry

/-- The canonical path of a place. -/
def Place.path (place : Place) : String :=
  "/" ++ Text.join "/" place

/-- A root directory and the working directory in it. -/
structure Tree where
  root : Entry
  working : Place

namespace Tree

/-- The greatest number of bytes of a name. -/
def nameLimit : Nat :=
  255

/-- The number of bytes that a path stays below. -/
def pathLimit : Nat :=
  4096

/-- Walk one part of a path from a place. -/
def step (tree : Tree) (place : Place) (part : String) : Except FileError Place :=
  match tree.root.at? place with
  | none => .error .notFound
  | some (.file _) => .error .notDirectory
  | some (.directory entries) =>
      if part = "" ∨ part = "." then .ok place
      else if part = ".." then .ok place.dropLast
      else if nameLimit < part.utf8ByteSize then .error .nameTooLong
      else
        match Keyed.get? part entries with
        | some _ => .ok (place ++ [part])
        | none => .error .notFound

/-- The place that a path is walked from. -/
def start (tree : Tree) (path : String) : Place :=
  if Path.isAbsolute path then [] else tree.working

/-- What is wrong with the text of a path. -/
def flaw? (path : String) : Option FileError :=
  if path.toList.contains '\x00' then some .zeroInPath
  else if path = "" then some .notFound
  else if pathLimit ≤ path.utf8ByteSize then some .nameTooLong
  else none

/-- The place that a path leads to. -/
def locate (tree : Tree) (path : String) : Except FileError Place :=
  match flaw? path with
  | some flaw => .error flaw
  | none => (Path.parts path).foldlM tree.step (tree.start path)

/-- The entry that a path leads to. -/
def entry (tree : Tree) (path : String) : Except FileError Entry := do
  match tree.root.at? (← tree.locate path) with
  | some entry => .ok entry
  | none => .error .notFound

/-- Whether a path leads anywhere. -/
def exists? (tree : Tree) (path : String) : Bool :=
  (tree.entry path).isOk

/-- Whether a path leads to a directory. -/
def isDirectory (tree : Tree) (path : String) : Bool :=
  match tree.entry path with
  | .ok entry => entry.isDirectory
  | .error _ => false

/-- Whether a path leads to a file. -/
def isFile (tree : Tree) (path : String) : Bool :=
  match tree.entry path with
  | .ok entry => !entry.isDirectory
  | .error _ => false

/-- The canonical form of a path, or the path itself when it leads nowhere.  It is found
name by name, so the text of the path may be longer than one that a file is opened with. -/
def canonical (tree : Tree) (path : String) : String :=
  if path = "" ∨ path.toList.contains '\x00' then path
  else
    match (Path.parts path).foldlM tree.step (tree.start path) with
    | .ok place => place.path
    | .error _ => path

/-- The text of the file that a path leads to. -/
def readText (tree : Tree) (path : String) : Except FileError String := do
  match ← tree.entry path with
  | .directory _ => .error .isDirectory
  | .file content =>
      match Text.ofBytes? content with
      | some text => .ok text
      | none => .error .notText

/-! ## Changes -/

/-- The place of the directory that the last of `parts` is looked up in. -/
def container (tree : Tree) (path : String) (parts : List String) :
    Except FileError Place := do
  let place ← parts.dropLast.foldlM tree.step (tree.start path)
  tree.step place ""

/-- The parts of a path without the empty ones at its end. -/
def trimmedParts (path : String) : List String :=
  ((Path.parts path).reverse.dropWhile (· = "")).reverse

/-- Write a file, which replaces a file of that name.  A path that ends in a slash
or in dots asks for a directory. -/
def writeFile (tree : Tree) (path : String) (content : List UInt8) :
    Except FileError Tree :=
  match flaw? path with
  | some flaw => .error flaw
  | none => do
      let parts := trimmedParts path
      let place ← tree.container path parts
      match parts.getLast? with
      | none => .error .isDirectory
      | some name =>
          if name = "." ∨ name = ".." ∨ path.toList.getLast? = some '/' then
            .error .isDirectory
          else if nameLimit < name.utf8ByteSize then .error .nameTooLong
          else
            match tree.root.at? (place ++ [name]) with
            | some (.directory _) => .error .isDirectory
            | _ => .ok { tree with root := tree.root.put (.file content) (place ++ [name]) }

/-- Make one directory inside a directory that is there. -/
def makeDirectory (tree : Tree) (path : String) : Except FileError Tree :=
  match flaw? path with
  | some flaw => .error flaw
  | none => do
      let parts := trimmedParts path
      let place ← tree.container path parts
      match parts.getLast? with
      | none => .error .alreadyExists
      | some name =>
          if name = "." ∨ name = ".." then .error .alreadyExists
          else if nameLimit < name.utf8ByteSize then .error .nameTooLong
          else
            match tree.root.at? (place ++ [name]) with
            | some _ => .error .alreadyExists
            | none => .ok { tree with root := tree.root.put .empty (place ++ [name]) }

/-- A path and the paths of what contains it, innermost first.  `fuel` bounds
their number. -/
def lineage (path : String) : Nat → List String
  | 0 => []
  | fuel + 1 =>
      if path = "" then []
      else path :: ((Path.parent? path).elim [] fun outer => lineage outer fuel)

/-- Make the first directory of a lineage; the ones that contain it are made
first when they are missing.  The tree is returned in every case, because some
directories may have been made before a failure. -/
def makeLineage (tree : Tree) : List String → Except FileError Unit × Tree
  | [] => (.ok (), tree)
  | path :: outer =>
      let settle (tree : Tree) (failure : FileError) : Except FileError Unit × Tree :=
        if tree.isDirectory path then (.ok (), tree) else (.error failure, tree)
      match tree.makeDirectory path with
      | .ok made => (.ok (), made)
      | .error .notFound =>
          match makeLineage tree outer with
          | (.error failure, tree) => (.error failure, tree)
          | (.ok (), tree) =>
              match tree.makeDirectory path with
              | .ok made => (.ok (), made)
              | .error failure => settle tree failure
      | .error failure => settle tree failure

/-- Make a directory and everything missing on the way to it. -/
def makeDirectories (tree : Tree) (path : String) : Except FileError Unit × Tree :=
  makeLineage tree (lineage path (path.length + 1))

/-- Remove a directory with everything inside it.  A path that ends in dots has
its content removed, but cannot be removed itself. -/
def removeDirectories (tree : Tree) (path : String) : Except FileError Unit × Tree :=
  match tree.locate path with
  | .error failure => (.error failure, tree)
  | .ok place =>
      let emptied := { tree with root := tree.root.put .empty place }
      match (trimmedParts path).getLast? with
      | some "." => (.error .invalidArgument, emptied)
      | some ".." => (.error .notEmpty, emptied)
      | _ => (.ok (), { tree with root := tree.root.remove place })

end Tree

end FlatMessage.Files
