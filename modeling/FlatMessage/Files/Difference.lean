import FlatMessage.Files.Tree

/-!
# Differences between file trees

A listing names everything inside an entry, with each directory before what it
contains.  The difference between two entries is what the later listing has that the
earlier one lacks, and what is gone: the items whose place holds nothing of their kind
any more.
-/

namespace FlatMessage.Files

/-- A file with its content, or a directory, at a place. -/
structure Item where
  place : Place
  /-- The content of a file; a directory has none. -/
  content : Option (List UInt8)
  deriving DecidableEq, Repr

namespace Entry

mutual

/-- What an entry at a place contains. -/
def listing (place : Place) : Entry → List Item
  | file _ => []
  | directory entries => listingIn place entries

/-- The entries of the directory at a place, each with what it contains. -/
def listingIn (place : Place) : List (String × Entry) → List Item
  | [] => []
  | (name, entry) :: rest =>
      let inner := place ++ [name]
      let content :=
        match entry with
        | file content => some content
        | directory _ => none
      ⟨inner, content⟩ :: (entry.listing inner ++ listingIn place rest)

end

end Entry

/-- Whether two items are at one place and of one kind. -/
def Item.isSameThing (item other : Item) : Bool :=
  item.place = other.place && item.content.isSome = other.content.isSome

/-- What has changed between two listings. -/
structure Difference where
  /-- What is new or has new content. -/
  written : List Item
  /-- What is gone. -/
  removed : List Item
  deriving DecidableEq, Repr

/-- The difference between two listings. -/
def Difference.between (earlier later : List Item) : Difference where
  written := later.filter fun item => !earlier.contains item
  removed := earlier.filter fun item => !later.any item.isSameThing

/-- The difference between what is inside one place of two trees. -/
def Tree.difference (earlier later : Tree) (place : Place) : Difference :=
  let inside (tree : Tree) : List Item :=
    ((tree.root.at? place).map (Entry.listing [])).getD []
  Difference.between (inside earlier) (inside later)

end FlatMessage.Files
