import FlatMessage.Text.Split

/-!
# Paths

A path is a text with slashes between its parts.  A path that begins with a
slash is absolute.  Joining keeps both texts as they are: nothing is made
normal, and an absolute reference replaces the base.

The parent, the name and the extension of a path do not count empty parts, nor
single dots other than a leading one.
-/

namespace FlatMessage.Files

namespace Path

/-- Whether a path begins at the root. -/
def isAbsolute (path : String) : Bool :=
  path.toList.head? = some '/'

/-- Follow `reference` from `base`. -/
def join (base reference : String) : String :=
  if isAbsolute reference || base.isEmpty then reference
  else if base.toList.getLast? = some '/' then base ++ reference
  else base ++ "/" ++ reference

@[simp]
theorem join_empty (reference : String) : join "" reference = reference := by
  simp [join]

/-- The parts between the slashes of a path. -/
def parts (path : String) : List String :=
  Text.split (· == '/') path

/-! ## Names and parents

A reversed path is cut at its slashes, which gives its parts from the last one
backwards. -/

/-- Whether a part counts for nothing. -/
def isVoid (part : List Char) : Bool :=
  part.isEmpty || part == ['.']

/-- The beginning of a path that is not divided: the root, or a leading single
dot. -/
def anchor (chars : List Char) : List Char :=
  match chars with
  | '/' :: _ => ['/']
  | ['.'] => ['.']
  | '.' :: '/' :: _ => ['.']
  | _ => []

/-- Drop the void parts at the end of a reversed path, and the slashes before
them.  `part` is what has been read of the last part. -/
def dropVoid (part : List Char) : List Char → List Char
  | [] => if isVoid part then [] else part
  | '/' :: rest => if isVoid part then dropVoid [] rest else part ++ '/' :: rest
  | c :: rest => dropVoid (part ++ [c]) rest

/-- The anchor of a path, and the reversed rest of it without void parts at its
end. -/
def divide (path : String) : List Char × List Char :=
  let anchor := anchor path.toList
  (anchor, dropVoid [] (path.toList.drop anchor.length).reverse)

/-- The last part of a path, unless the path only has an anchor. -/
def lastPart? (path : String) : Option String :=
  match (divide path).2 with
  | [] => none
  | body => some (String.ofList (body.takeWhile (· != '/')).reverse)

/-- The path of what contains the last part; the root and the empty path have
none. -/
def parent? (path : String) : Option String :=
  match divide path with
  | (anchor, []) => if anchor = ['.'] then some "" else none
  | (anchor, body) =>
      let outer := dropVoid [] (body.dropWhile (· != '/'))
      some (String.ofList (anchor ++ outer.reverse))

/-- The directory that relative references in a document are followed from. -/
def directory (path : String) : String :=
  (parent? path).getD ""

/-- The text after the last point of a name, if there is a name before it. -/
def extension? (path : String) : Option String :=
  match lastPart? path with
  | none => none
  | some ".." => none
  | some name =>
      let reversed := name.toList.reverse
      match reversed.dropWhile (· != '.') with
      | [] => none
      | [_] => none
      | _ => some (String.ofList (reversed.takeWhile (· != '.')).reverse)

end Path

end FlatMessage.Files
