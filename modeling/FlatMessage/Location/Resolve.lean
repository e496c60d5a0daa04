import FlatMessage.Files.Path
import FlatMessage.Location.Locator

/-!
# Resolving references

A reference to a document is a path or a locator of a file.  A path is followed from
a base directory; a locator stands for itself.  Locators of other schemes are not
supported, except that a scheme of one letter is the drive letter of a path.
-/

namespace FlatMessage.Location

/-- The path that a reference denotes when it is followed from `base`; `none` for an
unsupported locator. -/
def resolve? (reference base : String) : Option String :=
  match Locator.ofText? reference with
  | some (.file path) => path
  | some (.other scheme) =>
      if 1 < scheme.length then none else some (Files.Path.join base reference)
  | none => some (Files.Path.join base reference)

end FlatMessage.Location
