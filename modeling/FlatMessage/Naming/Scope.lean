import FlatMessage.Text.Numeral

/-!
# Scopes of unique names

A name that is taken gets a numeric suffix: the least one from two on that is
free.  A scope of `n` names leaves one of the first `n + 1` suffixes free, so the
search ends.
-/

namespace FlatMessage.Naming

/-- The names claimed so far. -/
abbrev Scope :=
  List String

namespace Scope

/-- The name with a suffix. -/
def suffixed (base separator : String) (number : Nat) : String :=
  base ++ separator ++ Text.natural number

/-- The first free suffixed name from `number` on, among `fuel + 1` of them. -/
def firstFree (scope : Scope) (base separator : String) (number : Nat) :
    Nat → String
  | 0 => suffixed base separator number
  | fuel + 1 =>
      if scope.contains (suffixed base separator number) then
        firstFree scope base separator (number + 1) fuel
      else suffixed base separator number

/-- The name that a claim on `base` yields. -/
def freeName (scope : Scope) (base separator : String) : String :=
  if scope.contains base then
    firstFree scope base separator 2 scope.length
  else base

/-- Claim a name: `base` itself if it is free. -/
def claim (scope : Scope) (base separator : String) : String × Scope :=
  let name := freeName scope base separator
  (name, name :: scope)

/-- A free name is given as it is. -/
theorem freeName_of_not_mem {scope : Scope} {base : String}
    (free : base ∉ scope) (separator : String) :
    freeName scope base separator = base := by
  simp [freeName, free]

end Scope

end FlatMessage.Naming
