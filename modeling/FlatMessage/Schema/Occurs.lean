import FlatMessage.Number.Power
import FlatMessage.Text.Blank
import FlatMessage.Text.Numeral

/-!
# Occurrences

A child of a schema node may occur a least and a greatest number of times; the
greatest may be unbounded.
-/

namespace FlatMessage.Schema

/-- The greatest number that an occurrence attribute holds. -/
def occursLimit : Nat :=
  2 ^ 32 - 1

/-- How often a child may occur; without a maximum it is unbounded. -/
structure Occurs where
  min : Nat
  max : Option Nat
  deriving DecidableEq, Repr, Inhabited

namespace Occurs

/-- Exactly once. -/
def once : Occurs :=
  ⟨1, some 1⟩

/-- Whether several occurrences are allowed or no bound is set. -/
def isRepeating (occurs : Occurs) : Bool :=
  occurs.max ≠ some 0 && occurs.max ≠ some 1

/-- Whether a child may be absent. -/
def isOptional (occurs : Occurs) : Bool :=
  occurs.min = 0

/-- The text of a range of occurrences. -/
def text (occurs : Occurs) : String :=
  match occurs.max with
  | some max => s!"{Text.natural occurs.min}..{Text.natural max}"
  | none => s!"{Text.natural occurs.min}..*"

/-- Read a maximum; the outer option is empty when the text is no maximum. -/
def readMax? (text : String) : Option (Option Nat) :=
  let text := Text.trim text
  if text = "-1" ∨ text = "unbounded" then some none
  else (Text.unsigned? occursLimit text).map some

end Occurs

end FlatMessage.Schema
