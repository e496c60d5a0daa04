/-!
# Runs of characters

Sets of characters and mappings between them, listed by runs of code points with a
fixed stride.  A mapping moves every character of a run by the same distance; the
characters that map to several are listed one by one.
-/

namespace FlatMessage.Text

/-- The code points from `first` to `last` at distance `stride`. -/
structure Run where
  first : Nat
  last : Nat
  stride : Nat
  deriving DecidableEq, Repr

/-- Whether a code point is in a run. -/
def Run.contains (run : Run) (code : Nat) : Bool :=
  run.first ≤ code && code ≤ run.last && (code - run.first) % run.stride = 0

/-- Whether a character is in one of several runs. -/
def isIn (runs : List Run) (c : Char) : Bool :=
  runs.any (·.contains c.toNat)

@[simp]
theorem isIn_cons (run : Run) (runs : List Run) (c : Char) :
    isIn (run :: runs) c = (run.contains c.toNat || isIn runs c) :=
  rfl

/-- A run whose characters all map to the character at `distance`. -/
structure Shift where
  run : Run
  distance : Int
  deriving DecidableEq, Repr

/-- What a character maps to under a list of sequences and of shifts; a character in
neither maps to itself. -/
def mapped (sequences : List (Nat × List Nat)) (shifts : List Shift) (c : Char) :
    List Char :=
  match sequences.lookup c.toNat with
  | some codes => codes.map Char.ofNat
  | none =>
      match shifts.find? fun shift => shift.run.contains c.toNat with
      | some shift => [Char.ofNat ((c.toNat : Int) + shift.distance).toNat]
      | none => [c]

end FlatMessage.Text
