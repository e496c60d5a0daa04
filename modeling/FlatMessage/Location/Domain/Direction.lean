import FlatMessage.Location.Domain.DirectionData
import FlatMessage.Text.Case

/-!
# The direction of labels

Some scripts run from right to left.  If a domain name has a character of such a
script, then each of its labels has to keep to one direction, so that it reads as one
piece wherever it is shown.
-/

namespace FlatMessage.Location.Domain

open FlatMessage.Text

/-- How a character runs. -/
inductive Direction
  | left
  | right
  | arabicNumber
  | europeanNumber
  | neutral
  | nonspacing
  deriving DecidableEq, Repr

/-- How a character runs. -/
def Direction.ofChar (c : Char) : Direction :=
  if c.toNat < 128 then
    if isDigit c then .europeanNumber
    else if isAsciiLetter c then .left
    else .neutral
  else if isIn rightRuns c then .right
  else if isIn arabicNumberRuns c then .arabicNumber
  else if isIn europeanNumberRuns c then .europeanNumber
  else if isIn neutralRuns c then .neutral
  else if isIn nonspacingRuns c then .nonspacing
  else .left

/-- Whether a character is a mark. -/
def isMark (c : Char) : Bool :=
  isIn nonspacingRuns c || isIn spacingMarkRuns c

/-- Whether a character makes a name one with two directions. -/
def runsRight (c : Char) : Bool :=
  [Direction.right, .arabicNumber].contains (Direction.ofChar c)

/-- Whether all directions of a label are allowed in it, and the last one, marks
apart, is allowed to end it. -/
def allow (inside atEnd : List Direction) (directions : List Direction) : Bool :=
  directions.all inside.contains &&
    (directions.reverse.dropWhile (· = .nonspacing)).head?.any atEnd.contains

/-- Whether a label keeps to one direction, the one of its first character. -/
def keepsDirection (label : List Char) : Bool :=
  let directions := label.map Direction.ofChar
  match directions with
  | [] => true
  | .left :: _ =>
      allow [.left, .europeanNumber, .neutral, .nonspacing] [.left, .europeanNumber]
        directions
  | .right :: _ =>
      allow [.right, .arabicNumber, .europeanNumber, .neutral, .nonspacing]
          [.right, .arabicNumber, .europeanNumber] directions &&
        !(directions.contains .arabicNumber && directions.contains .europeanNumber)
  | _ => false

end FlatMessage.Location.Domain
