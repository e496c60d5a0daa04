import FlatMessage.Location.Domain.Composition
import FlatMessage.Location.Domain.Direction
import FlatMessage.Location.Domain.Folding
import FlatMessage.Location.Domain.Joining
import FlatMessage.Location.Domain.Punycode
import FlatMessage.Text.Split

/-!
# Domain names

A domain name is a sequence of labels with dots between them.  It is folded and
composed before its labels are read, so that all ways to write a name give the same
one.  A label can be written in Punycode; then it has to stand for a label that needs
it and that is already folded and composed.
-/

namespace FlatMessage.Location.Domain

open FlatMessage.Text

/-- The number of characters that a label beyond ASCII may have. -/
def longestLabel : Nat := 1000

/-- The number of characters that a label in Punycode may have after its mark. -/
def longestEncoding : Nat := 2000

/-- Whether a character is beyond ASCII. -/
def isBeyondAscii (c : Char) : Bool :=
  128 ≤ c.toNat

/-- The characters that a label stands for: the mark `xn--` begins a label in
Punycode. -/
def labelChars? (label : List Char) : Option (List Char) :=
  match label with
  | 'x' :: 'n' :: '-' :: '-' :: encoded => do
      if longestEncoding < encoded.length then none
      else
        let chars ← Punycode.decode? encoded
        if chars.any isBeyondAscii && chars.all isSettled && composed chars = chars then
          some chars
        else none
  | label => some label

/-- Whether characters make a label: no mark begins it and its joiners fit. -/
def isLabel (chars : List Char) : Bool :=
  !chars.head?.any isMark && joinersFit [] chars &&
    (!chars.any isBeyondAscii || chars.length ≤ longestLabel)

/-- The name that characters denote, folded and composed; `none` if it is not well
formed. -/
def name? (chars : List Char) : Option (List Char) := do
  let name := composed (← chars.mapM fold?).flatten
  let labels ← (splitChars (· == '.') name).mapM labelChars?
  let keepsDirections := !labels.any (·.any runsRight) || labels.all keepsDirection
  if !name.any isForbidden && labels.all isLabel && keepsDirections then some name
  else none

end FlatMessage.Location.Domain
