import FlatMessage.Location.Domain.FoldingData
import FlatMessage.Text.Case

/-!
# Folding domain names

A domain name says the same in either case, and with characters that only look
different, such as full-width letters.  Folding replaces each character by the ones
that it stands for; some do not count at all, and some have no place in a name.

Characters that stand for others beyond ASCII are left as they are: they are allowed
wherever the others are, and no rule about names asks which ones they stand for.
-/

namespace FlatMessage.Location.Domain

open FlatMessage.Text

/-- What a character stands for; `none` for one that no name is written with. -/
def fold? (c : Char) : Option (List Char) :=
  if c.toNat < 128 then some (toLowercase c)
  else if isIn forbiddenRuns c then none
  else if isIn ignoredRuns c then some []
  else some (mapped foldSequences foldShifts c)

/-- Whether a character stands for itself alone. -/
def isSettled (c : Char) : Bool :=
  fold? c = some [c] && !isIn variantRuns c

/-- Whether a character has no place in a folded name. -/
def isForbidden (c : Char) : Bool :=
  c.toNat ≤ 32 || c = '\x7f' ||
    ['%', '#', '/', ':', '<', '>', '?', '@', '[', '\\', ']', '^', '|'].contains c

end FlatMessage.Location.Domain
