import FlatMessage.Location.Domain.Composition
import FlatMessage.Location.Domain.DirectionData
import FlatMessage.Location.Domain.JoiningData

/-!
# Joiners

Two characters without a shape of their own say whether the letters around them are
written joined.  In a label they may stand only where they make a difference: after a
sign that drops the vowel of a letter, and the one that keeps letters apart also
between letters of a cursive script that would join.
-/

namespace FlatMessage.Location.Domain

open FlatMessage.Text

/-- The character that keeps letters apart. -/
def nonJoiner : Char := '\u200c'

/-- The character that joins letters. -/
def joiner : Char := '\u200d'

/-- Whether a letter joins what is after it. -/
def joinsNext (c : Char) : Bool :=
  isIn dualJoiningRuns c || isIn leftJoiningRuns c

/-- Whether a letter joins what is before it. -/
def joinsPrevious (c : Char) : Bool :=
  isIn dualJoiningRuns c || isIn rightJoiningRuns c

/-- Whether letters join as if a character was not there. -/
def isPassedOver (c : Char) : Bool :=
  isIn nonspacingRuns c || isIn passedOverRuns c

/-- Whether a character is a sign that drops the vowel of a letter. -/
def dropsVowel (c : Char) : Bool :=
  combiningClass c = 9

/-- Whether the next letter of a text joins. -/
def reaches (joins : Char → Bool) (chars : List Char) : Bool :=
  (chars.dropWhile isPassedOver).head?.any joins

/-- Whether the joiners of a label stand where they may.  `before` holds the characters
before, innermost first. -/
def joinersFit (before : List Char) : List Char → Bool
  | [] => true
  | c :: rest =>
      let fits :=
        if c = nonJoiner then
          before.head?.any dropsVowel ||
            (reaches joinsNext before && reaches joinsPrevious rest)
        else if c = joiner then before.head?.any dropsVowel
        else true
      fits && joinersFit (c :: before) rest

end FlatMessage.Location.Domain
