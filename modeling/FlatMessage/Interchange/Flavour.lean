/-!
# Interchange flavours

Messages travel in interchanges, whose envelope segments depend on the standard.
-/

namespace FlatMessage.Interchange

/-- The interchange standards. -/
inductive Flavour
  | unEdifact
  | x12
  deriving DecidableEq, Repr, Inhabited

namespace Flavour

/-- The name of a standard. -/
def name : Flavour → String
  | unEdifact => "UNEDIFACT"
  | x12 => "X12"

/-- The standard with a name. -/
def ofName? (text : String) : Option Flavour :=
  if text = "UNEDIFACT" then some unEdifact
  else if text = "X12" then some x12
  else none

/-- A name denotes its standard. -/
@[simp]
theorem ofName?_name (flavour : Flavour) : ofName? flavour.name = some flavour := by
  cases flavour <;> decide

/-- The codes of the envelope segments, outermost first. -/
def envelope : Flavour → List String
  | unEdifact => ["UNB", "UNG", "UNH"]
  | x12 => ["ISA", "GS", "ST"]

end Flavour

end FlatMessage.Interchange
