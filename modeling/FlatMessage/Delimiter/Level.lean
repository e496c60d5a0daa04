/-!
# Delimiter levels

The structural levels of a flat message, coarsest first: segments hold fields,
fields repeat, and fields hold components which hold sub-components.  The
decimal separator is a level of its own: it stands inside numbers and never
separates tokens.

Levels are ordered from coarse to fine, and each has one canonical name in
schema documents.
-/

namespace FlatMessage.Delimiter

/-- A level of the delimiter hierarchy, or the decimal separator. -/
inductive Level
  | segment
  | field
  | fieldRepeat
  | component
  | subComponent
  | decimalSeparator
  deriving DecidableEq, Repr, Inhabited

namespace Level

/-- All levels, coarsest first. -/
def all : List Level :=
  [segment, field, fieldRepeat, component, subComponent, decimalSeparator]

/-- Every level is listed. -/
theorem mem_all (level : Level) : level ∈ all := by
  cases level <;> decide

/-- The name of a level in schema documents and descriptors. -/
def name : Level → String
  | segment => "segment"
  | field => "field"
  | fieldRepeat => "field-repeat"
  | component => "component"
  | subComponent => "sub-component"
  | decimalSeparator => "decimal-separator"

/-- The level a document names; the three compound names may also be spelled
in camel case. -/
def ofName? (text : String) : Option Level :=
  if text = "segment" then some segment
  else if text = "field" then some field
  else if text = "field-repeat" ∨ text = "fieldRepeat" then some fieldRepeat
  else if text = "component" then some component
  else if text = "sub-component" ∨ text = "subComponent" then some subComponent
  else if text = "decimal-separator" ∨ text = "decimalSeparator" then
    some decimalSeparator
  else none

/-- A canonical name denotes its level. -/
@[simp]
theorem ofName?_name (level : Level) : ofName? level.name = some level := by
  cases level <;> decide

/-- The depth of a level in the hierarchy. -/
def depth : Level → Nat
  | segment => 0
  | field => 1
  | fieldRepeat => 2
  | component => 3
  | subComponent => 4
  | decimalSeparator => 5

/-- Whether a level is nested inside `other`. -/
def isFinerThan (level other : Level) : Bool :=
  other.depth < level.depth

/-- Whether a level separates tokens. -/
def isStructural (level : Level) : Bool :=
  level != decimalSeparator

/-- The levels that separate tokens, coarsest first. -/
def structural : List Level :=
  all.filter isStructural

theorem mem_structural_iff (level : Level) :
    level ∈ structural ↔ level ≠ decimalSeparator := by
  cases level <;> decide

end Level

end FlatMessage.Delimiter
