import FlatMessage.Files.Path
import FlatMessage.Text.Case

/-!
# Identifiers

Type, property and namespace names are derived from the free names of a schema.
Types are written in Pascal case and properties in snake case; the characters
`_`, `-`, `.` and the space separate words.  In snake case a word also begins at
a capital letter after a small letter or a digit, and at the last capital of a
run of capitals that a small letter follows.

A derived name is an identifier when it consists of ASCII letters, digits and
underscores, does not begin with a digit and is not reserved.
-/

namespace FlatMessage.Naming

/-- The words that cannot be identifiers. -/
def reserved : List String :=
  ["abstract", "as", "async", "await", "become", "box", "break", "const",
    "continue", "crate", "do", "dyn", "else", "enum", "extern", "false", "final",
    "fn", "for", "gen", "if", "impl", "in", "let", "loop", "macro", "match", "mod",
    "move", "mut", "override", "priv", "pub", "ref", "return", "self", "Self",
    "static", "struct", "super", "trait", "true", "try", "type", "typeof",
    "unsafe", "unsized", "use", "virtual", "where", "while", "yield"]

/-- Whether a character separates words. -/
def isSeparator (c : Char) : Bool :=
  c == '_' || c == '-' || c == '.' || c == ' '

/-- Whether a word begins at `c`, which stands between `previous` and `next`. -/
def beginsWord (previous : Option Char) (c : Char) (next : Option Char) : Bool :=
  match previous with
  | none => false
  | some previous =>
      Text.isUppercase c &&
        (Text.isLowercase previous || Text.isDigit previous ||
          (Text.isUppercase previous && next.any Text.isLowercase))

/-- Continue a name in snake case.  `previous` is the character read last and
`written` the character written last. -/
def snakeFrom (previous written : Option Char) : List Char → List Char
  | [] => []
  | c :: rest =>
      if isSeparator c then
        if written.isNone || written = some '_' then
          snakeFrom (some c) written rest
        else '_' :: snakeFrom (some c) (some '_') rest
      else
        let word := Text.toLowercase c
        let last := word.getLast?.or written
        if written ≠ some '_' ∧ beginsWord previous c rest.head? then
          '_' :: (word ++ snakeFrom (some c) last rest)
        else word ++ snakeFrom (some c) last rest

/-- Drop the underscores at the end. -/
def dropTrailing (chars : List Char) : List Char :=
  (chars.reverse.dropWhile (· == '_')).reverse

/-- A name in snake case. -/
def snakeCase (name : String) : String :=
  String.ofList (dropTrailing (snakeFrom none none name.toList))

/-- Continue a name in Pascal case; `atStart` tells whether the next character
begins a word. -/
def pascalFrom (atStart : Bool) : List Char → List Char
  | [] => []
  | c :: rest =>
      if isSeparator c then pascalFrom true rest
      else if atStart then Text.toUppercase c ++ pascalFrom false rest
      else c :: pascalFrom false rest

/-- A name in Pascal case. -/
def pascalCase (name : String) : String :=
  String.ofList (pascalFrom true name.toList)

/-- Why a name has no identifier. -/
inductive Objection
  | emptyName
  | noLetterFirst
  | invalidCharacters
  | reservedWord
  deriving DecidableEq, Repr

/-- The wording of an objection. -/
def Objection.message : Objection → String
  | emptyName => "empty name"
  | noLetterFirst => "must start with a letter"
  | invalidCharacters => "contains invalid characters"
  | reservedWord => "reserved word"

/-- A name without an identifier, and why. -/
structure IllegalName where
  name : String
  objection : Objection
  deriving DecidableEq, Repr

/-- The report of an illegal name. -/
def IllegalName.message (illegal : IllegalName) : String :=
  s!"illegal identifier '{illegal.name}': {illegal.objection.message}"

/-- What speaks against a text as an identifier. -/
def objection? (identifier : String) : Option Objection :=
  match identifier.toList with
  | [] => some .emptyName
  | first :: rest =>
      if !(Text.isAsciiLetter first || first == '_') then some .noLetterFirst
      else if !(first :: rest).all fun c => Text.isAsciiAlphanumeric c || c == '_' then
        some .invalidCharacters
      else if reserved.contains identifier then some .reservedWord
      else none

/-- Whether a text is an identifier. -/
def IsIdentifier (identifier : String) : Prop :=
  objection? identifier = none

/-- Accept `identifier`, which was derived from `name`. -/
def check (name identifier : String) : Except IllegalName String :=
  match objection? identifier with
  | none => .ok identifier
  | some objection => .error ⟨name, objection⟩

/-- What is accepted is the identifier itself. -/
theorem check_eq_ok_iff {name identifier accepted : String} :
    check name identifier = .ok accepted ↔
      accepted = identifier ∧ IsIdentifier identifier := by
  unfold check IsIdentifier
  cases objection? identifier <;> simp [eq_comm]

/-- The type identifier of a name. -/
def typeIdentifier (name : String) : Except IllegalName String :=
  check name (pascalCase name)

/-- The property identifier of a name. -/
def propertyIdentifier (name : String) : Except IllegalName String :=
  check name (snakeCase name)

/-- The namespace segment of a message name.  It is in lower case: snake case puts every
character in lower case, and doing that once more changes nothing. -/
def namespaceSegment (name : String) : Except IllegalName String :=
  check name (snakeCase name)

/-! ## Namespaces -/

/-- The segments of a namespace, which dots separate. -/
def segments (space : String) : List String :=
  Text.split (· == '.') space

/-- Accept a namespace whose segments are all identifiers. -/
def checkNamespace (space : String) : Except IllegalName Unit :=
  (segments space).forM fun segment => (check space segment).map fun _ => ()

/-- The directory of a namespace, with one part for each segment. -/
def directory (space : String) : String :=
  (segments space).foldl Files.Path.join ""

/-- The slash-separated name of a namespace. -/
def logicalPath (space : String) : String :=
  "/" ++ Text.substitute '.' "/" space

/-- The logical path of the binding configuration in a namespace. -/
def bindingPath (space : String) : String :=
  logicalPath space ++ "/binding-config.json"

end FlatMessage.Naming
