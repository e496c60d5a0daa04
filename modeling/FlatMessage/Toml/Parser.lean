import FlatMessage.Toml.Moment
import FlatMessage.Toml.Value

/-!
# Reading TOML documents

A document is a sequence of lines with at most one statement each: a key with a
value, the header of a table, or the header of a further table in an array of
tables.  Statements are carried out in order on the table of the document.

A key is never given two values.  A header never names a table that has a header
already or that was written by dotted keys, and dotted keys never extend a table
that has a header.  A table between braces is complete as it is written.
-/

namespace FlatMessage.Toml

/-! ## Tables -/

/-- The members of a table. -/
abbrev Members :=
  List (String × Toml)

/-- Give a key of a table another value, or a first one after the other keys. -/
def setMember (key : String) (value : Toml) : Members → Members
  | [] => [(key, value)]
  | (name, old) :: rest =>
      if name = key then (name, value) :: rest
      else (name, old) :: setMember key value rest

/-- Whether a table is only there because something inside it is. -/
def Origin.isImplicit : Origin → Bool
  | .implied => true
  | .dotted => true
  | .header => false
  | .inline => false

/-- Change the table that a way of keys leads to from a table.  Tables that are
missing come about with origin `missing`.  `isOpen` tells which tables on the way
may be entered. -/
def changeAt (missing : Origin) (isOpen : Origin → Bool)
    (change : Origin → Members → Option Toml) (origin : Origin)
    (members : Members) : List String → Option Toml
  | [] => change origin members
  | key :: keys => do
      let inner ←
        match members.lookup key with
        | none => changeAt missing isOpen change missing [] keys
        | some (.table origin inner) =>
            if isOpen origin then changeAt missing isOpen change origin inner keys
            else none
        | some (.tables items) =>
            match items.getLast? with
            | some (.table origin inner) => do
                let last ← changeAt missing isOpen change origin inner keys
                some (.tables (items.dropLast ++ [last]))
            | _ => none
        | some _ => none
      some (.table origin (setMember key inner members))

/-- Give the last part of a dotted key a value. -/
def assign (missing : Origin) (keys : List String) (value : Toml)
    (origin : Origin) (members : Members) : Option Toml :=
  match keys.getLast? with
  | none => none
  | some key =>
      let way := keys.dropLast
      let put (origin : Origin) (members : Members) : Option Toml :=
        if decide (origin = .dotted) == way.isEmpty then none
        else if (members.lookup key).isSome then none
        else some (.table origin (members ++ [(key, value)]))
      changeAt missing Origin.isImplicit put origin members way

/-- Add the table of a header. -/
def openTable (key : String) (origin : Origin) (members : Members) : Option Toml :=
  match members.lookup key with
  | none => some (.table origin (members ++ [(key, .table .header [])]))
  | some (.table .implied inner) =>
      some (.table origin (setMember key (.table .header inner) members))
  | some _ => none

/-- Add the table of a double-bracket header. -/
def openItem (key : String) (origin : Origin) (members : Members) : Option Toml :=
  match members.lookup key with
  | none => some (.table origin (members ++ [(key, .tables [.table .header []])]))
  | some (.tables items) =>
      some (.table origin
        (setMember key (.tables (items ++ [.table .header []])) members))
  | some _ => none

/-! ## Values -/

/-- Whether a character ends a literal. -/
def endsLiteral (c : Char) : Bool :=
  isSpace c || c = '\n' || c = '\r' || c = ',' || c = ']' || c = '}' || c = '#'

/-- Read a truth value, a number or a moment.  A date goes on after a space that a
digit follows. -/
def readAtom? (chars : List Char) : Option (Toml × List Char) :=
  let word := chars.takeWhile fun c => !endsLiteral c
  let rest := chars.drop word.length
  let (word, rest) :=
    match rest with
    | ' ' :: digit :: _ =>
        if isDate word && Text.isDigit digit then
          let clock := (rest.drop 1).takeWhile fun c => !endsLiteral c
          (word ++ ' ' :: clock, rest.drop (clock.length + 1))
        else (word, rest)
    | _ => (word, rest)
  if word = "true".toList then some (.boolean true, rest)
  else if word = "false".toList then some (.boolean false, rest)
  else if isInteger word || isReal word || isMoment word then
    some (.literal (String.ofList word), rest)
  else none

/-- The nesting depth of arrays and tables that a value does not reach. -/
def depthLimit : Nat :=
  80

mutual

/-- Read a value.  Every nested call has less `fuel`. -/
def readValue (fuel : Nat) (depth : Nat) (chars : List Char) :
    Option (Toml × List Char) :=
  match fuel with
  | 0 => none
  | fuel + 1 =>
      match readString? chars with
      | some read => do
          let (text, rest) ← read
          some (.string (String.ofList text), rest)
      | none =>
          let isDeepest := depthLimit ≤ depth + 1
          match chars with
          | '[' :: rest => if isDeepest then none else readItems fuel (depth + 1) [] rest
          | '\x7b' :: rest =>
              if isDeepest then none
              else
                match skipSpace rest with
                | '\x7d' :: rest => some (.table .inline [], rest)
                | rest => readMembers fuel (depth + 1) (.table .header []) rest
          | chars => readAtom? chars

/-- Read the rest of an array. -/
def readItems (fuel depth : Nat) (items : List Toml) (chars : List Char) :
    Option (Toml × List Char) :=
  match fuel with
  | 0 => none
  | fuel + 1 =>
      match skipBlank chars with
      | ']' :: rest => some (.array items, rest)
      | chars => do
          let (item, rest) ← readValue fuel depth chars
          match skipBlank rest with
          | ',' :: rest => readItems fuel depth (items ++ [item]) rest
          | ']' :: rest => some (.array (items ++ [item]), rest)
          | _ => none

/-- Read the rest of a table between braces, which has a member next. -/
def readMembers (fuel depth : Nat) (table : Toml) (chars : List Char) :
    Option (Toml × List Char) :=
  match fuel with
  | 0 => none
  | fuel + 1 => do
      let (keys, rest) ← readKey? chars
      match rest with
      | '=' :: rest => do
          let (value, rest) ← readValue fuel depth (skipSpace rest)
          match table with
          | .table origin members => do
              let table ← assign .dotted keys value origin members
              match skipSpace rest with
              | ',' :: rest => readMembers fuel depth table rest
              | '\x7d' :: rest =>
                  match table with
                  | .table _ members => some (.table .inline members, rest)
                  | _ => none
              | _ => none
          | _ => none
      | _ => none

end

/-! ## Statements -/

/-- A statement of a document. -/
inductive Statement
  | assignment (keys : List String) (value : Toml)
  | header (keys : List String)
  | itemHeader (keys : List String)

/-- Read the statement at the beginning of a line. -/
def readStatement? (chars : List Char) : Option (Statement × List Char) :=
  match chars with
  | '[' :: '[' :: rest => do
      let (keys, rest) ← readKey? rest
      match rest with
      | ']' :: ']' :: rest => some (.itemHeader keys, rest)
      | _ => none
  | '[' :: rest => do
      let (keys, rest) ← readKey? rest
      match rest with
      | ']' :: rest => some (.header keys, rest)
      | _ => none
  | chars => do
      let (keys, rest) ← readKey? chars
      match rest with
      | '=' :: rest => do
          let (value, rest) ← readValue (2 * rest.length + 2) 0 (skipSpace rest)
          some (.assignment keys value, rest)
      | _ => none

/-- Read the statements of a document.  Every step drops a character. -/
def readStatements (chars : List Char) : Nat → Option (List Statement)
  | 0 => none
  | fuel + 1 =>
      match skipBlank chars with
      | [] => some []
      | chars => do
          let (statement, rest) ← readStatement? chars
          match skipComment (skipSpace rest) with
          | [] => some [statement]
          | rest => do
              let rest ← afterLineEnd? rest
              some (statement :: (← readStatements rest fuel))

/-- Carry out a statement on the table of a document.  `here` is the way to the table
that assignments belong to. -/
def Statement.apply (statement : Statement) (here : List String) :
    Toml → Option (List String × Toml)
  | .table origin members =>
      let enter (change : Origin → Members → Option Toml) (way : List String) :
          Option Toml :=
        changeAt .implied (· ≠ .inline) change origin members way
      match statement with
      | .assignment keys value => do
          some (here, ← enter (assign .dotted keys value) here)
      | .header keys => do
          some (keys, ← enter (openTable (keys.getLast?.getD "")) keys.dropLast)
      | .itemHeader keys => do
          some (keys, ← enter (openItem (keys.getLast?.getD "")) keys.dropLast)
  | _ => none

/-- Carry out statements one after the other. -/
def applyAll (here : List String) (document : Toml) : List Statement → Option Toml
  | [] => some document
  | statement :: rest => do
      let (here, document) ← statement.apply here document
      applyAll here document rest

/-- The table of a document.  A byte order mark at its beginning does not count. -/
def ofText? (text : String) : Option Toml := do
  let chars :=
    match text.toList with
    | '\ufeff' :: rest => rest
    | chars => chars
  applyAll [] (.table .header []) (← readStatements chars (chars.length + 1))

end FlatMessage.Toml
