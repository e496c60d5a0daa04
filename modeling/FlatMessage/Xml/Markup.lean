import FlatMessage.Text.Blank
import FlatMessage.Text.Numeral

/-!
# Markup

A document is read as a sequence of marks: opening, empty and closing tags, and
text between them.  Comments, declarations, processing instructions, character
data sections and general references leave no mark.  Markup that is not closed
or not known ends the sequence with a broken mark, so that whatever reads the
marks meets the faults of a document in document order.

A tag ends at the first `>` outside quotes.  The name of a tag reaches to its
first blank character; what follows are its attributes.
-/

namespace FlatMessage.Xml

/-- One mark of a document. -/
inductive Mark
  | opening (name attributes : List Char)
  | empty (name attributes : List Char)
  | closing (name : List Char)
  | text (content : List Char)
  | broken
  deriving DecidableEq, Repr

/-- Whether a character separates the parts of a tag. -/
def isSpace (c : Char) : Bool :=
  c == ' ' || c == '\t' || c == '\n' || c == '\r'

/-! ## Where markup ends -/

/-- Split a tag at its closing `>`; `quote` is the quotation mark that is
open. -/
def untilTagEnd (quote : Option Char) :
    List Char → Option (List Char × List Char)
  | [] => none
  | c :: rest =>
      let continued := fun state =>
        (untilTagEnd state rest).map fun (tag, after) => (c :: tag, after)
      match quote with
      | some mark => continued (if c = mark then none else some mark)
      | none =>
          if c = '>' then some ([], rest)
          else if c = '\'' ∨ c = '"' then continued (some c)
          else continued none

/-- What follows the first occurrence of `mark`. -/
def after? (mark : List Char) : List Char → Option (List Char)
  | [] => if mark.isEmpty then some [] else none
  | c :: rest =>
      match mark.isPrefixOf? (c :: rest) with
      | some after => some after
      | none => after? mark rest

/-- The parts of a document type declaration. -/
inductive TypeState
  /-- Before the internal subset. -/
  | before
  /-- Inside a quoted text before the internal subset. -/
  | quotedBefore (mark : Char)
  /-- Between the declarations of the internal subset. -/
  | subset
  /-- Inside a declaration whose quotation marks count for nothing. -/
  | plain
  /-- Inside a declaration that may have quoted texts. -/
  | declaration
  /-- Inside a quoted text of such a declaration. -/
  | quoted (mark : Char)
  /-- Inside a comment of the internal subset. -/
  | comment
  /-- Inside a processing instruction of the internal subset. -/
  | instruction
  /-- After the internal subset. -/
  | behind
  deriving DecidableEq

/-- The state after an opening angle bracket of the internal subset, and the number of
characters that give it away. -/
def TypeState.ofMarkup (chars : List Char) : TypeState × Nat :=
  if "!--".toList.isPrefixOf chars then (.comment, 3)
  else if "?".toList.isPrefixOf chars then (.instruction, 1)
  else
    let quotable := ["!ENTITY", "!ATTLIST", "!NOTATION"].any fun word =>
      word.toList.isPrefixOf chars
    (if quotable then .declaration else .plain, 0)

/-- What follows a document type declaration.  `skip` counts characters that are
already read. -/
def afterTypeDeclaration? (state : TypeState) (skip : Nat) :
    List Char → Option (List Char)
  | [] => none
  | c :: rest =>
      match skip with
      | skip + 1 => afterTypeDeclaration? state skip rest
      | 0 =>
          match state with
          | .before =>
              if c = '>' then some rest
              else if c = '[' then afterTypeDeclaration? .subset 0 rest
              else if c = '"' ∨ c = '\'' then
                afterTypeDeclaration? (.quotedBefore c) 0 rest
              else afterTypeDeclaration? .before 0 rest
          | .quotedBefore mark =>
              let next := if c = mark then .before else .quotedBefore mark
              afterTypeDeclaration? next 0 rest
          | .subset =>
              if c = ']' then afterTypeDeclaration? .behind 0 rest
              else if c = '<' then
                let (next, skip) := TypeState.ofMarkup rest
                afterTypeDeclaration? next skip rest
              else afterTypeDeclaration? .subset 0 rest
          | .plain =>
              afterTypeDeclaration? (if c = '>' then .subset else .plain) 0 rest
          | .declaration =>
              if c = '>' then afterTypeDeclaration? .subset 0 rest
              else if c = '"' ∨ c = '\'' then afterTypeDeclaration? (.quoted c) 0 rest
              else afterTypeDeclaration? .declaration 0 rest
          | .quoted mark =>
              let next := if c = mark then .declaration else .quoted mark
              afterTypeDeclaration? next 0 rest
          | .comment =>
              if c = '-' ∧ "->".toList.isPrefixOf rest then
                afterTypeDeclaration? .subset 2 rest
              else afterTypeDeclaration? .comment 0 rest
          | .instruction =>
              if c = '?' ∧ rest.head? = some '>' then
                afterTypeDeclaration? .subset 1 rest
              else afterTypeDeclaration? .instruction 0 rest
          | .behind =>
              if c = '>' then some rest else afterTypeDeclaration? .behind 0 rest

/-- What follows markup that begins with `<!`, given after these two
characters: a comment, a character data section or a document type
declaration with a name. -/
def afterDeclaration? (chars : List Char) : Option (List Char) :=
  match "--".toList.isPrefixOf? chars with
  | some comment => after? "-->".toList comment
  | none =>
      match "[CDATA[".toList.isPrefixOf? chars with
      | some characters => after? "]]>".toList characters
      | none =>
          if (chars.take 7).map Char.toUpper = "DOCTYPE".toList then
            let declaration := chars.drop 7
            if (declaration.dropWhile isSpace).head? = some '>' then none
            else afterTypeDeclaration? .before 0 declaration
          else none

/-- What follows a general reference, given after its `&`. -/
def afterReference? : List Char → Option (List Char)
  | [] => none
  | c :: rest =>
      if c = ';' then some rest
      else if c = '&' ∨ c = '<' then none
      else afterReference? rest

/-! ## Marks -/

/-- The mark of a tag from the text between its angle brackets. -/
def tagMark (tag : List Char) : Mark :=
  match tag.reverse with
  | '/' :: content =>
      let content := content.reverse
      .empty (content.takeWhile (!isSpace ·)) (content.dropWhile (!isSpace ·))
  | _ => .opening (tag.takeWhile (!isSpace ·)) (tag.dropWhile (!isSpace ·))

/-- The name of a closing tag, which may have blank characters after it. -/
def closingName (content : List Char) : List Char :=
  if content.all isSpace then content
  else (content.reverse.dropWhile isSpace).reverse

/-- The marks of a document.  Every mark takes a character, so the length of
the text is fuel enough. -/
def marks : Nat → List Char → List Mark
  | 0, _ => []
  | _ + 1, [] => []
  | fuel + 1, '<' :: '!' :: rest =>
      match afterDeclaration? rest with
      | some after => marks fuel after
      | none => [.broken]
  | fuel + 1, '<' :: '?' :: rest =>
      if rest.head? = some '>' then [.broken]
      else
        match after? "?>".toList rest with
        | some after => marks fuel after
        | none => [.broken]
  | fuel + 1, '<' :: '/' :: rest =>
      match untilTagEnd none rest with
      | some (tag, after) => .closing (closingName tag) :: marks fuel after
      | none => [.broken]
  | fuel + 1, '<' :: rest =>
      match untilTagEnd none rest with
      | some (tag, after) => tagMark tag :: marks fuel after
      | none => [.broken]
  | fuel + 1, '&' :: rest =>
      match afterReference? rest with
      | some after => marks fuel after
      | none => [.broken]
  | fuel + 1, c :: rest =>
      let isText := fun c => c != '<' && c != '&'
      .text (c :: rest.takeWhile isText) :: marks fuel (rest.dropWhile isText)

/-- The marks of a text, without a byte order mark before them. -/
def marksOf (text : String) : List Mark :=
  let chars :=
    match text.toList with
    | '\ufeff' :: rest => rest
    | chars => chars
  marks (chars.length + 1) chars

/-! ## Attributes -/

/-- What follows an attribute that is passed over, given from its value on: reading
goes on at the next blank character, even inside quotes. -/
def afterFault (value : List Char) : List Char :=
  value.dropWhile (!isSpace ·)

/-- The well-formed attributes in the text of a tag after its name.  An
attribute without a value in quotes and a repeated attribute are passed over;
`seen` are the names so far. -/
def attributes : Nat → List (List Char) → List Char → List (List Char × List Char)
  | 0, _, _ => []
  | fuel + 1, seen, chars =>
      match chars.dropWhile isSpace with
      | [] => []
      | first :: rest =>
          let isName := fun c => c != '=' && !isSpace c
          let name := first :: rest.takeWhile isName
          match (rest.dropWhile isName).dropWhile isSpace with
          | '=' :: value =>
              if seen.contains name then attributes fuel seen (afterFault value)
              else
                match value.dropWhile isSpace with
                | quote :: content =>
                    if quote = '"' ∨ quote = '\'' then
                      let raw := content.takeWhile (· != quote)
                      match content.drop raw.length with
                      | _ :: after =>
                          (name, raw) :: attributes fuel (name :: seen) after
                      | [] => []
                    else
                      attributes fuel (name :: seen) (afterFault (quote :: content))
                | [] => []
          | after => attributes fuel seen after

/-- The attributes of a tag with their values as written. -/
def attributesOf (chars : List Char) : List (List Char × List Char) :=
  attributes (chars.length + 1) [] chars

/-! ## Character references -/

/-- The character that a numeric reference denotes, given after `&#`. -/
def numericReference? (digits : List Char) : Option Char :=
  let code : Option Nat :=
    match digits with
    | 'x' :: hex =>
        if hex.isEmpty then none
        else
          hex.foldlM (fun total c =>
            if '0' ≤ c ∧ c ≤ '9' then some (total * 16 + (c.toNat - 48))
            else if 'a' ≤ c ∧ c ≤ 'f' then some (total * 16 + (c.toNat - 87))
            else if 'A' ≤ c ∧ c ≤ 'F' then some (total * 16 + (c.toNat - 55))
            else none) 0
    | _ => Text.digits? digits
  code.bind fun code =>
    if code ≠ 0 ∧ code.isValidChar then some (Char.ofNat code) else none

/-- The character that a reference between `&` and `;` denotes. -/
def reference? (name : List Char) : Option Char :=
  match name with
  | '#' :: digits => numericReference? digits
  | _ =>
      if name = "lt".toList then some '<'
      else if name = "gt".toList then some '>'
      else if name = "amp".toList then some '&'
      else if name = "quot".toList then some '"'
      else if name = "apos".toList then some '\''
      else none

/-- Replace the references in an attribute value.  `pending` holds the
characters of a reference that is being read. -/
def resolve (pending : Option (List Char)) : List Char → Option (List Char)
  | [] => if pending.isNone then some [] else none
  | c :: rest =>
      match pending with
      | none =>
          if c = '&' then resolve (some []) rest
          else (resolve none rest).map (c :: ·)
      | some name =>
          if c = ';' then
            (reference? name.reverse).bind fun resolved =>
              (resolve none rest).map (resolved :: ·)
          else if c = '&' then none
          else resolve (some (c :: name)) rest

end FlatMessage.Xml
