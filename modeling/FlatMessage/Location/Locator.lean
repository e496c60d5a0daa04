import FlatMessage.Location.Host

/-!
# Uniform resource locators

A locator begins with a scheme and a colon.  What matters of it is whether it is
well formed, which scheme it has, and which file a locator with scheme `file`
denotes.

A text is read without the control characters and spaces around it, and tabs and line
ends do not count anywhere.  A locator of one of the web schemes needs a host; other
schemes may do without one.  The path of a file locator is made normal: single dots
are dropped and double dots go up, but not above the root nor above a drive letter.
-/

namespace FlatMessage.Location

/-- A well-formed locator. -/
inductive Locator
  /-- A locator with scheme `file`; there is no path when it names another host. -/
  | file (path : Option String)
  | other (scheme : String)
  deriving DecidableEq, Repr

/-- Drop the control characters and spaces at both ends. -/
def trimControls (chars : List Char) : List Char :=
  let isControl (c : Char) : Bool := c.toNat ≤ 32
  ((chars.dropWhile isControl).reverse.dropWhile isControl).reverse

/-- Whether a character does not count in a locator. -/
def isIgnored (c : Char) : Bool :=
  c = '\t' || c = '\n' || c = '\r'

/-- The characters that count. -/
def significant (chars : List Char) : List Char :=
  chars.filter fun c => !isIgnored c

/-- What counts once counts again. -/
@[simp]
theorem significant_significant (chars : List Char) :
    significant (significant chars) = significant chars := by
  simp [significant]

/-! ## Schemes -/

/-- Whether a scheme may begin with a character. -/
def isSchemeStart (c : Char) : Bool :=
  ('a' ≤ c && c ≤ 'z') || ('A' ≤ c && c ≤ 'Z')

/-- Whether a scheme may go on with a character. -/
def isSchemeChar (c : Char) : Bool :=
  isSchemeStart c || Text.isDigit c || c = '+' || c = '-' || c = '.'

/-- The scheme of a locator in small letters, and what follows its colon. -/
def cutScheme? (chars : List Char) : Option (String × List Char) := do
  let (scheme, rest) ← Text.cutChars? ':' chars
  let scheme := significant scheme
  if scheme.head?.any isSchemeStart && scheme.all isSchemeChar then
    some (String.ofList (scheme.map Char.toLower), rest)
  else none

/-- The schemes whose locators always have a host. -/
def webSchemes : List String :=
  ["http", "https", "ws", "wss", "ftp"]

/-! ## Authorities -/

/-- Whether a character ends the authority of a locator. -/
def endsAuthority (isWeb : Bool) (c : Char) : Bool :=
  c = '/' || c = '?' || c = '#' || (isWeb && c = '\\')

/-- The user of an authority, which the last at sign ends, and what follows it. -/
def cutUser (chars : List Char) : Option (List Char) × List Char :=
  match Text.cutChars? '@' chars.reverse with
  | some (host, user) => (some user.reverse, host.reverse)
  | none => (none, chars)

/-- Cut a host from the service number, which follows the first colon outside
brackets. -/
def cutHost (inBrackets : Bool) : List Char → List Char × List Char
  | [] => ([], [])
  | c :: rest =>
      if c = ':' ∧ !inBrackets then ([], c :: rest)
      else
        let inBrackets := if c = '[' then true else if c = ']' then false else inBrackets
        let (host, service) := cutHost inBrackets rest
        (c :: host, service)

/-- Whether characters are a service number with its colon, or nothing.  A backslash
ends the number. -/
def isService : List Char → Bool
  | [] => true
  | _ :: rest =>
      let digits := rest.takeWhile (· ≠ '\\')
      digits.all Text.isDigit && Text.ofDigits digits ≤ 65535

/-- Whether the characters after two slashes begin with a well-formed authority. -/
def hasAuthority (isWeb : Bool) (chars : List Char) : Bool :=
  let authority := chars.takeWhile fun c => !endsAuthority isWeb c
  let (user, rest) := cutUser authority
  let (host, service) := cutHost false rest
  let hostFits :=
    if isWeb then !host.isEmpty && (Host.ofChars? host).isSome
    else if host.isEmpty then
      service.isEmpty &&
        match user with
        | none => true
        | some [] => authority.length = chars.length
        | some user => user == [':']
    else isOpaqueHost host
  hostFits && isService service

/-! ## File paths -/

/-- Whether a character separates the segments of a file locator's path. -/
def isSlash (c : Char) : Bool :=
  c = '/' || c = '\\'

/-- Whether a character ends the path of a locator. -/
def endsPath (c : Char) : Bool :=
  c = '?' || c = '#'

/-- Whether a segment means to stay. -/
def isSingleDot (segment : List Char) : Bool :=
  [".", "%2e"].contains (String.ofList (segment.map Char.toLower))

/-- Whether a segment means to go up. -/
def isDoubleDot (segment : List Char) : Bool :=
  ["..", "%2e.", ".%2e", "%2e%2e"].contains (String.ofList (segment.map Char.toLower))

/-- Whether characters are a drive letter, with a colon or a bar. -/
def isDriveLetter : List Char → Bool
  | [letter, mark] => isSchemeStart letter && (mark = ':' || mark = '|')
  | _ => false

/-- The letter of a segment that is a drive letter. -/
def driveLetter? (segment : List Char) : Option Char :=
  if isDriveLetter segment then segment.head? else none

/-- The drive letter at the beginning of a segment, and what follows it, if a character
that does not count keeps the two apart. -/
def setApart? (segment : List Char) : Option (List Char × List Char) :=
  match segment.dropWhile isIgnored with
  | [] => none
  | letter :: rest =>
      match rest.dropWhile isIgnored with
      | ':' :: mark :: rest =>
          let rest := significant rest
          if isSchemeStart letter && isIgnored mark && !rest.isEmpty then
            some ([letter, ':'], rest)
          else none
      | _ => none

/-- The way that a path takes from the root. -/
structure Way where
  /-- The segments so far, innermost first. -/
  above : List (List Char) := []
  /-- Whether a drive letter was set at the root. -/
  hasDrive : Bool := false
  deriving DecidableEq, Repr

/-- Go up one segment, but not above the root nor above a drive letter. -/
def Way.up (way : Way) : Way :=
  match way.above with
  | [] => way
  | top :: outer => if isDriveLetter top then way else { way with above := outer }

/-- Go into a segment.  A drive letter counts as such only at the root. -/
def Way.into (way : Way) (segment : List Char) : Way :=
  if !way.above.isEmpty then { way with above := significant segment :: way.above }
  else
    match driveLetter? (significant segment), setApart? segment with
    | some letter, _ => ⟨[[letter, ':']], true⟩
    | none, some (drive, rest) => { way with above := [rest, drive] }
    | none, none => { way with above := [significant segment] }

/-- Follow the segments of a path.  Dots at the end leave an empty segment there. -/
def Way.follow (way : Way) : List (List Char) → Way
  | [] => way
  | segment :: rest =>
      let close (way : Way) : Way :=
        if rest.isEmpty then { way with above := [] :: way.above } else way
      if isDoubleDot (significant segment) then (close way.up).follow rest
      else if isSingleDot (significant segment) then (close way).follow rest
      else (way.into segment).follow rest

/-- The way that the characters of a path take. -/
def Way.ofChars (path : List Char) : Way :=
  Way.follow {} (Text.splitChars isSlash path)

/-- The segments of a way, outermost first, without empty ones at the beginning. -/
def Way.segments (way : Way) : List (List Char) :=
  match way.above.reverse.dropWhile List.isEmpty with
  | [] => [[]]
  | segments => segments

/-- Every way has a segment. -/
theorem Way.segments_ne_nil (way : Way) : way.segments ≠ [] := by
  unfold Way.segments
  split <;> simp_all

/-- Add the slash that a path needs which ends in a letter and a colon or bar. -/
def completeDrive (path : String) : String :=
  match path.toList.reverse with
  | mark :: letter :: _ :: _ =>
      if (mark = ':' || mark = '|') && isSchemeStart letter then path ++ "/" else path
  | _ => path

/-- The file path that a way leads to. -/
def Way.path (way : Way) : String :=
  completeDrive (String.join (way.segments.map fun segment => "/" ++ decodedText segment))

/-- What follows the slash at the beginning. -/
def cutSlash? (chars : List Char) : Option (List Char) :=
  match chars.dropWhile isIgnored with
  | [] => none
  | c :: rest => if isSlash c then some rest else none

/-- The locator of a file on a host.  A path that begins with a drive letter is local,
whatever the host. -/
def hostedFile? (chars : List Char) : Option Locator :=
  let host := significant (chars.takeWhile fun c => !isSlash c)
  let path := chars.dropWhile fun c => !isSlash c
  if isDriveLetter host then some (.file (Way.ofChars chars).path)
  else if host.isEmpty then some (.file (Way.ofChars path).path)
  else do
    if (← Host.ofChars? host) = .domain "localhost" then
      some (.file (Way.ofChars path).path)
    else
      let way := Way.ofChars (path.drop 1)
      some (.file (if way.hasDrive then some way.path else none))

/-- The locator that the characters after `file:` make. -/
def fileLocator? (chars : List Char) : Option Locator :=
  let chars := chars.takeWhile fun c => !endsPath c
  match cutSlash? chars with
  | none => some (.file (Way.ofChars chars).path)
  | some rest =>
      match cutSlash? rest with
      | none => some (.file (Way.ofChars rest).path)
      | some rest => hostedFile? rest

/-! ## Locators -/

/-- The locator that a text is, if it is well formed. -/
def Locator.ofText? (text : String) : Option Locator := do
  let (scheme, rest) ← cutScheme? (trimControls text.toList)
  if scheme = "file" then fileLocator? rest
  else
    let rest := significant rest
    let isWeb := webSchemes.contains scheme
    let wellFormed :=
      if isWeb then hasAuthority true (rest.dropWhile isSlash)
      else
        match rest with
        | '/' :: '/' :: rest => hasAuthority false rest
        | _ => true
    if wellFormed then some (.other scheme) else none

end FlatMessage.Location
