import FlatMessage.Location.Domain.Name
import FlatMessage.Number.Power
import FlatMessage.Text.Numeral
import FlatMessage.Text.Split
import FlatMessage.Text.Utf8

/-!
# Hosts

The host of a locator is a domain name, the four numbers of an IPv4 address or an
IPv6 address in brackets.  A domain may be written with percent escapes; a domain
whose last label is a number has to be an IPv4 address.

Only whether a host is well formed and which name it has matters here: no location
on another host is ever read.
-/

namespace FlatMessage.Location

/-! ## Percent escapes -/

/-- The value of a hexadecimal digit. -/
def hexValue? (byte : UInt8) : Option UInt8 :=
  if 48 ≤ byte ∧ byte ≤ 57 then some (byte - 48)
  else if 65 ≤ byte ∧ byte ≤ 70 then some (byte - 55)
  else if 97 ≤ byte ∧ byte ≤ 102 then some (byte - 87)
  else none

/-- The byte that two hexadecimal digits denote. -/
def escapedByte? (high low : UInt8) : Option UInt8 := do
  some ((← hexValue? high) * 16 + (← hexValue? low))

/-- Replace every percent sign with two hexadecimal digits after it by the byte
that the digits denote.  `skip` counts the digits already read. -/
def percentDecode (skip : Nat) : List UInt8 → List UInt8
  | [] => []
  | byte :: rest =>
      match skip with
      | skip + 1 => percentDecode skip rest
      | 0 =>
          let escaped : Option UInt8 :=
            match rest with
            | high :: low :: _ => if byte = 37 then escapedByte? high low else none
            | _ => none
          match escaped with
          | some value => value :: percentDecode 2 rest
          | none => byte :: percentDecode 0 rest

/-- The text that characters with percent escapes stand for. -/
def decodedText (chars : List Char) : String :=
  Text.ofBytesLossy (percentDecode 0 (Text.bytes (String.ofList chars)))

/-! ## IPv4 addresses -/

/-- Whether a character is a digit in a base of at most sixteen. -/
def isDigitOf (base : Nat) (c : Char) : Bool :=
  if base = 16 then
    Text.isDigit c || ('a' ≤ c && c ≤ 'f') || ('A' ≤ c && c ≤ 'F')
  else '0' ≤ c && c.toNat < 48 + base

/-- The number that digits denote in a base of at most sixteen. -/
def numberIn (base : Nat) (digits : List Char) : Nat :=
  digits.foldl
    (fun total c =>
      let value :=
        if Text.isDigit c then c.toNat - 48
        else if 'a' ≤ c then c.toNat - 87
        else c.toNat - 55
      total * base + value)
    0

/-- The number of a part of an IPv4 address: hexadecimal after `0x`, octal after
another leading zero, else decimal. -/
def ipv4Part? (part : List Char) : Option Nat :=
  let (base, digits) :=
    match part with
    | '0' :: 'x' :: digits => (16, digits)
    | '0' :: 'X' :: digits => (16, digits)
    | '0' :: c :: digits => (8, c :: digits)
    | digits => (10, digits)
  if part.isEmpty || !digits.all (isDigitOf base) then none
  else some (numberIn base digits)

/-- The labels of a domain, without an empty one at the end. -/
def labels (domain : List Char) : List (List Char) :=
  let labels := Text.splitChars (· == '.') domain
  if 1 < labels.length ∧ labels.getLast? = some [] then labels.dropLast else labels

/-- Whether the last label of a domain is a number. -/
def endsInNumber (domain : List Char) : Bool :=
  match (labels domain).getLast? with
  | none => false
  | some label =>
      (!label.isEmpty && label.all Text.isDigit) || (ipv4Part? label).isSome

/-- Whether a domain is an IPv4 address; its last number fills the bytes that the
numbers before it leave. -/
def isIpv4 (domain : List Char) : Bool :=
  match (labels domain).mapM ipv4Part? with
  | none => false
  | some numbers =>
      match numbers.getLast? with
      | none => false
      | some last =>
          numbers.length ≤ 4 && numbers.dropLast.all (· ≤ 255) &&
            last < 256 ^ (5 - numbers.length)

/-! ## IPv6 addresses -/

/-- Whether a piece of an IPv6 address has one to four hexadecimal digits. -/
def isIpv6Piece (piece : List Char) : Bool :=
  !piece.isEmpty && piece.length ≤ 4 && piece.all (isDigitOf 16)

/-- Whether a part of an IPv4 address inside an IPv6 address is a byte without
leading zeros. -/
def isByteNumeral (part : List Char) : Bool :=
  !part.isEmpty && part.all Text.isDigit && Text.ofDigits part ≤ 255 &&
    (part.length = 1 || part.head? ≠ some '0')

/-- The number of 16-bit pieces that pieces between colons stand for, if they are
well formed.  The last of all may be an IPv4 address. -/
def ipv6Pieces? (isLast : Bool) : List (List Char) → Option Nat
  | [] => some 0
  | [piece] =>
      let bytes := Text.splitChars (· == '.') piece
      if isIpv6Piece piece then some 1
      else if isLast && bytes.length = 4 && bytes.all isByteNumeral then some 2
      else none
  | piece :: rest =>
      if isIpv6Piece piece then (ipv6Pieces? isLast rest).map (· + 1) else none

/-- The pieces between colons; an empty text has none. -/
def colonPieces (chars : List Char) : List (List Char) :=
  if chars.isEmpty then [] else Text.splitChars (· == ':') chars

/-- Cut at the first double colon. -/
def cutDoubleColon? : List Char → Option (List Char × List Char)
  | [] => none
  | c :: rest =>
      match c, rest with
      | ':', ':' :: after => some ([], after)
      | c, _ => (cutDoubleColon? rest).map fun parts => (c :: parts.1, parts.2)

/-- Whether characters are an IPv6 address; a double colon stands for one piece or
more. -/
def isIpv6 (chars : List Char) : Bool :=
  match cutDoubleColon? chars with
  | none => ipv6Pieces? true (colonPieces chars) = some 8
  | some (before, after) =>
      let count := do
        some
          ((← ipv6Pieces? false (colonPieces before)) +
            (← ipv6Pieces? true (colonPieces after)))
      count.any (· ≤ 7)

/-! ## Hosts -/

/-- A well-formed host. -/
inductive Host
  | domain (name : String)
  | address
  deriving DecidableEq, Repr

/-- The characters that no uninterpreted host holds. -/
def isForbiddenInOpaque (c : Char) : Bool :=
  ['\x00', '\t', '\n', '\r', ' ', '#', '/', ':', '<', '>', '?', '@', '[', '\\', ']',
    '^', '|'].contains c

/-- The address between brackets. -/
def bracketed? (chars : List Char) : Option Host :=
  if chars.getLast? = some ']' ∧ isIpv6 (chars.drop 1).dropLast then some .address
  else none

/-- The host that characters denote, if they are well formed. -/
def Host.ofChars? (chars : List Char) : Option Host :=
  if chars.head? = some '[' then bracketed? chars
  else do
    let name ← Domain.name? (decodedText chars).toList
    if name.isEmpty then none
    else if endsInNumber name then if isIpv4 name then some .address else none
    else some (.domain (String.ofList name))

/-- Whether characters are a well-formed host of a scheme that leaves hosts
uninterpreted. -/
def isOpaqueHost (chars : List Char) : Bool :=
  if chars.head? = some '[' then (bracketed? chars).isSome
  else !chars.any isForbiddenInOpaque

end FlatMessage.Location
