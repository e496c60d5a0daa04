/-!
# Bytes as text

Texts leave and enter the program as UTF-8.  Bytes that are not well-formed are
shown by replacement characters: one for each longest run of bytes that begins a
character and cannot be continued.
-/

namespace FlatMessage.Text

/-! ## The bytes of texts -/

/-- The bytes of a text. -/
def bytes (text : String) : List UInt8 :=
  text.toUTF8.toList

/-- The text of well-formed bytes. -/
def ofBytes? (bytes : List UInt8) : Option String :=
  String.fromUTF8? ⟨bytes.toArray⟩

theorem toList_loop (bytes : ByteArray) (position : Nat) (before : List UInt8) :
    ByteArray.toList.loop bytes position before =
      before.reverse ++ bytes.data.toList.drop position := by
  fun_induction ByteArray.toList.loop bytes position before with
  | case1 position before inside ih =>
      have inData : position < bytes.data.size := inside
      have next : bytes.data.toList.drop position =
          bytes.data[position] :: bytes.data.toList.drop (position + 1) :=
        List.drop_eq_getElem_cons (by simpa using inData)
      have byte : bytes.get! position = bytes.data[position] :=
        getElem!_pos bytes.data position inData
      rw [ih, next, byte, List.reverse_cons, List.append_assoc, List.singleton_append]
  | case2 position before outside =>
      have none : bytes.data.toList.length ≤ position := Nat.le_of_not_lt outside
      rw [List.drop_eq_nil_of_le none, List.append_nil]

theorem bytes_eq (text : String) : bytes text = text.toByteArray.data.toList := by
  rw [bytes, ByteArray.toList, toList_loop]
  rfl

@[simp]
theorem bytes_append (first second : String) :
    bytes (first ++ second) = bytes first ++ bytes second := by
  simp [bytes_eq]

@[simp]
theorem bytes_empty : bytes "" = [] := by
  rw [bytes_eq]
  rfl

/-- The bytes of a text are well-formed. -/
@[simp]
theorem ofBytes?_bytes (text : String) : ofBytes? (bytes text) = some text := by
  rw [ofBytes?, bytes_eq, Array.toArray_toList]
  exact dif_pos text.isValidUTF8

/-! ## Bytes that are not well-formed -/

/-- The number of bytes that follow a first byte, and the range of the second
one; `none` for a byte that begins no character. -/
def continuation? (first : UInt8) : Option (Nat × UInt8 × UInt8) :=
  if first < 0x80 then some (0, 0x80, 0xBF)
  else if 0xC2 ≤ first ∧ first ≤ 0xDF then some (1, 0x80, 0xBF)
  else if first = 0xE0 then some (2, 0xA0, 0xBF)
  else if first = 0xED then some (2, 0x80, 0x9F)
  else if 0xE1 ≤ first ∧ first ≤ 0xEF then some (2, 0x80, 0xBF)
  else if first = 0xF0 then some (3, 0x90, 0xBF)
  else if 0xF1 ≤ first ∧ first ≤ 0xF3 then some (3, 0x80, 0xBF)
  else if first = 0xF4 then some (3, 0x80, 0x8F)
  else none

/-- Take up to `count` bytes that continue a character, the first of them between
`low` and `high`. -/
def takeContinuation (count : Nat) (low high : UInt8) :
    List UInt8 → List UInt8
  | [] => []
  | byte :: rest =>
      match count with
      | 0 => []
      | count + 1 =>
          if low ≤ byte ∧ byte ≤ high then
            byte :: takeContinuation count 0x80 0xBF rest
          else []

/-- The code point of a first byte and the bytes that continue it. -/
def codePoint (first : UInt8) (rest : List UInt8) : Nat :=
  let lead :=
    match rest.length with
    | 0 => first.toNat
    | 1 => first.toNat % 32
    | 2 => first.toNat % 16
    | _ => first.toNat % 8
  rest.foldl (fun total byte => total * 64 + byte.toNat % 64) lead

/-- The characters of bytes, with replacements for what is not well-formed.
`skip` counts the bytes that are already accounted for. -/
def lossyChars (skip : Nat) : List UInt8 → List Char
  | [] => []
  | first :: rest =>
      match skip with
      | skip + 1 => lossyChars skip rest
      | 0 =>
          match continuation? first with
          | none => '\ufffd' :: lossyChars 0 rest
          | some (count, low, high) =>
              let taken := takeContinuation count low high rest
              let c :=
                if taken.length = count then Char.ofNat (codePoint first taken)
                else '\ufffd'
              c :: lossyChars taken.length rest

/-- The text of bytes, with replacements for what is not well-formed. -/
def ofBytesLossy (bytes : List UInt8) : String :=
  match ofBytes? bytes with
  | some text => text
  | none => String.ofList (lossyChars 0 bytes)

end FlatMessage.Text
