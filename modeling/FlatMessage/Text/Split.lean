/-!
# Cutting text at separators

Property lists, qualified names and paths are cut at single characters.  A cut
keeps every character except the separator itself, so joining the parts with
the separator gives the text back.
-/

namespace FlatMessage.Text

/-- Cut at the first occurrence of `mark`, which belongs to neither part. -/
def cutChars? (mark : Char) : List Char → Option (List Char × List Char)
  | [] => none
  | c :: rest =>
      if c = mark then some ([], rest)
      else (cutChars? mark rest).map fun parts => (c :: parts.1, parts.2)

@[simp]
theorem cutChars?_nil (mark : Char) : cutChars? mark [] = none :=
  rfl

/-- A cut gives the text back once the mark is put between its parts. -/
theorem eq_append_of_cutChars? {mark : Char} {chars before after : List Char}
    (cut : cutChars? mark chars = some (before, after)) :
    chars = before ++ mark :: after := by
  induction chars generalizing before with
  | nil => simp at cut
  | cons c rest ih =>
      by_cases same : c = mark
      · subst same
        simp only [cutChars?, if_pos, Option.some.injEq, Prod.mk.injEq] at cut
        simp [← cut.1, ← cut.2]
      · simp only [cutChars?, if_neg same, Option.map_eq_some_iff] at cut
        obtain ⟨⟨first, second⟩, found, parts⟩ := cut
        simp only [Prod.mk.injEq] at parts
        obtain ⟨rfl, rfl⟩ := parts
        simp [ih found]

/-- The text before and after the first occurrence of `mark`. -/
def cut? (mark : Char) (text : String) : Option (String × String) :=
  (cutChars? mark text.toList).map fun parts =>
    (String.ofList parts.1, String.ofList parts.2)

/-- The pieces between the characters that satisfy `isMark`; there is always
one piece more than there are such characters. -/
def splitChars (isMark : Char → Bool) : List Char → List (List Char)
  | [] => [[]]
  | c :: rest =>
      if isMark c then [] :: splitChars isMark rest
      else
        match splitChars isMark rest with
        | [] => [[c]]
        | piece :: pieces => (c :: piece) :: pieces

/-- The pieces of a text between the characters that satisfy `isMark`. -/
def split (isMark : Char → Bool) (text : String) : List String :=
  (splitChars isMark text.toList).map String.ofList

/-- Put `separator` between neighbouring texts. -/
def join (separator : String) : List String → String
  | [] => ""
  | [text] => text
  | text :: rest => text ++ separator ++ join separator rest

@[simp]
theorem join_nil (separator : String) : join separator [] = "" :=
  rfl

@[simp]
theorem join_singleton (separator text : String) :
    join separator [text] = text :=
  rfl

/-- Write `replacement` for every occurrence of the character `mark`. -/
def substitute (mark : Char) (replacement : String) (text : String) : String :=
  String.ofList <| text.toList.flatMap fun c =>
    if c = mark then replacement.toList else [c]

end FlatMessage.Text
