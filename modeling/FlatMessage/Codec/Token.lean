/-!
# Token buffers

The slots of a truncatable container are rendered one by one into tokens before
anything is written.  A token knows whether it holds a value, so that a value
that is spelled like a delimiter is never taken for an empty slot.

Truncation drops the tokens after the last one with a value and keeps the empty
ones before it, so that positions stay aligned.
-/

namespace FlatMessage.Codec

universe u

variable {α : Type u}

/-- A rendered slot. -/
structure Token (α : Type u) where
  content : List α
  hasValue : Bool
  deriving DecidableEq, Repr

namespace Token

/-- The token of an absent slot. -/
def absent : Token α :=
  ⟨[], false⟩

/-- The tokens up to the last one with a value. -/
def truncate : List (Token α) → List (Token α)
  | [] => []
  | token :: rest =>
      match truncate rest with
      | [] => if token.hasValue then [token] else []
      | kept => token :: kept

/-- Whether any token holds a value. -/
def anyValue (tokens : List (Token α)) : Bool :=
  tokens.any Token.hasValue

/-- Join the contents of tokens with a separator between neighbours. -/
def join (separator : List α) : List (Token α) → List α
  | [] => []
  | [token] => token.content
  | token :: rest => token.content ++ separator ++ join separator rest

/-- Drop the empty tokens at the end and join the others. -/
def joinTruncated (separator : List α) (tokens : List (Token α)) : List α :=
  join separator (truncate tokens)

@[simp]
theorem truncate_nil : truncate ([] : List (Token α)) = [] :=
  rfl

/-- Nothing is kept exactly when no token holds a value. -/
theorem truncate_eq_nil_iff (tokens : List (Token α)) :
    truncate tokens = [] ↔ anyValue tokens = false := by
  induction tokens with
  | nil => simp [anyValue]
  | cons token rest ih =>
      cases kept : truncate rest with
      | nil =>
          rw [kept] at ih
          cases present : token.hasValue <;>
            simp_all [truncate, anyValue]
      | cons first others =>
          have later : anyValue rest = true := by
            simpa [kept] using ih
          simp_all [truncate, anyValue]

/-- What is kept is the beginning of what was there. -/
theorem truncate_isPrefix (tokens : List (Token α)) :
    truncate tokens <+: tokens := by
  induction tokens with
  | nil => simp
  | cons token rest ih =>
      cases kept : truncate rest with
      | nil => cases present : token.hasValue <;> simp [truncate, kept, present]
      | cons first others =>
          rw [kept] at ih
          simpa [truncate, kept] using ih

end Token

end FlatMessage.Codec
