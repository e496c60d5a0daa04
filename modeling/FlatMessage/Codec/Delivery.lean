import FlatMessage.Codec.Writing
import FlatMessage.Text.Utf8

/-!
# Delivery

An emission is delivered to a destination piece by piece.  A destination may have
room for a limited number of bytes: it takes what fits and then fails, and
nothing after the failure is delivered.

When everything fits, the outcome of the delivery is that of the emission.
-/

namespace FlatMessage.Codec

/-- What arrived at a destination. -/
structure Delivery where
  bytes : List UInt8
  flushes : Nat
  outcome : Except WriteError Unit

/-- The failure of a destination without room. -/
def destinationFull : WriteError :=
  .destination "writer full"

/-- Deliver pieces into the room of a destination, which is unlimited when it is
absent; then `outcome` holds. -/
def deliverPieces (table : Delimiter.Table) (outcome : Except WriteError Unit)
    (room : Option Nat) : List Piece → Delivery
  | [] => ⟨[], 0, outcome⟩
  | .flush :: rest =>
      let later := deliverPieces table outcome room rest
      { later with flushes := later.flushes + 1 }
  | piece :: rest =>
      let bytes := Text.bytes (piece.text table)
      match room with
      | none =>
          let later := deliverPieces table outcome none rest
          { later with bytes := bytes ++ later.bytes }
      | some room =>
          if room < bytes.length then ⟨bytes.take room, 0, .error destinationFull⟩
          else
            let later :=
              deliverPieces table outcome (some (room - bytes.length)) rest
            { later with bytes := bytes ++ later.bytes }

/-- Deliver a bean of a type. -/
def CompiledType.deliver (type : CompiledType) (table : Delimiter.Table)
    (room : Option Nat) (bean : Bean) : Delivery :=
  let emission := type.write bean
  deliverPieces table (emission.outcome.map fun _ => ()) room emission.pieces

end FlatMessage.Codec
