import FlatMessage.Proofs.Streaming.Writer

/-!
# What a destination without room has received

A destination that fails after some bytes has received a beginning of what a destination
receives that takes everything.  Where the room is enough, the two are not told apart,
also when the writing itself fails.

Nothing of a truncated body arrives anywhere unless all of its slots are rendered.
-/

namespace FlatMessage.Streaming

open Codec (CompiledType Delivery Piece WriteError deliverPieces destinationFull)
open Delimiter (Table)

/-! ## Runs of the streaming writer -/

/-- The outcome of a run, and the destination after it. -/
structure Run where
  outcome : Except WriteError Unit
  destination : Destination

/-- Stream a bean of a type to a destination with some room. -/
def stream (type : CompiledType) (table : Table) (room : Option Nat) (bean : Bean) : Run :=
  let (outcome, destination) :=
    (streamLayout table [] type.layout bean).run.run (.empty room)
  ⟨outcome.map fun _ => (), destination⟩

/-- What a run has delivered. -/
def Run.delivery (run : Run) : Delivery :=
  ⟨run.destination.received.map Sent.byte, run.destination.flushes, run.outcome⟩

/-- The outcome is held until everything is delivered. -/
theorem deliverPieces_eq (table : Table) (outcome : Except WriteError Unit)
    (room : Option Nat) (pieces : List Piece) :
    deliverPieces table outcome room pieces =
      let delivery := deliverPieces table (.ok ()) room pieces
      { delivery with outcome := delivery.outcome.bind fun _ => outcome } := by
  have split := deliverPieces_append table outcome room pieces []
  rw [List.append_nil] at split
  rw [split]
  generalize deliverPieces table (.ok ()) room pieces = delivery
  obtain ⟨bytes, flushes, _ | _⟩ := delivery <;> simp [deliverPieces, Except.bind]

/-- A run streams what is delivered, and only bytes of bodies that are rendered. -/
theorem stream_spec (type : CompiledType) (table : Table) (room : Option Nat) (bean : Bean) :
    (stream type table room bean).delivery = type.deliver table room bean ∧
      ∀ sent ∈ (stream type table room bean).destination.received,
        ∀ body ∈ sent.bodies, body.IsRendered := by
  obtain ⟨sent, bytes, within, run⟩ :=
    (performs_streamLayout table [] type.layout bean).run (.empty room)
  have arrived : sent.map Sent.byte =
      (deliverPieces table (.ok ()) room (type.write bean).pieces).bytes :=
    bytes
  have streamed : stream type table room bean =
      ⟨((deliverPieces table (.ok ()) room (type.write bean).pieces).outcome.bind
          fun _ => (type.write bean).outcome).map fun _ => (),
        (Destination.empty room).after sent
          (deliverPieces table (.ok ()) room (type.write bean).pieces).flushes⟩ := by
    rw [stream, run]
    rfl
  have received : (stream type table room bean).destination.received = sent := by
    rw [streamed]
    rfl
  constructor
  · rw [CompiledType.deliver, deliverPieces_eq, Run.delivery, received, arrived, streamed]
    generalize deliverPieces table (.ok ()) room (type.write bean).pieces = delivery
    obtain ⟨delivered, flushes, _ | _⟩ := delivery <;>
      simp [Except.bind, Except.map, Destination.after, Destination.empty]
  · intro byte member body around
    rw [received] at member
    obtain ⟨inner, belongs, each⟩ := within byte member
    rw [belongs, List.append_nil] at around
    exact each body around

/-! ## Limited destinations -/

/-- What a destination with `room` for bytes receives when a destination that takes
everything receives `whole`. -/
structure IsCut (room : Nat) (whole limited : Delivery) : Prop where
  /-- Without room for everything, what fits arrives, and the destination fails. -/
  beyond : room < whole.bytes.length →
    limited.bytes = whole.bytes.take room ∧ limited.outcome = .error destinationFull
  /-- With room for everything, nothing is different. -/
  inside : whole.bytes.length ≤ room → limited = whole

/-- Delivering to a limited destination cuts the whole delivery. -/
theorem isCut_deliver (type : CompiledType) (table : Table) (bean : Bean) (room : Nat) :
    IsCut room (type.deliver table none bean) (type.deliver table (some room) bean) := by
  have whole : (type.deliver table none bean).bytes =
      bytesOf table (type.write bean).pieces :=
    bytes_deliverPieces ..
  constructor
  · intro beyond
    rw [whole] at beyond ⊢
    have full : fits (some room) (bytesOf table (type.write bean).pieces).length = false := by
      simpa [fits] using beyond
    constructor
    · exact bytes_deliverPieces ..
    · rw [CompiledType.deliver, outcome_deliverPieces, full]
      rfl
  · intro under
    rw [whole] at under
    have enough : fits (some room) (bytesOf table (type.write bean).pieces).length = true := by
      simpa [fits] using under
    exact deliverPieces_of_fits table _ (some room) enough

/-- A destination that takes everything tells the outcome of encoding. -/
theorem outcome_deliver (type : CompiledType) (table : Table) (bean : Bean) :
    (type.deliver table none bean).outcome = (type.encode table bean).map fun _ => () := by
  have outcome : (type.deliver table none bean).outcome =
      (type.write bean).outcome.map fun _ => () :=
    outcome_deliverPieces ..
  rw [outcome, CompiledType.encode]
  cases (type.write bean).outcome <;> rfl

/-- A destination that takes everything receives the text of a bean. -/
theorem bytes_deliver {type : CompiledType} {table : Table} {bean : Bean} {text : String}
    (encodes : type.encode table bean = .ok text) :
    (type.deliver table none bean).bytes = Text.bytes text := by
  have bytes : (type.deliver table none bean).bytes = bytesOf table (type.write bean).pieces :=
    bytes_deliverPieces ..
  rw [bytes]
  cases result : (type.write bean).outcome with
  | error error =>
      rw [CompiledType.encode, result] at encodes
      cases encodes
  | ok written =>
      rw [CompiledType.encode, result] at encodes
      rw [← Except.ok.inj encodes]
      rfl

/-- A destination with limited room receives a beginning of what one receives that takes
everything, and fails; if there is room enough, it makes no difference, whether the
writing succeeds or not.  Whatever arrives of a truncated body, all of its slots are
rendered without error. -/
theorem stream_to_limited_destination (type : CompiledType) (table : Table) (bean : Bean) :
    let whole := (stream type table none bean).delivery
    (whole.outcome = (type.encode table bean).map fun _ => ()) ∧
      (∀ text, type.encode table bean = .ok text → whole.bytes = Text.bytes text) ∧
      (∀ room, (stream type table room bean).delivery = type.deliver table room bean) ∧
      (∀ room, IsCut room whole (stream type table (some room) bean).delivery) ∧
      ∀ room, ∀ sent ∈ (stream type table room bean).destination.received,
        ∀ body ∈ sent.bodies, body.IsRendered := by
  have delivers := fun room => (stream_spec type table room bean).1
  simp only [delivers]
  refine ⟨outcome_deliver type table bean, ?_, fun _ => trivial, isCut_deliver type table bean,
    ?_⟩
  · intro text encodes
    exact bytes_deliver encodes
  · intro room
    exact (stream_spec type table room bean).2

end FlatMessage.Streaming
