import FlatMessage.Proofs.Streaming.Prefixes
import FlatMessage.Proofs.Truncation.Local

/-!
# Delimiters are bound late

A bean comes from a sequence of sources that does not depend on a delimiter table:
segment codes, delimiters of levels, and scalars with their encoders.  Under every table
the writer streams the texts of the sources one after the other, and nothing else of a
message depends on the table: the same slots are kept, padded and dropped.

Before it is escaped, the text of a value varies between tables only in the decimal
separator of a decimal number.
-/

namespace FlatMessage.Streaming

open Codec (CompiledType Piece Token WriteError)
open Compiler (CompiledModel Reached Registry Target Yields)
open Delimiter (Level Table)
open Reading (Part)
open Schema (Container Model NodeId)

/-! ## Sources -/

/-- A scalar value with its encoder and what that renders of it. -/
structure EncodedScalar where
  encoder : Option Encoder
  scalar : Scalar
  rendered : Rendered
  renders : Encoder.render encoder scalar = .ok rendered

/-- Where a part of a message comes from. -/
inductive Source
  | code (text : String)
  | delimiter (level : Level)
  | value (value : EncodedScalar)

/-- Whether numbers are written as decimals. -/
def EncodedScalar.isDecimal (value : EncodedScalar) : Bool :=
  value.encoder.any fun encoder => encoder.dataType = .decimal

/-- The text of a value, with a point as decimal separator. -/
def EncodedScalar.plain (value : EncodedScalar) : Except Encoder.RenderError String :=
  value.encoder.elim (.ok value.scalar.plain) fun encoder => encoder.text value.scalar

namespace Source

/-- The text of a source under a table: codes as they are, delimiters as the table has
them, and values escaped. -/
def text (table : Table) : Source → String
  | code text => text
  | delimiter level => table.get level
  | value content => table.escapeText (content.rendered.text table)

/-- The text of a sequence of sources. -/
def textOf (table : Table) (sources : List Source) : String :=
  String.join (sources.map (text table))

/-- The piece that a source becomes. -/
def piece : Source → Piece
  | code text => .code text
  | delimiter level => .delimiter level
  | value content => .value content.rendered

theorem textOf_pieces (table : Table) (sources : List Source) :
    Piece.textOf table (sources.map piece) = textOf table sources := by
  induction sources with
  | nil => rfl
  | cons source rest ih =>
      rw [List.map_cons, Piece.textOf, ih]
      cases source <;> simp [textOf, text, piece, Piece.text]

/-- A piece whose value is rendered by an encoder comes from a source. -/
theorem exists_piece_eq {piece : Piece} (visible : piece ≠ .flush)
    (isRendered : IsRendered piece) : ∃ source : Source, source.piece = piece := by
  cases piece with
  | code text => exact ⟨.code text, rfl⟩
  | delimiter level => exact ⟨.delimiter level, rfl⟩
  | value rendered =>
      obtain ⟨encoder, scalar, renders⟩ := isRendered rendered rfl
      exact ⟨.value ⟨encoder, scalar, rendered, renders⟩, rfl⟩
  | flush => contradiction

theorem exists_map_piece_eq {pieces : List Piece} (visible : .flush ∉ pieces)
    (rendered : ∀ piece ∈ pieces, IsRendered piece) :
    ∃ sources : List Source, sources.map piece = pieces := by
  induction pieces with
  | nil => exact ⟨[], rfl⟩
  | cons first rest ih =>
      rw [List.mem_cons, not_or] at visible
      rw [List.forall_mem_cons] at rendered
      obtain ⟨source, same⟩ := exists_piece_eq (Ne.symm visible.1) rendered.1
      obtain ⟨others, sameRest⟩ := ih visible.2 rendered.2
      exists source :: others
      rw [List.map_cons, same, sameRest]

end Source

/-- Between tables a value varies only if it is a decimal number, whose point gives way
to the decimal separator. -/
theorem EncodedScalar.varies_in_separator (value : EncodedScalar) :
    ∃ text, value.plain = .ok text ∧ ∀ table : Table,
      value.rendered.text table =
        if value.isDecimal ∧ table.decimalSeparator ≠ "" then
          Text.substitute '.' table.decimalSeparator text
        else text := by
  obtain ⟨encoder, scalar, rendered, renders⟩ := value
  cases encoder with
  | none =>
      cases renders
      exact ⟨scalar.plain, rfl, fun table => rfl⟩
  | some encoder =>
      cases result : encoder.text scalar with
      | error error => cases encoder <;> simp [Encoder.render, result] at renders
      | ok text =>
          exists text
          constructor
          · exact result
          · intro table
            cases encoder with
            | decimal scale =>
                simp only [Encoder.render, result] at renders
                cases renders
                by_cases point : table.decimalSeparator = "" <;>
                  simp [Rendered.text, EncodedScalar.isDecimal, Encoder.dataType, point]
            | string trim | integer width | date pattern | boolean trueText falseText =>
                simp only [Encoder.render, result] at renders
                cases renders
                simp [Rendered.text, EncodedScalar.isDecimal, Encoder.dataType]

/-! ## Slots -/

/-- Which slots of a body hold values, and which are kept. -/
def slotMarks {α : Type} (tokens : List (Token α)) : List Bool × List Bool :=
  (tokens.map Token.hasValue, (Token.truncate tokens).map Token.hasValue)

theorem slotMarks_eq {table : Table} {bodies : List Body} {collected : List (Token Sent)}
    {rendered : List (Token Piece)}
    (same : List.Forall₂ (SameToken table bodies) collected rendered) :
    slotMarks collected = slotMarks rendered := by
  have marks : ∀ {collected : List (Token Sent)} {rendered : List (Token Piece)},
      List.Forall₂ (SameToken table bodies) collected rendered →
        collected.map Token.hasValue = rendered.map Token.hasValue := by
    intro collected rendered same
    induction same with
    | nil => rfl
    | cons first _ ih => rw [List.map_cons, List.map_cons, first.hasValue, ih]
  rw [slotMarks, slotMarks, marks same, marks (sameTokens_truncate same)]

/-- The slots that are rendered in memory hold values and are kept as they are without
any table. -/
theorem slotMarks_collectSteps (table : Table) (bodies : List Body) (steps : List Codec.Step)
    (bean : Bean) :
    (collectSteps table bodies steps bean).map slotMarks =
      (Codec.renderSteps steps bean).outcome.map slotMarks := by
  have collects := collects_collectSteps table bodies steps bean
  generalize collectSteps table bodies steps bean = collected at collects ⊢
  generalize Codec.renderSteps steps bean = rendered at collects ⊢
  cases collects with
  | tokens same => exact congrArg Except.ok (slotMarks_eq same)
  | error error => rfl

/-! ## Compiled models -/

/-- What a type writes of a bean comes from sources that are the same under every table.
They lie in the slots of a trimmed reading of the bean, which is read without any table;
the slots that are rendered in memory are kept and dropped without it, too. -/
structure IsLateBound (container : Container) (type : CompiledType) (bean : Bean)
    (sources : List Source) : Prop where
  /-- The sources are those of the slots that the reading keeps. -/
  placed : ∃ part, Reading.readContainer container bean = .ok part ∧
    sources.map Source.piece = part.trim.located.map Reading.Located.piece
  encodes : ∀ table, type.encode table bean = .ok (Source.textOf table sources)
  /-- The writer that has the table at hand streams the texts of the sources. -/
  streams : ∀ table, (stream type table none bean).delivery.outcome = .ok () ∧
    (stream type table none bean).delivery.bytes = Text.bytes (Source.textOf table sources)
  /-- Values vary in their decimal separator only. -/
  varies : ∀ value, .value value ∈ sources → ∃ text, value.plain = .ok text ∧
    ∀ table : Table, value.rendered.text table =
      if value.isDecimal ∧ table.decimalSeparator ≠ "" then
        Text.substitute '.' table.decimalSeparator text
      else text
  /-- Whatever is rendered in memory, tables agree on the slots with values and on the
  slots that are kept. -/
  marks : ∀ (first second : Table) (bodies : List Body) (steps : List Codec.Step)
    (inner : Bean),
    (collectSteps first bodies steps inner).map slotMarks =
      (collectSteps second bodies steps inner).map slotMarks

/-- A type that a container yields writes a bean from sources. -/
theorem exists_sources {container : Container} {type : CompiledType}
    (yields : Yields container type) {bean : Bean} {table : Table} {text : String}
    (encodes : type.encode table bean = .ok text) :
    ∃ sources, IsLateBound container type bean sources := by
  obtain ⟨part, read⟩ : ∃ part, Reading.readContainer container bean = .ok part := by
    rw [Compiler.encode_of_yields yields] at encodes
    cases read : Reading.readContainer container bean with
    | error error =>
        rw [read] at encodes
        cases encodes
    | ok part => exact ⟨part, rfl⟩
  obtain ⟨pieces, written⟩ := Compiler.writes_of_yields yields read
  have performs := performs_streamLayout table [] type.layout bean
  have visible : .flush ∉ part.trim.located.map Reading.Located.piece := by
    rw [← pieces]
    simp
  have rendered : ∀ piece ∈ part.trim.located.map Reading.Located.piece, IsRendered piece := by
    intro piece member
    rw [← pieces] at member
    exact performs.rendered piece (List.mem_of_mem_filter member)
  obtain ⟨sources, same⟩ := Source.exists_map_piece_eq visible rendered
  have encodes : ∀ table, type.encode table bean = .ok (Source.textOf table sources) := by
    intro table
    rw [written table, ← same, Source.textOf_pieces]
  exists sources
  constructor
  · exact ⟨part, read, same⟩
  · exact encodes
  · intro table
    rw [(stream_spec type table none bean).1, outcome_deliver, encodes table]
    exact ⟨rfl, bytes_deliver (encodes table)⟩
  · intro value _
    exact value.varies_in_separator
  · intro first second bodies steps inner
    rw [slotMarks_collectSteps, slotMarks_collectSteps]

/-- The types of a compiled model, and those that are registered when it is compiled,
write every bean that they can write from sources that no delimiter table takes part
in. -/
theorem delimiters_are_late_bound {store : NodeId → Option Container} {registry : Registry}
    (reached : Reached store registry) {target : Target} {model : Model}
    (stored : model.root.StoredIn store) {compiled : CompiledModel}
    (success : (Compiler.compile target model registry).1 = .ok compiled)
    {type : CompiledType}
    (among : type = compiled.root ∨
      ∃ id, (Compiler.compile target model registry).2.get? id = some type)
    {bean : Bean} {table : Table} {text : String}
    (encodes : type.encode table bean = .ok text) :
    ∃ container sources,
      Yields container type ∧ IsLateBound container type bean sources := by
  obtain ⟨container, yields⟩ : ∃ container, Yields container type := by
    rcases among with rfl | ⟨id, found⟩
    · obtain ⟨container, -, yields⟩ :=
        Compiler.yields_of_compile reached.sound stored success
      exact ⟨container, yields⟩
    · obtain ⟨container, -, -, yields⟩ := reached.sound.compile target stored id type found
      exact ⟨container, yields⟩
  obtain ⟨sources, lateBound⟩ := exists_sources yields encodes
  exact ⟨container, sources, yields, lateBound⟩

/-- A notice of one note, whose first author has a separator for a name. -/
def signedNotice : Bean :=
  [("note", .bean [("author", .list
    [.bean [("given_name", .scalar (.text "+"))],
      .bean [("family_name", .scalar (.text "Doe"))]])])]

/-- A separator for a name is bound late like any other text. -/
theorem signedNotice_is_late_bound :
    ∃ compiled, (Compiler.compile ⟨"com.acme", .standalone⟩ Schema.notice []).1 = .ok compiled ∧
      ∃ container sources,
        Yields container compiled.root ∧
          IsLateBound container compiled.root signedNotice sources := by
  have success : (Compiler.compile ⟨"com.acme", .standalone⟩ Schema.notice []).1 = .ok _ := rfl
  exact ⟨_, success, @delimiters_are_late_bound _ _ .empty _ _ Schema.notice_storedIn _ success
    _ (.inl rfl) signedNotice Table.x12 _ rfl⟩

end FlatMessage.Streaming
