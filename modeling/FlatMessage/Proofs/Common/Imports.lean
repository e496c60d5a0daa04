import FlatMessage.Proofs.Common.References
import FlatMessage.Proofs.Orders.Models

/-!
# References to imported segments

A reference names a namespace and a code.  The document that is imported under the
namespace decides what the reference denotes: the first segment with the code in the model
of that document, with the identity that it has there.
-/

namespace FlatMessage.Schema

open Compiler (Address)
open Files (Place Tree)
open Xml (Element)

/-! ## Headers -/

/-- The tree of a document is an element named for it. -/
def Header.IsNamed (header : Header) : Prop :=
  ∀ element, header.segments = some element → element.name = "segments"

theorem Header.initial_isNamed : Header.initial.IsNamed := by
  intro element absent
  cases absent

theorem Header.IsNamed.read {header later : Header} (named : header.IsNamed)
    {element : Element} (success : header.read element = .ok later) : later.IsNamed := by
  unfold Header.read at success
  split at success
  · obtain ⟨resource, -, success⟩ := bind_eq_ok_iff.mp success
    obtain ⟨space, -, same⟩ := bind_eq_ok_iff.mp success
    cases same
    exact named
  · split at success
    · obtain ⟨name, -, success⟩ := bind_eq_ok_iff.mp success
      obtain ⟨version, -, same⟩ := bind_eq_ok_iff.mp success
      cases same
      exact named
    · split at success
      · obtain ⟨table, -, same⟩ := bind_eq_ok_iff.mp success
        cases same
        exact named
      · split at success
        · obtain ⟨type, -, success⟩ := bind_eq_ok_iff.mp success
          obtain ⟨version, -, same⟩ := bind_eq_ok_iff.mp success
          cases same
          exact named
        · split at success
          · next segments =>
              cases success
              rintro _ ⟨⟩
              exact segments
          · split at success
            · cases success
              exact named
            · cases success

theorem Header.IsNamed.readAll {header later : Header} (named : header.IsNamed)
    {elements : List Element} (success : header.readAll elements = .ok later) :
    later.IsNamed := by
  induction elements generalizing header with
  | nil =>
      cases success
      exact named
  | cons element rest ih =>
      obtain ⟨middle, first, success⟩ := bind_eq_ok_iff.mp success
      exact ih (named.read first) success

/-- The element of a document's tree is no reference. -/
theorem Document.name_segments {text : String} {document : Document}
    (parsed : Document.parse text = .ok document) : document.segments.name = "segments" := by
  unfold Document.parse at parsed
  split at parsed
  · unfold Document.ofElement at parsed
    split at parsed
    · obtain ⟨header, all, parsed⟩ := bind_eq_ok_iff.mp parsed
      have named : header.IsNamed := Header.initial_isNamed.readAll all
      split at parsed
      · cases parsed
      · cases parsed
      · next segments =>
          cases parsed
          exact named _ segments
    · cases parsed
  · cases parsed

/-! ## Imports -/

section

variable {tree : Tree} {place home : Place} {model : Model}

/-- A document is written as a reference, at an address of its tree, to a code in the
document at `home`, which it imports under one namespace.  Namespace and code stand around
the first colon of the reference. -/
def RefersTo (tree : Tree) (place home : Place) (address : Address) (code : String) : Prop :=
  ∃ document part reference space entry,
    documentAt? tree place = some document ∧
      elementAt? document.segments address = some part ∧
      referenceOf? part = some reference ∧ Text.cut? ':' reference = some (space, code) ∧
      document.imports.filter (·.space = space) = [entry] ∧
      referred? tree place entry.resource = some home

/-- The imports under one namespace have their roots in order. -/
theorem ImportedAt.filter {imports : List Import} {imported : Imported}
    (has : ImportedAt tree place imports imported) (space : String) :
    ImportedAt tree place (imports.filter (·.space = space)) (imported.filter (·.1 = space)) := by
  match imports, has with
  | [], .nil => exact .nil
  | entry :: rest, .cons referred first others =>
      have later := others.filter space
      rw [List.filter_cons, List.filter_cons]
      by_cases here : entry.space = space
      · rw [if_pos (decide_eq_true here), if_pos (decide_eq_true here)]
        exact .cons referred first later
      · rw [if_neg (by simpa using here), if_neg (by simpa using here)]
        exact later

/-- What only one entry of a table has as its key is found under it. -/
theorem lookup_of_filter {α β : Type} [DecidableEq α] {table : List (α × β)} {key : α}
    {entry : α × β} (single : table.filter (·.1 = key) = [entry]) :
    table.lookup key = some entry.2 := by
  induction table with
  | nil => cases single
  | cons first rest ih =>
      rw [List.filter_cons] at single
      rw [List.lookup_cons]
      by_cases here : first.1 = key
      · rw [if_pos (decide_eq_true here), List.cons.injEq] at single
        rw [here, beq_self_eq_true, single.1]
      · rw [if_neg (by simpa using here)] at single
        have other : (key == first.1) = false := beq_false_of_ne (Ne.symm here)
        rw [other]
        exact ih single

/-- What is imported under a namespace that only one import has is the root of the
document that the import refers to. -/
theorem ImportedAt.root?_eq {imports : List Import} {imported : Imported}
    (has : ImportedAt tree place imports imported) (hasToo : ModelAt tree home model)
    {space : String} {entry : Import} (single : imports.filter (·.space = space) = [entry])
    (refers : referred? tree place entry.resource = some home) :
    imported.root? space = some model.root := by
  have alone := has.filter space
  rw [single] at alone
  obtain ⟨root, roots, rooted⟩ : ∃ root, imported.filter (·.1 = space) = [(entry.space, root)] ∧
      root = model.root := by
    generalize imported.filter (·.1 = space) = found at alone
    cases alone with
    | cons referred first rest =>
        cases rest
        rw [refers, Option.some.injEq] at referred
        subst referred
        exact ⟨_, rfl, first.root_eq hasToo⟩
  have last : imported.reverse.filter (·.1 = space) = [(entry.space, root)] := by
    rw [List.filter_reverse, roots]
    rfl
  rw [Imported.root?, ← rooted]
  exact lookup_of_filter last

theorem referenceOf?_segments {document : Document}
    (read : documentAt? tree place = some document) : referenceOf? document.segments = none := by
  unfold documentAt? at read
  split at read
  · obtain ⟨text, -, parsed⟩ := Option.bind_eq_some_iff.mp read
    cases outcome : Document.parse text with
    | error error => simp [outcome, Except.toOption] at parsed
    | ok other =>
        obtain rfl : other = document := by simpa [outcome, Except.toOption] using parsed
        rw [referenceOf?, Document.name_segments outcome]
        rfl
  · cases read

/-- A document is at the place of the location that its model was read from. -/
theorem ModelAt.place?_source (has : ModelAt tree place model) {location : String}
    (source : model.source = some location) : tree.place? location = .ok place := by
  cases has with
  | mk read imports build valid found =>
      cases source
      exact found

/-- Where a document refers to a code in a document that it imports, its tree has the first
segment with the code in the model of that document. -/
theorem ModelAt.at?_of_refersTo {definitions : Model} (has : ModelAt tree place model)
    (hasToo : ModelAt tree home definitions) {address : Address} {code : String}
    (refers : RefersTo tree place home address code) :
    ∃ shared, definitions.root.segment? code = some shared ∧
      model.root.at? address = some (.container shared) := by
  obtain ⟨document, part, reference, space, entry, read, written, isReference, cut, single,
    referred⟩ := refers
  cases has with
  | mk readAgain imports build valid found =>
      rw [read, Option.some.injEq] at readAgain
      subst readAgain
      obtain ⟨node, resolved, there⟩ :=
        resolves_build build (referenceOf?_segments read) address part reference written isReference
      obtain ⟨shared, first, rfl⟩ := exists_segment?_of_resolveReference resolved cut
        (imports.root?_eq hasToo single referred)
      exact ⟨shared, first, there⟩

end

end FlatMessage.Schema
