import FlatMessage.Proofs.Building.Shape
import FlatMessage.Proofs.Unambiguous.Shape

/-!
# Faults of built models

Validation looks for many faults that no built tree can have.  What is left are clashes
in the delimiter table, children that may never occur or not as often as they must, and
segments with an empty code.

In a tree of shaped containers every fault of validation has one of these causes, and
where there is a cause validation finds a fault.
-/

namespace FlatMessage

/-- A sequence of checks fails only when one of them does. -/
theorem error_of_andThen {ε : Type} {first second : Except ε Unit} {error : ε}
    (refused : (do first; second) = .error error) :
    first = .error error ∨ second = .error error := by
  cases first with
  | error other => exact .inl refused
  | ok done => exact .inr refused

namespace Schema

open Delimiter (Level)

/-- The fault of a child of a container with a name, from its occurrences alone. -/
inductive OccursFault (parent : String) (child : Child) : ValidationFault → Prop
  | never (none : child.occurs.max = some 0) :
      OccursFault parent child (.neverOccurs child.node.name parent)
  | range {max : Nat} (bound : child.occurs.max = some max) (positive : 0 < max)
      (below : max < child.occurs.min) :
      OccursFault parent child
        (.minimumAboveMaximum child.node.name parent child.occurs.min max)

/-- A fault of one of some containers: a child of it with impossible occurrences, or an
empty segment code. -/
inductive FaultIn (containers : List Container) : ValidationFault → Prop
  | occurs {container : Container} {child : Child} {fault : ValidationFault}
      (inside : container ∈ containers)
      (edge : child ∈ container.children ++ container.segments)
      (impossible : OccursFault container.name child fault) :
      FaultIn containers fault
  | code {container : Container} (inside : container ∈ containers)
      (segment : container.kind = .segment) (empty : container.code = some "") :
      FaultIn containers (.missingCode container.name)

theorem FaultIn.mono {containers more : List Container} {fault : ValidationFault}
    (subset : containers ⊆ more) (cause : FaultIn containers fault) :
    FaultIn more fault := by
  cases cause with
  | occurs inside edge impossible => exact .occurs (subset inside) edge impossible
  | code inside segment empty => exact .code (subset inside) segment empty

theorem checkOccurs_eq_error_iff {parent : String} {child : Child} {fault : ValidationFault} :
    checkOccurs parent child.node.name child.occurs = .error fault ↔
      OccursFault parent child fault := by
  unfold checkOccurs
  constructor
  · intro refused
    cases bound : child.occurs.max with
    | none => simp [bound] at refused
    | some max =>
        simp only [bound] at refused
        split at refused
        · next none =>
            cases refused
            exact .never (by rw [bound, none])
        · next some =>
            split at refused
            · next below =>
                cases refused
                exact .range bound (Nat.pos_of_ne_zero some) below
            · cases refused
  · intro impossible
    cases impossible with
    | never none => simp [none]
    | range bound positive below => simp [bound, Nat.ne_of_gt positive, below]

/-- Of what a shaped container holds, only the code of a segment can be wrong. -/
theorem code_of_checkKind {container : Container} (shaped : container.Shaped)
    {fault : ValidationFault} (refused : checkKind container = .error fault) :
    container.kind = .segment ∧ container.code = some "" ∧
      fault = .missingCode container.name := by
  have composite (either : container.kind = .field ∨ container.kind = .component) :
      container.hasFields = true ∧ container.segments = [] := by
    obtain ⟨filled, flat⟩ := shaped.composed either
    exact ⟨by simpa [Container.hasFields] using filled, flat⟩
  unfold checkKind at refused
  cases kind : container.kind with
  | segmentGroup => simp [kind, Container.hasFields, shaped.bare kind] at refused
  | segment =>
      obtain ⟨code, coded⟩ := Option.isSome_iff_exists.mp (shaped.coded.mpr kind)
      by_cases empty : code = ""
      · have same : fault = .missingCode container.name := by
          simpa [kind, coded, empty, eq_comm] using refused
        exact ⟨rfl, empty ▸ coded, same⟩
      · simp [kind, coded, empty] at refused
  | field => simp [kind, composite (.inl kind)] at refused
  | component => simp [kind, composite (.inr kind)] at refused

/-- The children of a container with a name have a fault, or something inside them. -/
def ChildFault (parent : String) (children : List Child) (fault : ValidationFault) : Prop :=
  (∃ child ∈ children, OccursFault parent child fault) ∨ FaultIn (containersOf children) fault

theorem childFault_cons {parent : String} {child : Child} {rest : List Child}
    {fault : ValidationFault}
    (cause : OccursFault parent child fault ∨ FaultIn child.node.containers fault ∨
      ChildFault parent rest fault) :
    ChildFault parent (child :: rest) fault := by
  unfold ChildFault
  rw [containersOf_cons]
  rcases cause with impossible | inside | ⟨other, member, impossible⟩ | inside
  · exact .inl ⟨child, List.mem_cons_self, impossible⟩
  · exact .inr (inside.mono (List.subset_append_left _ _))
  · exact .inl ⟨other, List.mem_cons_of_mem _ member, impossible⟩
  · exact .inr (inside.mono (List.subset_append_right _ _))

mutual

/-- Validation finds a fault of a shaped container in it or in something inside it. -/
theorem faultIn_of_validateContainer (container : Container)
    (shaped : (Node.container container).Shaped) {fault : ValidationFault}
    (refused : validateContainer container = .error fault) :
    FaultIn container.containers fault := by
  match container with
  | ⟨id, kind, name, code, truncatable, documentation, children, segments⟩ =>
      obtain ⟨here, inside⟩ := shaped_container_iff.mp shaped
      rw [List.forall_mem_append] at inside
      have lift {part : List Child} (member : part ⊆ children ++ segments)
          (cause : ChildFault name part fault) :
          FaultIn (Container.mk id kind name code truncatable documentation children
            segments).containers fault := by
        rcases cause with ⟨child, inPart, impossible⟩ | cause
        · exact .occurs (Container.self_mem_containers _) (member inPart) impossible
        · refine cause.mono fun inner inPart => ?_
          obtain ⟨child, isPart, inChild⟩ := mem_containersOf_iff.mp inPart
          exact Container.containers_of_mem (member isPart) inChild
      rw [validateContainer] at refused
      rcases error_of_andThen refused with refused | refused
      · obtain ⟨segment, empty, rfl⟩ := code_of_checkKind here refused
        exact .code (Container.self_mem_containers _) segment empty
      · rcases error_of_andThen refused with refused | refused
        · exact lift (List.subset_append_left _ _) <|
            childFault_of_validateChildren kind name children here.levels inside.1 refused
        · exact lift (List.subset_append_right _ _) <|
            childFault_of_validateSegments name segments here.nested inside.2 refused
termination_by structural container

theorem childFault_of_validateChildren (kind : ContainerKind) (parent : String)
    (children : List Child)
    (levels : ∀ child ∈ children, kind.childLevel? = some child.node.level)
    (shaped : ∀ child ∈ children, child.node.Shaped) {fault : ValidationFault}
    (refused : validateChildren kind parent children = .error fault) :
    ChildFault parent children fault := by
  match children with
  | [] => cases refused
  | ⟨occurs, node⟩ :: rest =>
      rw [List.forall_mem_cons] at levels shaped
      rw [validateChildren] at refused
      apply childFault_cons
      rcases error_of_andThen refused with refused | refused
      · exact .inl (checkOccurs_eq_error_iff.mp refused)
      · rw [if_neg (not_not_intro levels.1)] at refused
        rcases error_of_andThen refused with refused | refused
        · exact .inr (.inl (faultIn_of_validateNode node shaped.1 refused))
        · exact .inr (.inr
            (childFault_of_validateChildren kind parent rest levels.2 shaped.2 refused))
termination_by structural children

theorem childFault_of_validateSegments (parent : String) (segments : List Child)
    (nested : ∀ child ∈ segments, child.node.isSegmentLike = true)
    (shaped : ∀ child ∈ segments, child.node.Shaped) {fault : ValidationFault}
    (refused : validateSegments parent segments = .error fault) :
    ChildFault parent segments fault := by
  match segments with
  | [] => cases refused
  | ⟨occurs, node⟩ :: rest =>
      rw [List.forall_mem_cons] at nested shaped
      rw [validateSegments] at refused
      apply childFault_cons
      rcases error_of_andThen refused with refused | refused
      · exact .inl (checkOccurs_eq_error_iff.mp refused)
      · rw [if_neg (by simpa using nested.1)] at refused
        rcases error_of_andThen refused with refused | refused
        · exact .inr (.inl (faultIn_of_validateNode node shaped.1 refused))
        · exact .inr (.inr
            (childFault_of_validateSegments parent rest nested.2 shaped.2 refused))
termination_by structural segments

theorem faultIn_of_validateNode (node : Node) (shaped : node.Shaped)
    {fault : ValidationFault} (refused : validateNode node = .error fault) :
    FaultIn node.containers fault := by
  match node with
  | .value content => cases refused
  | .container content => exact faultIn_of_validateContainer content shaped refused
termination_by structural node

end

/-! ## Trees without faults -/

/-- The children of a sound container may occur, and as often as they must. -/
theorem Container.Sound.occurs_of_mem {container : Container} (sound : container.Sound)
    {child : Child} (edge : child ∈ container.children ++ container.segments) :
    child.occurs.Sound := by
  have ofChildren {kind : ContainerKind} {children : List Child}
      (sound : ChildrenSound kind children) : ∀ child ∈ children, child.occurs.Sound := by
    induction children with
    | nil => exact nofun
    | cons first rest ih =>
        obtain ⟨occurs, node⟩ := first
        rw [ChildrenSound] at sound
        rw [List.forall_mem_cons]
        exact ⟨sound.1, ih sound.2.2.2⟩
  have ofSegments {segments : List Child} (sound : SegmentsSound segments) :
      ∀ child ∈ segments, child.occurs.Sound := by
    induction segments with
    | nil => exact nofun
    | cons first rest ih =>
        obtain ⟨occurs, node⟩ := first
        rw [SegmentsSound] at sound
        rw [List.forall_mem_cons]
        exact ⟨sound.1, ih sound.2.2.2⟩
  obtain ⟨id, kind, name, code, truncatable, documentation, children, segments⟩ := container
  rw [Container.Sound] at sound
  rcases List.mem_append.mp edge with inChildren | inSegments
  · exact ofChildren sound.2.1 child inChildren
  · exact ofSegments sound.2.2 child inSegments

/-- A sound tree has no fault in it. -/
theorem Container.Sound.not_faultIn {root : Container} (sound : root.Sound)
    (fault : ValidationFault) : ¬FaultIn root.containers fault := by
  intro cause
  cases cause with
  | @occurs container child _ inside edge impossible =>
      have occurs := (sound.of_mem container inside).occurs_of_mem edge
      cases impossible with
      | never none => exact absurd (occurs 0 none).1 (Nat.lt_irrefl 0)
      | range bound positive below => exact absurd (occurs _ bound).2 (Nat.not_le_of_gt below)
  | @code container inside segment empty =>
      have allowed := sound.of_mem container inside
      obtain ⟨id, kind, name, code, truncatable, documentation, children, segments⟩ := container
      obtain rfl : kind = .segment := segment
      rw [Container.Sound] at allowed
      exact allowed.1 (by rw [show code = some "" from empty, Option.getD_some])

/-! ## Built models -/

/-- The faults of trees with something where it may not stand. -/
def ValidationFault.IsMisplacement : ValidationFault → Prop
  | .rootNotGroup .. | .groupWithFields _ | .emptyComposite .. | .compositeWithSegments ..
  | .wrongLevel .. | .notSegment _ => True
  | _ => False

theorem FaultIn.not_misplacement {containers : List Container} {fault : ValidationFault}
    (cause : FaultIn containers fault) : ¬fault.IsMisplacement := by
  cases cause with
  | occurs inside edge impossible => cases impossible <;> exact id
  | code inside segment empty => exact id

/-- The delimiter table has faults of its own. -/
theorem not_misplacement_of_validateDelimiters {table : Delimiter.Table}
    {fault : ValidationFault} (refused : validateDelimiters table = .error fault) :
    ¬fault.IsMisplacement := by
  have distinct {seen : List String} {levels : List Level}
      (refused : checkDistinct table seen levels = .error fault) : ¬fault.IsMisplacement := by
    induction levels generalizing seen with
    | nil => cases refused
    | cons level rest ih =>
        rw [checkDistinct] at refused
        split at refused
        · exact ih refused
        · split at refused
          · cases refused
            exact id
          · exact ih refused
  unfold validateDelimiters at refused
  cases checked : checkDistinct table [] Level.structural with
  | error other =>
      rw [checked] at refused
      obtain rfl := Except.error.inj refused
      exact distinct checked
  | ok seen =>
      rw [checked] at refused
      cases escape : table.escape with
      | none => simp [escape, bind, Except.bind] at refused
      | some text =>
          by_cases shared : text ∈ seen <;>
            simp [escape, shared, bind, Except.bind] at refused
          subst refused
          exact id

/-- The roots that are built from documents, with the roots they import built before. -/
inductive IsBuilt : Node → Prop
  | build {source : Document} {document : String} {imported : Imported} {model : Model}
      (roots : ∀ entry ∈ imported, IsBuilt entry.2)
      (built : source.build document imported = .ok model) : IsBuilt model.root

theorem IsBuilt.shaped {root : Node} (built : IsBuilt root) : root.Shaped := by
  induction built with
  | build roots built ih => exact shaped_build ih built

/-- Validation accepts a built model unless the delimiter table clashes, a child may never
occur or not as often as it must, or a segment has an empty code.  Nothing in the tree ever
stands where it may not. -/
theorem validate_of_build {source : Document} {document : String} {imported : Imported}
    {model : Model} (roots : ∀ entry ∈ imported, IsBuilt entry.2)
    (built : source.build document imported = .ok model) :
    (∀ fault, model.validate = .error fault →
      ¬fault.IsMisplacement ∧
        (validateDelimiters model.delimiters = .error fault ∨
          FaultIn model.root.containers fault)) ∧
    (model.validate = .ok () ↔
      validateDelimiters model.delimiters = .ok () ∧
        ∀ fault, ¬FaultIn model.root.containers fault) := by
  obtain ⟨⟨root, isRoot, group⟩, -⟩ := root_of_build built
  have shaped : (Node.container root).Shaped :=
    isRoot ▸ shaped_build (fun entry inImported => (roots entry inImported).shaped) built
  have validated : model.validate =
      (do validateDelimiters model.delimiters; validateContainer root) := by
    rw [Model.validate, isRoot]
    simp only [group, if_true]
  rw [validated, isRoot, Node.containers]
  constructor
  · intro fault refused
    rcases error_of_andThen refused with clash | refused
    · exact ⟨not_misplacement_of_validateDelimiters clash, .inl clash⟩
    · have cause := faultIn_of_validateContainer root shaped refused
      exact ⟨cause.not_misplacement, .inr cause⟩
  · rw [andThen_eq_ok_iff, validateContainer_eq_ok_iff]
    apply and_congr_right
    intro _
    constructor
    · exact Container.Sound.not_faultIn
    · intro clean
      rw [← validateContainer_eq_ok_iff]
      cases outcome : validateContainer root with
      | ok done => rfl
      | error fault => exact absurd (faultIn_of_validateContainer root shaped outcome) (clean fault)

/-- An address book with one segment. -/
def bookDocument : Document where
  description := ⟨"book", "1"⟩
  delimiters := .edifact
  imports := []
  interchange := none
  segments := .mk "segments" [("xmltag", "Book")]
    [.mk "segment" [("segcode", "NAD"), ("xmltag", "party")]
      [.mk "field" [("xmltag", "name")] [] ""] ""] ""

/-- A letter that never has the party it refers to. -/
def letterDocument : Document where
  description := ⟨"letter", "1"⟩
  delimiters := .edifact
  imports := [⟨"book.xml", "book"⟩]
  interchange := none
  segments := .mk "segments" [("xmltag", "Letter")]
    [.mk "segment" [("segref", "book:NAD"), ("minOccurs", "0"), ("maxOccurs", "0")] [] ""] ""

/-- The only fault of the letter is the party that never occurs. -/
theorem validate_of_letter :
    ∃ book letter, bookDocument.build "book" [] = .ok book ∧
      letterDocument.build "letter" [("book", book.root)] = .ok letter ∧
      letter.validate = .error (.neverOccurs "party" "Letter") ∧
      FaultIn letter.root.containers (.neverOccurs "party" "Letter") := by
  have runs : (bookDocument.build "book" []).toOption.any (fun book =>
      (letterDocument.build "letter" [("book", book.root)]).toOption.any fun letter =>
        decide (letter.validate = .error (.neverOccurs "party" "Letter"))) = true := by
    decide +kernel
  simp only [Option.any_eq_true, decide_eq_true_eq, toOption_eq_some_iff] at runs
  obtain ⟨book, builtBook, letter, builtLetter, refused⟩ := runs
  have none_ : ∀ entry ∈ ([] : Imported), IsBuilt entry.2 := List.forall_mem_nil _
  have roots : ∀ entry ∈ [("book", book.root)], IsBuilt entry.2 :=
    List.forall_mem_singleton.mpr (.build none_ builtBook)
  have distinct : validateDelimiters letter.delimiters = .ok () := by
    rw [(root_of_build builtLetter).2]
    decide
  obtain ⟨-, clash | cause⟩ := (validate_of_build roots builtLetter).1 _ refused
  · rw [distinct] at clash
    cases clash
  · exact ⟨book, letter, builtBook, builtLetter, refused, cause⟩

end Schema

end FlatMessage
