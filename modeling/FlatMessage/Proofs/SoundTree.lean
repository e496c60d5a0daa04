import FlatMessage.Schema.Validation
import Mathlib.Data.List.Forall2

/-!
# Sound schema trees

Validation accepts a tree exactly when every container in it holds what its kind
allows and every child may occur.  `Container.Sound` says this without the order in
which validation looks for faults.

The containers of a tree are listed with repetition: a container that is referred to
twice stands in the list twice, under one identity.  A store gives every identity its
container; a tree is stored when all its containers are.
-/

namespace FlatMessage

universe u v

/-- A sequence succeeds exactly when both of its parts do. -/
theorem bind_eq_ok_iff {ε : Type u} {α β : Type v} {first : Except ε α}
    {next : α → Except ε β} {result : β} :
    (first >>= next) = .ok result ↔
      ∃ middle, first = .ok middle ∧ next middle = .ok result := by
  cases first with
  | ok middle => simp [bind, Except.bind]
  | error error => simp [bind, Except.bind]

/-- A sequence of checks succeeds exactly when both of them do. -/
theorem andThen_eq_ok_iff {ε : Type u} {first : Except ε Unit} {second : Except ε Unit} :
    (do first; second) = .ok () ↔ first = .ok () ∧ second = .ok () := by
  rw [bind_eq_ok_iff]
  constructor
  · rintro ⟨_, firstHolds, secondHolds⟩
    exact ⟨firstHolds, secondHolds⟩
  · rintro ⟨firstHolds, secondHolds⟩
    exact ⟨(), firstHolds, secondHolds⟩

/-- The outcomes that are a success. -/
theorem toOption_eq_some_iff {ε α : Type} {outcome : Except ε α} {value : α} :
    outcome.toOption = some value ↔ outcome = .ok value := by
  cases outcome <;> simp [Except.toOption]

theorem isOk_iff_exists {ε α : Type} {outcome : Except ε α} :
    outcome.isOk = true ↔ ∃ value, outcome = .ok value := by
  cases outcome <;> simp [Except.isOk, Except.toBool]

/-- A function that may fail succeeds on a list when it does on every member. -/
theorem mapM_eq_some_iff {α β : Type} {f : α → Option β} {items : List α}
    {results : List β} :
    items.mapM f = some results ↔
      List.Forall₂ (fun item result => f item = some result) items results := by
  induction items generalizing results with
  | nil => cases results <;> simp
  | cons item rest ih =>
      rw [List.mapM_cons]
      cases results with
      | nil => simp [Option.bind_eq_some_iff]
      | cons result others => simp [ih, Option.bind_eq_some_iff]

/-- The results are those of the members. -/
theorem mem_iff_of_mapM_eq_some {α β : Type} {f : α → Option β} {items : List α}
    {results : List β} (all : items.mapM f = some results) {result : β} :
    result ∈ results ↔ ∃ item ∈ items, f item = some result := by
  rw [mapM_eq_some_iff] at all
  induction all with
  | nil => simp
  | cons first _ ih => simp [ih, first, eq_comm]

namespace Schema

/-! ## Containers of a tree -/

mutual

/-- A container and the containers inside it. -/
def Container.containers (container : Container) : List Container :=
  match container with
  | ⟨id, kind, name, code, truncatable, documentation, children, segments⟩ =>
      ⟨id, kind, name, code, truncatable, documentation, children, segments⟩ ::
        (containersOf children ++ containersOf segments)
termination_by structural container

/-- The containers of several children. -/
def containersOf (children : List Child) : List Container :=
  match children with
  | [] => []
  | ⟨_, node⟩ :: rest => node.containers ++ containersOf rest
termination_by structural children

/-- The containers of a node. -/
def Node.containers (node : Node) : List Container :=
  match node with
  | .value _ => []
  | .container content => content.containers
termination_by structural node

end

/-- Every identity has at most one container; the tree of a model is stored when
each of its containers is the one with its identity. -/
def Node.StoredIn (store : NodeId → Option Container) (node : Node) : Prop :=
  ∀ container ∈ node.containers, store container.id = some container

/-! ## Soundness -/

/-- A child may occur, and as often as it must. -/
def Occurs.Sound (occurs : Occurs) : Prop :=
  ∀ max, occurs.max = some max → 0 < max ∧ occurs.min ≤ max

/-- A kind of container allows what a container holds. -/
def ContainerKind.Allows (kind : ContainerKind) (code : Option String)
    (children segments : List Child) : Prop :=
  match kind with
  | .segmentGroup => children = []
  | .segment => code.getD "" ≠ ""
  | .field => children ≠ [] ∧ segments = []
  | .component => children ≠ [] ∧ segments = []

mutual

/-- A container and everything inside it is sound. -/
def Container.Sound (container : Container) : Prop :=
  match container with
  | ⟨_, kind, _, code, _, _, children, segments⟩ =>
      kind.Allows code children segments ∧ ChildrenSound kind children ∧
        SegmentsSound segments
termination_by structural container

/-- Delimited children of a container of a kind are sound. -/
def ChildrenSound (kind : ContainerKind) (children : List Child) : Prop :=
  match children with
  | [] => True
  | ⟨occurs, node⟩ :: rest =>
      occurs.Sound ∧ kind.childLevel? = some node.level ∧ node.Sound ∧
        ChildrenSound kind rest
termination_by structural children

/-- Nested segments are sound. -/
def SegmentsSound (segments : List Child) : Prop :=
  match segments with
  | [] => True
  | ⟨occurs, node⟩ :: rest =>
      occurs.Sound ∧ node.isSegmentLike = true ∧ node.Sound ∧ SegmentsSound rest
termination_by structural segments

/-- A node is sound; a leaf always is. -/
def Node.Sound (node : Node) : Prop :=
  match node with
  | .value _ => True
  | .container content => content.Sound
termination_by structural node

end

theorem checkKind_eq_ok_iff (container : Container) :
    checkKind container = .ok () ↔
      container.kind.Allows container.code container.children container.segments := by
  obtain ⟨id, kind, name, code, truncatable, documentation, children, segments⟩ := container
  cases kind with
  | segmentGroup => cases children <;> simp [checkKind, ContainerKind.Allows, Container.hasFields]
  | segment =>
      by_cases blank : code.getD "" = "" <;>
        simp [checkKind, ContainerKind.Allows, blank]
  | field =>
      cases children <;> cases segments <;>
        simp [checkKind, ContainerKind.Allows, Container.hasFields]
  | component =>
      cases children <;> cases segments <;>
        simp [checkKind, ContainerKind.Allows, Container.hasFields]

theorem checkOccurs_eq_ok_iff (parent name : String) (occurs : Occurs) :
    checkOccurs parent name occurs = .ok () ↔ occurs.Sound := by
  cases bound : occurs.max with
  | none => simp [checkOccurs, Occurs.Sound, bound]
  | some max =>
      by_cases never : max = 0
      · simp [checkOccurs, Occurs.Sound, bound, never]
      · by_cases below : max < occurs.min
        · simp [checkOccurs, Occurs.Sound, bound, never, below]
        · simp only [checkOccurs, bound, never, below, if_false, Occurs.Sound,
            Option.some.injEq, forall_eq', true_iff]
          omega

mutual

/-- Validation accepts exactly the sound containers. -/
theorem validateContainer_eq_ok_iff (container : Container) :
    validateContainer container = .ok () ↔ container.Sound := by
  match container with
  | ⟨id, kind, name, code, truncatable, documentation, children, segments⟩ =>
      rw [validateContainer, andThen_eq_ok_iff, andThen_eq_ok_iff, checkKind_eq_ok_iff,
        validateChildren_eq_ok_iff kind name children,
        validateSegments_eq_ok_iff name segments, Container.Sound]

theorem validateChildren_eq_ok_iff (kind : ContainerKind) (parent : String)
    (children : List Child) :
    validateChildren kind parent children = .ok () ↔ ChildrenSound kind children := by
  match children with
  | [] => simp [validateChildren, ChildrenSound]
  | ⟨occurs, node⟩ :: rest =>
      rw [validateChildren, andThen_eq_ok_iff, checkOccurs_eq_ok_iff, ChildrenSound,
        ← validateNode_eq_ok_iff node, ← validateChildren_eq_ok_iff kind parent rest]
      by_cases fits : kind.childLevel? = some node.level
      · simp [fits, andThen_eq_ok_iff]
      · simp [fits, bind, Except.bind]

theorem validateSegments_eq_ok_iff (parent : String) (segments : List Child) :
    validateSegments parent segments = .ok () ↔ SegmentsSound segments := by
  match segments with
  | [] => simp [validateSegments, SegmentsSound]
  | ⟨occurs, node⟩ :: rest =>
      rw [validateSegments, andThen_eq_ok_iff, checkOccurs_eq_ok_iff, SegmentsSound,
        ← validateNode_eq_ok_iff node, ← validateSegments_eq_ok_iff parent rest]
      cases node.isSegmentLike with
      | true => simp [andThen_eq_ok_iff]
      | false => simp [bind, Except.bind]

theorem validateNode_eq_ok_iff (node : Node) :
    validateNode node = .ok () ↔ node.Sound := by
  match node with
  | .value content => simp [validateNode, Node.Sound]
  | .container content =>
      rw [validateNode, validateContainer_eq_ok_iff content, Node.Sound]

end

/-- The root of an accepted model is a sound segment group. -/
theorem Model.sound_of_validate {model : Model} (valid : model.validate = .ok ()) :
    ∃ root, model.root = .container root ∧ root.kind = .segmentGroup ∧ root.Sound := by
  rw [Model.validate, andThen_eq_ok_iff] at valid
  obtain ⟨-, valid⟩ := valid
  cases tree : model.root with
  | value content => simp [tree] at valid
  | container root =>
      by_cases group : root.kind = .segmentGroup
      · have sound : root.Sound := by
          rw [← validateContainer_eq_ok_iff]
          simpa [tree, group] using valid
        exact ⟨root, rfl, group, sound⟩
      · simp [tree, group] at valid

/-! ## A small schema -/

/-- An author by given name and family name. -/
def author : Container where
  id := ⟨"notice", [0, 1]⟩
  kind := .field
  name := "author"
  code := none
  truncatable := true
  documentation := none
  children :=
    [⟨.once, .value ⟨"given name", .component, some .string, []⟩⟩,
      ⟨.once, .value ⟨"family name", .component, some .string, []⟩⟩]
  segments := []

/-- A note with a subject and up to two authors. -/
def note : Container where
  id := ⟨"notice", [0]⟩
  kind := .segment
  name := "note"
  code := some "NTE"
  truncatable := true
  documentation := none
  children :=
    [⟨.once, .value ⟨"subject", .field, some .string, []⟩⟩,
      ⟨⟨0, some 2⟩, .container author⟩]
  segments := []

/-- A notice is any number of notes. -/
def notice : Model where
  description := ⟨"notice", "1"⟩
  delimiters := .edifact
  root := .container
    { id := ⟨"notice", []⟩
      kind := .segmentGroup
      name := "notice"
      code := none
      truncatable := false
      documentation := none
      children := []
      segments := [⟨⟨0, none⟩, .container note⟩] }
  source := none

/-- The containers of a notice by their identities. -/
def noticeStore (id : NodeId) : Option Container :=
  notice.root.containers.find? (·.id = id)

theorem mem_containers_notice {container : Container}
    (member : container ∈ notice.root.containers) :
    notice.root = .container container ∨ container = note ∨ container = author := by
  have listed : notice.root.containers =
      notice.root.container?.toList ++ [note, author] := rfl
  rw [listed] at member
  simp only [notice, Node.container?, Option.toList_some, List.singleton_append,
    List.mem_cons, List.not_mem_nil, or_false] at member
  rcases member with rfl | inNotes
  · exact .inl rfl
  · exact .inr inNotes

theorem notice_storedIn : notice.root.StoredIn noticeStore := by
  intro container member
  rcases mem_containers_notice member with root | rfl | rfl
  · cases root
    rfl
  · rfl
  · rfl

end Schema

end FlatMessage
