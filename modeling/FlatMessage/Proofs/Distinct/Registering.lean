import FlatMessage.Proofs.Compilation
import FlatMessage.Proofs.Names

/-!
# Types that a compilation registers

The name of a type is claimed before anything inside its container is compiled, and what is
compiled there claims other names, so no two types of a compilation have one name.  The
properties of a type claim their names one after the other in a scope of their own, which
goes from the delimited children to the nested segments.

What is known of all registered types may depend on the types of their beans.  It is kept
by a compilation if it holds of every type whose beans have known types.
-/

namespace FlatMessage.Compiler

open Codec (CompiledType Property Step)
open Delimiter (Level)
open Naming (IsIdentifier Scope)
open Schema (Child Container Model Node NodeId)

/-- Something is known of all registered types. -/
def Registry.All (known : CompiledType → Prop) (registry : Registry) : Prop :=
  ∀ entry ∈ registry, known entry.2

/-- What is known of all registered types is known of one that is looked up. -/
theorem Registry.All.get? {known : CompiledType → Prop} {registry : Registry}
    (all : registry.All known) {id : NodeId} {type : CompiledType}
    (found : registry.get? id = some type) : known type := by
  obtain ⟨before, after, whole, -⟩ := List.lookup_eq_some_iff.mp found
  exact all (id, type) (by simp [whole])

/-! ## Properties and types -/

/-- A property is made with an identifier for its name.  Its beans have a known type. -/
structure MadeProperty (known : CompiledType → Prop) (property : Property) : Prop where
  legal : IsIdentifier property.name
  beans : ∀ inner, property.binding = .bean inner → known inner

/-- A type is made in a namespace, with an identifier for its name and properties of
different names. -/
structure MadeType (space : String) (known : CompiledType → Prop) (type : CompiledType) :
    Prop where
  legal : IsIdentifier type.name
  placed : type.space = space
  derived : ∃ identifier, Naming.typeIdentifier type.nodeName = .ok identifier
  distinct : (type.properties.map Property.name).Nodup
  properties : ∀ property ∈ type.properties, MadeProperty known property

/-- Properties claim their names in a scope, one after the other. -/
structure Claims (known : CompiledType → Prop) (scope : Scope) (properties : List Property)
    (later : Scope) : Prop where
  names : later = (properties.map Property.name).reverse ++ scope
  distinct : scope.Nodup → later.Nodup
  made : ∀ property ∈ properties, MadeProperty known property

namespace Claims

variable {known : CompiledType → Prop} {scope middle later : Scope}
  {properties others : List Property}

theorem nil (known : CompiledType → Prop) (scope : Scope) : Claims known scope [] scope :=
  ⟨rfl, id, nofun⟩

theorem append (first : Claims known scope properties middle)
    (second : Claims known middle others later) :
    Claims known scope (properties ++ others) later where
  names := by
    rw [second.names, first.names, List.map_append, List.reverse_append, List.append_assoc]
  distinct := fun unique => second.distinct (first.distinct unique)
  made := List.forall_mem_append.mpr ⟨first.made, second.made⟩

/-- A property claims the name that is free. -/
theorem single {base : String} (legal : IsIdentifier base) {property : Property}
    (named : property.name = Scope.freeName scope base "_")
    (beans : ∀ inner, property.binding = .bean inner → known inner) :
    Claims known scope [property] (Scope.freeName scope base "_" :: scope) where
  names := by simp [named]
  distinct := List.nodup_cons.mpr ∘ And.intro (Scope.freeName_not_mem scope base "_")
  made := by
    rw [List.forall_mem_singleton]
    refine ⟨?_, beans⟩
    rw [named]
    exact Scope.isIdentifier_freeName legal (by simp [Naming.isWord])

/-- Names that are claimed in an empty scope are all different. -/
theorem names_nodup (claims : Claims known [] properties later) :
    (properties.map Property.name).Nodup := by
  have distinct := claims.distinct List.nodup_nil
  rwa [claims.names, List.append_nil, List.nodup_reverse] at distinct

end Claims

/-! ## Sessions -/

/-- From one state to a later one, types are registered under names that were not taken
before, and all of them are good. -/
structure Frame (good : CompiledType → Prop) (before after : Session) : Prop where
  names : before.names ⊆ after.names
  added : ∃ added : Registry,
    after.registry = before.registry ++ added ∧ (added.map (·.2.name)).Nodup ∧
      ∀ entry ∈ added,
        entry.2.name ∉ before.names ∧ entry.2.name ∈ after.names ∧ good entry.2

namespace Frame

variable {good known : CompiledType → Prop} {before middle after : Session}

theorem refl (good : CompiledType → Prop) (session : Session) : Frame good session session :=
  ⟨List.Subset.refl _, [], by simp, by simp, nofun⟩

theorem trans (first : Frame good before middle) (second : Frame good middle after) :
    Frame good before after := by
  obtain ⟨names, added, registry, distinct, all⟩ := first
  obtain ⟨names', added', registry', distinct', all'⟩ := second
  refine ⟨List.Subset.trans names names', added ++ added', ?_, ?_, ?_⟩
  · rw [registry', registry, List.append_assoc]
  · rw [List.map_append, List.nodup_append]
    refine ⟨distinct, distinct', ?_⟩
    rintro name early _ late rfl
    obtain ⟨entry, inAdded, rfl⟩ := List.mem_map.mp early
    obtain ⟨other, inLater, same⟩ := List.mem_map.mp late
    exact (all' other inLater).1 (same ▸ (all entry inAdded).2.1)
  · intro entry member
    rcases List.mem_append.mp member with early | late
    · obtain ⟨fresh, taken, holds⟩ := all entry early
      exact ⟨fresh, names' taken, holds⟩
    · obtain ⟨fresh, taken, holds⟩ := all' entry late
      exact ⟨fun known => fresh (names known), taken, holds⟩

/-- What good types have is known of all types if it was before. -/
theorem all (frame : Frame good before after) (enough : ∀ type, good type → known type)
    (start : before.registry.All known) : after.registry.All known := by
  obtain ⟨-, added, registry, -, all⟩ := frame
  rw [registry]
  intro entry member
  rcases List.mem_append.mp member with early | late
  · exact start entry early
  · exact enough entry.2 (all entry late).2.2

/-- Claiming a name registers nothing. -/
theorem claim (good : CompiledType → Prop) (before : Session) (name : String) :
    Frame good before ⟨before.registry, name :: before.names⟩ :=
  ⟨List.subset_cons_self _ _, [], by simp, by simp, nofun⟩

/-- A type is registered under the name that was claimed before what is inside it. -/
theorem register {name : String} (fresh : name ∉ before.names)
    (inner : Frame good ⟨before.registry, name :: before.names⟩ middle)
    {id : NodeId} {type : CompiledType} (named : type.name = name) (holds : good type) :
    Frame good before ⟨middle.registry.register id type, middle.names⟩ := by
  have whole := (claim good before name).trans inner
  obtain ⟨names, added, registry, distinct, all⟩ := inner
  dsimp only at names registry all
  cases known : middle.registry.get? id with
  | some other =>
      have same : middle.registry.register id type = middle.registry := by
        rw [Registry.register, known]
      rw [same]
      exact whole
  | none =>
      have entered : middle.registry.register id type = middle.registry ++ [(id, type)] := by
        rw [Registry.register, known]
      refine ⟨whole.names, added ++ [(id, type)], ?_, ?_, ?_⟩
      · rw [entered, registry, List.append_assoc]
      · rw [List.map_append, List.nodup_append]
        refine ⟨distinct, by simp, ?_⟩
        rintro inside early _ late rfl
        obtain ⟨entry, inAdded, rfl⟩ := List.mem_map.mp early
        have same : entry.2.name = name := by simpa [named] using late
        exact (all entry inAdded).1 (same ▸ List.mem_cons_self)
      · intro entry member
        rcases List.mem_append.mp member with early | late
        · obtain ⟨apart, taken, holds⟩ := all entry early
          exact ⟨fun known => apart (List.mem_cons_of_mem _ known), taken, holds⟩
        · obtain rfl := List.mem_singleton.mp late
          rw [named]
          exact ⟨fresh, names List.mem_cons_self, holds⟩

end Frame

/-! ## Parts of a compilation -/

/-- Started with known types, a part of a compilation only registers types that are made
with known types, under new names, and its result is as expected. -/
def Registers {α : Type} (space : String) (known : CompiledType → Prop) (expected : α → Prop)
    (computation : Compilation α) : Prop :=
  ∀ session : Session, session.registry.All known →
    Frame (MadeType space known) session (computation.run.run session).2 ∧
      ∀ result, (computation.run.run session).1 = .ok result → expected result

namespace Registers

variable {α β : Type} {space : String} {known : CompiledType → Prop} {expected : α → Prop}
  {final : β → Prop}

theorem pure {result : α} (holds : expected result) :
    Registers space known expected (pure result) := by
  intro session start
  refine ⟨.refl _ session, ?_⟩
  rintro _ ⟨⟩
  exact holds

theorem throw (error : CompileError) : Registers space known expected (throw error) := by
  intro session start
  exact ⟨.refl _ session, nofun⟩

theorem bind (enough : ∀ type, MadeType space known type → known type)
    {first : Compilation α} {next : α → Compilation β}
    (before : Registers space known expected first)
    (after : ∀ result, expected result → Registers space known final (next result)) :
    Registers space known final (first >>= next) := by
  intro session start
  obtain ⟨frame, holds⟩ := before session start
  rw [run_bind]
  rcases outcome : first.run.run session with ⟨result, middle⟩
  rw [outcome] at frame holds
  cases result with
  | error error => exact ⟨frame, nofun⟩
  | ok result =>
      obtain ⟨later, holdsLater⟩ :=
        after result (holds result rfl) middle (frame.all enough start)
      exact ⟨frame.trans later, holdsLater⟩

end Registers

section

variable (target : Target) {known : CompiledType → Prop}
  (enough : ∀ type, MadeType target.space known type → known type)

/-- The beans of a binding have a known type. -/
def BeansKnown (known : CompiledType → Prop) (binding : Codec.Binding) : Prop :=
  ∀ inner, binding = .bean inner → known inner

theorem registers_bindValue (content : Schema.ValueNode) :
    Registers target.space known (BeansKnown known) (bindValue content) := by
  unfold bindValue
  split
  · exact .pure nofun
  · split
    · exact .pure nofun
    · exact .throw _

theorem registers_compileBody {container : Container}
    (delimited : ∀ leading level, Registers target.space known
      (fun result => Claims known [] (result.1.map Step.property) result.2)
      (compileChildren target leading level [] container.children)) :
    Registers target.space known
      (fun result => Claims known [] (result.1.map Step.property) result.2)
      (compileBody target container) := by
  unfold compileBody
  split
  · exact delimited _ _
  · exact .pure (.nil known [])

/-- The outcome of claiming the name of a type. -/
theorem run_claimTypeName {nodeName identifier : String}
    (derived : Naming.typeIdentifier nodeName = .ok identifier) (session : Session) :
    (claimTypeName nodeName).run.run session =
      (.ok (Scope.freeName session.names identifier ""),
        ⟨session.registry, Scope.freeName session.names identifier "" ::
          session.names⟩) := by
  rw [claimTypeName, derived]
  rfl

/-- What is made of a body and of nested segments whose properties have claimed their
names is a type as it should be. -/
theorem madeType_of_claims {container : Container} {identifier name : String}
    (derived : Naming.typeIdentifier container.name = .ok identifier)
    (legal : IsIdentifier name) {body nested : List Step} {scope later : Scope}
    (slots : Claims known [] (body.map Step.property) scope)
    (segments : Claims known scope (nested.map Step.property) later) :
    MadeType target.space known
      { name
        space := target.space
        nodeName := container.name
        kind := container.kind
        layout :=
          layoutOf target.options container.kind container.code container.truncatable
            container.children body nested } := by
  have whole := slots.append segments
  rw [← List.map_append] at whole
  exact ⟨legal, rfl, ⟨identifier, derived⟩, whole.names_nodup, whole.made⟩

include enough

/-- The name of a type is claimed first, and the type is registered last. -/
theorem registers_compileFresh {container : Container}
    (body : Registers target.space known
      (fun result => Claims known [] (result.1.map Step.property) result.2)
      (compileBody target container))
    (nested : ∀ scope, Registers target.space known
      (fun result => Claims known scope (result.1.map Step.property) result.2)
      (compileSegments target scope container.segments)) :
    Registers target.space known known (compileFresh target container) := by
  intro session start
  rw [compileFresh, run_bind]
  cases derived : Naming.typeIdentifier container.name with
  | error illegal =>
      have claimed : (claimTypeName container.name).run.run session =
          (.error (.illegalName illegal), session) := by
        rw [claimTypeName, derived]
        rfl
      rw [claimed]
      exact ⟨.refl _ _, nofun⟩
  | ok identifier =>
      have legal : IsIdentifier identifier := by
        obtain ⟨rfl, legal⟩ := Naming.check_eq_ok_iff.mp derived
        exact legal
      have fresh := Scope.freeName_not_mem session.names identifier ""
      have legalName : IsIdentifier (Scope.freeName session.names identifier "") :=
        Scope.isIdentifier_freeName legal (by simp)
      rw [run_claimTypeName derived]
      generalize Scope.freeName session.names identifier "" = name at fresh legalName ⊢
      dsimp only
      obtain ⟨bodyFrame, slots⟩ := body ⟨session.registry, name :: session.names⟩ start
      rw [run_bind]
      rcases bodyRun : (compileBody target container).run.run
        ⟨session.registry, name :: session.names⟩ with ⟨_ | steps, filled⟩
      · rw [bodyRun] at bodyFrame
        exact ⟨(Frame.claim _ _ _).trans bodyFrame, nofun⟩
      rw [bodyRun] at bodyFrame slots
      obtain ⟨nestedFrame, segments⟩ := nested steps.2 filled (bodyFrame.all enough start)
      dsimp only
      rw [run_bind]
      rcases nestedRun : (compileSegments target steps.2 container.segments).run.run filled
        with ⟨_ | others, last⟩
      · rw [nestedRun] at nestedFrame
        exact ⟨(Frame.claim _ _ _).trans (bodyFrame.trans nestedFrame), nofun⟩
      rw [nestedRun] at nestedFrame segments
      have made := madeType_of_claims target derived legalName (slots steps rfl)
        (segments others rfl)
      refine ⟨Frame.register fresh (bodyFrame.trans nestedFrame) rfl made, ?_⟩
      rintro _ ⟨⟩
      exact enough _ made

/-- A child claims the name of its property before its node is compiled. -/
theorem registers_compileChild (scope : Scope) (occurs : Schema.Occurs) {node : Node}
    (bound : Registers target.space known (BeansKnown known) (compileBinding target node)) :
    Registers target.space known (fun result => Claims known scope [result.1] result.2)
      (compileChild target scope ⟨occurs, node⟩) := by
  rw [compileChild, claimProperty]
  cases derived : Naming.propertyIdentifier node.name with
  | error illegal =>
      have never : Registers target.space known (fun _ => False)
          (throw (.illegalName illegal) : Compilation (String × Scope)) := .throw _
      exact never.bind enough fun _ impossible => impossible.elim
  | ok identifier =>
      obtain ⟨rfl, legal⟩ := Naming.check_eq_ok_iff.mp derived
      exact bound.bind enough fun binding beans => .pure (.single legal rfl beans)

mutual

/-- Compiling a container registers types that are made with known types. -/
theorem registers_compileContainer (container : Container) :
    Registers target.space known known (compileContainer target container) := by
  intro session start
  rw [run_compileContainer]
  cases found : session.registry.get? container.id with
  | some type =>
      refine ⟨.refl _ _, ?_⟩
      rintro _ ⟨⟩
      exact start.get? found
  | none =>
      match container with
      | ⟨id, kind, name, code, truncatable, documentation, children, segments⟩ =>
          exact registers_compileFresh target enough
            (registers_compileBody target fun leading level =>
              registers_compileChildren leading level [] children)
            (fun scope => registers_compileSegments scope segments) session start

theorem registers_compileChildren (leading : Option Level) (level : Level) (scope : Scope)
    (children : List Child) :
    Registers target.space known
      (fun result => Claims known scope (result.1.map Step.property) result.2)
      (compileChildren target leading level scope children) := by
  match children with
  | [] =>
      rw [compileChildren]
      exact .pure (.nil known scope)
  | ⟨occurs, node⟩ :: rest =>
      rw [compileChildren]
      have child := registers_compileChild target enough scope occurs
        (registers_compileBinding node)
      exact child.bind enough fun result first =>
        (registers_compileChildren (some level) level result.2 rest).bind enough
          fun _ others => .pure (first.append others)

theorem registers_compileSegments (scope : Scope) (segments : List Child) :
    Registers target.space known
      (fun result => Claims known scope (result.1.map Step.property) result.2)
      (compileSegments target scope segments) := by
  match segments with
  | [] =>
      rw [compileSegments]
      exact .pure (.nil known scope)
  | ⟨occurs, node⟩ :: rest =>
      rw [compileSegments]
      have child := registers_compileChild target enough scope occurs
        (registers_compileBinding node)
      exact child.bind enough fun result first =>
        (registers_compileSegments result.2 rest).bind enough
          fun _ others => .pure (first.append others)

theorem registers_compileBinding (node : Node) :
    Registers target.space known (BeansKnown known) (compileBinding target node) := by
  match node with
  | .value content =>
      rw [compileBinding]
      exact registers_bindValue target content
  | .container content =>
      rw [compileBinding]
      refine (registers_compileContainer content).bind enough fun type holds => .pure ?_
      rintro inner ⟨⟩
      exact holds

end

end

/-! ## Compiling models -/

/-- From known types, a compilation that succeeds or fails registers types that are made
with known types in the namespace that is compiled into, no two of one name. -/
theorem exists_added_of_compile {target : Target} {known : CompiledType → Prop}
    (enough : ∀ type, MadeType target.space known type → known type) {registry : Registry}
    (start : registry.All known) (model : Model) :
    ∃ added : Registry,
      (compile target model registry).2 = registry ++ added ∧
        (added.map (·.2.name)).Nodup ∧
        (∀ entry ∈ added, MadeType target.space known entry.2) ∧
        ∀ compiled, (compile target model registry).1 = .ok compiled →
          compiled.types = added.types ∧ known compiled.root := by
  unfold Compiler.compile
  cases Naming.checkNamespace target.space with
  | error illegal => exact ⟨[], by simp, by simp, nofun, nofun⟩
  | ok _ =>
      have root : Registers target.space known known (compileRoot target model.root) := by
        cases model.root with
        | value content => exact .throw _
        | container content => exact registers_compileContainer target enough content
      obtain ⟨⟨-, added, grown, distinct, all⟩, rooted⟩ := root ⟨registry, []⟩ start
      have made : ∀ entry ∈ added, MadeType target.space known entry.2 :=
        fun entry member => (all entry member).2.2
      dsimp only
      rcases outcome : (compileRoot target model.root).run.run ⟨registry, []⟩ with
        ⟨_ | type, session⟩
      · rw [outcome] at grown
        exact ⟨added, grown, distinct, made, nofun⟩
      · rw [outcome] at grown rooted
        refine ⟨added, grown, distinct, made, ?_⟩
        rintro _ ⟨⟩
        refine ⟨?_, rooted type rfl⟩
        dsimp only at grown ⊢
        rw [grown, List.drop_left]

/-- What is known of all registered types stays known. -/
theorem Registry.All.compile {target : Target} {known : CompiledType → Prop}
    (enough : ∀ type, MadeType target.space known type → known type) {registry : Registry}
    (start : registry.All known) (model : Model) :
    (Compiler.compile target model registry).2.All known := by
  obtain ⟨added, grown, -, made, -⟩ := exists_added_of_compile enough start model
  rw [grown]
  intro entry member
  rcases List.mem_append.mp member with early | late
  · exact start entry early
  · exact enough entry.2 (made entry late)

end FlatMessage.Compiler
