import FlatMessage.Artifact.Document
import FlatMessage.Compiler.CompiledModel

/-!
# Setting the flush option

The flush option of a compilation is kept in every type that it creates, at every depth.
Setting it afterwards, in a type and all types it refers to, gives a layout the mark that
the option asks for: a layout with a terminator flushes if the option is set, any other
layout never does.

The option is seen by nothing but the writing: names, properties and binding trees stay as
they are, and so does every document.
-/

namespace FlatMessage

namespace Codec

mutual

/-- A layout with the flush option set at every depth. -/
def Layout.flushing (flag : Bool) (layout : Layout) : Layout :=
  match layout with
  | ⟨code, body, truncateAt, terminator, _, segments⟩ =>
      ⟨code, stepsFlushing flag body, truncateAt, terminator, terminator.isSome && flag,
        stepsFlushing flag segments⟩
termination_by structural layout

/-- Steps with the flush option set at every depth. -/
def stepsFlushing (flag : Bool) (steps : List Step) : List Step :=
  match steps with
  | [] => []
  | ⟨⟨name, nodeName, occurs, binding⟩, leading, level⟩ :: rest =>
      ⟨⟨name, nodeName, occurs, binding.flushing flag⟩, leading, level⟩ ::
        stepsFlushing flag rest
termination_by structural steps

/-- A binding with the flush option set at every depth. -/
def Binding.flushing (flag : Bool) (binding : Binding) : Binding :=
  match binding with
  | .scalar scalar => .scalar scalar
  | .bean ⟨name, space, nodeName, kind, layout⟩ =>
      .bean ⟨name, space, nodeName, kind, layout.flushing flag⟩
termination_by structural binding

end

/-- A type with the flush option set at every depth. -/
def CompiledType.flushing (flag : Bool) (type : CompiledType) : CompiledType :=
  { type with layout := type.layout.flushing flag }

/-- A property with the flush option set at every depth. -/
def Property.flushing (flag : Bool) (property : Property) : Property :=
  { property with binding := property.binding.flushing flag }

/-- A step with the flush option set at every depth. -/
def Step.flushing (flag : Bool) (step : Step) : Step :=
  { step with property := step.property.flushing flag }

variable {flag : Bool}

theorem stepsFlushing_eq_map (flag : Bool) (steps : List Step) :
    stepsFlushing flag steps = steps.map (Step.flushing flag) := by
  induction steps with
  | nil => rfl
  | cons step rest ih =>
      obtain ⟨⟨name, nodeName, occurs, binding⟩, leading, level⟩ := step
      rw [stepsFlushing, ih]
      rfl

theorem Binding.flushing_bean (flag : Bool) (type : CompiledType) :
    (Binding.bean type).flushing flag = .bean (type.flushing flag) := by
  obtain ⟨name, space, nodeName, kind, layout⟩ := type
  rfl

/-- The layout of a type whose steps are set. -/
theorem Layout.flushing_eq (flag : Bool) (layout : Layout) :
    layout.flushing flag =
      { layout with
        body := layout.body.map (Step.flushing flag)
        flush := layout.terminator.isSome && flag
        segments := layout.segments.map (Step.flushing flag) } := by
  obtain ⟨code, body, truncateAt, terminator, flush, segments⟩ := layout
  rw [Layout.flushing, stepsFlushing_eq_map, stepsFlushing_eq_map]

/-! ## What describes a type -/

theorem CompiledType.qualifiedName_flushing (flag : Bool) (type : CompiledType) :
    (type.flushing flag).qualifiedName = type.qualifiedName :=
  rfl

theorem Property.descriptor_flushing (flag : Bool) (property : Property) :
    (property.flushing flag).descriptor = property.descriptor := by
  obtain ⟨name, nodeName, occurs, binding⟩ := property
  rcases binding with scalar | ⟨typeName, space, inner, kind, layout⟩ <;> rfl

theorem CompiledType.descriptor_flushing (flag : Bool) (type : CompiledType) :
    (type.flushing flag).descriptor = type.descriptor := by
  have properties : (type.flushing flag).properties.map Property.descriptor =
      type.properties.map Property.descriptor := by
    simp [CompiledType.properties, Layout.steps, CompiledType.flushing, Layout.flushing_eq,
      Step.flushing, Function.comp_def, Property.descriptor_flushing]
  rw [CompiledType.descriptor, properties]
  simp [CompiledType.descriptor, CompiledType.flushing, Layout.flushing_eq, Layout.truncates,
    CompiledType.qualifiedName]

end Codec

namespace Compiler

open Codec (CompiledType Layout Step)
open Schema (NodeId)

namespace BindingTree

mutual

/-- A layout has the same bindings. -/
theorem ofLayout_flushing (flag : Bool) (layout : Layout) :
    ofLayout (layout.flushing flag) = ofLayout layout := by
  match layout with
  | ⟨code, body, truncateAt, terminator, flush, segments⟩ =>
      rw [Layout.flushing, ofLayout, ofLayout, ofSteps_flushing flag body,
        ofSteps_flushing flag segments]
termination_by structural layout

theorem ofSteps_flushing (flag : Bool) (steps : List Step) :
    ofSteps (Codec.stepsFlushing flag steps) = ofSteps steps := by
  match steps with
  | [] => rfl
  | ⟨⟨name, nodeName, occurs, binding⟩, leading, level⟩ :: rest =>
      rw [Codec.stepsFlushing, ofSteps, ofSteps, ofProperty_flushing flag binding,
        ofSteps_flushing flag rest]
termination_by structural steps

theorem ofProperty_flushing (flag : Bool) (binding : Codec.Binding) (name nodeName : String)
    (occurs : Schema.Occurs) :
    ofProperty name nodeName occurs (binding.flushing flag) =
      ofProperty name nodeName occurs binding := by
  match binding with
  | .scalar scalar => rfl
  | .bean ⟨typeName, space, inner, kind, layout⟩ =>
      rw [Codec.Binding.flushing, ofProperty, ofProperty, ofLayout_flushing flag layout]
termination_by structural binding

end

theorem ofType_flushing (flag : Bool) (type : CompiledType) :
    ofType (type.flushing flag) = ofType type := by
  rw [ofType, ofType, CompiledType.flushing, ofLayout_flushing]
  rfl

end BindingTree

/-! ## Registries -/

/-- A registry with the flush option set in all its types. -/
def Registry.flushing (flag : Bool) (registry : Registry) : Registry :=
  registry.map fun entry => (entry.1, entry.2.flushing flag)

namespace Registry

variable (flag : Bool) (registry : Registry)

theorem get?_flushing (id : NodeId) :
    (registry.flushing flag).get? id = (registry.get? id).map (CompiledType.flushing flag) := by
  induction registry with
  | nil => rfl
  | cons entry rest ih =>
      rw [get?, flushing] at ih
      rw [get?, get?, flushing, List.map_cons, List.lookup_cons, List.lookup_cons, ih]
      cases id == entry.1 <;> rfl

theorem register_flushing (id : NodeId) (type : CompiledType) :
    (registry.flushing flag).register id (type.flushing flag) =
      (registry.register id type).flushing flag := by
  unfold register
  rw [get?_flushing]
  cases registry.get? id <;> simp [flushing]

theorem types_flushing :
    (registry.flushing flag).types = registry.types.map (CompiledType.flushing flag) := by
  simp [types, flushing]

theorem drop_flushing (count : Nat) :
    (registry.flushing flag).drop count = flushing flag (registry.drop count) :=
  List.map_drop.symm

end Registry

/-! ## Models -/

/-- A target that sets the flush option. -/
def Target.flushing (flag : Bool) (target : Target) : Target :=
  { target with options := { target.options with flushSegments := flag } }

/-- A compiled model with the flush option set. -/
def CompiledModel.flushing (flag : Bool) (model : CompiledModel) : CompiledModel :=
  { model with
    root := model.root.flushing flag
    types := model.types.map (CompiledType.flushing flag)
    options := { model.options with flushSegments := flag } }

end Compiler

namespace Artifact

open Compiler (CompiledModel)

/-- The flush option shows in no document. -/
theorem modelDocuments_flushing (flag : Bool) (model : CompiledModel) :
    modelDocuments (model.flushing flag) = modelDocuments model := by
  have types : typesDocument (model.flushing flag) = typesDocument model := by
    simp [typesDocument, CompiledModel.flushing, Function.comp_def,
      Codec.CompiledType.descriptor_flushing]
  have binding : bindingDocument (model.flushing flag) = bindingDocument model := by
    simp [bindingDocument, CompiledModel.flushing, CompiledModel.bindings,
      Compiler.BindingTree.ofType_flushing, Codec.CompiledType.qualifiedName_flushing]
  rw [modelDocuments, types, binding]
  rfl

end Artifact

end FlatMessage
