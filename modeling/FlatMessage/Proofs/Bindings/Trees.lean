import FlatMessage.Compiler.CompiledModel

/-!
# Binding trees of properties

Every property of a compiled type is bound by a tree of its own: a leaf if its values are
scalars, and otherwise the trees of the properties of its bean type under one node.  The
binding tree of a type has the trees of its properties under its root, in order.
-/

namespace FlatMessage.Compiler

open Codec (CompiledType Layout Property Step)

/-- The binding tree of a property. -/
def BindingTree.ofProp (property : Property) : BindingTree :=
  .ofProperty property.name property.nodeName property.occurs property.binding

namespace BindingTree

theorem ofSteps_eq_map (steps : List Step) :
    ofSteps steps = (steps.map Step.property).map ofProp := by
  induction steps with
  | nil => rfl
  | cons step rest ih =>
      obtain ⟨⟨name, nodeName, occurs, binding⟩, leading, level⟩ := step
      rw [ofSteps, ih]
      rfl

theorem ofLayout_eq_map (layout : Layout) :
    ofLayout layout = (layout.steps.map Step.property).map ofProp := by
  obtain ⟨code, body, truncateAt, terminator, flush, segments⟩ := layout
  rw [ofLayout, ofSteps_eq_map, ofSteps_eq_map, ← List.map_append, ← List.map_append]
  rfl

/-- The binding tree of a type has the trees of its properties under its root. -/
theorem ofType_eq (type : CompiledType) :
    ofType type =
      .node ⟨type.nodeName, none, some type.qualifiedName, .once⟩
        (type.properties.map ofProp) := by
  rw [ofType, ofLayout_eq_map]
  rfl

/-- The binding of scalars is a leaf. -/
theorem ofProp_scalar {property : Property} {scalar : Codec.ScalarBinding}
    (bound : property.binding = .scalar scalar) :
    ofProp property = .node ⟨property.nodeName, some property.name, none, property.occurs⟩ [] := by
  rw [ofProp, bound, ofProperty]

/-- The binding of beans has the trees of their properties under it. -/
theorem ofProp_bean {property : Property} {type : CompiledType}
    (bound : property.binding = .bean type) :
    ofProp property =
      .node ⟨property.nodeName, some property.name, some type.qualifiedName, property.occurs⟩
        (type.properties.map ofProp) := by
  obtain ⟨name, space, nodeName, kind, layout⟩ := type
  rw [ofProp, bound, ofProperty, ofLayout_eq_map]
  rfl

end BindingTree

end FlatMessage.Compiler
