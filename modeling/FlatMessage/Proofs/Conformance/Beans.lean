import FlatMessage.Codec.Writing

/-!
# Beans that conform to a type

Whether a bean conforms to a compiled type is said without writing it.  A property that
does not repeat is absent or has one value; a repeating one is absent, or has a single
value or a list of at most as many items as its maximum.  A scalar value is one that the
encoder has a text for, and the value of a bean property is a bean that conforms to its
type.  Minimum occurrences and properties that the type does not name have no part in it.

What is wrong with a bean that does not conform is found in the order of the properties,
depth first: the properties and the items before it are as they should be, and a list is
counted before any of its items is looked at.
-/

namespace FlatMessage.Conformance

open Codec
open Encoder (DataType)

/-- A list of values of a property is not longer than its maximum. -/
def IsFew (property : Property) (items : List Value) : Prop :=
  ∀ max, property.occurs.max = some max → items.length ≤ max

mutual

/-- A bean conforms to a type when the values of the properties of the type fit. -/
inductive Conforms : CompiledType → Bean → Prop
  | intro {type : CompiledType} {bean : Bean}
      (fits : ∀ property ∈ type.properties, Fits property (bean.get? property.name)) :
      Conforms type bean

/-- The value of a property, if there is one, fits the property. -/
inductive Fits : Property → Option Value → Prop
  | absent {property : Property} : Fits property none
  | single {property : Property} {value : Value} (alone : ∀ items, value ≠ .list items)
      (accepted : Accepts property.binding value) : Fits property (some value)
  | list {property : Property} {items : List Value}
      (repeating : property.occurs.isRepeating = true)
      (few : IsFew property items)
      (accepted : ∀ item ∈ items, Accepts property.binding item) :
      Fits property (some (.list items))

/-- A binding accepts a value as one occurrence of its property. -/
inductive Accepts : Binding → Value → Prop
  | scalar {binding : ScalarBinding} {content : Scalar} {rendered : Rendered}
      (renders : Encoder.render binding.encoder content = .ok rendered) :
      Accepts (.scalar binding) (.scalar content)
  | bean {type : CompiledType} {bean : Bean} (conforms : Conforms type bean) :
      Accepts (.bean type) (.bean bean)

end

mutual

/-- The error of a bean is the one of the first property whose value does not fit. -/
inductive BeanViolation : CompiledType → Bean → WriteError → Prop
  | property {type : CompiledType} {bean : Bean} {error : WriteError}
      {before after : List Property} {property : Property}
      (order : type.properties = before ++ property :: after)
      (earlier : ∀ other ∈ before, Fits other (bean.get? other.name))
      (violation : PropertyViolation property (bean.get? property.name) error) :
      BeanViolation type bean error

/-- What is first wrong with the value of a property. -/
inductive PropertyViolation : Property → Option Value → WriteError → Prop
  | notSingle {property : Property} {items : List Value}
      (once : property.occurs.isRepeating = false) :
      PropertyViolation property (some (.list items))
        (.property property.name .singleOccurrence .list)
  | tooMany {property : Property} {items : List Value} {max : Nat}
      (repeating : property.occurs.isRepeating = true)
      (bound : property.occurs.max = some max) (many : max < items.length) :
      PropertyViolation property (some (.list items))
        (.tooMany property.name max items.length)
  | single {property : Property} {value : Value} {error : WriteError}
      (alone : ∀ items, value ≠ .list items)
      (violation : ItemViolation property.name property.binding value error) :
      PropertyViolation property (some value) error
  | item {property : Property} {before after : List Value} {item : Value}
      {error : WriteError} (repeating : property.occurs.isRepeating = true)
      (few : IsFew property (before ++ item :: after))
      (earlier : ∀ other ∈ before, Accepts property.binding other)
      (violation : ItemViolation property.name property.binding item error) :
      PropertyViolation property (some (.list (before ++ item :: after))) error

/-- What is first wrong with one occurrence of the property with a name. -/
inductive ItemViolation : String → Binding → Value → WriteError → Prop
  | notScalar {name : String} {binding : ScalarBinding} {value : Value}
      (structured : value.isScalar = false) :
      ItemViolation name (.scalar binding) value (.property name .scalarValue value.kind)
  | mismatch {name : String} {binding : ScalarBinding} {content : Scalar}
      {dataType : DataType} {found : Kind}
      (refused : Encoder.render binding.encoder content = .error (.mismatch dataType found)) :
      ItemViolation name (.scalar binding) (.scalar content) (.value dataType found)
  /-- The encoder accepts the kind of the scalar and has no text for it. -/
  | fault {name : String} {binding : ScalarBinding} {content : Scalar}
      {fault : Encoder.Fault}
      (refused : Encoder.render binding.encoder content = .error (.fault fault)) :
      ItemViolation name (.scalar binding) (.scalar content) (.fault fault)
  | notBean {name : String} {type : CompiledType} {value : Value}
      (flat : value.bean? = none) :
      ItemViolation name (.bean type) value (.property name .bean value.kind)
  | inside {name : String} {type : CompiledType} {bean : Bean} {error : WriteError}
      (violation : BeanViolation type bean error) :
      ItemViolation name (.bean type) (.bean bean) error

end

/-! ## First violations in a list -/

section

variable {α : Type}

/-- The error of the first member of a list that does not fit. -/
def First (fits : α → Prop) (violates : α → WriteError → Prop) (members : List α)
    (error : WriteError) : Prop :=
  ∃ before member after,
    members = before ++ member :: after ∧ (∀ other ∈ before, fits other) ∧
      violates member error

variable {fits : α → Prop} {violates : α → WriteError → Prop}

theorem not_first_nil (error : WriteError) : ¬First fits violates [] error := by
  rintro ⟨before, member, after, order, -⟩
  cases before <;> cases order

/-- The first violation is at the head, or the head fits and it is in the rest. -/
theorem first_cons_iff (member : α) (rest : List α) (error : WriteError) :
    First fits violates (member :: rest) error ↔
      violates member error ∨ fits member ∧ First fits violates rest error := by
  constructor
  · rintro ⟨_ | ⟨head, before⟩, found, after, order, earlier, violation⟩
    · cases order
      exact .inl violation
    · cases order
      rw [List.forall_mem_cons] at earlier
      exact .inr ⟨earlier.1, before, found, after, rfl, earlier.2, violation⟩
  · rintro (violation | ⟨fit, before, found, after, rfl, earlier, violation⟩)
    · exact ⟨[], member, rest, rfl, by simp, violation⟩
    · exact ⟨member :: before, found, after, rfl,
        List.forall_mem_cons.mpr ⟨fit, earlier⟩, violation⟩

/-- The first violation is in the first part, or that part fits and it is in the second. -/
theorem first_append_iff (first second : List α) (error : WriteError) :
    First fits violates (first ++ second) error ↔
      First fits violates first error ∨
        (∀ member ∈ first, fits member) ∧ First fits violates second error := by
  induction first with
  | nil => simp [not_first_nil]
  | cons member rest ih =>
      rw [List.cons_append, first_cons_iff, first_cons_iff, ih, List.forall_mem_cons,
        and_or_left, or_assoc, and_assoc]

theorem first_map_iff {β : Type} (f : β → α) (members : List β) (error : WriteError) :
    First fits violates (members.map f) error ↔
      First (fun member => fits (f member)) (fun member => violates (f member)) members
        error := by
  induction members with
  | nil => simp [not_first_nil]
  | cons member rest ih => rw [List.map_cons, first_cons_iff, first_cons_iff, ih]

end

/-! ## Reading the definitions -/

theorem conforms_iff {type : CompiledType} {bean : Bean} :
    Conforms type bean ↔
      ∀ property ∈ type.properties, Fits property (bean.get? property.name) := by
  constructor
  · rintro ⟨fits⟩
    exact fits
  · exact .intro

theorem beanViolation_iff {type : CompiledType} {bean : Bean} {error : WriteError} :
    BeanViolation type bean error ↔
      First (fun property => Fits property (bean.get? property.name))
        (fun property => PropertyViolation property (bean.get? property.name))
        type.properties error := by
  constructor
  · rintro ⟨order, earlier, violation⟩
    exact ⟨_, _, _, order, earlier, violation⟩
  · rintro ⟨before, property, after, order, earlier, violation⟩
    exact .property order earlier violation

section

variable {property : Property} {value : Value} {items : List Value} {error : WriteError}

theorem not_propertyViolation_none : ¬PropertyViolation property none error := by
  rintro ⟨⟩

theorem fits_single_iff (alone : ∀ items, value ≠ .list items) :
    Fits property (some value) ↔ Accepts property.binding value := by
  constructor
  · intro fits
    cases fits with
    | single alone accepted => exact accepted
    | list repeating few accepted => exact absurd rfl (alone _)
  · exact .single alone

theorem propertyViolation_single_iff (alone : ∀ items, value ≠ .list items) :
    PropertyViolation property (some value) error ↔
      ItemViolation property.name property.binding value error := by
  constructor
  · intro violation
    cases violation with
    | notSingle once => exact absurd rfl (alone _)
    | tooMany repeating bound many => exact absurd rfl (alone _)
    | single alone violation => exact violation
    | item repeating few earlier violation => exact absurd rfl (alone _)
  · exact .single alone

theorem not_fits_list (once : property.occurs.isRepeating = false) :
    ¬Fits property (some (.list items)) := by
  intro fits
  cases fits with
  | single alone accepted => exact alone items rfl
  | list repeating few accepted => simp [once] at repeating

theorem propertyViolation_list_iff (once : property.occurs.isRepeating = false) :
    PropertyViolation property (some (.list items)) error ↔
      WriteError.property property.name .singleOccurrence .list = error := by
  constructor
  · intro violation
    cases violation with
    | notSingle once => rfl
    | tooMany repeating bound many => simp [once] at repeating
    | single alone violation => exact absurd rfl (alone items)
    | item repeating few earlier violation => simp [once] at repeating
  · rintro rfl
    exact .notSingle once

theorem fits_items_iff (repeating : property.occurs.isRepeating = true) :
    Fits property (some (.list items)) ↔
      IsFew property items ∧ ∀ item ∈ items, Accepts property.binding item := by
  constructor
  · intro fits
    cases fits with
    | single alone accepted => exact absurd rfl (alone items)
    | list repeating few accepted => exact ⟨few, accepted⟩
  · rintro ⟨few, accepted⟩
    exact .list repeating few accepted

theorem propertyViolation_tooMany_iff (repeating : property.occurs.isRepeating = true)
    {max : Nat} (bound : property.occurs.max = some max) (many : max < items.length) :
    PropertyViolation property (some (.list items)) error ↔
      WriteError.tooMany property.name max items.length = error := by
  constructor
  · intro violation
    cases violation with
    | notSingle once => simp [repeating] at once
    | tooMany repeating boundThere many =>
        rw [bound, Option.some.injEq] at boundThere
        rw [boundThere]
    | single alone violation => exact absurd rfl (alone items)
    | item repeating few earlier violation =>
        exact absurd (few max bound) (Nat.not_le.mpr many)
  · rintro rfl
    exact .tooMany repeating bound many

theorem propertyViolation_items_iff (repeating : property.occurs.isRepeating = true)
    (few : IsFew property items) :
    PropertyViolation property (some (.list items)) error ↔
      First (Accepts property.binding) (ItemViolation property.name property.binding)
        items error := by
  constructor
  · intro violation
    cases violation with
    | notSingle once => simp [repeating] at once
    | tooMany repeating bound many => exact absurd (few _ bound) (Nat.not_le.mpr many)
    | single alone violation => exact absurd rfl (alone items)
    | item repeating few earlier violation => exact ⟨_, _, _, rfl, earlier, violation⟩
  · rintro ⟨before, item, after, rfl, earlier, violation⟩
    exact .item repeating few earlier violation

end

/-! ## One occurrence -/

section

variable {name : String} {binding : ScalarBinding} {type : CompiledType} {value : Value}
  {content : Scalar} {bean : Bean} {error : WriteError}

theorem accepts_scalar_iff :
    Accepts (.scalar binding) (.scalar content) ↔
      ∃ rendered, Encoder.render binding.encoder content = .ok rendered := by
  constructor
  · rintro ⟨renders⟩
    exact ⟨_, renders⟩
  · rintro ⟨rendered, renders⟩
    exact .scalar renders

/-- The error of a scalar that has no text. -/
def errorOf : Encoder.RenderError → WriteError
  | .mismatch dataType found => .value dataType found
  | .fault fault => .fault fault

theorem itemViolation_scalar_iff :
    ItemViolation name (.scalar binding) (.scalar content) error ↔
      ∃ refusal, Encoder.render binding.encoder content = .error refusal ∧
        errorOf refusal = error := by
  constructor
  · intro violation
    cases violation with
    | notScalar structured => cases structured
    | mismatch refused => exact ⟨_, refused, rfl⟩
    | fault refused => exact ⟨_, refused, rfl⟩
  · rintro ⟨dataType | fault, refused, rfl⟩
    · exact .mismatch refused
    · exact .fault refused

theorem not_accepts_structured (structured : value.isScalar = false) :
    ¬Accepts (.scalar binding) value := by
  intro accepted
  cases accepted
  cases structured

theorem itemViolation_structured_iff (structured : value.isScalar = false) :
    ItemViolation name (.scalar binding) value error ↔
      WriteError.property name .scalarValue value.kind = error := by
  constructor
  · intro violation
    cases violation with
    | notScalar structured => rfl
    | mismatch refused => cases structured
    | fault refused => cases structured
  · rintro rfl
    exact .notScalar structured

theorem accepts_bean_iff : Accepts (.bean type) (.bean bean) ↔ Conforms type bean := by
  constructor
  · rintro ⟨⟩
    assumption
  · exact .bean

theorem itemViolation_bean_iff :
    ItemViolation name (.bean type) (.bean bean) error ↔ BeanViolation type bean error := by
  constructor
  · intro violation
    cases violation with
    | notBean flat => cases flat
    | inside violation => exact violation
  · exact .inside

theorem not_accepts_flat (flat : value.bean? = none) : ¬Accepts (.bean type) value := by
  intro accepted
  cases accepted
  cases flat

theorem itemViolation_flat_iff (flat : value.bean? = none) :
    ItemViolation name (.bean type) value error ↔
      WriteError.property name .bean value.kind = error := by
  constructor
  · intro violation
    cases violation with
    | notBean flat => rfl
    | inside violation => cases flat
  · rintro rfl
    exact .notBean flat

end

end FlatMessage.Conformance
