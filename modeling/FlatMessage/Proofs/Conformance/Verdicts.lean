import FlatMessage.Proofs.Conformance.Beans
import FlatMessage.Proofs.Written

/-!
# Verdicts of emissions

An emission judges when it succeeds exactly when something holds and fails with exactly
the errors of what can be wrong.  Emissions that run one after the other judge one after
the other, and withholding pieces, writing delimiters and padding slots have no verdict of
their own.  A step therefore judges the value of its property alike whether it is streamed
or collected into tokens.
-/

namespace FlatMessage.Conformance

open Codec
open Delimiter (Level)

/-! ## Judging emissions -/

/-- An emission succeeds exactly when `fits` holds, and fails with exactly the errors
that `violates` allows. -/
structure Judges {α : Type} (emission : Emission α) (fits : Prop)
    (violates : WriteError → Prop) : Prop where
  ok_iff : (∃ result, emission.outcome = .ok result) ↔ fits
  error_iff : ∀ error, emission.outcome = .error error ↔ violates error

namespace Judges

variable {α β : Type} {first : Emission α} {fits : Prop} {violates : WriteError → Prop}

theorem done (result : α) : Judges (Emission.done result) True fun _ => False where
  ok_iff := by simp [Emission.done]
  error_iff := by simp [Emission.done]

theorem fail (error : WriteError) :
    Judges (Emission.fail error : Emission α) False (error = ·) where
  ok_iff := by simp [Emission.fail]
  error_iff := by simp [Emission.fail]

/-- What is judged may be said in another way. -/
theorem congr {same : Prop} {likewise : WriteError → Prop} (judges : Judges first fits violates)
    (fitsSame : fits ↔ same) (violatesSame : ∀ error, violates error ↔ likewise error) :
    Judges first same likewise where
  ok_iff := judges.ok_iff.trans fitsSame
  error_iff error := (judges.error_iff error).trans (violatesSame error)

/-- A sequence fails in its first part, or fits there and fails in its second part. -/
theorem bind {further : Prop} {violatesLater : WriteError → Prop} {next : α → Emission β}
    (judges : Judges first fits violates)
    (later : ∀ result, first.outcome = .ok result →
      Judges (next result) further violatesLater) :
    Judges (first >>= next) (fits ∧ further)
      fun error => violates error ∨ fits ∧ violatesLater error := by
  change Judges (first.andThen next) _ _
  obtain ⟨ok_iff, error_iff⟩ := judges
  cases outcome : first.outcome with
  | error error =>
      rw [outcome] at ok_iff error_iff
      have unfit : ¬fits := by simpa using ok_iff
      constructor
      · simp [Emission.andThen, outcome, unfit]
      · simp [Emission.andThen, outcome, unfit, ← error_iff]
  | ok result =>
      rw [outcome] at ok_iff error_iff
      have fit : fits := ok_iff.mp ⟨result, rfl⟩
      have sound : ∀ error, ¬violates error := by simpa using error_iff
      obtain ⟨laterOk, laterError⟩ := later result outcome
      constructor
      · simpa [Emission.andThen, outcome, fit] using laterOk
      · simpa [Emission.andThen, outcome, fit, sound] using laterError

/-- Changing the result does not change the verdict. -/
theorem map (judges : Judges first fits violates) (change : α → β) :
    Judges (change <$> first) fits violates := by
  obtain ⟨pieces, outcome⟩ := first
  obtain ⟨ok_iff, error_iff⟩ := judges
  change Judges (Emission.mapResult change ⟨pieces, outcome⟩) _ _
  constructor
  · rw [← ok_iff]
    cases outcome <;> simp [Emission.mapResult, Except.map]
  · intro error
    rw [← error_iff]
    cases outcome <;> simp [Emission.mapResult, Except.map]

/-- Withholding the pieces does not change the verdict. -/
theorem withheld (judges : Judges first fits violates) : Judges first.withheld fits violates := by
  obtain ⟨pieces, outcome⟩ := first
  obtain ⟨ok_iff, error_iff⟩ := judges
  constructor
  · rw [← ok_iff]
    cases outcome <;> simp [Emission.withheld, Emission.done, Emission.fail]
  · intro error
    rw [← error_iff]
    cases outcome <;> simp [Emission.withheld, Emission.done, Emission.fail]

/-- A sequence whose first part always succeeds is judged by its second part. -/
theorem after {next : α → Emission β} (certain : ∃ result, first.outcome = .ok result)
    (later : ∀ result, Judges (next result) fits violates) :
    Judges (first >>= next) fits violates := by
  obtain ⟨result, outcome⟩ := certain
  have silent : Judges first True fun _ => False :=
    ⟨by simp [outcome], by simp [outcome]⟩
  exact (silent.bind fun result _ => later result).congr (by simp) (by simp)

/-- A sequence whose second part always succeeds is judged by its first part. -/
theorem before {next : α → Emission β} (judges : Judges first fits violates)
    (certain : ∀ result, ∃ final, (next result).outcome = .ok final) :
    Judges (first >>= next) fits violates := by
  have silent : ∀ result, Judges (next result) True fun _ => False := by
    intro result
    obtain ⟨final, outcome⟩ := certain result
    exact ⟨by simp [outcome], by simp [outcome]⟩
  exact (judges.bind fun result _ => silent result).congr (by simp) (by simp)

end Judges

/-- Writing a delimiter always succeeds. -/
theorem outcome_delimiter? (level : Option Level) :
    (Emission.delimiter? level).outcome = .ok () := by
  cases level <;> rfl

/-- The end of a segment is always written. -/
theorem outcome_writeTerminator (terminator : Option Level) (flush : Bool) :
    (writeTerminator terminator flush).outcome = .ok () := by
  cases terminator <;> cases flush <;> rfl

/-- Collected tokens are always written. -/
theorem outcome_writeTokens (level : Level) (leading : Option Level)
    (tokens : List (Token Piece)) :
    ∃ result, (writeTokens level leading tokens).outcome = .ok result := by
  unfold writeTokens
  split
  · exact ⟨true, by cases leading <;> rfl⟩
  · exact ⟨false, rfl⟩

/-! ## Items in slots -/

section

variable {write : Value → Emission Bool} {fits : Value → Prop}
  {violates : Value → WriteError → Prop}

/-- Padding is written without a verdict. -/
theorem judges_writeSlots_padding (write : Value → Emission Bool) (before level : Option Level)
    (count : Nat) :
    Judges (writeSlots write before level (List.replicate count none)) True
      fun _ => False := by
  induction count generalizing before with
  | zero => exact .done false
  | succ count ih =>
      rw [List.replicate_succ, writeSlots]
      apply Judges.after ⟨(), outcome_delimiter? before⟩
      intro _
      apply Judges.after ⟨false, rfl⟩
      intro _
      exact (ih level).map _

theorem judges_writeSlots (judges : ∀ value, Judges (write value) (fits value) (violates value))
    (before level : Option Level) (items : List Value) (padding : Nat) :
    Judges (writeSlots write before level (items.map some ++ List.replicate padding none))
      (∀ item ∈ items, fits item) (First fits violates items) := by
  induction items generalizing before with
  | nil =>
      apply (judges_writeSlots_padding write before level padding).congr
      · simp
      · simp [not_first_nil]
  | cons item rest ih =>
      rw [List.map_cons, List.cons_append, writeSlots]
      apply Judges.after ⟨(), outcome_delimiter? before⟩
      intro _
      apply ((judges item).bind fun _ _ => (ih level).map _).congr
      · rw [List.forall_mem_cons]
      · intro error
        rw [first_cons_iff]

theorem judges_writeItems (judges : ∀ value, Judges (write value) (fits value) (violates value))
    (items : List Value) :
    Judges (writeItems write items) (∀ item ∈ items, fits item)
      (First fits violates items) := by
  induction items with
  | nil => exact (Judges.done false).congr (by simp) (by simp [not_first_nil])
  | cons item rest ih =>
      rw [writeItems]
      apply ((judges item).bind fun _ _ => ih.map _).congr
      · rw [List.forall_mem_cons]
      · intro error
        rw [first_cons_iff]

theorem judges_renderSlots_padding (write : Value → Emission Bool) (count : Nat) :
    Judges (renderSlots write (List.replicate count none)) True fun _ => False := by
  induction count with
  | zero => exact .done []
  | succ count ih =>
      rw [List.replicate_succ, renderSlots]
      exact ih.map _

theorem judges_renderSlots (judges : ∀ value, Judges (write value) (fits value) (violates value))
    (items : List Value) (padding : Nat) :
    Judges (renderSlots write (items.map some ++ List.replicate padding none))
      (∀ item ∈ items, fits item) (First fits violates items) := by
  induction items with
  | nil =>
      apply (judges_renderSlots_padding write padding).congr
      · simp
      · simp [not_first_nil]
  | cons item rest ih =>
      rw [List.map_cons, List.cons_append, renderSlots]
      apply ((judges item).withheld.bind fun _ _ => ih.map _).congr
      · rw [List.forall_mem_cons]
      · intro error
        rw [first_cons_iff]

end

/-! ## One property -/

section

variable {β : Type} {property : Property}

/-- A single value of a repeating property is its only item. -/
theorem items_of_ne_list (repeating : property.occurs.isRepeating = true) {value : Value}
    (alone : ∀ items, value ≠ .list items) : property.items (some value) = .ok [value] := by
  rw [Reading.items_eq_itemsOf repeating]
  cases value with
  | list items => exact absurd rfl (alone items)
  | scalar content => rfl
  | bean properties => rfl

theorem items_of_isFew {items : List Value} (few : IsFew property items) :
    property.items (some (.list items)) = .ok items := by
  unfold Property.items
  cases bound : property.occurs.max with
  | none => rfl
  | some max => exact if_neg (Nat.not_lt.mpr (few max bound))

theorem exists_of_not_isFew {items : List Value} (many : ¬IsFew property items) :
    ∃ max, property.occurs.max = some max ∧ max < items.length ∧
      property.items (some (.list items)) =
        .error (.tooMany property.name max items.length) := by
  unfold IsFew at many
  push Not at many
  obtain ⟨max, bound, many⟩ := many
  refine ⟨max, bound, many, ?_⟩
  simp only [Property.items, bound, if_pos many]

/-- The items of a repeating property are counted before they are consumed. -/
theorem judges_items (repeating : property.occurs.isRepeating = true)
    {consume : List Value → Emission β}
    (judges : ∀ items,
      Judges (consume items) (∀ item ∈ items, Accepts property.binding item)
        (First (Accepts property.binding) (ItemViolation property.name property.binding) items))
    (value : Option Value) :
    Judges (Emission.ofExcept (property.items value) >>= consume) (Fits property value)
      (PropertyViolation property value) := by
  cases value with
  | none =>
      have counted : property.items none = .ok [] := by
        rw [Reading.items_eq_itemsOf repeating]
        rfl
      rw [counted, Emission.ofExcept_ok_bind]
      apply (judges []).congr
      · simp [Fits.absent]
      · simp [not_first_nil, not_propertyViolation_none]
  | some value =>
      by_cases listed : ∃ items, value = .list items
      · obtain ⟨items, rfl⟩ := listed
        by_cases few : IsFew property items
        · rw [items_of_isFew few, Emission.ofExcept_ok_bind]
          apply (judges items).congr
          · rw [fits_items_iff repeating, and_iff_right few]
          · intro error
            rw [propertyViolation_items_iff repeating few]
        · obtain ⟨max, bound, many, refused⟩ := exists_of_not_isFew few
          rw [refused]
          apply (Judges.fail _).congr
          · simp [fits_items_iff repeating, few]
          · intro error
            rw [propertyViolation_tooMany_iff repeating bound many]
      · rw [not_exists] at listed
        rw [items_of_ne_list repeating listed, Emission.ofExcept_ok_bind]
        apply (judges [value]).congr
        · rw [List.forall_mem_singleton, fits_single_iff listed]
        · intro error
          rw [first_cons_iff, propertyViolation_single_iff listed]
          simp [not_first_nil]

/-- The value of a property that does not repeat is no list. -/
theorem judges_single (once : property.occurs.isRepeating = false)
    {consume : Value → Emission β}
    (judges : ∀ value,
      Judges (consume value) (Accepts property.binding value)
        (ItemViolation property.name property.binding value))
    (value : Value) :
    Judges (Emission.ofExcept (property.single value) >>= consume) (Fits property (some value))
      (PropertyViolation property (some value)) := by
  by_cases listed : ∃ items, value = .list items
  · obtain ⟨items, rfl⟩ := listed
    apply (Judges.fail (.property property.name .singleOccurrence .list)).congr
    · simp [not_fits_list once]
    · intro error
      rw [propertyViolation_list_iff once]
  · rw [not_exists] at listed
    have same : property.single value = .ok value := by
      cases value with
      | list items => exact absurd rfl (listed items)
      | scalar content => rfl
      | bean properties => rfl
    rw [same, Emission.ofExcept_ok_bind]
    apply (judges value).congr
    · rw [fits_single_iff listed]
    · intro error
      rw [propertyViolation_single_iff listed]

variable {write : Value → Emission Bool}
  (judges : ∀ value,
    Judges (write value) (Accepts property.binding value)
      (ItemViolation property.name property.binding value))

include judges

variable (property)

/-- Streaming a step judges the value of its property. -/
theorem judges_writeStep (leading level : Option Level) (bean : Bean) :
    Judges (writeStep write property leading level bean)
      (Fits property (bean.get? property.name))
      (PropertyViolation property (bean.get? property.name)) := by
  unfold writeStep
  cases repeating : property.occurs.isRepeating with
  | true =>
      simp only [if_true]
      apply judges_items repeating
      intro items
      cases level with
      | none => exact judges_writeItems judges items
      | some level => exact judges_writeSlots judges leading (some level) items _
  | false =>
      simp only [Bool.false_eq_true, if_false]
      apply Judges.after ⟨(), outcome_delimiter? leading⟩
      intro _
      cases bean.get? property.name with
      | none =>
          apply (Judges.done false).congr
          · simp [Fits.absent]
          · simp [not_propertyViolation_none]
      | some value => exact judges_single repeating judges value

/-- Collecting a step into tokens judges the value of its property. -/
theorem judges_renderStep (bean : Bean) :
    Judges (renderStep write property bean) (Fits property (bean.get? property.name))
      (PropertyViolation property (bean.get? property.name)) := by
  unfold renderStep
  cases repeating : property.occurs.isRepeating with
  | true =>
      simp only [if_true]
      apply judges_items repeating
      intro items
      exact judges_renderSlots judges items _
  | false =>
      simp only [Bool.false_eq_true, if_false]
      cases bean.get? property.name with
      | none =>
          apply (Judges.done _).congr
          · simp [Fits.absent]
          · simp [not_propertyViolation_none]
      | some value =>
          apply judges_single repeating
          intro value
          apply (judges_renderSlots judges [value] 0).congr
          · rw [List.forall_mem_singleton]
          · intro error
            rw [first_cons_iff]
            simp [not_first_nil]

end

end FlatMessage.Conformance
