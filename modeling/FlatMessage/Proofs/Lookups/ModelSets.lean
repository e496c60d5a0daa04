import FlatMessage.Proofs.Orders.Ownership

/-!
# Sets after insertions

Models are offered to a set one after another, and one whose key is taken is refused.
The set holds what it accepted, in that order and under different keys, so a key finds
the one model that has it.  No other name and version are joined to the key of the shared
definitions, so these are found by their key, and the messages are all the other models.

A set can also be kept with an index, a table from every key to the position of its model.
The index stays in step with the models: it accepts, refuses and finds the same.
-/

namespace FlatMessage.Schema

/-- Offer models to a set one after another.  The answers tell which of them were
accepted; a refused model leaves the set as it was. -/
def offer {σ : Type} (insert? : σ → Model → Option σ) : σ → List Model → σ × List Bool
  | set, [] => (set, [])
  | set, model :: rest =>
      match insert? set model with
      | some later => ((offer insert? later rest).1, true :: (offer insert? later rest).2)
      | none => ((offer insert? set rest).1, false :: (offer insert? set rest).2)

/-- The models that were accepted, in the order in which they were offered. -/
def accepted (models : List Model) (answers : List Bool) : List Model :=
  ((models.zip answers).filter Prod.snd).map Prod.fst

/-! ## Offers -/

section

variable {σ : Type} {insert? : σ → Model → Option σ}

/-- Every offer is answered. -/
@[simp]
theorem length_offer (set : σ) (models : List Model) :
    (offer insert? set models).2.length = models.length := by
  induction models generalizing set with
  | nil => rfl
  | cons model rest ih =>
      rw [offer]
      split <;> simp [ih]

/-- Later offers meet the set that earlier ones have left. -/
theorem offer_append (set : σ) (before after : List Model) :
    offer insert? set (before ++ after) =
      ((offer insert? (offer insert? set before).1 after).1,
        (offer insert? set before).2 ++ (offer insert? (offer insert? set before).1 after).2) := by
  induction before generalizing set with
  | nil => rfl
  | cons model rest ih =>
      rw [List.cons_append, offer, offer]
      split <;> simp [ih]

/-- What every insertion keeps holds after all offers. -/
theorem holds_offer {Holds : σ → Prop}
    (keeps : ∀ {set later : σ} {model : Model}, insert? set model = some later →
      Holds set → Holds later)
    {set : σ} (holds : Holds set) (models : List Model) : Holds (offer insert? set models).1 := by
  induction models generalizing set with
  | nil => exact holds
  | cons model rest ih =>
      rw [offer]
      split
      · next later inserted => exact ih (keeps inserted holds)
      · exact ih holds

/-- The answer to one offer tells whether the set that it meets takes the model. -/
theorem getElem?_offer (set : σ) (before : List Model) (model : Model) (after : List Model) :
    (offer insert? set (before ++ model :: after)).2[before.length]? =
      some (insert? (offer insert? set before).1 model).isSome := by
  rw [offer_append, List.getElem?_append_right (by simp), length_offer, Nat.sub_self, offer]
  split <;> simp [*]

end

namespace ModelSet

/-! ## One insertion -/

variable {set later : ModelSet} {model : Model}

/-- A model is refused when its key is taken. -/
theorem insert?_eq_none_iff :
    set.insert? model = none ↔ ∃ other ∈ set.models, other.key = model.key := by
  unfold insert?
  cases found : set.get? model.key with
  | none =>
      rw [get?, List.find?_eq_none] at found
      simpa using found
  | some other =>
      have key : other.key = model.key := by simpa using List.find?_some found
      simpa using ⟨other, List.mem_of_find?_eq_some found, key⟩

/-- An accepted model comes after the others. -/
theorem models_of_insert? (inserted : set.insert? model = some later) :
    later.models = set.models ++ [model] := by
  unfold insert? at inserted
  split at inserted
  · cases inserted
  · cases inserted
    rfl

/-! ## The set that offers leave -/

/-- A set holds what it accepted, after what it held before. -/
theorem models_offer (set : ModelSet) (models : List Model) :
    (offer insert? set models).1.models =
      set.models ++ accepted models (offer insert? set models).2 := by
  induction models generalizing set with
  | nil => simp [offer, accepted]
  | cons model rest ih =>
      rw [offer]
      split
      · next later inserted =>
          simp [ih, models_of_insert? inserted, accepted]
      · simp [ih, accepted]

/-- Offers keep the keys of a set different. -/
theorem nodup_offer (distinct : (set.models.map Model.key).Nodup) (models : List Model) :
    ((offer insert? set models).1.models.map Model.key).Nodup :=
  @holds_offer ModelSet _ (fun set => (set.models.map Model.key).Nodup) nodup_insert? set
    distinct models

/-! ## Lookups -/

/-- A key finds the model that has it. -/
theorem get?_eq_some_iff (distinct : (set.models.map Model.key).Nodup) {key : String} :
    set.get? key = some model ↔ model ∈ set.models ∧ model.key = key :=
  find?_eq_some_iff_of_nodup distinct

/-- The model found under the key of the shared definitions is the one that holds them. -/
theorem definitions?_eq_some_iff (distinct : (set.models.map Model.key).Nodup) :
    set.definitions? = some model ↔ model ∈ set.models ∧ model.isDefinitions = true := by
  rw [definitions?, get?_eq_some_iff distinct, Model.key, Description.key_eq_definitions_iff,
    Model.isDefinitions, Description.isDefinitions, decide_eq_true_iff]

/-- Without shared definitions all models are messages. -/
theorem messages_of_definitions?_eq_none (distinct : (set.models.map Model.key).Nodup)
    (absent : set.definitions? = none) : set.messages = set.models := by
  rw [messages, List.filter_eq_self]
  intro model member
  rw [Bool.not_eq_true', Bool.eq_false_iff]
  intro shared
  have found := (definitions?_eq_some_iff distinct).mpr ⟨member, shared⟩
  rw [absent] at found
  cases found

/-- What stands before and after the shared definitions are messages. -/
theorem exists_of_definitions? (distinct : (set.models.map Model.key).Nodup)
    (found : set.definitions? = some model) :
    ∃ before after, set.models = before ++ model :: after ∧ set.messages = before ++ after := by
  have shared := ((definitions?_eq_some_iff distinct).mp found).2
  obtain ⟨before, after, whole⟩ := List.append_of_mem (List.mem_of_find?_eq_some found)
  refine ⟨before, after, whole, ?_⟩
  have others : ∀ other ∈ before ++ after, (!other.isDefinitions) = true := by
    intro other member
    rw [Bool.not_eq_true', Bool.eq_false_iff]
    intro second
    have inModels : other ∈ set.models := by
      rw [whole, List.perm_middle.mem_iff]
      exact List.mem_cons_of_mem _ member
    have same := (definitions?_eq_some_iff distinct).mpr ⟨inModels, second⟩
    rw [found, Option.some.injEq] at same
    subst same
    rw [whole, (List.perm_middle.map Model.key).nodup_iff, List.map_cons, List.nodup_cons]
      at distinct
    exact distinct.1 (List.mem_map_of_mem member)
  rw [messages, whole, List.filter_append, List.filter_cons_of_neg (by simp [shared]),
    ← List.filter_append, List.filter_eq_self.mpr others]

/-- Only the model found as shared definitions holds them. -/
theorem filter_isDefinitions (distinct : (set.models.map Model.key).Nodup) :
    set.models.filter Model.isDefinitions = set.definitions?.toList := by
  cases found : set.definitions? with
  | none =>
      rw [Option.toList_none, List.filter_eq_nil_iff]
      intro model member shared
      rw [(definitions?_eq_some_iff distinct).mpr ⟨member, shared⟩] at found
      cases found
  | some model =>
      have shared := ((definitions?_eq_some_iff distinct).mp found).2
      obtain ⟨before, after, whole, messages⟩ := exists_of_definitions? distinct found
      have others : ∀ other ∈ before ++ after, ¬ other.isDefinitions = true := by
        intro other member
        rw [← messages] at member
        simpa using (List.mem_filter.mp member).2
      rw [whole, List.filter_append, List.filter_cons_of_pos shared, Option.toList_some,
        List.filter_eq_nil_iff.mpr fun other member => others other (List.mem_append_left _ member),
        List.filter_eq_nil_iff.mpr fun other member => others other (List.mem_append_right _ member)]
      rfl

/-- A set holds the given models, and nothing else: in their order, under different keys,
each found by its key, and cut into the shared definitions and the messages. -/
structure Holds (set : ModelSet) (members : List Model) : Prop where
  models : set.models = members
  distinct : (members.map Model.key).Nodup
  found : ∀ key model, set.get? key = some model ↔ model ∈ members ∧ model.key = key
  shared : members.filter Model.isDefinitions = set.definitions?.toList
  messages : set.definitions? = none ∧ set.messages = members ∨
    ∃ model before after, set.definitions? = some model ∧
      members = before ++ model :: after ∧ set.messages = before ++ after

/-- A set holds its models if their keys are different. -/
theorem holds_models (distinct : (set.models.map Model.key).Nodup) : set.Holds set.models where
  models := rfl
  distinct := distinct
  found _ _ := get?_eq_some_iff distinct
  shared := filter_isDefinitions distinct
  messages := by
    cases found : set.definitions? with
    | none => exact .inl ⟨rfl, messages_of_definitions?_eq_none distinct found⟩
    | some model =>
        obtain ⟨before, after, whole, messages⟩ := exists_of_definitions? distinct found
        exact .inr ⟨model, before, after, rfl, whole, messages⟩

end ModelSet

/-! ## Sets with an index -/

/-- Models in order, with the position of the model of every key. -/
structure IndexedSet where
  models : List Model
  positions : List (String × Nat)

namespace IndexedSet

/-- The indexed set without models. -/
def empty : IndexedSet :=
  ⟨[], []⟩

/-- The model at the position of a key. -/
def get? (set : IndexedSet) (key : String) : Option Model :=
  (Keyed.get? key set.positions).bind fun position => set.models[position]?

/-- Add a model after the others, with its position; `none` when its key has one. -/
def insert? (set : IndexedSet) (model : Model) : Option IndexedSet :=
  match Keyed.get? model.key set.positions with
  | some _ => none
  | none =>
      some
        { models := set.models ++ [model]
          positions := Keyed.insert model.key set.models.length set.positions }

/-- An indexed set has the models of a set, and its index has the positions of their keys. -/
structure IsOf (indexed : IndexedSet) (set : ModelSet) : Prop where
  models : indexed.models = set.models
  positions : ∀ key position, Keyed.get? key indexed.positions = some position ↔
    (set.models.map Model.key)[position]? = some key

variable {indexed : IndexedSet} {set : ModelSet}

/-- A key has a position when a model has the key. -/
theorem IsOf.get?_eq_none_iff (indexes : indexed.IsOf set) {key : String} :
    Keyed.get? key indexed.positions = none ↔ key ∉ set.models.map Model.key := by
  rw [← not_iff_not, ← ne_eq, Option.ne_none_iff_exists', not_not, List.mem_iff_getElem?]
  simp only [indexes.positions]

/-- The index finds what a search finds. -/
theorem IsOf.get?_eq (indexes : indexed.IsOf set) (distinct : (set.models.map Model.key).Nodup)
    (key : String) : indexed.get? key = set.get? key := by
  ext model
  rw [ModelSet.get?_eq_some_iff distinct, get?, Option.bind_eq_some_iff, indexes.models,
    List.mem_iff_getElem?]
  simp only [indexes.positions, List.getElem?_map, Option.map_eq_some_iff]
  constructor
  · rintro ⟨position, ⟨other, there, key⟩, found⟩
    rw [found, Option.some.injEq] at there
    exact ⟨⟨position, found⟩, there ▸ key⟩
  · rintro ⟨⟨position, found⟩, key⟩
    exact ⟨position, ⟨model, found, key⟩, found⟩

/-- Both sets refuse a model, or both accept it and stay in step. -/
theorem IsOf.insert? (indexes : indexed.IsOf set) (model : Model) :
    Option.Rel IsOf (indexed.insert? model) (set.insert? model) := by
  unfold IndexedSet.insert?
  cases taken : Keyed.get? model.key indexed.positions with
  | some position =>
      have known : model.key ∈ set.models.map Model.key :=
        List.mem_iff_getElem?.mpr ⟨position, (indexes.positions _ _).mp taken⟩
      rw [ModelSet.insert?_eq_none_iff.mpr (List.mem_map.mp known)]
      exact .none
  | none =>
      have fresh := indexes.get?_eq_none_iff.mp taken
      cases inserted : set.insert? model with
      | none => exact absurd (List.mem_map.mpr (ModelSet.insert?_eq_none_iff.mp inserted)) fresh
      | some later =>
          refine .some ⟨?_, ?_⟩
          · rw [ModelSet.models_of_insert? inserted, indexes.models]
          · intro key position
            rw [ModelSet.models_of_insert? inserted, List.map_append, List.map_singleton,
              getElem?_concat_eq_some_iff, ← indexes.positions, List.length_map]
            by_cases same : key = model.key
            · subst same
              rw [Keyed.get?_insert_self, taken, indexes.models]
              simp [eq_comm]
            · rw [Keyed.get?_insert_of_ne same]
              simp [Ne.symm same]

/-- Offers are answered alike, and both sets stay in step. -/
theorem IsOf.offer (indexes : indexed.IsOf set) (models : List Model) :
    (Schema.offer IndexedSet.insert? indexed models).2 =
        (Schema.offer ModelSet.insert? set models).2 ∧
      (Schema.offer IndexedSet.insert? indexed models).1.IsOf
        (Schema.offer ModelSet.insert? set models).1 := by
  induction models generalizing indexed set with
  | nil => exact ⟨rfl, indexes⟩
  | cons model rest ih =>
      have inStep := indexes.insert? model
      rw [Schema.offer, Schema.offer]
      cases first : indexed.insert? model with
      | none =>
          cases second : set.insert? model with
          | none => exact ⟨congrArg _ (ih indexes).1, (ih indexes).2⟩
          | some later => simp [first, second] at inStep
      | some laterIndexed =>
          cases second : set.insert? model with
          | none => simp [first, second] at inStep
          | some later =>
              rw [first, second, Option.rel_some_some] at inStep
              exact ⟨congrArg _ (ih inStep).1, (ih inStep).2⟩

/-- The position of every key in the index is that of a model with the key. -/
theorem IsOf.exists_model (indexes : indexed.IsOf set) {key : String} {position : Nat}
    (there : Keyed.get? key indexed.positions = some position) :
    ∃ model, indexed.models[position]? = some model ∧ model.key = key := by
  have model := (indexes.positions key position).mp there
  rw [List.getElem?_map, Option.map_eq_some_iff, ← indexes.models] at model
  exact model

end IndexedSet

/-! ## Histories -/

/-- What any models leave in a set that was empty.  It holds what it accepted.  Each model
was refused exactly when one accepted before it has its key, and then nothing changed.  The
set with an index has given the same answers, holds the same models and finds the same, and
every position in its index is that of the model with the key. -/
theorem holds_accepted (interchange : Option InterchangeProperties) (models : List Model) :
    let offered := offer ModelSet.insert? ⟨[], interchange⟩
    let indexed := offer IndexedSet.insert? .empty models
    (offered models).1.Holds (accepted models (offered models).2) ∧
    (∀ before model after, models = before ++ model :: after →
      ((offered models).2[before.length]? = some false ↔
        ∃ other ∈ accepted before (offered before).2, other.key = model.key) ∧
      ((offered models).2[before.length]? = some false →
        (offered (before ++ [model])).1 = (offered before).1)) ∧
    indexed.2 = (offered models).2 ∧
    indexed.1.models = accepted models (offered models).2 ∧
    (∀ key, indexed.1.get? key = (offered models).1.get? key) ∧
    ∀ key position, Keyed.get? key indexed.1.positions = some position →
      ∃ model, indexed.1.models[position]? = some model ∧ model.key = key := by
  intro offered indexed
  have kept : ∀ models, (offered models).1.models = accepted models (offered models).2 := by
    intro models
    rw [ModelSet.models_offer, List.nil_append]
  have distinct : ((offered models).1.models.map Model.key).Nodup :=
    @ModelSet.nodup_offer ⟨[], interchange⟩ List.nodup_nil models
  have empty : IndexedSet.IsOf .empty ⟨[], interchange⟩ := ⟨rfl, by simp [IndexedSet.empty]⟩
  have inStep := empty.offer models
  refine ⟨kept models ▸ ModelSet.holds_models distinct, ?_, inStep.1,
    inStep.2.models.trans (kept models), inStep.2.get?_eq distinct,
    fun _ _ => inStep.2.exists_model⟩
  rintro before model after rfl
  have answer : (offered (before ++ model :: after)).2[before.length]? = some false ↔
      (offered before).1.insert? model = none := by
    rw [getElem?_offer, Option.some.injEq, Option.isSome_eq_false_iff, Option.isNone_iff_eq_none]
  rw [answer, ModelSet.insert?_eq_none_iff, kept before]
  refine ⟨Iff.rfl, fun refused => ?_⟩
  rw [← kept before, ← ModelSet.insert?_eq_none_iff] at refused
  simp only [offered, offer_append, offer]
  rw [refused]

end FlatMessage.Schema
