import FlatMessage.Proofs.Distinct.Artifacts
import FlatMessage.Proofs.Lists
import FlatMessage.Proofs.Orders.Manifests
import FlatMessage.Proofs.Orders.Productions

/-!
# Who compiles what in a loaded set

A container belongs to the document that builds it.  Imports are loaded before their
importers, so the model of that document is the first message that reaches the container,
in every order in which the set can be loaded; and whatever the shared definitions reach is
compiled with them.  So a set that is loaded in another order is compiled into the same
types.

A compiled model has the name and the version of its model.  The shared definitions of a set
have a name and a version of their own, so they are told apart from every message.
-/

namespace FlatMessage

/-! ## Lists -/

theorem exists_of_mapM_eq_some {α β : Type} {f : α → Option β} {items : List α}
    {results : List β} (all : items.mapM f = some results) {item : α} (member : item ∈ items) :
    ∃ result, f item = some result := by
  rw [mapM_eq_some_iff] at all
  induction all with
  | nil => cases member
  | cons first _ ih =>
      rcases List.mem_cons.mp member with rfl | later
      · exact ⟨_, first⟩
      · exact ih later

/-- Members of a list have their results in the same order. -/
theorem sublist_of_mapM_eq_some {α β : Type} {f : α → Option β} {items some_ : List α}
    {results : List β} (all : items.mapM f = some results) (part : some_.Sublist items)
    {others : List β} (found : some_.mapM f = some others) : others.Sublist results := by
  rw [mapM_eq_some_iff] at all found
  induction part generalizing results others with
  | slnil =>
      cases found
      exact List.nil_sublist _
  | cons item part ih =>
      cases all with
      | cons first rest => exact (ih rest found).cons _
  | cons_cons item part ih =>
      cases all with
      | cons first rest =>
          cases found with
          | cons firstToo restToo =>
              rw [first, Option.some.injEq] at firstToo
              subst firstToo
              exact (ih rest restToo).cons_cons _

namespace Schema

open Files (Place Tree)
open Relation (ReflTransGen TransGen)

/-- What a document reaches comes before the document. -/
theorem InPostOrder.sublist {tree : Tree} {roots done : List Place}
    (order : InPostOrder tree roots done) {place other : Place} (member : place ∈ done)
    (reached : TransGen (Imports tree) place other) : [other, place].Sublist done := by
  obtain ⟨before, after, whole⟩ := List.append_of_mem member
  have inside : ∀ {first last}, first ∈ before → ReflTransGen (Imports tree) first last →
      last ∈ before := by
    intro first last inBefore path
    induction path with
    | refl => exact inBefore
    | tail _ imported ih =>
        obtain ⟨start, rest, split⟩ := List.append_of_mem ih
        rw [split]
        refine List.mem_append_left _ (order.importsFirst start _ (rest ++ place :: after) ?_ _
          imported)
        rw [whole, split]
        simp
  obtain ⟨next, imported, path⟩ := TransGen.head'_iff.mp reached
  have early := inside (order.importsFirst before place after whole next imported) path
  rw [whole]
  exact List.Sublist.append (List.singleton_sublist.mpr early)
    (List.singleton_sublist.mpr List.mem_cons_self)

end Schema

namespace Project

open Compiler.Objects (Call IsOwner exists_isOwner isOwner_of_sublist)
open Files (Place Tree)
open Naming (namespaceSegment)
open Relation (ReflTransGen TransGen)
open Schema (Container Description IsLoaded Model ModelAt ModelSet NodeId)

section

variable {tree : Tree} {settings : Settings} {set other : ModelSet}
  {roots roots' : List Place} {history history' : List (Place × Model)} {calls calls' : List Call}

/-! ## Calls in another order -/

theorem messageCall?_withoutSource (settings : Settings) (hasInterchange : Bool)
    (model : Model) :
    messageCall? settings hasInterchange model.withoutSource =
      messageCall? settings hasInterchange model :=
  rfl

/-- Shared definitions are the same in both orders. -/
theorem definitions?_of_perm (distinct : (set.models.map Model.key).Nodup)
    (perm : (set.models.map Model.withoutSource).Perm (other.models.map Model.withoutSource)) :
    other.definitions?.map Model.withoutSource = set.definitions?.map Model.withoutSource := by
  have plain : ∀ set : ModelSet, set.definitions?.map Model.withoutSource =
      (set.models.map Model.withoutSource).find?
        (fun model => model.key = Description.definitions.key) := by
    intro set
    rw [ModelSet.definitions?, ModelSet.get?, List.find?_map]
    rfl
  have keys : ((set.models.map Model.withoutSource).map Model.key).Nodup := by
    rw [List.map_map]
    exact distinct
  have keysToo := (perm.map Model.key).nodup keys
  rw [plain, plain]
  ext model
  simp only [find?_eq_some_iff_of_nodup keys, find?_eq_some_iff_of_nodup keysToo, perm.mem_iff]

theorem definitionsCalls_of_perm (settings : Settings)
    (distinct : (set.models.map Model.key).Nodup)
    (perm : (set.models.map Model.withoutSource).Perm (other.models.map Model.withoutSource)) :
    definitionsCalls settings other = definitionsCalls settings set := by
  have plain : ∀ set : ModelSet, definitionsCalls settings set =
      ((set.definitions?.map Model.withoutSource).map (definitionsCall settings)).toList := by
    intro set
    rw [definitionsCalls, Option.map_map]
    rfl
  rw [plain, plain, definitions?_of_perm distinct perm]

theorem interchangeOf_of_perm (distinct : (set.models.map Model.key).Nodup)
    (perm : (set.models.map Model.withoutSource).Perm (other.models.map Model.withoutSource))
    (interchange : other.interchange = set.interchange) :
    interchangeOf other = interchangeOf set := by
  have plain : ∀ set : ModelSet, interchangeOf set =
      (set.definitions?.map Model.withoutSource).bind fun _ => set.interchange := by
    intro set
    rw [interchangeOf, Option.bind_map]
    rfl
  rw [plain, plain, definitions?_of_perm distinct perm, interchange]

/-- Messages are compiled by the same calls in another order. -/
theorem messageCalls?_of_perm (everything : settings.filter = none)
    (perm : (set.models.map Model.withoutSource).Perm (other.models.map Model.withoutSource))
    (interchange : interchangeOf other = interchangeOf set)
    (named : messageCalls? settings set = some calls) :
    ∃ calls', messageCalls? settings other = some calls' ∧ calls.Perm calls' := by
  have plain : ∀ set : ModelSet, (selectedMessages settings set).map Model.withoutSource =
      (set.models.map Model.withoutSource).filter (!·.isDefinitions) := by
    intro set
    have all : selectedMessages settings set = set.messages := by
      simp [selectedMessages, Settings.selects, everything]
    rw [all, ModelSet.messages, List.filter_map]
    rfl
  have order := perm.filter (!·.isDefinitions)
  rw [← plain, ← plain] at order
  rw [messageCalls?, mapM_eq_some_iff] at named
  have paired : List.Forall₂
      (fun model call => messageCall? settings (interchangeOf set).isSome model = some call)
      ((selectedMessages settings set).map Model.withoutSource) calls := by
    rw [List.forall₂_map_left_iff]
    exact named
  obtain ⟨calls', matched, permCalls⟩ := List.perm_comp_forall₂ order.symm paired
  refine ⟨calls', ?_, permCalls.symm⟩
  rw [List.forall₂_map_left_iff] at matched
  rw [messageCalls?, mapM_eq_some_iff, interchange]
  exact matched

/-- Every model has its call in the namespace of its segment. -/
theorem spaces_of_messageCalls? (named : messageCalls? settings set = some calls) :
    ∃ segments, segmentsOf settings set = some segments ∧
      (definitionsCalls settings set ++ calls).map (·.target.space) =
        segments.map (inside settings.space) := by
  have shared : (definitionsCalls settings set).map (·.target.space) =
      (if set.definitions?.isSome then [commonSegment] else []).map (inside settings.space) := by
    unfold definitionsCalls
    cases set.definitions? <;> rfl
  suffices messages : ∃ segments,
      ((selectedMessages settings set).mapM fun model =>
        (namespaceSegment model.description.name).toOption) = some segments ∧
      calls.map (·.target.space) = segments.map (inside settings.space) by
    obtain ⟨segments, found, spaces⟩ := messages
    refine ⟨_, by rw [segmentsOf, found]; rfl, ?_⟩
    rw [List.map_append, List.map_append, shared, spaces]
  rw [messageCalls?, mapM_eq_some_iff] at named
  generalize selectedMessages settings set = models at named
  induction named with
  | nil => exact ⟨[], rfl, rfl⟩
  | cons first _ ih =>
      obtain ⟨segments, found, spaces⟩ := ih
      obtain ⟨segment, legal, same⟩ := Option.map_eq_some_iff.mp first
      subst same
      exact ⟨segment :: segments, by rw [List.mapM_cons, legal, found]; rfl, by simp [spaces]⟩

/-- Calls in different namespaces are different, and so are the names of their messages. -/
theorem nodup_of_segments (named : messageCalls? settings set = some calls)
    (apart : ∀ segments, segmentsOf settings set = some segments → segments.Nodup) :
    (definitionsCalls settings set ++ calls).Nodup ∧
      (calls.map (·.model.description.name)).Nodup := by
  obtain ⟨segments, found, spaces⟩ := spaces_of_messageCalls? named
  have distinct : ((definitionsCalls settings set ++ calls).map (·.target.space)).Nodup := by
    rw [spaces]
    exact (apart segments found).map fun _ _ => Naming.inside_inj.mp
  refine ⟨distinct.of_map, ?_⟩
  rw [List.map_append] at distinct
  have own := distinct.of_append_right
  rw [List.nodup_map_iff_inj_on own.of_map]
  intro call member call' member' same
  refine List.inj_on_of_nodup_map own member member' ?_
  -- The namespace of a message is decided by its name.
  obtain ⟨model, -, made⟩ := (mem_iff_of_mapM_eq_some named).mp member
  obtain ⟨model', -, made'⟩ := (mem_iff_of_mapM_eq_some named).mp member'
  obtain ⟨segment, legal, rfl⟩ := Option.map_eq_some_iff.mp made
  obtain ⟨segment', legal', rfl⟩ := Option.map_eq_some_iff.mp made'
  have names : model.description.name = model'.description.name := same
  rw [names, legal', Option.some.injEq] at legal
  subst legal
  rfl

/-- The model of a call is one of the set. -/
theorem exists_model_of_call (named : messageCalls? settings set = some calls) {call : Call}
    (member : call ∈ calls) :
    ∃ model ∈ set.models, model.isDefinitions = false ∧
      messageCall? settings (interchangeOf set).isSome model = some call := by
  obtain ⟨model, selected, made⟩ := (mem_iff_of_mapM_eq_some named).mp member
  have inMessages : model ∈ set.messages := (List.mem_filter.mp selected).1
  rw [ModelSet.messages, List.mem_filter, Bool.not_eq_true'] at inMessages
  exact ⟨model, inMessages.1, inMessages.2, made⟩

theorem model_of_messageCall? {hasInterchange : Bool} {model : Model} {call : Call}
    (made : messageCall? settings hasInterchange model = some call) :
    call.model = model.withoutSource := by
  obtain ⟨segment, -, rfl⟩ := Option.map_eq_some_iff.mp made
  rfl

/-- The calls of a set of documents' models are accepted. -/
theorem accepted_of_modelAt (working : tree.working.IsWalkable)
    (all : ∀ model ∈ set.models, ∃ place, ModelAt tree place model)
    (named : messageCalls? settings set = some calls) :
    ∀ call ∈ definitionsCalls settings set ++ calls,
      call.Accepted (Schema.containerOf set.models) := by
  intro call member
  suffices of_model : ∃ model ∈ set.models, call.model = model.withoutSource by
    obtain ⟨model, inModels, same⟩ := of_model
    obtain ⟨place, has⟩ := all model inModels
    have stored := Schema.storedIn_containerOf working all inModels
    exact ⟨by rw [same]; exact has.valid, by rw [same]; exact stored⟩
  rcases List.mem_append.mp member with shared | message
  · rw [definitionsCalls, Option.mem_toList, Option.map_eq_some_iff] at shared
    obtain ⟨model, found, rfl⟩ := shared
    exact ⟨model, List.mem_of_find?_eq_some found, rfl⟩
  · obtain ⟨model, inModels, -, made⟩ := exists_model_of_call named message
    exact ⟨model, inModels, model_of_messageCall? made⟩

theorem accepted_of_isLoaded (working : tree.working.IsWalkable)
    (loaded : IsLoaded tree roots set history)
    (named : messageCalls? settings set = some calls) :
    ∀ call ∈ definitionsCalls settings set ++ calls,
      call.Accepted (Schema.containerOf set.models) := by
  refine accepted_of_modelAt working ?_ named
  rw [loaded.models]
  intro model member
  obtain ⟨entry, inHistory, rfl⟩ := List.mem_map.mp member
  exact ⟨entry.1, loaded.built entry inHistory⟩

/-! ## Owners -/

/-- The message of the document that builds a container. -/
structure IsBuilder (tree : Tree) (settings : Settings) (hasInterchange : Bool) (id : NodeId)
    (place : Place) (model : Model) (owner : Call) : Prop where
  has : ModelAt tree place model
  builds : id.document = place.path
  call : messageCall? settings hasInterchange model = some owner

/-- A container has one builder. -/
theorem IsBuilder.unique (working : tree.working.IsWalkable) {hasInterchange : Bool}
    {id : NodeId} {place place' : Place} {model model' : Model} {owner owner' : Call}
    (builder : IsBuilder tree settings hasInterchange id place model owner)
    (builder' : IsBuilder tree settings hasInterchange id place' model' owner') :
    owner = owner' := by
  have paths := builder.builds.symm.trans builder'.builds
  obtain rfl := Files.Place.path_inj (builder.has.isFile working).1
    (builder'.has.isFile working).1 paths
  have made := builder.call
  rw [← messageCall?_withoutSource, builder.has.withoutSource_eq builder'.has,
    messageCall?_withoutSource, builder'.call] at made
  exact (Option.some.inj made).symm

/-- What a call reaches is in the model of a loaded message. -/
theorem exists_entry_of_call (loaded : IsLoaded tree roots set history)
    (named : messageCalls? settings set = some calls) {call : Call} (member : call ∈ calls)
    {id : NodeId} (reached : id ∈ call.nodes) :
    ∃ entry ∈ history, entry.2.isDefinitions = false ∧
      messageCall? settings (interchangeOf set).isSome entry.2 = some call ∧
        ∃ inner ∈ entry.2.root.containers, inner.id = id := by
  obtain ⟨model, inModels, message, made⟩ := exists_model_of_call named member
  rw [loaded.models] at inModels
  obtain ⟨entry, inHistory, rfl⟩ := List.mem_map.mp inModels
  rw [Call.nodes, model_of_messageCall? made] at reached
  exact ⟨entry, inHistory, message, made, List.mem_map.mp reached⟩

/-- The document that builds a container is loaded with every document that reaches it. -/
theorem exists_origin_of_isLoaded (working : tree.working.IsWalkable)
    (loaded : IsLoaded tree roots set history) {entry : Place × Model}
    (inHistory : entry ∈ history) {inner : Container}
    (member : inner ∈ entry.2.root.containers) :
    ∃ origin ∈ history, ReflTransGen (Schema.Imports tree) entry.1 origin.1 ∧
      inner ∈ origin.2.root.containers ∧ inner.id.document = origin.1.path := by
  have has := loaded.built entry inHistory
  obtain ⟨place, path, model, hasOrigin, built, document⟩ := has.exists_origin working inner member
  have there := loaded.isComplete.reached (List.mem_map_of_mem inHistory) path
  obtain ⟨origin, inHistoryToo, rfl⟩ := List.mem_map.mp there
  refine ⟨origin, inHistoryToo, path, ?_, document⟩
  rw [(loaded.built origin inHistoryToo).root_eq hasOrigin]
  exact built

/-- The shared definitions of a loaded set are compiled. -/
theorem definitionsCalls_of_isLoaded (loaded : IsLoaded tree roots set history)
    {entry : Place × Model} (inHistory : entry ∈ history)
    (shared : entry.2.isDefinitions = true) :
    definitionsCalls settings set = [definitionsCall settings entry.2] := by
  have inModels : entry.2 ∈ set.models := by
    rw [loaded.models]
    exact List.mem_map_of_mem inHistory
  have key : entry.2.key = Description.definitions.key := by
    have same : entry.2.description = Description.definitions := by
      simpa [Model.isDefinitions, Description.isDefinitions] using shared
    rw [Model.key, same]
  have found : set.definitions? = some entry.2 :=
    (find?_eq_some_iff_of_nodup loaded.keys).mpr ⟨inModels, key⟩
  rw [definitionsCalls, found]
  rfl

/-- A message that another one reaches is compiled before it. -/
theorem sublist_of_isLoaded (everything : settings.filter = none)
    (loaded : IsLoaded tree roots set history)
    (named : messageCalls? settings set = some calls) {entry other : Place × Model}
    (inHistory : entry ∈ history) (inHistoryToo : other ∈ history)
    (reached : TransGen (Schema.Imports tree) entry.1 other.1)
    (message : entry.2.isDefinitions = false) (messageToo : other.2.isDefinitions = false)
    {call owner : Call}
    (made : messageCall? settings (interchangeOf set).isSome entry.2 = some call)
    (madeToo : messageCall? settings (interchangeOf set).isSome other.2 = some owner) :
    [owner, call].Sublist calls := by
  have places := loaded.order.sublist (List.mem_map_of_mem inHistory) reached
  obtain ⟨part, inside, shown⟩ := List.sublist_map_iff.mp places
  -- Documents are loaded once, so the part is made of the two entries.
  have same : part = [other, entry] := by
    have injective := List.inj_on_of_nodup_map loaded.order.distinct
    rcases part with _ | ⟨first, _ | ⟨second, _ | ⟨third, rest⟩⟩⟩ <;> simp at shown
    rw [injective inHistoryToo (inside.subset (by simp)) shown.1,
      injective inHistory (inside.subset (by simp)) shown.2]
  subst same
  have selected : [other.2, entry.2].Sublist (selectedMessages settings set) := by
    have all : selectedMessages settings set = set.models.filter (!·.isDefinitions) := by
      simp [selectedMessages, Settings.selects, everything, ModelSet.messages]
    have models := (inside.map Prod.snd).filter (!·.isDefinitions)
    rw [all, loaded.models]
    simpa [message, messageToo] using models
  refine sublist_of_mapM_eq_some named selected ?_
  rw [List.mapM_cons, madeToo, List.mapM_cons, made]
  rfl

/-- A document in which there is a container that no shared definition reaches is that of a
message. -/
theorem isMessage_of_apart (loaded : IsLoaded tree roots set history) {origin : Place × Model}
    (inHistory : origin ∈ history) {inner : Container}
    (built : inner ∈ origin.2.root.containers)
    (apart : ∀ call ∈ definitionsCalls settings set, inner.id ∉ call.nodes) :
    origin.2.isDefinitions = false := by
  by_contra shared
  rw [Bool.not_eq_false] at shared
  refine apart (definitionsCall settings origin.2) ?_ (List.mem_map_of_mem built)
  rw [definitionsCalls_of_isLoaded loaded inHistory shared]
  exact List.mem_singleton.mpr rfl

/-- Every message that is loaded is compiled. -/
theorem exists_call_of_isLoaded (everything : settings.filter = none)
    (loaded : IsLoaded tree roots set history)
    (named : messageCalls? settings set = some calls) {entry : Place × Model}
    (inHistory : entry ∈ history) (message : entry.2.isDefinitions = false) :
    ∃ call ∈ calls, messageCall? settings (interchangeOf set).isSome entry.2 = some call := by
  have inModels : entry.2 ∈ set.models := by
    rw [loaded.models]
    exact List.mem_map_of_mem inHistory
  have selected : entry.2 ∈ selectedMessages settings set := by
    simp [selectedMessages, Settings.selects, everything, ModelSet.messages, inModels, message]
  obtain ⟨call, made⟩ := exists_of_mapM_eq_some named selected
  exact ⟨call, (mem_iff_of_mapM_eq_some named).mpr ⟨entry.2, selected, made⟩, made⟩

/-- A message that reaches a container is that of its builder or is compiled after it. -/
theorem eq_or_sublist_of_builder (working : tree.working.IsWalkable)
    (everything : settings.filter = none) (loaded : IsLoaded tree roots set history)
    (named : messageCalls? settings set = some calls) {origin : Place × Model}
    (inHistory : origin ∈ history) (message : origin.2.isDefinitions = false) {id : NodeId}
    {owner : Call}
    (builder : IsBuilder tree settings (interchangeOf set).isSome id origin.1 origin.2 owner)
    {other : Call} (member : other ∈ calls) (reached : id ∈ other.nodes) :
    other = owner ∨ [owner, other].Sublist calls := by
  obtain ⟨later, laterLoaded, messageToo, madeToo, inner, inTree, rfl⟩ :=
    exists_entry_of_call loaded named member reached
  obtain ⟨start, startLoaded, path, -, document⟩ :=
    exists_origin_of_isLoaded working loaded laterLoaded inTree
  have starts : start.1 = origin.1 := by
    rw [builder.builds] at document
    exact (Files.Place.path_inj (builder.has.isFile working).1
      ((loaded.built start startLoaded).isFile working).1 document).symm
  rw [starts] at path
  rcases Relation.reflTransGen_iff_eq_or_transGen.mp path with here | path
  · left
    have has := loaded.built later laterLoaded
    rw [← here] at has
    exact IsBuilder.unique working ⟨has, builder.builds, madeToo⟩ builder
  · right
    exact sublist_of_isLoaded everything loaded named laterLoaded inHistory path messageToo
      message madeToo builder.call

/-- A container that only messages reach is owned by its builder. -/
theorem exists_builder_of_isLoaded (working : tree.working.IsWalkable)
    (everything : settings.filter = none) (loaded : IsLoaded tree roots set history)
    (named : messageCalls? settings set = some calls)
    (distinct : (definitionsCalls settings set ++ calls).Nodup) {id : NodeId}
    (apart : ∀ call ∈ definitionsCalls settings set, id ∉ call.nodes) {call : Call}
    (member : call ∈ calls) (reached : id ∈ call.nodes) :
    ∃ place model owner,
      IsBuilder tree settings (interchangeOf set).isSome id place model owner ∧
        IsOwner (definitionsCalls settings set ++ calls) id owner := by
  obtain ⟨entry, inHistory, -, -, inner, inTree, rfl⟩ :=
    exists_entry_of_call loaded named member reached
  obtain ⟨origin, originLoaded, -, built, document⟩ :=
    exists_origin_of_isLoaded working loaded inHistory inTree
  have message := isMessage_of_apart loaded originLoaded built apart
  obtain ⟨owner, inCalls, made⟩ :=
    exists_call_of_isLoaded everything loaded named originLoaded message
  have builder : IsBuilder tree settings (interchangeOf set).isSome inner.id origin.1 origin.2
      owner :=
    ⟨loaded.built origin originLoaded, document, made⟩
  have reaches : inner.id ∈ owner.nodes := by
    rw [Call.nodes, model_of_messageCall? made]
    exact List.mem_map_of_mem built
  refine ⟨origin.1, origin.2, owner, builder, ?_⟩
  refine isOwner_of_sublist distinct (List.mem_append_right _ inCalls) reaches ?_
  intro other inAll reachedToo
  rcases List.mem_append.mp inAll with shared | inCallsToo
  · exact absurd reachedToo (apart other shared)
  · exact (eq_or_sublist_of_builder working everything loaded named originLoaded message builder
      inCallsToo reachedToo).imp_right fun order => order.trans (List.sublist_append_right _ _)

/-- The owner of a container does not depend on the order of loading. -/
theorem owners_of_isLoaded (working : tree.working.IsWalkable)
    (everything : settings.filter = none) (loaded : IsLoaded tree roots set history)
    (loaded' : IsLoaded tree roots' other history')
    (named : messageCalls? settings set = some calls)
    (named' : messageCalls? settings other = some calls')
    (shared : definitionsCalls settings other = definitionsCalls settings set)
    (interchange : interchangeOf other = interchangeOf set) (perm : calls.Perm calls')
    (distinct : (definitionsCalls settings set ++ calls).Nodup) {id : NodeId} {owner : Call}
    (isOwner : IsOwner (definitionsCalls settings set ++ calls) id owner) :
    IsOwner (definitionsCalls settings set ++ calls') id owner := by
  by_cases among : ∃ call ∈ definitionsCalls settings set, id ∈ call.nodes
  · obtain ⟨call, member, reached⟩ := among
    obtain ⟨first, before, after, split, reaches, apart⟩ := exists_isOwner member reached
    have owns : ∀ more, IsOwner (definitionsCalls settings set ++ more) id first :=
      fun more => ⟨before, after ++ more, by simp [split], reaches, apart⟩
    rw [isOwner.unique (owns calls)]
    exact owns calls'
  · have apart : ∀ call ∈ definitionsCalls settings set, id ∉ call.nodes :=
      fun call member reached => among ⟨call, member, reached⟩
    have owned := isOwner
    obtain ⟨before, after, split, reaches, -⟩ := owned
    have member : owner ∈ calls := by
      have inAll : owner ∈ definitionsCalls settings set ++ calls := by simp [split]
      exact (List.mem_append.mp inAll).resolve_left fun inShared => apart owner inShared reaches
    obtain ⟨place, model, first, builder, owns⟩ := exists_builder_of_isLoaded working everything
      loaded named distinct apart member reaches
    have distinct' := (perm.append_left (definitionsCalls settings set)).nodup distinct
    rw [← shared] at distinct' apart
    obtain ⟨place', model', second, builder', owns'⟩ := exists_builder_of_isLoaded working
      everything loaded' named' distinct' apart (perm.mem_iff.mp member) reaches
    rw [interchange] at builder'
    rw [shared] at owns'
    rw [isOwner.unique owns, builder.unique working builder']
    exact owns'

end

end Project

/-! ## What compiled models are described as -/

namespace Schema

/-- Only the definitions model has its key. -/
theorem Description.key_eq_definitions_iff {description : Description} :
    description.key = definitions.key ↔ description = definitions := by
  constructor
  · intro same
    have chars := congrArg String.toList same
    have whole : ∀ description : Description, description.key.toList =
        description.name.toList ++ ':' :: description.version.toList := by
      intro description
      simp [key]
    rw [whole, whole] at chars
    -- The key has one colon, so it stands between the name and the version.
    have counted := congrArg (List.count ':') chars
    have last : ':' ∉ description.version.toList := by
      rw [← List.count_eq_zero]
      simp [definitions] at counted
      omega
    obtain ⟨name, version⟩ := Text.append_mark_inj last (by decide) chars
    obtain ⟨given, number⟩ := description
    obtain rfl := String.toList_inj.mp name
    obtain rfl := String.toList_inj.mp version
    rfl
  · rintro rfl
    rfl

/-- The shared definitions of a set are described as such. -/
theorem ModelSet.description_of_definitions? {set : ModelSet} {model : Model}
    (found : set.definitions? = some model) : model.description = .definitions := by
  have key : model.key = Description.definitions.key := by simpa using List.find?_some found
  exact Description.key_eq_definitions_iff.mp key

end Schema

namespace Project

open Compiler (CompiledModel)
open Compiler.Objects (Call)
open Schema (Description Model ModelSet)

variable {settings : Settings} {set : ModelSet}

/-- Messages are described differently from the shared definitions. -/
theorem description_ne_definitions {model : Model}
    (selected : model ∈ selectedMessages settings set) :
    model.description ≠ Description.definitions := by
  intro described
  have inMessages : model ∈ set.messages := (List.mem_filter.mp selected).1
  have isMessage := (List.mem_filter.mp inMessages).2
  simp [Model.isDefinitions, Description.isDefinitions, described] at isMessage

/-- The calls of messages have their descriptions. -/
theorem descriptions_of_messageCalls? {calls : List Call}
    (named : messageCalls? settings set = some calls) :
    calls.map (·.model.description) =
      (selectedMessages settings set).map Model.description := by
  rw [messageCalls?, mapM_eq_some_iff] at named
  generalize selectedMessages settings set = models at named ⊢
  induction named with
  | nil => rfl
  | cons first _ ih =>
      rw [List.map_cons, List.map_cons, ih, model_of_messageCall? first]
      rfl

/-- What has been compiled is described as the shared definitions and the selected
messages. -/
theorem IsFinished.descriptions {calls : List Call} {progress : Progress}
    {definitions messages : List CompiledModel}
    (finished : IsFinished settings set calls progress definitions messages)
    (named : messageCalls? settings set = some calls) :
    definitions.map CompiledModel.description =
        set.definitions?.toList.map Model.description ∧
      messages.map CompiledModel.description =
        (selectedMessages settings set).map Model.description := by
  obtain ⟨front, back⟩ := finished.results
  have first := descriptions_of_results front
  have second := descriptions_of_results back
  rw [List.map_map] at first second
  rw [descriptions_of_messageCalls? named] at second
  refine ⟨first.trans ?_, second⟩
  rw [definitionsCalls]
  cases set.definitions? <;> rfl

end Project

end FlatMessage
