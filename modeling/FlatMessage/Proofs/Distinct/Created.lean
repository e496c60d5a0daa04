import FlatMessage.Proofs.Distinct.Registering

/-!
# Types that a compilation creates

The types that a compiled model creates are registered after the others.  Their names are
identifiers of which no two are the same, and all of them are in the namespace that is
compiled into.  The properties of each are named by different identifiers as well.

The root of a model claims its name before all others, so it has no suffix unless the root
was compiled with another model.
-/

namespace FlatMessage.Compiler

open Codec (CompiledType Property)
open Naming (IsIdentifier IsLegal Scope isIdentifier_iff_isLegal)
open Schema (Container Model)

/-- The names of registered types are identifiers. -/
def Registry.Named (registry : Registry) : Prop :=
  ∀ entry ∈ registry, IsIdentifier entry.2.name

/-- What a compiled model creates is registered after the rest: types in its namespace,
under identifiers of which no two are the same. -/
theorem created_of_compile {target : Target} {model : Model} {registry : Registry}
    {compiled : CompiledModel} (named : registry.Named)
    (success : (compile target model registry).1 = .ok compiled) :
    (compile target model registry).2.Named ∧
      (∃ added : Registry,
        (compile target model registry).2 = registry ++ added ∧
          compiled.types = added.types) ∧
      (compiled.types.map CompiledType.name).Nodup ∧
      (∀ type ∈ compiled.types, IsIdentifier type.name ∧ type.space = target.space) ∧
      IsIdentifier compiled.root.name ∧ compiled.space = target.space ∧
      compiled.options = target.options := by
  have enough : ∀ type, MadeType target.space (fun type => IsIdentifier type.name) type →
      IsIdentifier type.name := fun _ made => made.legal
  have start : registry.All fun type => IsIdentifier type.name := named
  obtain ⟨added, grown, distinct, made, outcome⟩ :=
    exists_added_of_compile enough start model
  obtain ⟨types, rooted⟩ := outcome compiled success
  obtain ⟨-, space, options⟩ := described_of_compile success
  refine ⟨start.compile enough model, ⟨added, grown, types⟩, ?_, ?_, rooted, space, options⟩
  · rw [types, Registry.types, List.map_map]
    exact distinct
  · rw [types]
    intro type member
    obtain ⟨entry, inAdded, rfl⟩ := List.mem_map.mp member
    exact ⟨(made entry inAdded).legal, (made entry inAdded).placed⟩

/-- A type that is not registered has the name that its container claims first. -/
theorem name_of_compileFresh {target : Target} {container : Container}
    {session later : Session} {type : CompiledType}
    (outcome : (compileFresh target container).run.run session = (.ok type, later)) :
    type.name = Scope.freeName session.names (Naming.pascalCase container.name) "" := by
  obtain ⟨name, named, claiming, outcome⟩ := exists_of_run_bind outcome
  obtain ⟨body, filled, -, outcome⟩ := exists_of_run_bind outcome
  obtain ⟨nested, last, -, outcome⟩ := exists_of_run_bind outcome
  cases outcome
  cases derived : Naming.typeIdentifier container.name with
  | error illegal =>
      rw [claimTypeName, derived] at claiming
      cases claiming
  | ok identifier =>
      obtain ⟨rfl, -⟩ := Naming.check_eq_ok_iff.mp derived
      rw [run_claimTypeName derived] at claiming
      cases claiming
      rfl

/-- A root that is compiled for the first time keeps its name. -/
theorem name_root_of_compile {target : Target} {model : Model} {registry : Registry}
    {compiled : CompiledModel} {root : Container} (tree : model.root = .container root)
    (absent : registry.get? root.id = none)
    (success : (compile target model registry).1 = .ok compiled) :
    compiled.root.name = Naming.pascalCase root.name := by
  have outcome : (compile target model registry).1.map CompiledModel.root =
      ((compileRoot target model.root).run.run ⟨registry, []⟩).1 :=
    (compile_of_checkNamespace (checkNamespace_of_compile success)).2
  rw [success, tree, compileRoot, run_compileContainer, absent] at outcome
  rcases run : (compileFresh target root).run.run ⟨registry, []⟩ with ⟨result, later⟩
  rw [run] at outcome
  cases outcome
  rw [name_of_compileFresh run]
  exact Scope.freeName_of_not_mem List.not_mem_nil ""

/-- Every compilation names its types and their properties apart and legally, and a root
that it creates has no suffix.  Claiming a name ends, and it yields what is asked for or the
least free suffix. -/
theorem names_of_compile :
    (∀ (target : Target) (model : Model) (registry : Registry) (compiled : CompiledModel),
      (compile target model registry).1 = .ok compiled →
        (compiled.types.map CompiledType.name).Nodup ∧
        (∀ type ∈ compiled.types,
          IsLegal type.name ∧ (type.properties.map Property.name).Nodup ∧
            ∀ property ∈ type.properties, IsLegal property.name) ∧
        ∀ root, model.root = .container root → registry.get? root.id = none →
          compiled.root.name = Naming.pascalCase root.name) ∧
      ∀ (scope : Scope) (base separator : String), scope.length < 2 ^ 32 - 2 →
        scope.IsClaim base separator (scope.claim base separator).1
          (scope.claim base separator).2 := by
  refine ⟨?_, Scope.isClaim_claim⟩
  intro target model registry compiled success
  have start : registry.All fun _ => True := fun _ _ => trivial
  have enough : ∀ type, MadeType target.space (fun _ => True) type → True :=
    fun _ _ => trivial
  obtain ⟨added, -, distinct, made, outcome⟩ := exists_added_of_compile enough start model
  obtain ⟨types, -⟩ := outcome compiled success
  rw [types]
  refine ⟨?_, ?_, fun root tree absent => name_root_of_compile tree absent success⟩
  · rw [Registry.types, List.map_map]
    exact distinct
  · intro type member
    obtain ⟨entry, inAdded, rfl⟩ := List.mem_map.mp member
    have whole := made entry inAdded
    refine ⟨isIdentifier_iff_isLegal.mp whole.legal, whole.distinct, fun property inside => ?_⟩
    exact isIdentifier_iff_isLegal.mp (whole.properties property inside).legal

/-- A model whose segment is named like the root, with fields whose names meet. -/
def namesakes : Model where
  description := ⟨"namesakes", "1"⟩
  delimiters := .edifact
  root := .container
    { id := ⟨"namesakes", []⟩
      kind := .segmentGroup
      name := "order"
      code := none
      truncatable := false
      documentation := none
      children := []
      segments :=
        [⟨.once, .container
          { id := ⟨"namesakes", [0]⟩
            kind := .segment
            name := "Order"
            code := some "ORD"
            truncatable := false
            documentation := none
            children :=
              [⟨.once, .value ⟨"id", .field, none, []⟩⟩,
                ⟨.once, .value ⟨"Id", .field, none, []⟩⟩,
                ⟨.once, .value ⟨"id_2", .field, none, []⟩⟩]
            segments := [] }⟩] }
  source := none

/-- Names that meet get suffixes, and so does a name that is spelled like one with a
suffix. -/
theorem names_of_namesakes :
    ∃ compiled,
      (compile ⟨"com.acme", .standalone⟩ namesakes []).1 = .ok compiled ∧
        compiled.types.map CompiledType.name = ["Order2", "Order"] ∧
        (compiled.types.map fun type => type.properties.map Property.name) =
          [["id", "id_2", "id_2_2"], ["order"]] ∧
        compiled.root.name = Naming.pascalCase "order" ∧
        (compiled.types.map CompiledType.name).Nodup ∧
        Scope.IsClaim ["id_2", "id"] "id" "_" "id_3" ["id_3", "id_2", "id"] := by
  have success : (compile ⟨"com.acme", .standalone⟩ namesakes []).1 = .ok _ := rfl
  obtain ⟨compiles, claims⟩ := names_of_compile
  obtain ⟨distinct, -, root⟩ := compiles ⟨"com.acme", .standalone⟩ namesakes [] _ success
  exact ⟨_, success, rfl, rfl, root _ rfl rfl, distinct, claims ["id_2", "id"] "id" "_" (by decide)⟩

end FlatMessage.Compiler
