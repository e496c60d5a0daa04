import FlatMessage.Proofs.Compilation

/-!
# Compiled types write the direct reading

What a compiled model writes is the text of the reading of its schema.  Compiling
decides the property names and the order of the steps; the streamed and the collected
way of writing give the same text, in every nesting of composites, repeating children
and truncatable containers.

Types that are registered were compiled for other models, into other namespaces, with
other options and with other names taken, perhaps by a compilation that failed later.
None of this shows in what they write: every registered type is one that its container
yields, and all types that a container yields write the same.
-/

namespace FlatMessage.Compiler

open Reading
open Schema (Container Model Node NodeId)

/-- The text of a bean is that of its reading, trimmed and laid out by the schema.  It
fails to be written where it fails to be read.

The compiled type looks properties up under the names of the reading: `Yields` has the
name of every property at every depth. -/
theorem encode_eq_text_of_reading {store : NodeId → Option Container} {registry : Registry}
    (reached : Reached store registry) {target : Target} {model : Model}
    (stored : model.root.StoredIn store) (valid : model.validate = .ok ())
    {compiled : CompiledModel}
    (success : (compile target model registry).1 = .ok compiled) :
    ∃ root, model.root = .container root ∧ Yields root compiled.root ∧
      ∀ table bean,
        compiled.root.encode table bean =
          (readContainer root bean).map fun part => part.trim.text table := by
  obtain ⟨root, tree, group, sound⟩ := Model.sound_of_validate valid
  obtain ⟨container, same, yields⟩ := yields_of_compile reached.sound stored success
  obtain rfl : root = container := by
    rw [tree] at same
    exact Node.container.inj same
  exact ⟨root, tree, yields, encode_eq_text_of_yields yields group sound⟩

/-- A notice is written as it is read. -/
theorem encode_notice_eq_text_of_reading :
    ∃ compiled, (compile ⟨"com.acme", .standalone⟩ Schema.notice []).1 = .ok compiled ∧
      ∃ root, Schema.notice.root = .container root ∧ Yields root compiled.root ∧
        ∀ table bean,
          compiled.root.encode table bean =
            (readContainer root bean).map fun part => part.trim.text table := by
  have success : (compile ⟨"com.acme", .standalone⟩ Schema.notice []).1 = .ok _ := rfl
  exact ⟨_, success, encode_eq_text_of_reading .empty Schema.notice_storedIn rfl success⟩

/-! ## Sharing a registry -/

/-- Types that one container yields write the same text or fail with the same error. -/
theorem encode_congr_of_yields {container : Container} {first second : Codec.CompiledType}
    (firstYields : Yields container first) (secondYields : Yields container second)
    (table : Delimiter.Table) (bean : Bean) :
    first.encode table bean = second.encode table bean := by
  rw [encode_of_yields firstYields, encode_of_yields secondYields]

/-- Whether a model is compiled, and what is written by its root, is the same with every
registry that is reached as with the empty one, whatever valid namespaces and options
are compiled into. -/
theorem compile_with_reached_registry {store : NodeId → Option Container}
    {registry : Registry} (reached : Reached store registry) {model : Model}
    (stored : model.root.StoredIn store) {shared alone : Target}
    (validShared : Naming.checkNamespace shared.space = .ok ())
    (validAlone : Naming.checkNamespace alone.space = .ok ()) :
    ((∃ compiled, (compile shared model registry).1 = .ok compiled) ↔
        ∃ compiled, (compile alone model []).1 = .ok compiled) ∧
      ∀ first second,
        (compile shared model registry).1 = .ok first →
          (compile alone model []).1 = .ok second →
            ∀ table bean,
              first.root.encode table bean = second.root.encode table bean := by
  have sound := reached.sound
  have fresh := soundRegistry_empty store
  constructor
  · rw [compile_ok_iff sound stored validShared, compile_ok_iff fresh stored validAlone]
  · intro first second firstRun secondRun table bean
    obtain ⟨root, tree, firstYields⟩ := yields_of_compile sound stored firstRun
    obtain ⟨other, same, secondYields⟩ := yields_of_compile fresh stored secondRun
    obtain rfl : root = other := by
      rw [tree] at same
      exact Schema.Node.container.inj same
    exact encode_congr_of_yields firstYields secondYields table bean

/-- A segment without a name, which cannot be compiled. -/
def untitled : Container where
  id := ⟨"unnamed", [1]⟩
  kind := .segment
  name := ""
  code := some "UNT"
  truncatable := false
  documentation := none
  children := []
  segments := []

/-- A model that shares the notes of a notice and fails to compile after them. -/
def unnamed : Model where
  description := ⟨"unnamed", "1"⟩
  delimiters := .edifact
  root := .container
    { id := ⟨"unnamed", []⟩
      kind := .segmentGroup
      name := "unnamed"
      code := none
      truncatable := false
      documentation := none
      children := []
      segments :=
        [⟨.once, .container Schema.note⟩, ⟨.once, .container untitled⟩] }
  source := none

/-- The containers of both models by their identities. -/
def sharedStore (id : NodeId) : Option Container :=
  (Schema.notice.root.containers ++ unnamed.root.containers).find? (·.id = id)

theorem notice_storedIn_sharedStore : Schema.notice.root.StoredIn sharedStore := by
  intro container member
  have alone := Schema.notice_storedIn container member
  rw [sharedStore, List.find?_append, Option.or_eq_some_iff]
  exact .inl alone

theorem unnamed_storedIn : unnamed.root.StoredIn sharedStore := by
  intro container member
  have listed : unnamed.root.containers =
      unnamed.root.container?.toList ++ [Schema.note, Schema.author, untitled] := rfl
  rw [listed] at member
  simp only [unnamed, Schema.Node.container?, Option.toList_some, List.singleton_append,
    List.mem_cons, List.not_mem_nil, or_false] at member
  rcases member with rfl | rfl | rfl | rfl <;> rfl

/-- A notice is compiled with the notes that the failed compilation registered. -/
theorem compile_notice_with_registered_note :
    (∃ error, (compile ⟨"com.other", .definitions⟩ unnamed []).1 = .error error) ∧
      ∃ type first second,
        (compile ⟨"com.other", .definitions⟩ unnamed []).2.get? Schema.note.id = some type ∧
        (compile ⟨"com.acme", .standalone⟩ Schema.notice
          (compile ⟨"com.other", .definitions⟩ unnamed []).2).1 = .ok first ∧
        (compile ⟨"com.third", .definitions⟩ Schema.notice []).1 = .ok second ∧
        ∀ table bean, first.root.encode table bean = second.root.encode table bean := by
  have reached := Reached.empty.compile ⟨"com.other", .definitions⟩ unnamed unnamed_storedIn
  have firstRun : (compile ⟨"com.acme", .standalone⟩ Schema.notice
    (compile ⟨"com.other", .definitions⟩ unnamed []).2).1 = .ok _ := rfl
  have secondRun : (compile ⟨"com.third", .definitions⟩ Schema.notice []).1 = .ok _ := rfl
  have firstSpace : Naming.checkNamespace "com.acme" = .ok () := rfl
  have secondSpace : Naming.checkNamespace "com.third" = .ok () := rfl
  have same := (compile_with_reached_registry reached notice_storedIn_sharedStore firstSpace
    secondSpace).2 _ _ firstRun secondRun
  exact ⟨⟨_, rfl⟩, _, _, _, rfl, firstRun, secondRun, same⟩

end FlatMessage.Compiler
