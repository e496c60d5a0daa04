import FlatMessage.Proofs.Orders.Deliveries
import FlatMessage.Proofs.Orders.Detours
import FlatMessage.Proofs.Orders.Ownership

/-!
# Runs in another order

The order in which a manifest lists its documents does not matter: if a set can be loaded,
compiled and written in one order, it can be in every other one, and the same entries come
out.  This needs messages with namespaces of their own and an interchange that the manifest
gives, and no location on the way may be refused.

The exception is real.  A location that is spelled with detours is followed to a document
whose import it makes too long, while a document that is found on a shorter way first is
loaded with all its imports.
-/

namespace FlatMessage

namespace Project

open Artifact (SameDocuments)
open Compiler.Objects (Call)
open Files (Place Tree)
open Files.Path (join)
open Naming (checkNamespace)
open Schema (InterchangeProperties IsLoaded IsManifestAt IsRefusal Manifest Model ModelSet)

section

variable {tree : Tree} {settings : Settings} {set other : ModelSet}
  {roots roots' : List Place} {history history' : List (Place × Model)}
  {report report' : Report}

/-- All calls of a set are different, and so are the names of its messages. -/
def AreApart (settings : Settings) (set : ModelSet) : Prop :=
  ∀ calls, messageCalls? settings set = some calls →
    (definitionsCalls settings set ++ calls).Nodup ∧
      (calls.map (·.model.description.name)).Nodup

/-- A loaded set that is compiled is compiled to the same entries in another order. -/
theorem sameEntries_of_isLoaded (working : tree.working.IsWalkable)
    (everything : settings.filter = none) (apart : AreApart settings set)
    (loaded : IsLoaded tree roots set history) (loaded' : IsLoaded tree roots' other history')
    (perm : roots.Perm roots') (interchange : other.interchange = set.interchange)
    (success : (produce settings set).outcome = .ok report) :
    ∃ report', (produce settings other).outcome = .ok report' ∧
      report.SameEntries report' ∧
        SameDocuments (produce settings set).documents (produce settings other).documents := by
  have models := loaded.perm_models loaded' perm
  have shared := definitionsCalls_of_perm settings loaded.keys models
  have standard := interchangeOf_of_perm loaded.keys models interchange
  obtain ⟨calls, named, -⟩ := succeed_of_produce success
  obtain ⟨calls', named', permCalls⟩ := messageCalls?_of_perm everything models standard named
  obtain ⟨distinct, names⟩ := apart calls named
  exact sameEntries_of_owners named named' shared standard permCalls distinct names
    (accepted_of_isLoaded working loaded named)
    (fun _ _ isOwner => owners_of_isLoaded working everything loaded loaded' named named' shared
      standard permCalls distinct isOwner) success

/-- Whether all calls are different does not depend on the order. -/
theorem AreApart.of_perm (everything : settings.filter = none)
    (apart : AreApart settings set) (distinct : (set.models.map Model.key).Nodup)
    (models : (set.models.map Model.withoutSource).Perm (other.models.map Model.withoutSource))
    (interchange : other.interchange = set.interchange) : AreApart settings other := by
  intro calls' named'
  have shared := definitionsCalls_of_perm settings distinct models
  have standard := interchangeOf_of_perm distinct models interchange
  obtain ⟨calls, named, perm⟩ := messageCalls?_of_perm everything models.symm standard.symm named'
  obtain ⟨different, names⟩ := apart calls named
  rw [shared]
  exact ⟨(perm.append_left _).symm.nodup different, (perm.map _).symm.nodup names⟩

/-! ## Manifests -/

/-- A set is loaded and compiled, and its documents are written. -/
structure Compiles (tree : Tree) (settings : Settings) (reference base : String)
    (set : ModelSet) (report : Report) : Prop where
  loaded : ModelSet.load tree reference base = .ok set
  delivered : (deliver tree settings.destination (produce settings set)).1 = .ok report

/-- Two manifests in one directory list the same documents, in any order, and give the same
interchange. -/
structure SameManifests (tree : Tree) (first base second base' : String) : Prop where
  listed : ∃ directory manifest manifest' properties,
    IsManifestAt tree first base directory manifest ∧
      IsManifestAt tree second base' directory manifest' ∧
        manifest.documents.Perm manifest'.documents ∧
          manifest.interchange = some properties ∧ manifest'.interchange = some properties

theorem SameManifests.symm {first base second base' : String}
    (same : SameManifests tree first base second base') :
    SameManifests tree second base' first base := by
  obtain ⟨directory, manifest, manifest', properties, at_, at', perm, given, given'⟩ :=
    same.listed
  exact ⟨directory, manifest', manifest, properties, at', at_, perm.symm, given', given⟩

/-- Sets that are loaded from two such manifests hold the same models. -/
theorem SameManifests.exists_isLoaded {first base second base' : String}
    (same : SameManifests tree first base second base') (working : tree.working.IsWalkable)
    (success : ModelSet.load tree first base = .ok set)
    (success' : ModelSet.load tree second base' = .ok other) :
    ∃ roots roots' history history',
      IsLoaded tree roots set history ∧ IsLoaded tree roots' other history' ∧
        roots.Perm roots' ∧ other.interchange = set.interchange := by
  obtain ⟨directory, manifest, manifest', properties, at_, at', perm, given, given'⟩ :=
    same.listed
  obtain ⟨roots, history, declared, denoted, loaded, interchange⟩ :=
    Schema.exists_isLoaded working at_ success
  obtain ⟨roots', history', declared', denoted', loaded', interchange'⟩ :=
    Schema.exists_isLoaded working at' success'
  refine ⟨roots, roots', history, history', loaded, loaded', ?_, ?_⟩
  · have places := perm.map (Schema.denoted? tree · directory)
    rw [denoted, denoted'] at places
    exact (List.map_perm_map_iff fun _ _ => Option.some.inj).mp places
  · rw [interchange, interchange', given, given']
    rfl

/-- The other manifest is loaded unless a location is refused. -/
theorem SameManifests.exists_load {first base second base' : String}
    (same : SameManifests tree first base second base') (working : tree.working.IsWalkable)
    (legal : tree.HasLegalNames)
    (short : ∀ error, ModelSet.load tree second base' = .error error → ¬IsRefusal error)
    (success : ModelSet.load tree first base = .ok set) :
    ∃ other, ModelSet.load tree second base' = .ok other := by
  obtain ⟨directory, manifest, manifest', properties, at_, at', perm, -, -⟩ := same.listed
  cases outcome : ModelSet.load tree second base' with
  | ok other => exact ⟨other, rfl⟩
  | error error =>
      exact absurd (Schema.isRefusal_of_load working legal at_ at' perm success outcome)
        (short error outcome)

/-- A set that is compiled from one manifest is compiled to the same entries from the
other one. -/
theorem SameManifests.compiles {first base second base' : String}
    (same : SameManifests tree first base second base') (working : tree.working.IsWalkable)
    (legal : tree.HasLegalNames) (valid : checkNamespace settings.space = .ok ())
    (everything : settings.filter = none)
    (short : ∀ error, ModelSet.load tree second base' = .error error → ¬IsRefusal error)
    (apart : AreApart settings set)
    (compiles : Compiles tree settings first base set report) :
    ∃ other report', Compiles tree settings second base' other report' ∧
      report.SameEntries report' ∧
        SameDocuments (produce settings set).documents (produce settings other).documents := by
  obtain ⟨other, loads⟩ := same.exists_load working legal short compiles.loaded
  obtain ⟨roots, roots', history, history', loaded, loaded', perm, interchange⟩ :=
    same.exists_isLoaded working compiles.loaded loads
  have produced := (deliver_eq_ok_iff.mp compiles.delivered).2
  obtain ⟨report', success, entries, documents⟩ :=
    sameEntries_of_isLoaded working everything apart loaded loaded' perm interchange produced
  exact ⟨other, report',
    ⟨loads, deliver_of_sameDocuments valid documents compiles.delivered success⟩, entries,
    documents⟩

/-- Of two manifests that list the same documents, one is compiled when the other one is,
and to the same entries, provided that no location is refused.  The types and the binding
trees of the models are the same text by text. -/
theorem compiles_iff_of_sameManifests {first base second base' : String}
    (same : SameManifests tree first base second base') (working : tree.working.IsWalkable)
    (legal : tree.HasLegalNames) (valid : checkNamespace settings.space = .ok ())
    (everything : settings.filter = none)
    (apart : ∀ set segments, ModelSet.load tree first base = .ok set →
      segmentsOf settings set = some segments → segments.Nodup)
    (short : ∀ error, ModelSet.load tree first base = .error error → ¬IsRefusal error)
    (short' : ∀ error, ModelSet.load tree second base' = .error error → ¬IsRefusal error) :
    ((∃ set report, Compiles tree settings first base set report) ↔
      ∃ set report, Compiles tree settings second base' set report) ∧
    ∀ set report other report', Compiles tree settings first base set report →
      Compiles tree settings second base' other report' →
        report.SameEntries report' ∧
          SameDocuments (produce settings set).documents
            (produce settings other).documents ∧
          ∀ document, document.fileName = "types.json" ∨
              document.fileName = "binding-config.json" →
            (document ∈ (produce settings set).documents ↔
              document ∈ (produce settings other).documents) := by
  have different : ∀ set, ModelSet.load tree first base = .ok set → AreApart settings set :=
    fun set loads calls named => nodup_of_segments named fun segments => apart set segments loads
  refine ⟨⟨?_, ?_⟩, ?_⟩
  · rintro ⟨set, report, compiles⟩
    obtain ⟨other, report', result, -⟩ := same.compiles working legal valid everything short'
      (different set compiles.loaded) compiles
    exact ⟨other, report', result⟩
  · rintro ⟨other, report, compiles⟩
    obtain ⟨set, loads⟩ := same.symm.exists_load working legal short compiles.loaded
    obtain ⟨roots, roots', history, history', loaded, loaded', perm, interchange⟩ :=
      same.exists_isLoaded working loads compiles.loaded
    have differentToo := (different set loads).of_perm everything loaded.keys
      (loaded.perm_models loaded' perm) interchange
    obtain ⟨again, report', result, -⟩ := same.symm.compiles working legal valid everything
      short differentToo compiles
    exact ⟨again, report', result⟩
  · intro set report other report' compiles compiles'
    obtain ⟨again, report'', result, entries, documents⟩ := same.compiles working legal valid
      everything short' (different set compiles.loaded) compiles
    obtain rfl : again = other := by
      have loads := result.loaded
      rw [compiles'.loaded] at loads
      exact (Except.ok.inj loads).symm
    obtain rfl : report'' = report' := by
      have delivered := result.delivered
      rw [compiles'.delivered] at delivered
      exact (Except.ok.inj delivered).symm
    exact ⟨entries, documents, fun _ plain => documents.mem_iff plain⟩

end

/-! ## A library

The manifests of the library list the message `A`, which imports the definitions, and the
message `B`.  Both list `A` a second time, relative to themselves.  So how long the
locations are depends on the path that the manifests are loaded from. -/

section

open Files (detour)
open Schema (Document Loading LoadError Loads LoadsAll addDocument documentAt? loadEntries
  readDocument)

/-- A manifest that gives an interchange and lists documents. -/
def manifestText (documents : List String) : String :=
  "[interchange]\ntype='UNEDIFACT'\nversion='1'\n" ++
    String.join (documents.map fun document => "[[models]]\npath='" ++ document ++ "'\n")

/-- The documents in one order and in another one. -/
def listed : List String :=
  ["/w/d/a", "/w/d/b", "a"]

def relisted : List String :=
  ["/w/d/b", "a", "/w/d/a"]

def libraryFiles : List (String × Files.Entry) :=
  [ ("m.toml", .file (Text.bytes (manifestText listed))),
    ("n.toml", .file (Text.bytes (manifestText relisted))),
    ("a", .file (Text.bytes
      ("<edimap><import resource='library.xml' namespace='l'/>" ++
        "<description name='A' version='1'/><segments xmltag='A'/></edimap>"))),
    ("b", .file (Text.bytes
      "<edimap><description name='B' version='1'/><segments xmltag='B'/></edimap>")),
    ("library.xml", .file (Text.bytes
      ("<edimap><description name='__modelset_definitions' version='local'/>" ++
        "<segments xmltag='L'/></edimap>"))) ]

def libraryTree : Tree where
  root := .directory [("w", .directory [("d", .directory libraryFiles)])]
  working := ["w"]

theorem isWalkable_library : Place.IsWalkable libraryTree.working := by
  intro name member
  obtain rfl := List.mem_singleton.mp member
  exact ⟨by decide, by decide, by decide, by decide, by decide⟩

theorem hasLegalNames_library : libraryTree.HasLegalNames := by
  have leaf := Tree.hasLegalNames_file
  refine Tree.hasLegalNames_directory (List.forall_mem_singleton.mpr ⟨by decide, ?_⟩)
  refine Tree.hasLegalNames_directory (List.forall_mem_singleton.mpr ⟨by decide, ?_⟩)
  refine Tree.hasLegalNames_directory ?_
  simp [libraryFiles, leaf]

theorem place?_library {name : String} (named : Files.IsName name) {inner : Files.Entry}
    (found : Keyed.get? name libraryFiles = some inner) (count : Nat) :
    libraryTree.place? (join (detour count) name) = .ok (["w", "d"] ++ [name]) :=
  Tree.place?_join_detour rfl named found count

/-- A manifest of the library at the end of a detour. -/
theorem isManifestAt_library {name : String} {documents : List String} {count : Nat}
    (named : Files.IsName name)
    (found : Keyed.get? name libraryFiles = some (.file (Text.bytes (manifestText documents))))
    (parsed : Manifest.ofText? (manifestText documents) =
      some ⟨some ⟨"UNEDIFACT", "1"⟩, documents⟩)
    (plain : Location.Locator.ofText? name = none)
    (last : Files.Path.lastPart? name = some name) (toml : Schema.isManifest name = true)
    (size : name.utf8ByteSize = 6) (few : count ≤ 817) :
    IsManifestAt libraryTree name (detour count) (detour count)
      ⟨some ⟨"UNEDIFACT", "1"⟩, documents⟩ := by
  have isPart : Files.IsPart name := ⟨named.1, named.2.1, named.2.2.1, named.2.2.2.1⟩
  have relative := Naming.isAbsolute_of_not_mem isPart.simple
  have leads := place?_library named found count
  have file : libraryTree.root.at? (["w", "d"] ++ [name]) =
      some (.file (Text.bytes (manifestText documents))) :=
    Files.Entry.at?_concat_eq_some_iff.mpr ⟨libraryFiles, rfl, found⟩
  have short : ¬Tree.pathLimit ≤ 5 * count + 2 + 6 := by
    rw [Tree.pathLimit]
    omega
  refine ⟨join (detour count) name, manifestText documents, Schema.locate_of_plain plain _, ?_, ?_,
    parsed, Files.directory_join_detour isPart count⟩
  · rwa [Schema.isManifest, Files.Path.extension?, Files.lastPart?_join_detour isPart, ← last,
      ← Files.Path.extension?, ← Schema.isManifest]
  · rw [Schema.readAt_of_file hasLegalNames_library leads file (Text.ofBytes?_bytes _),
      Files.utf8ByteSize_join_detour relative, size, if_neg short]

theorem isManifestAt_listed {count : Nat} (few : count ≤ 817) :
    IsManifestAt libraryTree "m.toml" (detour count) (detour count)
      ⟨some ⟨"UNEDIFACT", "1"⟩, listed⟩ :=
  isManifestAt_library ⟨by decide, by decide, by decide, by decide, by decide⟩ rfl
    (by decide +kernel) (by decide) (by decide) (by decide) rfl few

theorem isManifestAt_relisted {count : Nat} (few : count ≤ 817) :
    IsManifestAt libraryTree "n.toml" (detour count) (detour count)
      ⟨some ⟨"UNEDIFACT", "1"⟩, relisted⟩ :=
  isManifestAt_library ⟨by decide, by decide, by decide, by decide, by decide⟩ rfl
    (by decide +kernel) (by decide) (by decide) (by decide) rfl few

theorem sameManifests_library {count : Nat} (few : count ≤ 817) :
    SameManifests libraryTree "m.toml" (detour count) "n.toml" (detour count) :=
  ⟨detour count, _, _, _, isManifestAt_listed few, isManifestAt_relisted few, by decide, rfl, rfl⟩

/-! ### The documents of the library -/

/-- A document with nothing in its tree. -/
def libraryDocument (name version tag : String) (imports : List Schema.Import) : Document where
  description := ⟨name, version⟩
  delimiters := Delimiter.Table.edifact
  imports := imports
  interchange := none
  segments := .mk "segments" [("xmltag", tag)] [] ""

/-- The message that imports the definitions. -/
def importingDocument : Document :=
  libraryDocument "A" "1" "A" [⟨"library.xml", "l"⟩]

/-- The message that imports nothing. -/
def loneDocument : Document :=
  libraryDocument "B" "1" "B" []

def definitionsDocument : Document :=
  libraryDocument "__modelset_definitions" "local" "L" []

theorem documentAt?_importingDocument :
    documentAt? libraryTree (["w", "d"] ++ ["a"]) = some importingDocument := by
  refine Schema.documentAt?_of_bytes rfl ?_
  rw [Document.parse, Xml.read, Xml.marksOf, String.toList_append]
  decide +kernel

theorem documentAt?_loneDocument :
    documentAt? libraryTree (["w", "d"] ++ ["b"]) = some loneDocument := by
  refine Schema.documentAt?_of_bytes rfl ?_
  decide +kernel

theorem documentAt?_definitionsDocument :
    documentAt? libraryTree (["w", "d"] ++ ["library.xml"]) = some definitionsDocument := by
  refine Schema.documentAt?_of_bytes rfl ?_
  rw [Document.parse, Xml.read, Xml.marksOf, String.toList_append]
  decide +kernel

/-- A document of the library is found at the end of a detour. -/
theorem canonical_library {name : String} (named : Files.IsName name) {content : List UInt8}
    (found : Keyed.get? name libraryFiles = some (.file content)) (count : Nat) :
    libraryTree.canonical (join (detour count) name) = Place.path (["w", "d"] ++ [name]) :=
  Tree.canonical_of_file hasLegalNames_library (place?_library named found count)
    (Files.Entry.at?_concat_eq_some_iff.mpr ⟨libraryFiles, rfl, found⟩)

/-! ### Documents on short ways -/

/-- What is loaded before the entries of the manifests. -/
def libraryStart : Loading :=
  { Loading.start with
    set := { ModelSet.empty with interchange := some ⟨"UNEDIFACT", "1"⟩ } }

/-- The message `A` is loaded after the definitions next to it. -/
theorem loads_importingDocument {location beside : String} {loading middle later : Loading}
    {shared root : Schema.Node}
    (located : Schema.locate "library.xml" (Files.Path.directory location) = .ok beside)
    (leads : libraryTree.place? location = .ok (["w", "d"] ++ ["a"]))
    (leadsBeside : libraryTree.place? beside = .ok (["w", "d"] ++ ["library.xml"]))
    (short : location.utf8ByteSize < Tree.pathLimit)
    (shortBeside : beside.utf8ByteSize < Tree.pathLimit)
    (absent : ∀ name ∈ ["a", "library.xml"],
      loading.loaded.lookup (Place.path (["w", "d"] ++ [name])) = none)
    (first : addDocument libraryTree beside definitionsDocument [] loading = .ok (shared, middle))
    (last : addDocument libraryTree location importingDocument [("l", shared)] middle =
      .ok (root, later)) :
    Loads libraryTree [] location loading (.ok (root, later)) := by
  have canonical := Tree.canonical_of_file hasLegalNames_library leads rfl
  have canonicalBeside := Tree.canonical_of_file hasLegalNames_library leadsBeside rfl
  have inner : Loads libraryTree ([] ++ [libraryTree.canonical location]) beside loading
      (.ok (shared, middle)) := by
    have read := Schema.readDocument_of_lt hasLegalNames_library leadsBeside
      documentAt?_definitionsDocument shortBeside
    refine .built ?_ ?_ read .nil first
    · rw [canonicalBeside]
      exact absent _ (by decide)
    · rw [canonical, canonicalBeside]
      decide
  have read := Schema.readDocument_of_lt hasLegalNames_library leads
    documentAt?_importingDocument short
  refine .built ?_ List.not_mem_nil read (.cons located inner .nil) last
  rw [canonical]
  exact absent _ (by decide)

/-- The message `B` is loaded. -/
theorem loads_loneDocument {loading later : Loading} {root : Schema.Node}
    (absent : loading.loaded.lookup "/w/d/b" = none)
    (added : addDocument libraryTree "/w/d/b" loneDocument [] loading = .ok (root, later)) :
    Loads libraryTree [] "/w/d/b" loading (.ok (root, later)) := by
  have read : readDocument libraryTree "/w/d/b" = .ok loneDocument :=
    Schema.readDocument_of_lt hasLegalNames_library rfl documentAt?_loneDocument (by decide)
  exact .built absent List.not_mem_nil read .nil added

/-- What is loaded of the first manifest before its last entry: without `B` and with it. -/
def listedLoading : Except LoadError (Loading × Loading) := do
  let (shared, loading) ←
    addDocument libraryTree "/w/d/library.xml" definitionsDocument [] libraryStart
  let (_, middle) ← addDocument libraryTree "/w/d/a" importingDocument [("l", shared)] loading
  let (_, later) ← addDocument libraryTree "/w/d/b" loneDocument [] middle
  .ok (middle, later)

theorem loadEntries_listed {middle later : Loading}
    (added : listedLoading = .ok (middle, later))
    (absent : middle.loaded.lookup "/w/d/b" = none) (base : String) (rest : List String) :
    loadEntries libraryTree base ("/w/d/a" :: "/w/d/b" :: rest) libraryStart =
      loadEntries libraryTree base rest later := by
  obtain ⟨⟨shared, loading⟩, addShared, added⟩ := bind_eq_ok_iff.mp added
  obtain ⟨⟨root, loading'⟩, addImporting, added⟩ := bind_eq_ok_iff.mp added
  obtain ⟨⟨last, loading''⟩, addAlone, same⟩ := bind_eq_ok_iff.mp added
  obtain ⟨rfl, rfl⟩ := Prod.mk.inj (Except.ok.inj same)
  have located : Schema.locate "library.xml" (Files.Path.directory "/w/d/a") =
      .ok "/w/d/library.xml" := Schema.locate_of_plain (by decide) _
  have first := loads_importingDocument located rfl rfl (by decide) (by decide) (fun _ _ => rfl)
    addShared addImporting
  rw [Schema.loadEntries_of_loads (Schema.locate_of_absolute (by decide) rfl base) first,
    Schema.loadEntries_of_loads (Schema.locate_of_absolute (by decide) rfl base)
      (loads_loneDocument absent addAlone)]

/-- The definitions and both messages are loaded and compiled. -/
theorem exists_compiled_library :
    ∃ middle loading root report,
      listedLoading = .ok (middle, loading) ∧ middle.loaded.lookup "/w/d/b" = none ∧
      loading.loaded.lookup "/w/d/a" = some root ∧
      segmentsOf everyMessage loading.finish = some ["common", "a", "b"] ∧
      (deliver libraryTree "out" (produce everyMessage loading.finish)).1 = .ok report := by
  have runs : listedLoading.toOption.map (fun result =>
      ((result.1.loaded.lookup "/w/d/b").isSome, (result.2.loaded.lookup "/w/d/a").isSome,
        segmentsOf everyMessage result.2.finish,
        (deliver libraryTree "out" (produce everyMessage result.2.finish)).1.isOk)) =
        some (false, true, some ["common", "a", "b"], true) := by
    decide +kernel
  obtain ⟨⟨middle, loading⟩, added, facts⟩ := Option.map_eq_some_iff.mp runs
  obtain ⟨absent, facts⟩ := Prod.mk.inj facts
  obtain ⟨found, facts⟩ := Prod.mk.inj facts
  obtain ⟨segments, delivered⟩ := Prod.mk.inj facts
  obtain ⟨root, found⟩ := Option.isSome_iff_exists.mp found
  obtain ⟨report, outcome⟩ := isOk_iff_exists.mp delivered
  exact ⟨middle, loading, root, report, toOption_eq_some_iff.mp added,
    Option.isNone_iff_eq_none.mp (Option.isSome_eq_false_iff.mp absent), found, segments, outcome⟩

/-- When the documents are listed on short ways first, they are compiled however long the
other ways are. -/
theorem exists_compiles_library {count : Nat} (few : count ≤ 817) :
    ∃ set report, Compiles libraryTree everyMessage "m.toml" (detour count) set report ∧
      segmentsOf everyMessage set = some ["common", "a", "b"] := by
  obtain ⟨middle, loading, root, report, added, absent, found, segments, delivered⟩ :=
    exists_compiled_library
  refine ⟨loading.finish, report, ⟨?_, delivered⟩, segments⟩
  have named : Files.IsName "a" := ⟨by decide, by decide, by decide, by decide, by decide⟩
  have known : Loads libraryTree [] (join (detour count) "a") loading (.ok (root, loading)) := by
    refine .known ?_
    rw [canonical_library named rfl]
    exact found
  rw [Schema.load_of_isManifestAt (isManifestAt_listed few)]
  change (loadEntries libraryTree (detour count) ["/w/d/a", "/w/d/b", "a"] libraryStart).map _ = _
  rw [loadEntries_listed added absent,
    Schema.loadEntries_of_loads (Schema.locate_of_plain (by decide) _) known]
  rfl

/-! ### Documents on long ways -/

/-- What is loaded of the second manifest in the directory around the library: after `B`,
and after `A` too. -/
def relistedLoading : Except LoadError (Loading × Loading) := do
  let (_, first) ← addDocument libraryTree "/w/d/b" loneDocument [] libraryStart
  let (shared, loading) ← addDocument libraryTree "d/library.xml" definitionsDocument [] first
  let (_, later) ← addDocument libraryTree "d/a" importingDocument [("l", shared)] loading
  .ok (first, later)

/-- After `B` the definitions and `A` are still to be loaded. -/
theorem exists_relisted :
    ∃ first later root,
      relistedLoading = .ok (first, later) ∧ first.loaded.map Prod.fst = ["/w/d/b"] ∧
      later.loaded.lookup "/w/d/a" = some root ∧
      segmentsOf everyMessage later.finish = some ["common", "b", "a"] := by
  have runs : relistedLoading.toOption.map (fun result =>
      (result.1.loaded.map Prod.fst, (result.2.loaded.lookup "/w/d/a").isSome,
        segmentsOf everyMessage result.2.finish)) =
        some (["/w/d/b"], true, some ["common", "b", "a"]) := by
    decide +kernel
  obtain ⟨⟨first, later⟩, added, facts⟩ := Option.map_eq_some_iff.mp runs
  obtain ⟨keys, facts⟩ := Prod.mk.inj facts
  obtain ⟨found, segments⟩ := Prod.mk.inj facts
  obtain ⟨root, found⟩ := Option.isSome_iff_exists.mp found
  exact ⟨first, later, root, toOption_eq_some_iff.mp added, keys, found, segments⟩

theorem lookup_eq_none_of_keys {loading : Loading}
    (keys : loading.loaded.map Prod.fst = ["/w/d/b"]) {key : String} (other : key ≠ "/w/d/b") :
    loading.loaded.lookup key = none := by
  rw [List.lookup_eq_none_iff]
  intro entry member
  have inKeys := List.mem_map_of_mem (f := Prod.fst) member
  rw [keys, List.mem_singleton] at inKeys
  rw [inKeys, bne_iff_ne]
  exact other

theorem loads_first {first later : Loading} (added : relistedLoading = .ok (first, later)) :
    ∃ root, Loads libraryTree [] "/w/d/b" libraryStart (.ok (root, first)) := by
  obtain ⟨⟨root, loading⟩, addAlone, added⟩ := bind_eq_ok_iff.mp added
  obtain ⟨⟨shared, loading'⟩, -, added⟩ := bind_eq_ok_iff.mp added
  obtain ⟨⟨last, loading''⟩, -, same⟩ := bind_eq_ok_iff.mp added
  obtain ⟨rfl, rfl⟩ := Prod.mk.inj (Except.ok.inj same)
  exact ⟨root, loads_loneDocument rfl addAlone⟩

/-- In the directory around the library the documents are loaded in the other order too. -/
theorem load_relisted {first later : Loading} {root : Schema.Node}
    (added : relistedLoading = .ok (first, later))
    (keys : first.loaded.map Prod.fst = ["/w/d/b"])
    (found : later.loaded.lookup "/w/d/a" = some root) :
    ModelSet.load libraryTree "n.toml" "d" = .ok later.finish := by
  obtain ⟨before, loadsFirst⟩ := loads_first added
  obtain ⟨⟨again, loading⟩, -, added⟩ := bind_eq_ok_iff.mp added
  obtain ⟨⟨shared, loading'⟩, addShared, added⟩ := bind_eq_ok_iff.mp added
  obtain ⟨⟨last, loading''⟩, addImporting, same⟩ := bind_eq_ok_iff.mp added
  obtain ⟨rfl, rfl⟩ := Prod.mk.inj (Except.ok.inj same)
  have located : Schema.locate "library.xml" (Files.Path.directory "d/a") =
      .ok "d/library.xml" := Schema.locate_of_plain (by decide) _
  have absent : ∀ name ∈ ["a", "library.xml"],
      loading.loaded.lookup (Place.path (["w", "d"] ++ [name])) = none := by
    rintro name member
    apply lookup_eq_none_of_keys keys
    revert name
    decide
  have second := loads_importingDocument located rfl rfl (by decide) (by decide) absent addShared
    addImporting
  have last : Loads libraryTree [] "/w/d/a" loading'' (.ok (root, loading'')) := .known found
  have isAt : IsManifestAt libraryTree "n.toml" "d" "d" ⟨some ⟨"UNEDIFACT", "1"⟩, relisted⟩ :=
    isManifestAt_relisted (Nat.zero_le 817)
  rw [Schema.load_of_isManifestAt isAt]
  change (loadEntries libraryTree "d" ["/w/d/b", "a", "/w/d/a"] libraryStart).map _ = _
  rw [Schema.loadEntries_of_loads (Schema.locate_of_absolute (by decide) rfl _) loadsFirst,
    Schema.loadEntries_of_loads (Schema.locate_of_plain (by decide) _) second,
    Schema.loadEntries_of_loads (Schema.locate_of_absolute (by decide) rfl _) last]
  rfl

/-- At the end of the longest way, `A` can be read and the definitions next to it cannot. -/
theorem loads_refused {count : Nat} (last : count = 817) {loading : Loading}
    (keys : loading.loaded.map Prod.fst = ["/w/d/b"]) :
    Loads libraryTree [] (join (detour count) "a") loading
      (.error (.unreadable (join (detour count) "library.xml") .nameTooLong)) := by
  have named : Files.IsName "a" := ⟨by decide, by decide, by decide, by decide, by decide⟩
  have namedToo : Files.IsName "library.xml" :=
    ⟨by decide, by decide, by decide, by decide, by decide⟩
  have bytes : "a".utf8ByteSize = 1 ∧ "library.xml".utf8ByteSize = 11 := ⟨rfl, rfl⟩
  have short : 5 * count + 2 + 1 < Tree.pathLimit := by
    rw [last]
    decide
  have long : Tree.pathLimit ≤ 5 * count + 2 + 11 := by
    rw [last]
    decide
  have read : readDocument libraryTree (join (detour count) "a") = .ok importingDocument := by
    apply Schema.readDocument_of_lt hasLegalNames_library (place?_library named rfl count)
      documentAt?_importingDocument
    rwa [Files.utf8ByteSize_join_detour rfl, bytes.1]
  have refused : readDocument libraryTree (join (detour count) "library.xml") =
      .error (.unreadable (join (detour count) "library.xml") .nameTooLong) := by
    rw [Schema.readDocument_of_documentAt? hasLegalNames_library
      (place?_library namedToo rfl count) documentAt?_definitionsDocument,
      Files.utf8ByteSize_join_detour rfl, bytes.2, if_pos long]
  have isPart : Files.IsPart "a" := ⟨by decide, by decide, by decide, by decide⟩
  refine .interrupted (lookup_eq_none_of_keys keys ?_) List.not_mem_nil read ?_
  · rw [canonical_library named rfl]
    decide
  · rw [Files.directory_join_detour isPart]
    refine LoadsAll.failed (Schema.locate_of_plain (by decide) _)
      (Loads.unread (lookup_eq_none_of_keys keys ?_) ?_ refused)
    · rw [canonical_library namedToo rfl]
      decide
    · rw [canonical_library named rfl, canonical_library namedToo rfl]
      decide

/-- In the other order the documents are not loaded on the longest way. -/
theorem load_relisted_eq_error {count : Nat} (last : count = 817) :
    ModelSet.load libraryTree "n.toml" (detour count) =
      .error (.unreadable (join (detour count) "library.xml") .nameTooLong) := by
  obtain ⟨first, later, -, added, keys, -⟩ := exists_relisted
  obtain ⟨root, loadsFirst⟩ := loads_first added
  rw [Schema.load_of_isManifestAt (isManifestAt_relisted last.le)]
  change (loadEntries libraryTree (detour count) ["/w/d/b", "a", "/w/d/a"] libraryStart).map _ = _
  rw [Schema.loadEntries_of_loads (Schema.locate_of_absolute (by decide) rfl _) loadsFirst,
    Schema.loadEntries_of_loads_error (Schema.locate_of_plain (by decide) _)
      (loads_refused last keys)]
  rfl

/-- The sets of the library have different namespaces, whichever detours are made. -/
theorem nodup_segments_library {count : Nat} (few : count ≤ 817) {set : ModelSet}
    {segments : List String}
    (loads : ModelSet.load libraryTree "m.toml" (detour count) = .ok set)
    (found : segmentsOf everyMessage set = some segments) : segments.Nodup := by
  obtain ⟨again, report, compiles, named⟩ := exists_compiles_library few
  obtain rfl : again = set := Except.ok.inj (compiles.loaded.symm.trans loads)
  obtain rfl := Option.some.inj (named.symm.trans found)
  decide

/-- Without detours the library is compiled in both orders. -/
theorem compiles_library :
    ∃ set report other report',
      Compiles libraryTree everyMessage "m.toml" "d" set report ∧
        Compiles libraryTree everyMessage "n.toml" "d" other report' ∧
        segmentsOf everyMessage set = some ["common", "a", "b"] ∧
        segmentsOf everyMessage other = some ["common", "b", "a"] ∧
        report.SameEntries report' ∧
        SameDocuments (produce everyMessage set).documents
          (produce everyMessage other).documents := by
  obtain ⟨set, report, compiles, named⟩ := exists_compiles_library (Nat.zero_le 817)
  obtain ⟨first, later, root, added, keys, found, relisted⟩ := exists_relisted
  have outcome := load_relisted added keys found
  have never : ∀ {reference : String} {set : ModelSet},
      ModelSet.load libraryTree reference "d" = .ok set → ∀ error,
        ModelSet.load libraryTree reference "d" = .error error → ¬IsRefusal error := by
    intro reference set success error failed
    rw [success] at failed
    cases failed
  obtain ⟨iff, same⟩ := compiles_iff_of_sameManifests
    (sameManifests_library (Nat.zero_le 817)) isWalkable_library hasLegalNames_library
    (by decide) rfl (fun _ _ => nodup_segments_library (Nat.zero_le 817))
    (never compiles.loaded) (never outcome)
  obtain ⟨again, report', result⟩ := iff.mp ⟨set, report, compiles⟩
  obtain rfl : again = later.finish := Except.ok.inj (result.loaded.symm.trans outcome)
  obtain ⟨entries, documents, -⟩ := same set report later.finish report' compiles result
  exact ⟨set, report, later.finish, report', compiles, result, named, relisted, entries,
    documents⟩

/-- At the end of the longest way that the manifests can be read on, the order of their
entries decides whether the library is compiled. -/
theorem order_decides_on_long_ways :
    SameManifests libraryTree "m.toml" (detour 817) "n.toml" (detour 817) ∧
      libraryTree.working.IsWalkable ∧ libraryTree.HasLegalNames ∧
      checkNamespace everyMessage.space = .ok () ∧ everyMessage.filter = none ∧
      (∀ set segments, ModelSet.load libraryTree "m.toml" (detour 817) = .ok set →
        segmentsOf everyMessage set = some segments → segments.Nodup) ∧
      (∃ set report,
        Compiles libraryTree everyMessage "m.toml" (detour 817) set report) ∧
      ¬∃ set report,
        Compiles libraryTree everyMessage "n.toml" (detour 817) set report := by
  refine ⟨sameManifests_library le_rfl, isWalkable_library, hasLegalNames_library, by decide,
    rfl, fun _ _ => nodup_segments_library le_rfl, ?_, ?_⟩
  · obtain ⟨set, report, compiles, -⟩ := exists_compiles_library (le_refl 817)
    exact ⟨set, report, compiles⟩
  · rintro ⟨set, report, compiles⟩
    have loads := compiles.loaded
    rw [load_relisted_eq_error rfl] at loads
    cases loads

end

end Project

end FlatMessage
