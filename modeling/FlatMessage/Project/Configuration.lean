import FlatMessage.Files.Tree
import FlatMessage.Project.Settings
import FlatMessage.Toml.Parser

/-!
# Configurations

A configuration is a TOML document that lists the schemas to compile with their
namespaces, and where their documents go.  It has no other members than these.
-/

namespace FlatMessage.Project

open Compiler (CompileError)
open Files (FileError Tree)

/-- A schema and the namespace that it is compiled into. -/
structure Mapping where
  schema : String
  space : String
  deriving DecidableEq, Repr

/-- A configuration. -/
structure Configuration where
  mappings : List Mapping
  destination : String
  messages : Option String
  flushSegments : Bool
  logLevel : String
  deriving DecidableEq, Repr

/-- Why a configuration is not used. -/
inductive ConfigurationError
  | unreadable (path : String) (failure : FileError)
  | malformed (path : String)
  deriving DecidableEq, Repr

/-- The report of a configuration that is not used. -/
def ConfigurationError.message : ConfigurationError → String
  | unreadable path failure => s!"cannot read config '{path}': {failure.message}"
  | malformed path => s!"invalid config '{path}': TOML parse error"

/-- The mapping that a TOML value gives. -/
def Mapping.ofToml? (value : Toml) : Option Mapping :=
  match value.fields? true ["schema", "namespace"] with
  | some [some schema, some space] => do
      some ⟨← schema.text?, ← space.text?⟩
  | _ => none

namespace Configuration

/-- The file that a configuration is looked for in. -/
def defaultPath : String :=
  "ironedi.toml"

/-- The destination of a configuration that gives none. -/
def defaultDestination : String :=
  "target/ironedi"

/-- The configuration that says nothing. -/
def default : Configuration where
  mappings := []
  destination := defaultDestination
  messages := none
  flushSegments := false
  logLevel := "info"

/-- A member of a configuration, or what stands for it when it is absent. -/
def memberOr {α : Type} (fallback : α) (read? : Toml → Option α) :
    Option Toml → Option α
  | none => some fallback
  | some value => read? value

/-- The configuration that a TOML value gives. -/
def ofToml? (value : Toml) : Option Configuration :=
  let names := ["mappings", "destination", "messages", "flush_segments", "log_level"]
  match value.fields? true names with
  | some [mappings, destination, messages, flushSegments, logLevel] => do
      let items ← memberOr [] Toml.items? mappings
      some
        { mappings := ← items.mapM Mapping.ofToml?
          destination := ← memberOr default.destination Toml.text? destination
          messages := ← messages.mapM Toml.text?
          flushSegments := ← memberOr default.flushSegments Toml.flag? flushSegments
          logLevel := ← memberOr default.logLevel Toml.text? logLevel }
  | _ => none

/-- Read a configuration. -/
def ofText? (text : String) : Option Configuration := do
  ofToml? (← Toml.ofText? text)

/-- Read the configuration at a path. -/
def read (tree : Tree) (path : String) : Except ConfigurationError Configuration :=
  match tree.readText path with
  | .error failure => .error (.unreadable path failure)
  | .ok text =>
      match ofText? text with
      | some configuration => .ok configuration
      | none => .error (.malformed path)

/-- The request for a mapping.  Its destination and a relative schema are followed
from `base`. -/
def request (configuration : Configuration) (base : String) (mapping : Mapping) :
    Request where
  schema := some mapping.schema
  base := some base
  destination := some (Files.Path.join base configuration.destination)
  space := some mapping.space
  messages := configuration.messages
  flushSegments := configuration.flushSegments

/-- The settings of a run for every mapping. -/
def settings (configuration : Configuration) (base : String) :
    Except CompileError (List Settings) :=
  configuration.mappings.mapM fun mapping =>
    Settings.ofRequest (configuration.request base mapping)

end Configuration

end FlatMessage.Project
