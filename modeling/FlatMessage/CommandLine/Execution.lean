import FlatMessage.Codec.Delivery
import FlatMessage.CommandLine.Arguments
import FlatMessage.Json.Parser
import FlatMessage.Project.Configuration
import FlatMessage.Project.Run

/-!
# Carrying out commands

A command reads and changes files, prints to the standard output, and may fail with a
report.  What it printed and wrote before a failure stays.

The compile command takes either a schema with a namespace, or a configuration.  The
encode command compiles one message of a schema, with the shared definitions of its
model set, and writes an instance of it.
-/

namespace FlatMessage.CommandLine

open Codec (CompiledType)
open Compiler (CompileError CompiledModel Options Registry Target)
open Delimiter (Table)
open Files (FileError Tree)
open Project (Configuration ConfigurationError Settings)
open Schema (LoadError ModelSet)

/-- Why a command fails. -/
inductive CommandError
  | namespaceMissing
  | nothingToCompile
  | configuration (error : ConfigurationError)
  | compile (error : CompileError)
  | notCleaned (path : String)
  | load (error : LoadError)
  | noMessage (schema : String)
  | messageNotCompiled (key : String)
  | malformedOverride (text : String)
  | declaration (error : Encoder.DeclarationError)
  | unreadableInstance (path : String)
  | malformedInstance (path : String)
  | instanceNotObject (path : String)
  | files (failure : FileError)
  | write (error : Codec.WriteError)
  deriving DecidableEq, Repr

/-- The report of a failed command. -/
def CommandError.message : CommandError → String
  | namespaceMissing => "--namespace is required with a schema"
  | nothingToCompile => "nothing to compile: pass a schema or a config file"
  | configuration error => error.message
  | compile error => error.message
  | notCleaned path => s!"cannot clean {path}"
  | load error => error.message
  | noMessage schema => s!"no matching message in {schema}"
  | messageNotCompiled key => s!"cannot compile {key}"
  | malformedOverride text => s!"delimiter override '{text}' is not KIND=TEXT"
  | declaration error => error.message
  | unreadableInstance path => s!"cannot read {path}"
  | malformedInstance path => s!"invalid JSON in {path}"
  | instanceNotObject path => s!"instance {path} must be a JSON object"
  | files failure => failure.message
  | write error => error.message

/-- How a command ends. -/
structure Outcome where
  /-- What is printed to the standard output. -/
  output : String
  failure : Option CommandError

/-- The exit code of a fault: a suitable value without a text. -/
def faultCode : UInt32 :=
  101

/-- The exit code of a command. -/
def Outcome.exitCode (outcome : Outcome) : UInt32 :=
  match outcome.failure with
  | none => 0
  | some (.write (.fault _)) => faultCode
  | some _ => 1

/-- A command that fails without printing anything. -/
def Outcome.fail (error : CommandError) : Outcome :=
  ⟨"", some error⟩

/-! ## Compiling -/

/-- Report a failure of one kind as that of a command. -/
def lift {ε α : Type} (report : ε → CommandError) :
    Except ε α → Except CommandError α
  | .ok value => .ok value
  | .error error => .error (report error)

/-- The configuration of a compile command: the given one, or the one in the working
directory. -/
def configurationOf (tree : Tree) (command : CompileCommand) :
    Except CommandError (Option Configuration) :=
  match command.configuration with
  | some path => some <$> lift .configuration (Configuration.read tree path)
  | none =>
      if tree.isFile Configuration.defaultPath then
        some <$> lift .configuration (Configuration.read tree Configuration.defaultPath)
      else .ok none

/-- The settings of the run that compiles a given schema. -/
def schemaSettings (command : CompileCommand) (schema : String) :
    Except CommandError Settings := do
  let space ←
    match command.space with
    | some space => .ok space
    | none => .error .namespaceMissing
  lift .compile <| Settings.ofRequest
    { schema := some schema
      base := none
      destination := some (command.destination.getD Configuration.defaultDestination)
      space := some space
      messages := command.messages
      flushSegments := false }

/-- The directory that a configuration's paths are followed from. -/
def configurationBase (command : CompileCommand) : String :=
  ((command.configuration.bind Files.Path.parent?)).getD "."

/-- The settings of all runs of a compile command. -/
def settingsOf (tree : Tree) (command : CompileCommand) :
    Except CommandError (List Settings) := do
  let configuration ← configurationOf tree command
  match command.schema, configuration with
  | some schema, _ => do
      let settings ← schemaSettings command schema
      .ok [settings]
  | none, none => .error .nothingToCompile
  | none, some configuration =>
      lift .compile <| Configuration.settings
        { configuration with
          destination := command.destination.getD configuration.destination
          messages := command.messages.or configuration.messages }
        (configurationBase command)

/-- Remove a directory of an earlier run, if there is one. -/
def clean (tree : Tree) (destination : String) : Except CommandError Unit × Tree :=
  if tree.isDirectory destination then
    match tree.removeDirectories destination with
    | (.error _, tree) => (.error (.notCleaned destination), tree)
    | (.ok (), tree) => (.ok (), tree)
  else (.ok (), tree)

/-- Carry out runs one after the other, up to the first failure.  `output` is what has
been printed. -/
def compileAll (isClean : Bool) (output : String) (tree : Tree) :
    List Settings → Outcome × Tree
  | [] => (⟨output, none⟩, tree)
  | settings :: rest =>
      let cleaned :=
        if isClean then clean tree settings.destination else (.ok (), tree)
      match cleaned with
      | (.error error, tree) => (⟨output, some error⟩, tree)
      | (.ok (), tree) =>
          match Project.run tree settings with
          | (.error error, tree) => (⟨output, some (.compile error)⟩, tree)
          | (.ok completion, tree) =>
              let lines := String.join (completion.paths.map (· ++ "\n"))
              compileAll isClean (output ++ lines) tree rest

/-- Carry out a compile command. -/
def CompileCommand.run (command : CompileCommand) (tree : Tree) : Outcome × Tree :=
  match settingsOf tree command with
  | .error error => (.fail error, tree)
  | .ok runs => compileAll command.clean "" tree runs

/-! ## Encoding -/

/-- The namespace of a message that is compiled to be encoded. -/
def encodeSpace : String :=
  "ironedi.encode"

/-- Compile the shared definitions of a model set into an empty registry. -/
def definitionsRegistry (set : ModelSet) (flushSegments : Bool) :
    Except CommandError Registry :=
  match set.definitions? with
  | none => .ok []
  | some definitions =>
      let target : Target :=
        { space := encodeSpace ++ ".common"
          options := { Options.definitions with flushSegments } }
      match Compiler.compile target definitions [] with
      | (.error error, _) => .error (.compile error)
      | (.ok _, registry) => .ok registry

/-- Compile the message that is to be encoded: the first one, or the first with the
given name. -/
def compiledMessage (tree : Tree) (command : EncodeCommand) :
    Except CommandError CompiledModel := do
  let set ← lift .load (ModelSet.load tree command.schema ".")
  let registry ← definitionsRegistry set command.flushSegments
  let isWanted (model : Schema.Model) : Bool :=
    command.message.all (· = model.description.name)
  match set.messages.find? isWanted with
  | none => .error (.noMessage command.schema)
  | some message =>
      let target : Target :=
        { space := encodeSpace
          options :=
            { Options.standalone with flushSegments := command.flushSegments } }
      match Compiler.compile target message registry with
      | (.error _, _) => .error (.messageNotCompiled message.key)
      | (.ok compiled, _) => .ok compiled

/-- Override a delimiter or the escape text. -/
def override (table : Table) (text : String) : Except CommandError Table :=
  match Text.cut? '=' text with
  | none => .error (.malformedOverride text)
  | some (kind, text) =>
      if kind = "escape" then .ok (table.withEscape (some text))
      else (lift .declaration (Encoder.levelOf kind)).map fun level => table.set level text

/-- Read the instance that is to be encoded. -/
def readInstance (tree : Tree) (path : String) : Except CommandError Bean :=
  match tree.readText path with
  | .error _ => .error (.unreadableInstance path)
  | .ok text =>
      match Json.ofText? text with
      | none => .error (.malformedInstance path)
      | some json =>
          match Bean.ofJson? json with
          | none => .error (.instanceNotObject path)
          | some bean => .ok bean

/-- What an encode command writes: a bean of a type under a delimiter table. -/
structure Encoding where
  type : CompiledType
  table : Table
  bean : Bean

/-- Read everything that an encode command needs. -/
def encodingOf (tree : Tree) (command : EncodeCommand) :
    Except CommandError Encoding := do
  let model ← compiledMessage tree command
  let table ← command.overrides.foldlM override model.delimiters
  let bean ← readInstance tree command.source
  .ok ⟨model.root, table, bean⟩

/-- The failure of a delivery as that of a command. -/
def deliveryFailure (delivery : Codec.Delivery) : Option CommandError :=
  match delivery.outcome with
  | .ok () => none
  | .error error => some (.write error)

/-- Carry out an encode command. -/
def EncodeCommand.run (command : EncodeCommand) (tree : Tree) : Outcome × Tree :=
  match encodingOf tree command with
  | .error error => (.fail error, tree)
  | .ok encoding =>
      let delivery := encoding.type.deliver encoding.table none encoding.bean
      let failure := deliveryFailure delivery
      match command.destination with
      | none =>
          let ending := if failure.isNone then "\n" else ""
          (⟨Text.ofBytesLossy delivery.bytes ++ ending, failure⟩, tree)
      | some path =>
          match tree.writeFile path delivery.bytes with
          | .error failure => (.fail (.files failure), tree)
          | .ok tree => (⟨"", failure⟩, tree)

/-! ## Both commands -/

/-- Carry out a command. -/
def Command.run (command : Command) (tree : Tree) : Outcome × Tree :=
  match command with
  | .compile command => command.run tree
  | .encode command => command.run tree

end FlatMessage.CommandLine
