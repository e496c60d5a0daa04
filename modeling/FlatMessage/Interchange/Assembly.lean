import FlatMessage.Artifact.Document
import FlatMessage.Interchange.Flavour
import FlatMessage.Text.Case

/-!
# Assembling interchanges

The messages of an interchange leave their codecs and factories to it.  Assembling
the interchange gives the documents that list its messages, and a factory that finds
a message by name.  Of several messages with one name the factory knows the last.
-/

namespace FlatMessage.Interchange

open Artifact (Document)
open Compiler (CompileError CompiledModel)

/-- A message of an interchange. -/
structure Message where
  name : String
  bindingPath : String
  model : CompiledModel

namespace Message

/-- The qualified name of the message's root type. -/
def rootType (message : Message) : String :=
  message.model.root.qualifiedName

/-- The descriptor of a message. -/
def descriptor (message : Message) : Json :=
  .objectOf
    [("name", .string message.name), ("bindingPath", .string message.bindingPath),
      ("rootType", .string message.rootType)]

end Message

/-- The lookup of an interchange's messages by name. -/
structure Factory where
  flavour : Flavour
  version : String
  name : String
  messages : List (String × Message)

namespace Factory

/-- The message with a name. -/
def message? (factory : Factory) (name : String) : Option Message :=
  Keyed.get? name factory.messages

end Factory

/-- The standard of an interchange. -/
def flavourOf (properties : Schema.InterchangeProperties) :
    Except CompileError Flavour :=
  match Flavour.ofName? properties.type with
  | some flavour => .ok flavour
  | none => .error (.unknownInterchange properties.type)

/-- The factory name in a namespace: its last segment in capitals and a fixed
ending. -/
def factoryName (space : String) : String :=
  let last := ((Naming.segments space).getLast?).getD space
  String.ofList (last.toList.flatMap Text.toUppercase) ++ "InterchangeFactory"

/-- The list of messages with their bindings. -/
def messagesDocument (space : String) (messages : List Message) : Document :=
  .ofTemplate space "message-bindings.json" "message-bindings"
    [("messages", .array (messages.map Message.descriptor))]

/-- The envelope of an interchange with the names of its messages. -/
def interchangeDocument (space : String) (flavour : Flavour) (version : String)
    (messages : List Message) : Document :=
  .ofTemplate space "interchange-bindings.json" "interchange-bindings"
    [("type", .string flavour.name), ("version", .string version),
      ("envelope", .array (flavour.envelope.map .string)),
      ("messages", .array (messages.map fun message => .string message.name))]

/-- The lookup of binding paths by message name. -/
def factoryDocument (space : String) (flavour : Flavour) (messages : List Message) :
    Document :=
  .ofTemplate space (factoryName space ++ ".json") "interchange-factory"
    [("flavour", .string flavour.name),
      ("class", .string (space ++ "." ++ factoryName space)),
      ("messages", .objectOf (messages.map fun message =>
        (message.name, .string message.bindingPath)))]

/-- Assemble the messages of an interchange in a namespace. -/
def assemble (properties : Schema.InterchangeProperties) (space : String)
    (messages : List Message) : Except CompileError (Factory × List Document) := do
  let flavour ← flavourOf properties
  .ok
    ({ flavour
       version := properties.version
       name := factoryName space
       messages := Keyed.ofList (messages.map fun message => (message.name, message)) },
      [messagesDocument space messages,
        interchangeDocument space flavour properties.version messages,
        factoryDocument space flavour messages])

end FlatMessage.Interchange
