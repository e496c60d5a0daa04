import FlatMessage.Text.Split

/-!
# Command line arguments

The command line names one of two commands.  Options may stand anywhere between the
words of a command; an option is given at most once unless it is a list.  The value of
an option follows it as the next argument, or after an equals sign, or right after a
one-letter name.  A double hyphen ends the options.
-/

namespace FlatMessage.CommandLine

/-- What an option takes. -/
inductive Kind
  | flag
  | text
  /-- A text that is not empty. -/
  | path
  deriving DecidableEq, Repr

/-- An option of a command. -/
structure Specification where
  name : String
  letter : Option Char
  kind : Kind
  /-- What the value is called; empty for a flag. -/
  value : String
  purpose : String
  isList : Bool
  deriving DecidableEq, Repr

/-- A word of a command. -/
structure Word where
  /-- What the word is called, between the brackets that say whether it has to be
  given. -/
  label : String
  kind : Kind
  purpose : String
  deriving DecidableEq, Repr

/-- What help can be asked for. -/
inductive Topic
  | program
  | compile
  | encode
  | help
  deriving DecidableEq, Repr

/-- What a command takes. -/
structure Grammar where
  topic : Topic
  options : List Specification
  words : List Word
  deriving DecidableEq, Repr

/-- Whether the version can be asked for. -/
def Grammar.hasVersion (grammar : Grammar) : Bool :=
  grammar.topic = .program

/-- Why arguments are not a command to carry out. -/
inductive Stop
  | help (topic : Topic)
  | version
  | usage
  deriving DecidableEq, Repr

/-- The options and words that have been read, in order. -/
structure Reading where
  options : List (String × String)
  words : List String

namespace Reading

/-- Nothing is read. -/
def start : Reading :=
  ⟨[], []⟩

/-- The value of an option. -/
def value? (reading : Reading) (name : String) : Option String :=
  reading.options.lookup name

/-- The values of an option that is a list. -/
def values (reading : Reading) (name : String) : List String :=
  (reading.options.filter (·.1 = name)).map Prod.snd

/-- Whether a flag is given. -/
def hasFlag (reading : Reading) (name : String) : Bool :=
  (reading.value? name).isSome

/-- Whether a kind accepts a value. -/
def accepts (kind : Kind) (value : String) : Bool :=
  kind ≠ .path || value ≠ ""

/-- Add the value of an option. -/
def addOption (reading : Reading) (option : Specification) (value : String) :
    Except Stop Reading :=
  if reading.hasFlag option.name && !option.isList then .error .usage
  else if accepts option.kind value then
    .ok { reading with options := reading.options ++ [(option.name, value)] }
  else .error .usage

/-- Add a word. -/
def addWord (reading : Reading) (grammar : Grammar) (word : String) :
    Except Stop Reading :=
  match grammar.words[reading.words.length]? with
  | none => .error .usage
  | some expected =>
      if accepts expected.kind word then .ok { reading with words := reading.words ++ [word] }
      else .error .usage

end Reading

/-! ## Reading arguments -/

/-- What an argument with hyphens means. -/
inductive Sign
  | option (specification : Specification) (value : Option String)
  | stop (stop : Stop)

/-- The meaning of an option with its full name, without its hyphens. -/
def longSign (grammar : Grammar) (text : String) : Sign :=
  let (name, value) :=
    match Text.cut? '=' text with
    | some (name, value) => (name, some value)
    | none => (text, none)
  match grammar.options.find? (·.name = name) with
  | some option => .option option value
  | none =>
      if name = "help" ∧ value.isNone then .stop (.help grammar.topic)
      else if name = "version" ∧ value.isNone ∧ grammar.hasVersion then .stop .version
      else .stop .usage

/-- The meaning of an option with a one-letter name, without its hyphen. -/
def shortSign (grammar : Grammar) (letter : Char) (rest : List Char) : Sign :=
  match grammar.options.find? (·.letter = some letter) with
  | some option =>
      let value :=
        match rest with
        | [] => none
        | '=' :: value => some (String.ofList value)
        | value => some (String.ofList value)
      .option option value
  | none =>
      if letter = 'h' then .stop (.help grammar.topic)
      else if letter = 'V' ∧ grammar.hasVersion then .stop .version
      else .stop .usage

/-- The meaning of an argument, unless it is a word. -/
def sign? (grammar : Grammar) (argument : String) : Option Sign :=
  match argument.toList with
  | '-' :: '-' :: name => some (longSign grammar (String.ofList name))
  | '-' :: letter :: rest => some (shortSign grammar letter rest)
  | _ => none

/-- Whether an argument can be the value of the option before it. -/
def isSeparateValue (argument : String) : Bool :=
  match argument.toList with
  | '-' :: _ :: _ => false
  | _ => true

/-- Read the words after a double hyphen. -/
def readWords (grammar : Grammar) (reading : Reading) :
    List String → Except Stop Reading
  | [] => .ok reading
  | word :: rest => do readWords grammar (← reading.addWord grammar word) rest

/-- Read the arguments of a command.  `awaited` is the option that the next argument
is the value of. -/
def readArguments (grammar : Grammar) (awaited : Option Specification)
    (reading : Reading) : List String → Except Stop Reading
  | [] => if awaited.isSome then .error .usage else .ok reading
  | argument :: rest =>
      match awaited with
      | some option =>
          if isSeparateValue argument then do
            readArguments grammar none (← reading.addOption option argument) rest
          else .error .usage
      | none =>
          if argument = "--" then readWords grammar reading rest
          else
            match sign? grammar argument with
            | none => do
                readArguments grammar none (← reading.addWord grammar argument) rest
            | some (.stop stop) => .error stop
            | some (.option option (some value)) =>
                if option.kind = .flag then .error .usage
                else do
                  readArguments grammar none (← reading.addOption option value) rest
            | some (.option option none) =>
                if option.kind = .flag then do
                  readArguments grammar none (← reading.addOption option "") rest
                else readArguments grammar (some option) reading rest

/-- Split arguments before the first word, which names the command. -/
def readCommandName (grammar : Grammar) (awaited : Option Specification)
    (reading : Reading) : List String → Except Stop (String × List String)
  | [] => .error .usage
  | argument :: rest =>
      match awaited with
      | some option =>
          if isSeparateValue argument then do
            readCommandName grammar none (← reading.addOption option argument) rest
          else .error .usage
      | none =>
          if argument = "--" then .error .usage
          else
            match sign? grammar argument with
            | none => .ok (argument, rest)
            | some (.stop stop) => .error stop
            | some (.option option (some value)) => do
                readCommandName grammar none (← reading.addOption option value) rest
            | some (.option option none) =>
                readCommandName grammar (some option) reading rest

/-! ## Commands -/

/-- Compile schemas into documents. -/
structure CompileCommand where
  schema : Option String
  space : Option String
  destination : Option String
  messages : Option String
  configuration : Option String
  /-- Whether the destination is removed first. -/
  clean : Bool
  deriving DecidableEq, Repr

/-- Encode an instance. -/
structure EncodeCommand where
  schema : String
  source : String
  message : Option String
  destination : Option String
  /-- The delimiters to override, as `KIND=TEXT`. -/
  overrides : List String
  flushSegments : Bool
  deriving DecidableEq, Repr

/-- A command to carry out. -/
inductive Command
  | compile (command : CompileCommand)
  | encode (command : EncodeCommand)
  deriving DecidableEq, Repr

/-- The option that sets how much is logged, which every command takes. -/
def logLevel : Specification :=
  ⟨"log-level", none, .text, "LOG_LEVEL", "Log level (overridden by RUST_LOG)", false⟩

/-- The arguments before a command. -/
def programGrammar : Grammar :=
  ⟨.program, [logLevel], []⟩

/-- The arguments of the compile command. -/
def compileGrammar : Grammar where
  topic := .compile
  options :=
    [logLevel,
      ⟨"namespace", some 'n', .text, "NAMESPACE", "Base namespace", false⟩,
      ⟨"out", some 'o', .path, "OUT", "Output root", false⟩,
      ⟨"messages", some 'm', .text, "MESSAGES", "Comma-separated message allow-list",
        false⟩,
      ⟨"config", some 'c', .path, "CONFIG", "Config file listing mappings", false⟩,
      ⟨"clean", none, .flag, "", "Remove the output root before compiling", false⟩]
  words :=
    [⟨"[SCHEMA]", .text, "Root schema reference (edimap document or .toml manifest)"⟩]

/-- The arguments of the encode command. -/
def encodeGrammar : Grammar where
  topic := .encode
  options :=
    [logLevel,
      ⟨"message", some 'm', .text, "MESSAGE",
        "Message to encode when the schema holds several", false⟩,
      ⟨"out", some 'o', .path, "OUT", "Output file (defaults to stdout)", false⟩,
      ⟨"delimiter", some 'd', .text, "KIND=TEXT",
        "Delimiter override, e.g. \x60field=|\x60 or \x60escape=\\\x60", true⟩,
      ⟨"flush-segments", none, .flag, "", "Flush after every segment", false⟩]
  words :=
    [⟨"<SCHEMA>", .path, "Schema document or .toml manifest"⟩,
      ⟨"<INSTANCE>", .path, "JSON instance file"⟩]

/-- The compile command that arguments give. -/
def compileCommand (reading : Reading) : CompileCommand where
  schema := reading.words.head?
  space := reading.value? "namespace"
  destination := reading.value? "out"
  messages := reading.value? "messages"
  configuration := reading.value? "config"
  clean := reading.hasFlag "clean"

/-- The encode command that arguments give; it needs both of its words. -/
def encodeCommand (reading : Reading) : Except Stop EncodeCommand :=
  match reading.words with
  | [schema, source] =>
      .ok
        { schema, source
          message := reading.value? "message"
          destination := reading.value? "out"
          overrides := reading.values "delimiter"
          flushSegments := reading.hasFlag "flush-segments" }
  | _ => .error .usage

/-- The command that arguments give. -/
def Command.ofArguments (arguments : List String) : Except Stop Command := do
  let (name, rest) ← readCommandName programGrammar none .start arguments
  if name = "compile" then do
    let reading ← readArguments compileGrammar none .start rest
    .ok (.compile (compileCommand reading))
  else if name = "encode" then do
    let reading ← readArguments encodeGrammar none .start rest
    .ok (.encode (← encodeCommand reading))
  else if name = "help" then
    match rest with
    | [] => .error (.help .program)
    | ["compile"] => .error (.help .compile)
    | ["encode"] => .error (.help .encode)
    | ["help"] => .error (.help .help)
    | _ => .error .usage
  else .error .usage

end FlatMessage.CommandLine
