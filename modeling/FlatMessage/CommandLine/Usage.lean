import FlatMessage.CommandLine.Arguments

/-!
# Help

A page of help says what a command is for, how it is called, and what its words and
options mean.  The meanings of one section stand in one column, two blanks after its
widest entry.
-/

namespace FlatMessage.CommandLine

/-- What the program is called. -/
def programName : String :=
  "ironedi"

/-- What is printed for the version. -/
def versionText : String :=
  programName ++ " 0.1.0\n"

namespace Topic

/-- What a command is for. -/
def purpose : Topic → String
  | program => "IronEDI - EDI schema compiler and flat-file encoder"
  | compile => "Compile a schema model set into artifacts"
  | encode => "Encode a JSON instance as EDI text"
  | help => "Print this message or the help of the given subcommand(s)"

/-- How a command is called. -/
def call : Topic → String
  | program => programName
  | compile => programName ++ " compile"
  | encode => programName ++ " encode"
  | help => programName ++ " help"

end Topic

/-- An entry of a section and its meaning. -/
abbrev Line :=
  String × String

/-- How an option is written, after the letter that stands for it. -/
def optionLine (option : Specification) : Line :=
  let letter :=
    match option.letter with
    | some letter => "-" ++ letter.toString ++ ", "
    | none => "    "
  let value := if option.value = "" then "" else " <" ++ option.value ++ ">"
  (letter ++ "--" ++ option.name ++ value, option.purpose)

/-- The options of a grammar, with those that ask for help and the version. -/
def optionLines (grammar : Grammar) : List Line :=
  grammar.options.map optionLine ++
    ("-h, --help", "Print help") ::
      if grammar.hasVersion then [("-V, --version", "Print version")] else []

/-- The words of a grammar. -/
def wordLines (grammar : Grammar) : List Line :=
  grammar.words.map fun word => (word.label, word.purpose)

/-- A section with its title; an empty one is left out. -/
def titled (title : String) : List Line → String
  | [] => ""
  | lines =>
      let width := (lines.map fun line => line.1.length).foldl max 0
      let written := lines.map fun (entry, meaning) =>
        let gap := String.ofList (List.replicate (width + 2 - entry.length) ' ')
        "  " ++ entry ++ gap ++ meaning ++ "\n"
      "\n" ++ title ++ ":\n" ++ String.join written

/-- A page of help: its topic, what follows the name of the command, and its
sections. -/
def page (topic : Topic) (arguments : List String) (sections : List String) : String :=
  topic.purpose ++ "\n\nUsage: " ++ Text.join " " (topic.call :: arguments) ++ "\n" ++
    String.join sections

/-- The page of a command that a grammar describes. -/
def commandPage (grammar : Grammar) : String :=
  page grammar.topic ("[OPTIONS]" :: grammar.words.map Word.label)
    [titled "Arguments" (wordLines grammar), titled "Options" (optionLines grammar)]

/-- The commands of the program. -/
def commandLines : List Line :=
  [("compile", Topic.purpose .compile), ("encode", Topic.purpose .encode),
    ("help", Topic.purpose .help)]

/-- What is printed for help. -/
def helpText : Topic → String
  | .program =>
      page .program ["[OPTIONS]", "<COMMAND>"]
        [titled "Commands" commandLines, titled "Options" (optionLines programGrammar)]
  | .compile => commandPage compileGrammar
  | .encode => commandPage encodeGrammar
  | .help =>
      page .help ["[COMMAND]..."]
        [titled "Arguments" [("[COMMAND]...", "Print help for the subcommand(s)")]]

end FlatMessage.CommandLine
