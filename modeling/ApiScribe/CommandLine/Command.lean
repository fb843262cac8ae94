import ApiScribe.CommandLine.Arguments
import ApiScribe.CommandLine.Usage
import ApiScribe.Document.Scrape
import ApiScribe.Generation.Output

/-!
# Commands

The arguments of the program name a command and what it works on.  Each command has a parser of its
own for what follows its name.
-/

namespace ApiScribe.CommandLine

/-- What the program is asked to do.  A missing directory of templates or a missing output of a
scrape has no fixed default. -/
inductive Command where
  | generate (document heading configuration : String) (templates : Option String)
      (output : String)
  | scrape (document heading : String) (output : Option String)
  | check (document heading : String)
  deriving DecidableEq, Repr

/-- The configuration of a run that names none. -/
def defaultConfiguration : String := "templates/configuration.json"

/-- The commands by name. -/
inductive Verb where
  | generate
  | scrape
  | check
  deriving DecidableEq, Repr

namespace Verb

/-- All commands, in the order in which they are listed. -/
def all : List Verb := [.generate, .scrape, .check]

/-- The name of a command. -/
def name : Verb → String
  | .generate => "generate"
  | .scrape => "scrape"
  | .check => "check"

/-- The command of a name. -/
def ofName? (s : String) : Option Verb := all.find? (·.name == s)

/-- The parser of what follows the name of a command. -/
def grammar (verb : Verb) : Grammar where
  title := program ++ " " ++ verb.name
  usage := match verb with
    | .generate => Usage.generate
    | .scrape => Usage.scrape
    | .check => Usage.check
  help := match verb with
    | .generate => Help.generate
    | .scrape => Help.scrape
    | .check => Help.check
  settings := match verb with
    | .generate => [.headingTag, .config, .templates, .output]
    | .scrape => [.headingTag, .output]
    | .check => [.headingTag]
  extent := .single

/-- The command with a document and the options that were given. -/
def command (verb : Verb) (document : String) (p : Parsed) : Command :=
  let heading := (p.setting? .headingTag).getD Document.defaultHeading
  match verb with
  | .generate =>
    .generate document heading ((p.setting? .config).getD defaultConfiguration)
      (p.setting? .templates) ((p.setting? .output).getD TargetFiles.defaultDirectory)
  | .scrape => .scrape document heading (p.setting? .output)
  | .check => .check document heading

end Verb

/-- The parser of the arguments of the program. -/
def topGrammar : Grammar where
  title := program
  usage := Usage.top
  help := Help.top
  settings := []
  extent := .everything

/-- The command that the arguments after its name ask for, and what is left of them. -/
def ofArguments (verb : Verb) (arguments : List String) :
    Except Stop (Command × List String) := do
  let p ← verb.grammar.parse arguments
  match p.positional with
  | some (document :: _) => return (verb.command document p, p.unclaimed)
  | _ => throw (verb.grammar.misuse "the following arguments are required: document")

/-- Refuses a name that is not the name of a command. -/
def unknownCommand (name : String) : Stop :=
  topGrammar.misuseOf "COMMAND" ("invalid choice: " ++ Text.quotedString name ++ " (choose from " ++
    ", ".intercalate (Verb.all.map fun verb => Text.quotedString verb.name) ++ ")")

/-- Refuses arguments that belong to nothing. -/
def refuseUnclaimed (arguments : List String) : Except Stop Unit :=
  if arguments.isEmpty then .ok ()
  else .error (topGrammar.misuse ("unrecognized arguments: " ++ " ".intercalate arguments))

/-- What the arguments of the program ask for; without any it shows its help. -/
def Command.parse (arguments : List String) : Except Stop Command := do
  let p ← topGrammar.parse arguments
  match p.positional with
  | some (name :: more) =>
    match Verb.ofName? name with
    | none => throw (unknownCommand name)
    | some verb =>
      let (command, unclaimed) ← ofArguments verb more
      refuseUnclaimed (p.unclaimed ++ unclaimed)
      return command
  | _ =>
    refuseUnclaimed p.unclaimed
    throw topGrammar.helpStop

end ApiScribe.CommandLine
