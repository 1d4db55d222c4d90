/-
Module: Stepwise.CommandLine.Usage
Purpose: What can be wrong with command-line arguments, and the help texts.
Main exports: CommandLine.Action, CommandLine.ValueOption, CommandLine.UsageFault,
  CommandLine.UsageFault.message, CommandLine.Topic, CommandLine.Topic.text
-/
import Stepwise.CommandLine.Values
import Stepwise.Text.Control

namespace Stepwise.CommandLine

/-- What the program is asked to do. -/
inductive Action where
  | run
  | validate
deriving Repr, Inhabited, DecidableEq

namespace Action

/-- The word for an action. -/
def word : Action → String
  | .run => "run"
  | .validate => "validate"

/-- The action that a word stands for. -/
def ofWord? (word : String) : Option Action :=
  [Action.run, Action.validate].find? fun action => action.word == word

/-- How the path of an action is shown: in brackets if it may be missing. -/
def pathName : Action → String
  | .run => "[PATH]"
  | .validate => "<PATH>"

end Action

/-- The options that take a value. -/
inductive ValueOption where
  | ceilingFactor
  | context
deriving Repr, Inhabited, DecidableEq

namespace ValueOption

/-- The long name of an option. -/
def name : ValueOption → String
  | .ceilingFactor => "ceiling-factor"
  | .context => "context"

/-- The option with a long name. -/
def ofName? (name : String) : Option ValueOption :=
  [ceilingFactor, context].find? fun option => option.name == name

/-- How the value of an option is called. -/
def valueName : ValueOption → String
  | .ceilingFactor => "CEILING_FACTOR"
  | .context => "KEY=VALUE"

/-- How an option with its value is shown. -/
def shown (option : ValueOption) : String :=
  "--" ++ option.name ++ " <" ++ option.valueName ++ ">"

end ValueOption

/-- What is wrong with the arguments. -/
inductive UsageFault where
  | nothingAsked
  | unknownAction (word : String)
  | unexpectedArgument (argument : String)
  | unexpectedValue (option : String) (value : String)
  | repeated (option : String)
  | valueMissing (option : String)
  | invalidValue (option : ValueOption) (value : String) (why : String)
  | pathMissing
deriving Repr, Inhabited, DecidableEq

/-- Parts of a message that differ in emphasis, put together.  A change of
emphasis is a control sequence of its own, so no sequence reaches from one part
into the next, and every part is shown by itself. -/
def shownParts (parts : List String) : String :=
  String.join (parts.map Text.shown)

/-- The line that says what the program is for. -/
def about : String :=
  "Turn natural-language steps into a workflow, pseudocode and a reward"

/-- The parts of the first line about a fault.  Behind a reason, which may
quote the arguments without emphasis, the next lines are there as well, for an
open control sequence in it may reach into them. -/
def UsageFault.parts : UsageFault → List String
  | .nothingAsked => [about]
  | .unknownAction word => ["error:", " unrecognized subcommand '", word, "'"]
  | .unexpectedArgument argument => ["error:", " unexpected argument '", argument, "' found"]
  | .unexpectedValue option value =>
      ["error:", " unexpected value '", value, "' for '", option,
        "' found; no more were expected"]
  | .repeated option =>
      ["error:", " the argument '", option, "' cannot be used multiple times"]
  | .valueMissing option =>
      ["error:", " a value is required for '", option, "' but none was supplied"]
  | .invalidValue option value why =>
      ["error:", " invalid value '", value, "' for '", option.shown,
        "': " ++ why ++ "\n\nFor more information, try '", "--help", "'."]
  | .pathMissing => ["error:", " the following required arguments were not provided:"]

/-- The fault in words. -/
def UsageFault.message (fault : UsageFault) : String :=
  shownParts fault.parts

/-- What help can be about. -/
inductive Topic where
  | program
  | action (action : Action)
  | help
deriving Repr, Inhabited, DecidableEq

namespace Topic

/-- The topic that a word stands for. -/
def ofWord? (word : String) : Option Topic :=
  if word = "help" then some .help else (Action.ofWord? word).map .action

/-- The lines in front of the options. -/
def opening : Topic → List String
  | .program =>
      [about, "", "Usage: autoflow <COMMAND>", "", "Commands:",
        "  run       Run the full pipeline on a prompt",
        "  validate  Validate a workflow JSON file (an array of steps) and evaluate it",
        "  help      Print this message or the help of the given subcommand(s)", "",
        "Options:", "  -h, --help     Print help", "  -V, --version  Print version"]
  | .action .run =>
      ["Run the full pipeline on a prompt", "", "Usage: autoflow run [OPTIONS] [PATH]", "",
        "Arguments:", "  [PATH]  Prompt file; reads stdin when omitted", "", "Options:",
        "      --json",
        "          Print `\x7b workflow, pseudocode, reward \x7d` as JSON"]
  | .action .validate =>
      ["Validate a workflow JSON file (an array of steps) and evaluate it", "",
        "Usage: autoflow validate [OPTIONS] <PATH>", "", "Arguments:",
        "  <PATH>  Path to the workflow JSON file", "", "Options:"]
  | .help =>
      ["Print this message or the help of the given subcommand(s)", "",
        "Usage: autoflow help [COMMAND]...", "", "Arguments:",
        "  [COMMAND]...  Print help for the subcommand(s)"]

/-- The parts of the help on the options that both actions have, given the
ceiling factor that the environment supplies. -/
def optionParts (supplied : Option String) : List String :=
  ["      --ceiling-factor <CEILING_FACTOR>\n" ++
      "          Traversal ceiling as a multiple of the workflow length " ++
      "[env: AUTOFLOW_CEILING_FACTOR=" ++ supplied.getD "" ++ "] [default: 4]\n      ",
    "--context",
    " <KEY=VALUE>\n" ++
      "          Context entry `KEY=VALUE`; VALUE is parsed as JSON, or kept as a string\n" ++
      "  -h, --help\n          Print help\n"]

/-- The help text on a topic, given the ceiling factor that the environment
supplies. -/
def text (topic : Topic) (supplied : Option String) : String :=
  let opening := String.join (topic.opening.map fun line => line ++ "\n")
  match topic with
  | .action _ => opening ++ shownParts (optionParts supplied)
  | _ => opening

end Topic

end Stepwise.CommandLine
