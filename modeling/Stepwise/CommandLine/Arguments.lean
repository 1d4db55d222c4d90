/-
Module: Stepwise.CommandLine.Arguments
Purpose: Command-line arguments as requests.
Main exports: CommandLine.Request, CommandLine.shape, CommandLine.Reading.take,
  CommandLine.parseArguments
-/
import Stepwise.CommandLine.Settled

namespace Stepwise.CommandLine

/-!
Arguments are read from left to right.  An argument that is understood first
settles what is held, so faults come in the order of the arguments; but an
argument that is not understood is reported at once, before whatever is held.
A value attached by an equals sign is settled at once.

An argument that starts with a dash and is longer than the dash is never taken
for the value of the option before it.  Behind `--` every argument is a path.
-/

/-- What the arguments ask for. -/
inductive Request where
  | help (topic : Topic)
  | version
  | invoke (invocation : Invocation)
deriving Repr, Inhabited

/-- How one argument looks. -/
inductive Shape where
  | escape
  | long (name : String) (value : Option String)
  | short (letters : List Char)
  | plain
deriving Repr, Inhabited, DecidableEq

/-- The look of an argument. -/
def shape (argument : String) : Shape :=
  match argument.toList with
  | ['-', '-'] => .escape
  | '-' :: '-' :: rest =>
      let (name, value) := splitAtEquals rest
      .long (String.ofList name) (value.map String.ofList)
  | '-' :: letter :: letters => .short (letter :: letters)
  | _ => .plain

/-- Why reading the arguments of an action stops early. -/
inductive Stop where
  | help
  | fault (fault : UsageFault)
deriving Repr, Inhabited, DecidableEq

/-- The arguments of an action while they are read. -/
structure Reading where
  escaped : Bool
  settled : Settled
  held : Held
deriving Repr, Inhabited

namespace Reading

/-- Before any argument. -/
def start : Reading :=
  { escaped := false
    settled := .start
    held := .nothing }

/-- Settles what is held. -/
def settle (reading : Reading) (action : Action) : Except Stop Settled :=
  (reading.settled.settle action reading.held).mapError .fault

/-- Goes on with other settled arguments and holds something new. -/
def hold (reading : Reading) (settled : Settled) (held : Held) : Reading :=
  { reading with
    settled := settled
    held := held }

/-- Takes a long option that needs a value, attached to it or still to come. -/
def takeOption (reading : Reading) (action : Action) (option : ValueOption)
    (value : Option String) : Except Stop Reading := do
  let settled ← reading.settle action
  match value with
  | none => return reading.hold settled (.option option none)
  | some value =>
      return reading.hold (← (settled.setOption option value).mapError .fault) .nothing

/-- Takes a long option that needs no value. -/
def takeFlag (reading : Reading) (action : Action) (name : String) (value : Option String) :
    Except Stop Reading := do
  match value with
  | some value => .error (.fault (.unexpectedValue ("--" ++ name) value))
  | none =>
      let settled ← reading.settle action
      if name = "help" then .error .help
      else if settled.json then .error (.fault (.repeated "--json"))
      else return reading.hold { settled with json := true } .nothing

/-- Takes a long option with the value attached to it. -/
def takeLong (reading : Reading) (action : Action) (name : String) (value : Option String) :
    Except Stop Reading :=
  match ValueOption.ofName? name with
  | some option => reading.takeOption action option value
  | none =>
      if name = "help" || (name = "json" && action == .run) then
        reading.takeFlag action name value
      else .error (.fault (.unexpectedArgument ("--" ++ name)))

/-- Takes letters behind a single dash; only the one for help is known. -/
def takeShort (reading : Reading) (action : Action) (letters : List Char) :
    Except Stop Reading := do
  if letters.head? = some 'h' then
    let _ ← reading.settle action
    .error .help
  else .error (.fault (.unexpectedArgument (String.ofList ('-' :: letters.take 1))))

/-- Takes an argument that is not an option: the value that is waited for, or
the path, of which there is only one. -/
def takePlain (reading : Reading) (action : Action) (argument : String) :
    Except Stop Reading := do
  match reading.escaped, reading.held with
  | false, .option option none =>
      return reading.hold reading.settled (.option option (some argument))
  | _, .path _ => .error (.fault (.unexpectedArgument argument))
  | _, _ =>
      if reading.settled.path.isSome then .error (.fault (.unexpectedArgument argument))
      else return reading.hold (← reading.settle action) (.path argument)

/-- Takes one argument. -/
def take (reading : Reading) (action : Action) (argument : String) : Except Stop Reading :=
  match if reading.escaped then .plain else shape argument with
  | .escape => .ok { reading with escaped := true }
  | .long name value => reading.takeLong action name value
  | .short letters => reading.takeShort action letters
  | .plain => reading.takePlain action argument

end Reading

/-- Reads the arguments of an action. -/
def parseAction (action : Action) (arguments : List String) : Except Stop Settled := do
  let reading ← arguments.foldlM (fun reading argument => reading.take action argument)
    Reading.start
  reading.settle action

/-- What the arguments behind the word of an action ask for. -/
def parseInvocation (action : Action) (supplied : Option String) (arguments : List String) :
    Except UsageFault Request :=
  match parseAction action arguments with
  | .error .help => .ok (.help (.action action))
  | .error (.fault fault) => .error fault
  | .ok settled => (settled.complete action supplied).map .invoke

/-- What the arguments behind the word `help` ask for: at most one topic. -/
def parseHelp : List String → Except UsageFault Request
  | [] => .ok (.help .program)
  | word :: rest =>
      match Topic.ofWord? word, rest with
      | none, _ => .error (.unknownAction word)
      | some topic, [] => .ok (.help topic)
      | some _, further :: _ => .error (.unknownAction further)

/-- What an option in front of the action asks for. -/
def parseProgramOption (name : String) (value : Option String) : Except UsageFault Request :=
  if name = "help" || name = "version" then
    match value with
    | some value => .error (.unexpectedValue ("--" ++ name) value)
    | none => .ok (if name = "help" then .help .program else .version)
  else .error (.unexpectedArgument ("--" ++ name))

/-- What the arguments of the program ask for, given the ceiling factor that the
environment supplies.  Behind `--` no word names an action. -/
def parseArguments (supplied : Option String) (arguments : List String) :
    Except UsageFault Request :=
  match arguments with
  | [] => .error .nothingAsked
  | argument :: rest =>
      match shape argument with
      | .escape =>
          match rest with
          | [] => .error .nothingAsked
          | word :: _ =>
              if (Topic.ofWord? word).isSome then
                .error (.unexpectedArgument word)
              else .error (.unknownAction word)
      | .long name value => parseProgramOption name value
      | .short letters =>
          if letters.head? = some 'h' then .ok (.help .program)
          else if letters.head? = some 'V' then .ok .version
          else .error (.unexpectedArgument (String.ofList ('-' :: letters.take 1)))
      | .plain =>
          match Action.ofWord? argument with
          | some action => parseInvocation action supplied rest
          | none =>
              if argument = "help" then parseHelp rest else .error (.unknownAction argument)

end Stepwise.CommandLine
