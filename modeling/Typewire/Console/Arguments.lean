import Typewire.Error
import Typewire.Text.Similarity

/-!
# Arguments of the command line

Options may be written `--name value` or `--name=value`, and `-n value` or `-nvalue` where they have
a short form. The last occurrence of an option counts. Scanning checks the form of the arguments only;
what the values mean is checked afterwards.
-/
namespace Typewire.Console

/-- An option of the program or of one of its commands. -/
inductive Switch where
  | help
  | version
  | logLevel
  | input
  | output
  | parameter
  | compilerVersion
  | json
  deriving Repr, DecidableEq, Inhabited

namespace Switch

def long : Switch → String
  | help => "--help"
  | version => "--version"
  | logLevel => "--log-level"
  | input => "--input"
  | output => "--output"
  | parameter => "--parameter"
  | compilerVersion => "--compiler-version"
  | json => "--json"

/-- The short form. Every option with a short form takes a value. -/
def short? : Switch → Option String
  | input => some "-i"
  | output => some "-o"
  | parameter => some "-p"
  | _ => none

def takesValue : Switch → Bool
  | help | version | json => false
  | _ => true

/-- Both forms, as messages show them. -/
def hint (switch : Switch) : String :=
  match switch.short? with
  | some short => "'" ++ switch.long ++ "' / '" ++ short ++ "'"
  | none => "'" ++ switch.long ++ "'"

end Switch

inductive Command where
  | gen
  | info
  | plugin
  | styles
  deriving Repr, DecidableEq, Inhabited

namespace Command

def all : List Command :=
  [gen, info, plugin, styles]

def name : Command → String
  | gen => "gen"
  | info => "info"
  | plugin => "plugin"
  | styles => "styles"

def ofName? (name : String) : Option Command :=
  all.find? fun command => command.name = name

def switches : Command → List Switch
  | gen => [.input, .output, .parameter, .compilerVersion, .help]
  | info => [.input, .json, .help]
  | plugin => [.help]
  | styles => [.help]

end Command

def globalSwitches : List Switch :=
  [.version, .logLevel, .help]

inductive UsageFault where
  /-- No option has this name; some have similar ones. -/
  | noSuchOption (name : String) (similar : List String)
  /-- An option at the end lacks its value. -/
  | missingValue (name : String)
  /-- A value was given to an option that takes none. -/
  | unwantedValue (name : String)
  /-- No command has this name; some have similar ones. -/
  | noSuchCommand (name : String) (similar : List String)
  /-- There is no command. -/
  | missingCommand
  /-- Arguments are left over. -/
  | unexpected (arguments : List String)
  /-- A required option is missing. -/
  | missingOption (switch : Switch)
  /-- The input file is not there. -/
  | noSuchFile (switch : Switch) (path : String)
  /-- The input file is a directory. -/
  | isDirectory (switch : Switch) (path : String)
  /-- The value is none of the allowed ones. -/
  | notAmong (switch : Switch) (value : String) (choices : List String)
  /-- A value was refused for the given reason. -/
  | refused (error : Error)
  deriving Repr, DecidableEq

namespace UsageFault

/-- The words with which similar names are offered. -/
def offer : List String → String
  | [] => ""
  | [name] => " Did you mean " ++ Text.quoted name ++ "?"
  | names => " (Did you mean one of: " ++ String.intercalate ", " (names.map Text.quoted) ++ "?)"

def message : UsageFault → String
  | noSuchOption name similar => "No such option " ++ Text.quoted name ++ "." ++ offer similar
  | missingValue name => "Option " ++ Text.quoted name ++ " requires an argument."
  | unwantedValue name => "Option " ++ Text.quoted name ++ " does not take a value."
  | noSuchCommand name similar => "No such command " ++ Text.quoted name ++ "." ++ offer similar
  | missingCommand => "Missing command."
  | unexpected arguments =>
    (if arguments.length = 1 then "Got unexpected extra argument ("
      else "Got unexpected extra arguments (") ++ String.intercalate " " arguments ++ ")"
  | missingOption switch => "Missing option " ++ switch.hint ++ "."
  | noSuchFile switch path =>
    "Invalid value for " ++ switch.hint ++ ": File " ++ Text.quoted path ++ " does not exist."
  | isDirectory switch path =>
    "Invalid value for " ++ switch.hint ++ ": File " ++ Text.quoted path ++ " is a directory."
  | notAmong switch value choices =>
    "Invalid value for " ++ switch.hint ++ ": " ++ Text.quoted value ++ " is not one of " ++
      String.intercalate ", " (choices.map Text.quoted) ++ "."
  | refused error => "Invalid value: " ++ error.message

/-- Whether the usage of the command is shown with the fault. -/
def showsUsage : UsageFault → Bool
  | missingValue _ | unwantedValue _ => false
  | _ => true

end UsageFault

/-- Arguments sorted into options with their values and the rest. -/
structure Scanned where
  given : List (Switch × String) := []
  rest : List String := []
  deriving Repr, Inhabited

namespace Scanned

/-- The value of an option; an option without a value has the empty one. -/
def value? (scanned : Scanned) (switch : Switch) : Option String :=
  (scanned.given.findRev? fun entry => entry.1 = switch).map Prod.snd

def has (scanned : Scanned) (switch : Switch) : Bool :=
  (scanned.value? switch).isSome

/-- The arguments with one more option in front. -/
def withOption (switch : Switch) (value : String) (scanned : Scanned) : Scanned :=
  { scanned with given := (switch, value) :: scanned.given }

/-- The arguments with one more plain argument in front. -/
def withArgument (argument : String) (scanned : Scanned) : Scanned :=
  { scanned with rest := argument :: scanned.rest }

end Scanned

/-- How an argument starts an option. -/
inductive OptionStart where
  /-- An option that needs nothing more. -/
  | complete (switch : Switch) (value : String)
  /-- An option, under the name by which it was written, whose value is the next argument. -/
  | needsValue (switch : Switch) (name : String)

/-- Reads an argument that starts with a hyphen as a long option. -/
def startLong? (accepted : List Switch) (argument : List Char) :
    Option (Except UsageFault OptionStart) :=
  let name := String.ofList (argument.takeWhile (· != '='))
  let value := (argument.dropWhile (· != '=')).tail
  let hasValue := argument.contains '='
  (accepted.find? fun switch => switch.long = name).map fun switch =>
    if switch.takesValue then
      if hasValue then .ok (.complete switch (String.ofList value))
      else .ok (.needsValue switch name)
    else if hasValue then .error (.unwantedValue name)
    else .ok (.complete switch "")

/-- Reads an argument that starts with a hyphen as a short option. -/
def startShort (accepted : List Switch) (argument : List Char) : Except UsageFault OptionStart :=
  let name := String.ofList (argument.take 2)
  let value := argument.drop 2
  match accepted.find? fun switch => switch.short? = some name with
  | none => .error (.noSuchOption name [])
  | some switch =>
    if value.isEmpty then .ok (.needsValue switch name)
    else .ok (.complete switch (String.ofList value))

def unknownLong (accepted : List Switch) (argument : List Char) : UsageFault :=
  let name := String.ofList (argument.takeWhile (· != '='))
  .noSuchOption name (Text.similarWords (accepted.map Switch.long) name)

/-- Reads an argument that starts with a hyphen. After two hyphens only long options are tried. -/
def startOption (accepted : List Switch) (argument : List Char) : Except UsageFault OptionStart :=
  match startLong? accepted argument with
  | some start => start
  | none =>
    match argument with
    | '-' :: '-' :: _ => .error (unknownLong accepted argument)
    | _ => startShort accepted argument

/-- Whether an argument has the form of an option. -/
def isOption (argument : String) : Bool :=
  match argument.toList with
  | '-' :: _ :: _ => true
  | _ => false

/-- Sorts arguments. `interspersed` tells whether options may follow the first plain argument; two
hyphens on their own end the options. -/
def scan (accepted : List Switch) (interspersed : Bool) : List String → Except UsageFault Scanned
  | [] => .ok {}
  | argument :: others =>
    if argument = "--" then .ok { rest := others }
    else if isOption argument then
      match startOption accepted argument.toList with
      | .error fault => .error fault
      | .ok (.complete switch value) =>
        (scan accepted interspersed others).map (Scanned.withOption switch value)
      | .ok (.needsValue switch name) =>
        match others with
        | [] => .error (.missingValue name)
        | value :: others =>
          (scan accepted interspersed others).map (Scanned.withOption switch value)
    else if interspersed then
      (scan accepted interspersed others).map (Scanned.withArgument argument)
    else .ok { rest := argument :: others }

end Typewire.Console
