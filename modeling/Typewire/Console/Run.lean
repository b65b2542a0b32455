import Typewire.Console.FileTree
import Typewire.Console.Help
import Typewire.Console.Report
import Typewire.Generator
import Typewire.Text.Escape

/-!
# Runs of the program

A run is a function of the arguments and of what the program finds around it. Its outcome says what is
printed, which files are to be written and how the program ends. Carrying it out may end the run at
the first file that cannot be written.

The checks come in a fixed order: the form of the options of the program, their values, the name of
the command, and then the same for the command.
-/
namespace Typewire.Console

/-- The two programs: the command line, and the plugin that the schema compiler starts. -/
inductive Program where
  | commandLine
  | plugin
  deriving Repr, DecidableEq, Inhabited

def Program.name : Program → String
  | commandLine => "pbts"
  | plugin => "protoc-gen-pbts"

/-- The variables of the environment that matter. -/
def knownVariables : List String :=
  ["PBTS_LOG_LEVEL", "COLUMNS", "LINES", "TERM", "COLORTERM", "FORCE_COLOR", "TTY_COMPATIBLE",
   "NO_COLOR"]

/-- What a program finds around it. -/
structure Surroundings where
  program : Program := .commandLine
  arguments : List String := []
  standardInput : Wire.Bytes := []
  /-- Whether the standard input is a terminal. -/
  isTerminal : Bool := false
  environment : Environment := fun _ => none
  /-- What a path leads to. -/
  node : String → Node := fun _ => .missing

def Surroundings.helpWidth (surroundings : Surroundings) : Nat :=
  Console.helpWidth (helpColumns (surroundings.environment "COLUMNS"))

/-- What breaks off a run without a report. -/
inductive Failure where
  | error (error : Error)
  | file (fault : FileFault)
  /-- A text of a table has style tags that are not in order. -/
  | tags
  deriving Repr, DecidableEq

/-- What a fault in the tags of a text is to a run. -/
def Failure.ofMarkup : Text.MarkupFault → Failure
  | .badNumber fault => .error (.badNumber fault)
  | .unpairedTag | .malformedAction => .tags

/-- How a run ends. -/
structure Outcome where
  exitCode : Nat := 0
  standardOutput : Wire.Bytes := []
  standardError : String := ""
  /-- The files to be written, in order. -/
  writes : List Write := []
  /-- What broke off the run. -/
  failure : Option Failure := none
  deriving Inhabited

namespace Outcome

def printed (lines : List String) : String :=
  String.join (lines.map (· ++ "\n"))

def success (lines : List String) : Outcome :=
  { standardOutput := Wire.encodeText (printed lines) }

def failed (exitCode : Nat) (lines : List String) : Outcome :=
  { exitCode, standardError := Text.plainText (printed lines) }

def broken (failure : Failure) : Outcome :=
  { exitCode := 1, failure := some failure }

def ofError (error : Error) : Outcome :=
  if error.isReportable then failed 1 ["error: " ++ error.message] else broken (.error error)

/-- A run that prints a title and a table. A table that cannot be shown breaks it off. -/
def table (display : Display) (title : List (List Text.Segment)) (table : Table) : Outcome :=
  match table.lines display.width with
  | .ok lines => success ((title ++ lines).map display.line)
  | .error fault =>
    { success (title.map display.line) with exitCode := 1, failure := some (.ofMarkup fault) }

/-- Carries out the writes of an outcome in a tree of files. Each one is reported when it is done, and
one that fails breaks off the run. -/
def carryOut (tree : FileTree) (outcome : Outcome) : FileTree × Outcome :=
  let result := tree.writeAll outcome.writes
  let notices := Wire.encodeText (printed (result.complete.map Write.notice))
  let settled := { outcome with standardOutput := outcome.standardOutput ++ notices }
  match result.fault with
  | none => (result.tree, settled)
  | some fault => (result.tree, { settled with exitCode := 1, failure := some (.file fault) })

end Outcome

def programVersion : String := "0.3.0"

def logLevels : List String :=
  ["debug", "info", "warning", "error"]

def defaultLogLevel : String := "warning"

/-- A log level in its usual spelling. Case does not matter. -/
def checkLogLevel (value : String) : Except UsageFault String :=
  let lowered := String.ofList (value.toList.map Char.toLower)
  if logLevels.contains lowered then .ok lowered
  else .error (.notAmong .logLevel value logLevels)

/-- The log level of a run: an option first, then the environment. -/
def chooseLogLevel (surroundings : Surroundings) (scanned : Scanned) : Except UsageFault String :=
  match (scanned.value? .logLevel).or ((surroundings.environment "PBTS_LOG_LEVEL").filter (· ≠ "")) with
  | some value => checkLogLevel value
  | none => .ok defaultLogLevel

/-- Goes on with the bytes of the required input file. -/
def withInput (surroundings : Surroundings) (scanned : Scanned)
    (next : Wire.Bytes → Except UsageFault Outcome) : Except UsageFault Outcome :=
  match scanned.value? .input with
  | none => .error (.missingOption .input)
  | some path =>
    if path.toList.contains '\x00' then .ok (.broken (.file .nullCharacter))
    else
      match surroundings.node path with
      | .missing => .error (.noSuchFile .input path)
      | .directory => .error (.isDirectory .input path)
      | .file content => next content

/-- Refuses arguments that are left over. -/
def checkRest (scanned : Scanned) : Except UsageFault Unit :=
  if scanned.rest.isEmpty then .ok () else .error (.unexpected scanned.rest)

/-! ### Commands -/

/-- The file to be written for a generated one. -/
def writeOf (directory : String) (file : GeneratedFile) : Write :=
  let path := (CleanPath.within directory file.name).text
  { path, text := file.content, notice := Text.plainText ("Generated " ++ path) }

/-- The result of generating code from a descriptor set. -/
def generateOutcome (directory parameter : String) (version : Version) (content : Wire.Bytes) :
    Outcome :=
  let result : Except Error (List GeneratedFile) := do
    let files ← Schema.decodeSet content
    let (generated, _) ← generate { files, parameter, compilerVersion := version }
    return generated
  match result with
  | .error error => .ofError error
  | .ok generated => { writes := generated.map (writeOf directory) }

def runGen (surroundings : Surroundings) (scanned : Scanned) : Except UsageFault Outcome :=
  withInput surroundings scanned fun content => do
    checkRest scanned
    match Version.parse ((scanned.value? .compilerVersion).getD "0.0.0") with
    | .error (.malformedVersion text) => .error (.refused (.malformedVersion text))
    | .error error => return .ofError error
    | .ok version =>
      let directory := (scanned.value? .output).getD "."
      let parameter := (scanned.value? .parameter).getD "style=grpc-js"
      return generateOutcome directory parameter version content

def runInfo (surroundings : Surroundings) (display : Display) (scanned : Scanned) :
    Except UsageFault Outcome :=
  withInput surroundings scanned fun content => do
    checkRest scanned
    match Schema.decodeSet content with
    | .error error => return .ofError error
    | .ok files =>
      let summaries := files.map Summary.ofFile
      if scanned.has .json then return .success (summariesJson summaries)
      else return .table display (summaryTitle display.width) (summaryTable summaries)

/-- Answers the request on the standard input. -/
def runPlugin (surroundings : Surroundings) (scanned : Scanned) : Except UsageFault Outcome := do
  checkRest scanned
  if surroundings.isTerminal then return .failed 1 pluginNotice
  else
    match respond surroundings.standardInput with
    | .error error => return .ofError error
    | .ok response => return { standardOutput := response }

def runStyles (display : Display) (scanned : Scanned) : Except UsageFault Outcome := do
  checkRest scanned
  return .table display [] styleTable

def runCommand (surroundings : Surroundings) (display : Display) (path : String)
    (command : Command) (arguments : List String) : Except UsageFault Outcome := do
  let scanned ← scan command.switches true arguments
  if scanned.has .help then return .success (commandHelp surroundings.helpWidth path command)
  else
    match command with
    | .gen => runGen surroundings scanned
    | .info => runInfo surroundings display scanned
    | .plugin => runPlugin surroundings scanned
    | .styles => runStyles display scanned

/-! ### The program -/

/-- The outcome of a step, with faults reported under a usage line. -/
def reporting (path usage : String) : Except UsageFault Outcome → Outcome
  | .ok outcome => outcome
  | .error fault => .failed 2 (faultLines path usage fault)

/-- The outcome that help and version options ask for; the first of them counts. -/
def immediate? (surroundings : Surroundings) (program : String) (scanned : Scanned) :
    Option Outcome :=
  scanned.given.findSome? fun
    | (.help, _) => some (.success (programHelp surroundings.helpWidth program))
    | (.version, _) => some (.success ["pbts, version " ++ programVersion])
    | _ => none

/-- The arguments that a program works on. The plugin program always runs the plugin command. -/
def effectiveArguments (surroundings : Surroundings) : List String :=
  match surroundings.program with
  | .commandLine => surroundings.arguments
  | .plugin => ["plugin"]

/-- Checks the options before the command. The result is either an outcome that they ask for at once
or the arguments behind them. -/
def scanGlobal (surroundings : Surroundings) (program : String) (arguments : List String) :
    Except UsageFault (Outcome ⊕ List String) := do
  let scanned ← scan globalSwitches false arguments
  match immediate? surroundings program scanned with
  | some outcome => return .inl outcome
  | none =>
    let _ ← chooseLogLevel surroundings scanned
    return .inr scanned.rest

/-- Whether a name that belongs to no command may have been meant as an option: whether it starts with
a sign. -/
def looksLikeOption (name : String) : Bool :=
  match name.toList with
  | [] => false
  | first :: _ => !Text.isAlphanumeric first

/-- Answers the name of a command that does not exist. What looks like an option is taken for one
first, so that it is served or reported as such. -/
def unknownCommand (surroundings : Surroundings) (program name : String) (arguments : List String) :
    Except UsageFault Outcome := do
  let fault : UsageFault :=
    .noSuchCommand name (Text.similarWords (Command.all.map Command.name) name)
  if looksLikeOption name then
    match ← scanGlobal surroundings program (name :: arguments) with
    | .inl outcome => return outcome
    | .inr _ => .error fault
  else .error fault

/-- Finds the command and runs it. -/
def dispatch (surroundings : Surroundings) (program : String) :
    List String → Except UsageFault Outcome
  | [] => .error .missingCommand
  | name :: arguments =>
    match Command.ofName? name with
    | some command =>
      let path := program ++ " " ++ name
      match Display.ofEnvironment surroundings.environment with
      | .error fault => .ok (.broken (.error (.badNumber fault)))
      | .ok display =>
        .ok (reporting path (commandUsage path)
          (runCommand surroundings display path command arguments))
    | none => unknownCommand surroundings program name arguments

/-- A run of the program. -/
def run (surroundings : Surroundings) : Outcome :=
  let program := surroundings.program.name
  match effectiveArguments surroundings with
  | [] => .failed 2 (programHelp surroundings.helpWidth program)
  | arguments =>
    reporting program (programUsage program) do
      match ← scanGlobal surroundings program arguments with
      | .inl outcome => return outcome
      | .inr rest => dispatch surroundings program rest

/-- The command that arguments ask for and its own arguments, if both are well formed. -/
def requested? (surroundings : Surroundings) : Option (Command × Scanned) := do
  let outer ← (scan globalSwitches false (effectiveArguments surroundings)).toOption
  let command ← Command.ofName? (← outer.rest.head?)
  let inner ← (scan command.switches true outer.rest.tail).toOption
  return (command, inner)

end Typewire.Console
