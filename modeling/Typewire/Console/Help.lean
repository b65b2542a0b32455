import Typewire.Console.Arguments
import Typewire.Console.Display
import Typewire.Console.Paragraph
import Typewire.Text.Integer
import Typewire.Text.Lines
import Typewire.Text.Words

/-!
# Help texts

The usage line, the description and the options of the program and of each command, laid out for the
width of the terminal.
-/
namespace Typewire.Console

/-! ### Layout -/

/-- The width of help texts on a terminal of so many columns. They leave a margin, and get neither very
wide nor very narrow. -/
def helpWidth (columns : Nat) : Nat :=
  max (min columns 80 - 2) 50

/-- The columns for help texts, as the environment tells them. What is no positive number counts as
nothing. -/
def helpColumns (columns : Option String) : Nat :=
  match columns.map fun text => Text.integer text.toList with
  | some (.ok value) => if 0 < value then value.toNat else defaultColumns
  | _ => defaultColumns

def sectionIndent : Nat := 2

def descriptionLines (width : Nat) (text : String) : List String :=
  (fill (width - sectionIndent) text).map (Text.blanks sectionIndent ++ ·)

structure Definition where
  term : String
  meaning : String
  deriving Repr, DecidableEq, Inhabited

/-- The widest terms that have their meaning beside them. -/
def termLimit : Nat := 30

/-- The place of the meanings behind terms. -/
def meaningColumn (definitions : List Definition) : Nat :=
  min ((definitions.map fun definition => definition.term.length).foldl max 0) termLimit + 2

/-- The lines of a definition, given the place of its meaning. A long term has a line of its own. -/
def Definition.lines (width column : Nat) (definition : Definition) : List String :=
  let term := Text.blanks sectionIndent ++ definition.term
  let margin := Text.blanks (sectionIndent + column)
  match fill (max (width - column - sectionIndent) 10) definition.meaning with
  | [] => [term]
  | first :: others =>
    let beside := definition.term.length + 2 ≤ column
    (if beside then [term ++ Text.blanks (column - definition.term.length) ++ first]
      else [term, margin ++ first]) ++ others.map (margin ++ ·)

def sectionLines (width : Nat) (title : String) (definitions : List Definition) : List String :=
  ["", title ++ ":"] ++
    definitions.flatMap (Definition.lines width (meaningColumn definitions))

/-- How many words of a text fit into a length with an ellipsis behind them, given those to try. -/
def fittingWords (limit : Nat) : Nat → List String → Nat
  | 0, _ => 0
  | count + 1, words =>
    if (String.intercalate " " (words.take (count + 1))).length + 3 ≤ limit then count + 1
    else fittingWords limit count words

/-- A sentence within a length. A longer one loses words at its end and gets an ellipsis. -/
def summarized (limit : Nat) (sentence : String) : String :=
  let words := (Text.wordsOf sentence.toList).map String.ofList
  if sentence.length ≤ limit then sentence
  else String.intercalate " " (words.take (fittingWords limit (words.length - 1) words)) ++ "..."

/-! ### Texts -/

def programUsage (program : String) : String :=
  "Usage: " ++ program ++ " [OPTIONS] COMMAND [ARGS]..."

/-- The usage line of a command, given with the program before it. -/
def commandUsage (path : String) : String :=
  "Usage: " ++ path ++ " [OPTIONS]"

def Command.description : Command → String
  | .gen => "Generate TypeScript from a descriptor set."
  | .info => "Display a summary of every file in a descriptor set."
  | .plugin => "Run as a protoc plugin (CodeGeneratorRequest on stdin)."
  | .styles => "List the available RPC styles."

/-- An option as a help text lists it. -/
def Switch.definition : Switch → Definition
  | .help => ⟨"--help", "Show this message and exit."⟩
  | .version => ⟨"--version", "Show the version and exit."⟩
  | .logLevel =>
    ⟨"--log-level [debug|info|warning|error]",
     "Logging verbosity (also PBTS_LOG_LEVEL)  [default: warning]"⟩
  | .input =>
    ⟨"-i, --input FILE", "FileDescriptorSet (protoc --descriptor_set_out)  [required]"⟩
  | .output => ⟨"-o, --output TEXT", "Output directory"⟩
  | .parameter => ⟨"-p, --parameter TEXT", "Generator options  [default: style=grpc-js]"⟩
  | .compilerVersion => ⟨"--compiler-version TEXT", "Compiler version shown in file headers"⟩
  | .json => ⟨"--json", "Output as JSON"⟩

def programHelp (width : Nat) (program : String) : List String :=
  let longest := (Command.all.map fun command => command.name.length).foldl max 0
  [programUsage program, ""] ++
    descriptionLines width "TypeScript code generator for protocol buffer schemas." ++
    sectionLines width "Options" (globalSwitches.map Switch.definition) ++
    sectionLines width "Commands" (Command.all.map fun command =>
      ⟨command.name, summarized (width - 6 - longest) command.description⟩)

def commandHelp (width : Nat) (path : String) (command : Command) : List String :=
  [commandUsage path, ""] ++ descriptionLines width command.description ++
    sectionLines width "Options" (command.switches.map Switch.definition)

/-- The lines that report a wrong use of the program or of a command. -/
def faultLines (path usage : String) (fault : UsageFault) : List String :=
  let head :=
    if fault.showsUsage then [usage, "Try '" ++ path ++ " --help' for help.", ""] else []
  head ++ ["Error: " ++ fault.message]

/-- What a terminal user is told who starts the plugin by hand. -/
def pluginNotice : List String :=
  ["This is a protoc plugin. Use it through protoc:",
   "  protoc --plugin=protoc-gen-pbts --pbts_out=style=grpc-js:OUT_DIR file.proto"]

end Typewire.Console
