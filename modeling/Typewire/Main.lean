import Typewire.Console.Run

/-!
# The executable

Collects what a run depends on, computes the outcome and carries it out.
-/
namespace Typewire.Main

open Console

/-- All bytes of a stream. -/
partial def readAll (stream : IO.FS.Stream) (collected : ByteArray) : IO ByteArray := do
  let chunk ← stream.read 65536
  if chunk.isEmpty then return collected else readAll stream (collected ++ chunk)

/-- What a path leads to. -/
def inspect (path : String) : IO Node := do
  try
    let content ← IO.FS.readBinFile path
    return .file content.data.toList
  catch
    | .noFileOrDirectory .. => return .missing
    | .inappropriateType .. => return .directory
    | _ => return .missing

/-- Writes a file, after the directories on the way to it, and reports it. -/
def writeFile (file : Write) : IO Unit := do
  IO.FS.createDirAll (CleanPath.ofText file.path).parent.text
  IO.FS.writeFile file.path file.text
  IO.println file.notice

/-- What the program finds around it, as far as its arguments ask for it. -/
def collect (program : Program) (arguments : List String) : IO Surroundings := do
  let stdin ← IO.getStdin
  let isTerminal ← stdin.isTty
  let values ← knownVariables.mapM fun name => do return (name, ← IO.getEnv name)
  let environment : Environment := fun name => (values.lookup name).join
  let bare : Surroundings := { program, arguments, isTerminal, environment }
  match requested? bare with
  | none => return bare
  | some (command, scanned) =>
    let standardInput ←
      if command = .plugin && !isTerminal then readAll stdin .empty else pure .empty
    let input := scanned.value? .input
    let found ← match input with
      | some path => inspect path
      | none => pure .missing
    return {
      bare with
      standardInput := standardInput.data.toList
      node := fun path => if some path = input then found else .missing }

/-- Carries out an outcome. A file that cannot be written ends the run. -/
def perform (outcome : Outcome) : IO UInt32 := do
  let stdout ← IO.getStdout
  stdout.write ⟨outcome.standardOutput.toArray⟩
  stdout.flush
  IO.eprint outcome.standardError
  if let some (.error error) := outcome.failure then
    IO.eprintln error.message
  for file in outcome.writes do
    writeFile file
  return outcome.exitCode.toUInt32

/-- A run of one of the programs. -/
def execute (program : Program) (arguments : List String) : IO UInt32 := do
  perform (run (← collect program arguments))

end Typewire.Main

def main (arguments : List String) : IO UInt32 :=
  Typewire.Main.execute .commandLine arguments
