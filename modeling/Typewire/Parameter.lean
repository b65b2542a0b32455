import Typewire.Error
import Typewire.OrderedMap
import Typewire.Text.Blank

/-!
# The parameter text

Assignments divided by commas, each a key or `key=value`, with filler allowed around every part:

    style=grpc-js, grpc_package = @grpc/grpc-js, verbose

Neither a key nor a value holds a comma, so the text is cut at its commas first and every assignment
is read on its own. The last assignment to a key counts.
-/
namespace Typewire.Parameter

open Text (isBlank isFiller)

def isKeyStart (c : Char) : Bool :=
  c.isAlpha || c == '_'

def isKeyChar (c : Char) : Bool :=
  c.isAlphanum || c == '_' || c == '.' || c == '-'

def isValueChar (c : Char) : Bool :=
  c != ',' && c != '=' && !isBlank c

/-- A value with filler around it. -/
def readValue (cs : List Char) : Option (List Char) :=
  let rest := cs.dropWhile isFiller
  let value := rest.takeWhile isValueChar
  if value ≠ [] ∧ (rest.dropWhile isValueChar).all isFiller then some value else none

/-- What follows a key: nothing, or an equals sign and a value. -/
def readTail (cs : List Char) : Option (List Char) :=
  match cs.dropWhile isFiller with
  | [] => some []
  | '=' :: rest => readValue rest
  | _ :: _ => none

/-- One assignment: its key and its value, empty for a bare key. -/
def readAssignment (cs : List Char) : Option (String × String) :=
  match cs.dropWhile isFiller with
  | [] => none
  | first :: rest =>
    if isKeyStart first then
      (readTail (rest.dropWhile isKeyChar)).map fun value =>
        (String.ofList (first :: rest.takeWhile isKeyChar), String.ofList value)
    else none

/-- The assignments of a parameter text by key. A blank text has none. -/
def parse (text : String) : Except Error (OrderedMap String String) :=
  if text.toList.all isBlank then .ok []
  else
    match (text.toList.splitOn ',').mapM readAssignment with
    | some assignments => .ok (OrderedMap.ofPairs assignments)
    | none => .error (.malformedParameter text)

end Typewire.Parameter
