import Typewire.Path.Basic
import Typewire.Text.Dotted

/-!
# Module specifiers between generated files

A path is read as a list of components, and the way from one path to another is read off their components
alone. It is the way between the two files as long as both paths are relative and stay inside the working
directory, or both are absolute. The names of the directories above the working directory are not known here:
a path that climbs above it, or an absolute path beside a relative one, is taken as it stands.
-/
namespace Typewire.Path

/-- The components between slashes, empty ones included. -/
def components (path : String) : List String :=
  Text.splitAtChar '/' path

def isAbsolute (path : String) : Bool :=
  path.toList.head? == some '/'

/-- One step of a walk, on the components passed so far in reverse. Nothing is above the root;
above the start of a relative walk every step up is kept. -/
def step (absolute : Bool) (passed : List String) (component : String) : List String :=
  if component = "" || component = "." then passed
  else if component = ".." then
    match passed with
    | [] => if absolute then [] else [".."]
    | last :: rest => if last = ".." then ".." :: passed else rest
  else component :: passed

/-- The components of a path without empty ones, `.` and all `..` that can be resolved. -/
def normalize (path : String) : List String :=
  ((components path).foldl (step (isAbsolute path)) []).reverse

/-- The part of a path before its last component. -/
def directory (path : String) : String :=
  String.ofList (path.toList.reverse.dropWhile (· != '/')).reverse

/-- What remains of two lists after their longest common start. -/
def dropCommon : List String → List String → List String × List String
  | x :: xs, y :: ys => if x = y then dropCommon xs ys else (x :: xs, y :: ys)
  | xs, ys => (xs, ys)

/-- The way from one directory to a target: up as often as needed, then down. -/
def relative (target start : List String) : List String :=
  let (up, down) := dropCommon start target
  up.map (fun _ => "..") ++ down

/-- A way as a specifier. The way that goes nowhere is a single dot. -/
def specifierOf (way : List String) : String :=
  match way with
  | [] => "./."
  | way => "./" ++ String.intercalate "/" way

/-- The specifier by which the output of one schema file imports the output of another. There is
none when the other file's name is nothing but an extension. -/
def importPath? (fromFile toFile : String) : Option String :=
  let target := replaceExtension toFile ""
  if target = "" then none
  else some (specifierOf (relative (normalize target) (normalize (directory fromFile))))

end Typewire.Path
