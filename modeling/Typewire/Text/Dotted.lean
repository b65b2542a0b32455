/-!
# Dotted names

Packages, types and paths are texts whose parts are divided by dots. `segments` and `joinDots` pass
between the text and its parts; `enclosing` lists a name and the names around it.
-/
namespace Typewire.Text

/-- The parts of a text between occurrences of a character. -/
def splitAtChar (separator : Char) (s : String) : List String :=
  (s.toList.splitOn separator).map String.ofList

/-- The parts of a dotted name; there is always at least one. -/
def segments (name : String) : List String :=
  splitAtChar '.' name

def joinDots (parts : List String) : String :=
  String.intercalate "." parts

def firstSegment (name : String) : String :=
  (segments name).headD ""

/-- What follows the first dot, empty when there is none. -/
def afterFirst (name : String) : String :=
  joinDots (segments name).tail

def lastSegment (name : String) : String :=
  (segments name).getLastD ""

/-- The non-empty initial parts of a list, the longest first. -/
def initials {α : Type} : List α → List (List α)
  | [] => []
  | x :: xs => (initials xs).map (x :: ·) ++ [[x]]

/-- A dotted name followed by its enclosing names, from the innermost outwards. -/
def enclosing (name : String) : List String :=
  (initials (segments name)).map joinDots

end Typewire.Text
