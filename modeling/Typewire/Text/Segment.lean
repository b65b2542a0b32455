import Typewire.Text.Cluster
import Typewire.Text.Style

/-!
# Segments of lines

A line is shown as segments, each of which has one style and is measured on its own.
-/
namespace Typewire.Text

/-- Characters in one style. -/
structure Segment where
  chars : List Char
  style : TextStyle := {}
  deriving Repr, DecidableEq, Inhabited

namespace Segment

def width (segment : Segment) : Nat :=
  Text.width segment.chars

/-- A segment of blanks without a style. -/
def blanks (count : Nat) : Segment :=
  { chars := List.replicate count ' ' }

def within (outer : TextStyle) (segment : Segment) : Segment :=
  { segment with style := segment.style.inside outer }

end Segment

def totalWidth (segments : List Segment) : Nat :=
  (segments.map Segment.width).foldl (· + ·) 0

/-- The segments within the given cells. The one that reaches the end is cut or padded to it. -/
def cropSegments : Nat → List Segment → List Segment
  | _, [] => []
  | limit, segment :: others =>
    if segment.width < limit then segment :: cropSegments (limit - segment.width) others
    else [{ segment with chars := resize limit segment.chars }]

/-- Segments that take the given cells: cut if they are too wide, else padded. -/
def fitSegments (limit : Nat) (segments : List Segment) : List Segment :=
  if totalWidth segments < limit then
    segments ++ [.blanks (limit - totalWidth segments)]
  else if totalWidth segments = limit then segments
  else cropSegments limit segments

end Typewire.Text
