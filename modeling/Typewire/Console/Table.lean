import Typewire.Rounding
import Typewire.Text.Lines
import Typewire.Text.Markup
import Typewire.Text.Wrap

/-!
# Tables in plain text

A column is as wide as its widest cell, its heading included. Every cell is padded to that width and
followed by two blanks. A table that would be too wide takes the excess from its widest columns, and
their cells are broken into several lines.

Cells may hold style tags and names of emoji. Widths are counted in cells of the terminal, and lines are
lists of segments, each with its style.
-/
namespace Typewire.Console

/-- Where a cell stands in its column. -/
inductive Alignment where
  | left
  | right
  | centre
  deriving Repr, DecidableEq, Inhabited

/-- A heading, the alignment of the column, and the style of the cells below the heading. -/
structure Column where
  heading : String
  alignment : Alignment := .left
  style : Text.TextStyle := {}
  deriving Repr, DecidableEq, Inhabited

/-- One line of a cell at a width: cut if it is too wide, else padded. Of uneven halves the smaller
one stands on the left. -/
def Alignment.place (alignment : Alignment) (limit : Nat) (line : Text.StyledText) : Text.StyledText :=
  match alignment with
  | .left =>
    let kept := line.ellipsize limit
    kept.padRight (limit - kept.width)
  | .right =>
    let kept := (line.withChars (Text.trimEnd line.chars)).ellipsize limit
    kept.padLeft (limit - kept.width)
  | .centre =>
    let kept := (line.withChars (Text.trimEnd line.chars)).ellipsize limit
    let missing := limit - kept.width
    (kept.padLeft (missing / 2)).padRight (missing - missing / 2)

/-! ### Widths of columns -/

/-- Takes an excess in even shares from the widths that equal `widest`, `most` at most from each.
`count` of them are left. -/
def reduceWidest (widest most : Nat) : Nat → Nat → List Nat → List Nat
  | _, _, [] => []
  | excess, count, width :: widths =>
    if width = widest then
      let share := min most (roundedQuotient excess count)
      (width - share) :: reduceWidest widest most (excess - share) (count - 1) widths
    else width :: reduceWidest widest most excess count widths

/-- Widths whose widest ones have come closer to the next ones, to get rid of an excess. -/
def reduceOnce (excess : Nat) (widths : List Nat) : List Nat :=
  let widest := widths.foldl max 0
  let next := (widths.filter (· ≠ widest)).foldl max 0
  reduceWidest widest (min excess (widest - next)) excess (widths.count widest) widths

def totalWidth (widths : List Nat) : Nat :=
  widths.foldl (· + ·) 0

/-- Reduces widths until they fit into a limit, in at most so many rounds. -/
def fitWithin (limit : Nat) : Nat → List Nat → List Nat
  | 0, widths => widths
  | rounds + 1, widths =>
    if totalWidth widths ≤ limit then widths
    else fitWithin limit rounds (reduceOnce (totalWidth widths - limit) widths)

/-- Reduces widths until they fit into a limit. Every round takes one cell at least. -/
def fit (limit : Nat) (widths : List Nat) : List Nat :=
  fitWithin limit (totalWidth widths) widths

/-! ### Tables -/

/-- A text cut into lines of a length. There are none without any length. -/
def foldedFrom (width : Nat) : Nat → List Char → List (List Char)
  | 0, _ => []
  | _, [] => []
  | steps + 1, cs@(_ :: _) => cs.take width :: foldedFrom width steps (cs.drop width)

/-- A word in a style, cut into lines of a width. There are none without any width. -/
def folded (width : Nat) (style : Text.TextStyle) (word : String) : List (List Text.Segment) :=
  if width = 0 then []
  else (foldedFrom width word.length word.toList).map fun chars => [{ chars, style }]

structure Table where
  columns : List Column
  rows : List (List String) := []
  deriving Repr, Inhabited

namespace Table

/-- The blanks after every column. -/
def gap : Nat := 2

/-- A table whose cells have become styled texts: the cells of each column, headings first. -/
abbrev Cells := List (List Text.StyledText)

/-- The cells of a table as they are shown, column by column, headings first. -/
def shownCells (table : Table) : Except Text.MarkupFault Cells :=
  table.columns.zipIdx.mapM fun (column, position) =>
    (column.heading :: table.rows.map (·.getD position "")).mapM Text.shown

def emptyCells (table : Table) : Cells :=
  table.columns.map fun _ => List.replicate (table.rows.length + 1) {}

/-- The cells that a text takes: those of its widest line. -/
def naturalWidth (cell : Text.StyledText) : Nat :=
  ((Text.brokenLines cell.chars).map Text.width).foldl max 0

/-- The width of a cell and the gap after it, within a limit. -/
def paddedWidth (limit : Nat) (cell : Text.StyledText) : Nat :=
  if limit ≤ gap then limit else min limit (naturalWidth cell + gap)

/-- The width of a column within a limit, with the gap. -/
def columnWidth (cells : List Text.StyledText) (limit : Nat) : Nat :=
  (cells.map (paddedWidth limit)).foldl max 0

def columnWidths (limit : Nat) (cells : Cells) : List Nat :=
  let wanted := cells.map (columnWidth · limit)
  if totalWidth wanted ≤ limit then wanted
  else (cells.zip (fit limit wanted)).map fun (column, width) => columnWidth column width

/-- The lines of a cell in a column of a width, without the gap. A column that is no wider than the
gap shows nothing. -/
def cellLines (alignment : Alignment) (width : Nat) (cell : Text.StyledText) :
    List Text.StyledText :=
  if width ≤ gap then []
  else (cell.wrap (width - gap)).map (alignment.place (width - gap))

/-- The segments of a line in a column of a width and of a style, with the gap. -/
def lineSegments (width : Nat) (style : Text.TextStyle) (line : Text.StyledText) :
    Except Text.NumberFault (List Text.Segment) := do
  let inner := Text.fitSegments (width - gap) (← line.segments)
  let outer := Text.fitSegments width (inner ++ [.blanks gap])
  return Text.fitSegments width (outer.map (Text.Segment.within style))

/-- Adds empty lines to a cell up to a height: above a heading, below other cells. -/
def toHeight (isHeading : Bool) (height width : Nat) (style : Text.TextStyle)
    (lines : List (List Text.Segment)) : List (List Text.Segment) :=
  let missing := List.replicate (height - lines.length) [(Text.Segment.blanks width).within style]
  if isHeading then missing ++ lines else lines ++ missing

/-- The lines of the row at a position. The headings are bold. -/
def rowLines (table : Table) (widths : List Nat) (cells : Cells) (position : Nat) :
    Except Text.MarkupFault (List (List Text.Segment)) := do
  let isHeading := position == 0
  let shown ← (table.columns.zip (widths.zip cells)).mapM fun (column, width, cells) => do
    let style := if isHeading then .bold else column.style
    let lines ← (cellLines column.alignment width (cells.getD position {})).mapM fun line =>
      (lineSegments width style line).mapError .badNumber
    return (width, style, lines)
  let height := (shown.map fun (_, _, lines) => lines.length).foldl max 1
  let columns := shown.map fun (width, style, lines) => toHeight isHeading height width style lines
  return (List.range height).map fun index => columns.flatMap fun lines => lines.getD index []

/-- The lines of a table that is no wider than a limit, headings first. There are none without any
width, and the lines of a table that is no wider than the gap are blank. -/
def lines (table : Table) (limit : Nat) :
    Except Text.MarkupFault (List (List Text.Segment)) := do
  if limit = 0 then return []
  let cells ← if limit ≤ gap then pure table.emptyCells else table.shownCells
  let widths := columnWidths limit cells
  let rows ← (List.range (table.rows.length + 1)).mapM (table.rowLines widths cells)
  return rows.flatten

end Table

end Typewire.Console
