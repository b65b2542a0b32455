import Typewire.Text.Blank
import Typewire.Text.Styled

/-!
# Text in a limited width

A line that is too wide is broken between words. A word that is too wide on its own is cut and gets
an ellipsis at the end. Widths are counted in cells.
-/
namespace Typewire.Text

def trimEnd (cs : List Char) : List Char :=
  (cs.reverse.dropWhile isBlank).reverse

/-! ### Tabs -/

/-- The distance between two tab stops. -/
def tabWidth : Nat := 8

/-- The text of a part with one blank for the tab at its end and more up to the next stop, and the
cell where it ends. `column` is the cell where the part starts. -/
def StyledText.expandTab (column : Nat) (part : StyledText) : StyledText × Nat :=
  if part.chars.getLast? = some '\t' then
    let blank := part.withChars (part.chars.dropLast ++ [' '])
    let stop := column + blank.width
    let missing := (tabWidth - stop % tabWidth) % tabWidth
    (blank.extend missing, stop + missing)
  else (part, column + part.width)

/-- Parts one after the other, with blanks for the tabs at their ends. -/
def joinTabbed (column : Nat) : List StyledText → StyledText
  | [] => {}
  | part :: parts =>
    let (expanded, stop) := part.expandTab column
    expanded.append (joinTabbed stop parts)

def StyledText.expandTabs (line : StyledText) : StyledText :=
  match line.positions (· = '\t') with
  | [] => line
  | tabs => joinTabbed 0 (line.divide (tabs.map (· + 1)))

/-! ### Words -/

/-- Words with one more character of the line in front. A word keeps the blanks behind it, and the
first one those before it. -/
def consSpacedWord (c : Char) : List (List Char) → List (List Char)
  | [] => [[c]]
  | word :: words =>
    if isBlank c && !(word.head?.any isBlank) then
      [c] :: word :: words
    else (c :: word) :: words

/-- Gives blanks before the first word to that word. -/
def attachIndent : List (List Char) → List (List Char)
  | blanks :: word :: words =>
    if blanks.all isBlank then (blanks ++ word) :: words else blanks :: word :: words
  | words => words

/-- The words of a line with the blanks behind them. -/
def spacedWords (cs : List Char) : List (List Char) :=
  attachIndent (cs.foldr consSpacedWord [])

/-- A line that is being broken. -/
structure Filling where
  /-- The positions where lines end, in reverse. -/
  stops : List Nat := []
  /-- The characters that were taken. -/
  position : Nat := 0
  /-- The cells that the current line has taken. -/
  column : Nat := 0
  deriving Repr, Inhabited

/-- Adds a word to a text of limited width. -/
def Filling.add (limit : Nat) (filling : Filling) (word : List Char) : Filling :=
  let position := filling.position + word.length
  if filling.column + width (trimEnd word) ≤ limit then
    { filling with position, column := filling.column + width word }
  else if filling.position = 0 then { filling with position, column := width word }
  else { stops := filling.position :: filling.stops, position, column := width word }

/-- Breaks a line between words where it would be wider than `limit`. -/
def StyledText.breakWords (limit : Nat) (line : StyledText) : List StyledText :=
  line.divide ((spacedWords line.chars).foldl (Filling.add limit) {}).stops.reverse

/-- Takes blanks beyond a number of characters from the end of a line. -/
def StyledText.dropExcessBlanks (limit : Nat) (line : StyledText) : StyledText :=
  let blanks := line.chars.length - (trimEnd line.chars).length
  line.withChars
    (line.chars.take (line.chars.length - min blanks (line.chars.length - limit)))

/-- The lines of a text within a width, without padding. -/
def StyledText.wrap (limit : Nat) (text : StyledText) : List StyledText :=
  text.lines.flatMap fun line => (line.expandTabs.breakWords limit).map (dropExcessBlanks limit)

/-- A text of limited width, with an ellipsis when something is missing. -/
def StyledText.ellipsize (limit : Nat) (text : StyledText) : StyledText :=
  if text.width ≤ limit then text
  else text.withChars (resize (limit - 1) text.chars ++ ['…'])

end Typewire.Text
