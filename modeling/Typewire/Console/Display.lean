import Typewire.Text.Alphanumeric
import Typewire.Text.Integer
import Typewire.Text.Palette
import Typewire.Text.Segment

/-!
# Where tables are shown

The environment tells how wide a table may be and whether styles are shown at all. Styles are shown on
terminals only; a text that is not going to a terminal, as far as the program can tell, may be taken
for one when the environment asks for it.
-/
namespace Typewire.Console

/-- The value of a variable of the environment. -/
abbrev Environment := String → Option String

/-- The columns of a terminal when nothing tells them. -/
def defaultColumns : Nat := 80

/-- What shows a table. -/
structure Display where
  width : Nat := defaultColumns
  /-- The colours that are shown, if styles are shown at all. -/
  depth : Option Text.ColorDepth := none
  /-- Whether styles are shown without their colours. -/
  isColorless : Bool := false
  deriving Repr, DecidableEq, Inhabited

namespace Display

/-- The number that a variable tells for a size of the terminal, if it tells any. A text of digits must
be a number. -/
def size? (environment : Environment) (name : String) : Except Text.NumberFault (Option Nat) :=
  match environment name with
  | none => .ok none
  | some text =>
    if text ≠ "" && text.toList.all Text.isDigitSign then
      (Text.integer text.toList).map fun value => some value.toNat
    else .ok none

/-- Whether the output is taken for a terminal. -/
def isTerminal (environment : Environment) : Bool :=
  match environment "TTY_COMPATIBLE" with
  | some "0" => false
  | some "1" => true
  | _ => (environment "FORCE_COLOR").any (· ≠ "")

/-- The kind of terminal in small letters. -/
def kind (environment : Environment) : List Char :=
  Text.lower ((environment "TERM").getD "").toList

/-- Whether the terminal can do nothing but show text. -/
def isPlain (environment : Environment) : Bool :=
  kind environment = "dumb".toList || kind environment = "unknown".toList

/-- The colours that a terminal shows. Its kind may end in a hyphen and their number. -/
def depthOf (environment : Environment) : Text.ColorDepth :=
  let named := Text.lower (Text.trim ((environment "COLORTERM").getD "").toList)
  let ending := ((Text.trim (kind environment)).reverse.takeWhile (· != '-')).reverse
  if named = "truecolor".toList || named = "24bit".toList then .full
  else if ending = "kitty".toList || ending = "256color".toList then .extended
  else .standard

/-- The display that the environment describes. A terminal that can do nothing but show text has the
default width unless both of its sizes are given. -/
def ofEnvironment (environment : Environment) : Except Text.NumberFault Display := do
  let columns ← size? environment "COLUMNS"
  let lines ← size? environment "LINES"
  let isPlain := isTerminal environment && isPlain environment
  return {
    width := if isPlain && lines.isNone then defaultColumns else columns.getD defaultColumns
    depth := if isTerminal environment && !isPlain then some (depthOf environment) else none
    isColorless := (environment "NO_COLOR").any (· ≠ "") }

/-- The characters that show a segment. -/
def segment (display : Display) (segment : Text.Segment) : List Char :=
  match display.depth with
  | none => segment.chars
  | some depth =>
    let style := if display.isColorless then segment.style.withoutColor else segment.style
    style.paint depth segment.chars

def line (display : Display) (segments : List Text.Segment) : String :=
  String.ofList (segments.flatMap display.segment)

end Display

end Typewire.Console
