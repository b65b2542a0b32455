import Typewire.Text.ColorNames
import Typewire.Text.Integer
import Typewire.Text.Lowercase
import Typewire.Text.Words

/-!
# Colours

A colour is written by its name, as `#` and six hexadecimal digits, as `color(n)` with a number, or as
`rgb(r,g,b)` with three parts. A text of the last form with a part that is no number is a fault; all
other texts that are no colour are just that.
-/
namespace Typewire.Text

/-- What a colour is. -/
inductive Shade where
  /-- The colour that the terminal starts with. -/
  | unset
  /-- A colour of the terminal by its number. -/
  | numbered (number : Nat)
  /-- A mixture of red, green and blue. -/
  | mixed (red green blue : Nat)
  deriving Repr, DecidableEq, Inhabited

/-- A colour with the text that names it. -/
structure Color where
  name : List Char
  shade : Shade
  deriving Repr, DecidableEq, Inhabited

namespace Color

/-- The largest number of a colour, and of a part of a mixture. -/
def limit : Nat := 255

/-- What stands between an opening word and a closing bracket that make up a whole text. -/
def between? (opening : String) (cs : List Char) : Option (List Char) :=
  let inner := (cs.drop opening.length).dropLast
  if opening.toList.isPrefixOf cs && cs = opening.toList ++ inner ++ [')'] then some inner else none

def hexValue? (c : Char) : Option Nat :=
  if '0' ≤ c && c ≤ '9' then some (c.toNat - '0'.toNat)
  else if 'a' ≤ c && c ≤ 'f' then some (c.toNat - 'a'.toNat + 10)
  else none

/-- The mixture that six hexadecimal digits denote. -/
def ofHex? (digits : List Char) : Option Shade := do
  match ← digits.mapM hexValue? with
  | [r, r', g, g', b, b'] => return .mixed (16 * r + r') (16 * g + g') (16 * b + b')
  | _ => none

/-- The colour that one to three digits denote. -/
def ofDigits? (digits : List Char) : Option Shade :=
  if digits ≠ [] && digits.length ≤ 3 && digits.all Char.isDigit && decimalValue digits ≤ limit then
    some (.numbered (decimalValue digits))
  else none

/-- The mixture that three numbers with commas between them denote. -/
def ofParts (parts : List Char) : Except NumberFault (Option Shade) :=
  if parts ≠ [] && parts.all fun c => isDecimal c || isBlank c || c == ',' then
    match parts.splitOn ',' with
    | [red, green, blue] => do
      let red ← integer red
      let green ← integer green
      let blue ← integer blue
      if red ≤ limit && green ≤ limit && blue ≤ limit then
        return some (.mixed red.toNat green.toNat blue.toNat)
      else return none
    | _ => .ok none
  else .ok none

def named? (name : List Char) : Option Shade :=
  if name = "default".toList then some .unset
  else (valueAfter name (wordsOf colorNames.toList)).map fun digits => .numbered (decimalValue digits)

/-- The shade of a colour in small letters, if it is one. -/
def shade? (name : List Char) : Except NumberFault (Option Shade) :=
  match named? name with
  | some shade => .ok shade
  | none =>
    match name with
    | '#' :: digits => .ok (ofHex? digits)
    | _ =>
      match between? "color(" name with
      | some digits => .ok (ofDigits? digits)
      | none =>
        match between? "rgb(" name with
        | some parts => ofParts parts
        | none => .ok none

/-- The colour that a word denotes, if it is one. Case does not matter. -/
def parse (word : List Char) : Except NumberFault (Option Color) := do
  let name := trim (lower word)
  return (← shade? name).map ({ name, shade := · })

end Color

end Typewire.Text
