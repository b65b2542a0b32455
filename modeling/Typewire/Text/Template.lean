import Typewire.Text.Identifier
import Typewire.Text.Integer

/-!
# Replacement templates

The text that stands in for a matched one may use escapes. A backslash and a letter stand for a control
character, a backslash and octal digits for a code point, and `\g<0>` for the matched text itself. The
zero may be written like any integer. There are no other groups to refer to. A backslash that ends the
template is noticed before the group in front of it is looked up.
-/
namespace Typewire.Text

/-- A piece of a template. -/
inductive TemplatePart where
  | literal (text : List Char)
  /-- The matched text. -/
  | matched
  deriving Repr, DecidableEq, Inhabited

/-- What is wrong with a template. -/
inductive TemplateFault where
  /-- An escape that does not exist, is not finished or refers to a group by a number. -/
  | badEscape
  /-- A reference to a group by a name. -/
  | unknownGroup
  deriving Repr, DecidableEq, Inhabited

namespace Template

def isOctal (c : Char) : Bool :=
  '0' ≤ c && c ≤ '7'

def octalValue (digits : List Char) : Nat :=
  digits.foldl (fun value c => 8 * value + (c.toNat - '0'.toNat)) 0

/-- The control character that a letter stands for. -/
def control? : Char → Option Char
  | 'a' => some '\x07'
  | 'b' => some '\x08'
  | 'f' => some '\x0c'
  | 'n' => some '\n'
  | 'r' => some '\r'
  | 't' => some '\t'
  | 'v' => some '\x0b'
  | '\\' => some '\\'
  | _ => none

/-- The part that a group name refers to. Only the number zero is a group. -/
def group (name : List Char) : Except TemplateFault TemplatePart :=
  match integer name with
  | .ok 0 => .ok .matched
  | _ => if isIdentifier name then .error .unknownGroup else .error .badEscape

/-- The part that a backslash and the given characters start, and how many of them it takes. -/
def readEscape (cs : List Char) : Except TemplateFault (TemplatePart × Nat) :=
  match cs with
  | [] => .error .badEscape
  | 'g' :: '<' :: rest =>
    let name := rest.takeWhile (· != '>')
    if name.length < rest.length && rest.drop (name.length + 1) ≠ ['\\'] then
      (group name).map (·, name.length + 3)
    else .error .badEscape
  | '0' :: rest =>
    let digits := (rest.take 2).takeWhile isOctal
    .ok (.literal [Char.ofNat (octalValue digits)], digits.length + 1)
  | c :: rest =>
    if c.isDigit then
      let digits := c :: rest.take 2
      if digits.length = 3 && digits.all isOctal && octalValue digits < 256 then
        .ok (.literal [Char.ofNat (octalValue digits)], 3)
      else .error .badEscape
    else
      match control? c with
      | some control => .ok (.literal [control], 1)
      | none => if c.isAlpha then .error .badEscape else .ok (.literal ['\\', c], 1)

/-- The parts of a template after `skipped` more characters of an escape. -/
def partsAfter : Nat → List Char → Except TemplateFault (List TemplatePart)
  | _, [] => .ok []
  | skipped + 1, _ :: rest => partsAfter skipped rest
  | 0, '\\' :: rest => do
    let (part, taken) ← readEscape rest
    let others ← partsAfter taken rest
    return part :: others
  | 0, c :: rest => do
    let others ← partsAfter 0 rest
    return .literal [c] :: others

def parts (template : String) : Except TemplateFault (List TemplatePart) :=
  partsAfter 0 template.toList

/-- The text of a template's parts for a matched text. -/
def expand (parts : List TemplatePart) (matched : String) : String :=
  String.ofList (parts.flatMap fun
    | .literal text => text
    | .matched => matched.toList)

end Template

end Typewire.Text
