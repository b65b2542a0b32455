import Typewire.Error

/-!
# Compiler versions

One to three numbers divided by dots and an optional suffix after a hyphen. The text may end in one
line feed. Numbers may use the decimal digits of any script, and up to a limit as many as they like.
-/
namespace Typewire

/-- The version of the schema compiler. -/
structure Version where
  major : Int := 0
  minor : Int := 0
  patch : Int := 0
  suffix : String := ""
  deriving Repr, DecidableEq, Inhabited

namespace Version

/-- The three numbers; the suffix is not shown. -/
def text (version : Version) : String :=
  toString version.major ++ "." ++ toString version.minor ++ "." ++ toString version.patch

/-- The digits at the start of a text, and the rest. -/
def readDigits (cs : List Char) : Option (List Char × List Char) :=
  match cs.takeWhile Text.isDecimal with
  | [] => none
  | digits => some (digits, cs.dropWhile Text.isDecimal)

/-- A dot and digits at the start of a text, and the rest; no digits when they are not there. -/
def readPart (cs : List Char) : List Char × List Char :=
  match cs with
  | '.' :: rest => (readDigits rest).getD ([], cs)
  | _ => ([], cs)

/-- A text without one line feed at its end. -/
def dropFinalBreak (cs : List Char) : List Char :=
  if cs.getLast? = some '\n' then cs.dropLast else cs

/-- What follows the numbers: nothing, or a hyphen and a suffix on one line. -/
def readSuffix (cs : List Char) : Option (List Char) :=
  match dropFinalBreak cs with
  | [] => some []
  | '-' :: suffix => if suffix ≠ [] ∧ '\n' ∉ suffix then some suffix else none
  | _ :: _ => none

/-- A version as it is written: the digits of its numbers and the suffix. -/
structure Written where
  major : List Char
  minor : List Char
  patch : List Char
  suffix : List Char
  deriving Repr, DecidableEq

/-- The parts of a text that has the form of a version. -/
def read? (text : String) : Option Written := do
  let (major, rest) ← readDigits text.toList
  let (minor, rest) := readPart rest
  let (patch, rest) := readPart rest
  let suffix ← readSuffix rest
  return { major, minor, patch, suffix }

/-- The number that digits denote. No digits denote zero. -/
def number (digits : List Char) : Except Error Nat :=
  (Text.number digits).mapError .badNumber

/-- The version that a text denotes, or why it denotes none. -/
def parse (text : String) : Except Error Version :=
  match read? text with
  | none => .error (.malformedVersion text)
  | some written => do
    let major ← number written.major
    let minor ← number written.minor
    let patch ← number written.patch
    return { major, minor, patch, suffix := String.ofList written.suffix }

end Version

end Typewire
