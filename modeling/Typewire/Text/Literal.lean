import Typewire.Text.Hex

/-!
# Literals of the generated code

A string literal stands between double quotes and uses printable ASCII alone: short escapes where the
language has them, otherwise `\u` with four digits, two of them for a code point beyond the first
plane. Lists of numbers and truth values are written as the language reads them.
-/
namespace Typewire.Text

/-- One UTF-16 unit as an escape. -/
def unitEscape (unit : Nat) : List Char :=
  ['\\', 'u'] ++ hex 4 unit

/-- A code point beyond the first plane as a pair of surrogate units. -/
def surrogates (n : Nat) : Nat × Nat :=
  (0xd800 + (n - 0x10000) / 0x400, 0xdc00 + (n - 0x10000) % 0x400)

/-- One character inside a string literal. -/
def literalChar (c : Char) : List Char :=
  if c == '"' || c == '\\' then ['\\', c]
  else if c == '\n' then ['\\', 'n']
  else if c == '\r' then ['\\', 'r']
  else if c == '\t' then ['\\', 't']
  else if c == '\x08' then ['\\', 'b']
  else if c == '\x0c' then ['\\', 'f']
  else if 0x20 ≤ c.toNat && c.toNat < 0x7f then [c]
  else if c.toNat < 0x10000 then unitEscape c.toNat
  else unitEscape (surrogates c.toNat).1 ++ unitEscape (surrogates c.toNat).2

/-- The string literal that denotes a text. -/
def literal (s : String) : String :=
  String.ofList ('"' :: s.toList.flatMap literalChar ++ ['"'])

def boolLiteral (b : Bool) : String :=
  if b then "true" else "false"

def arrayLiteral (elements : List String) : String :=
  "[" ++ String.intercalate ", " elements ++ "]"

def intArray (numbers : List Int) : String :=
  arrayLiteral (numbers.map toString)

end Typewire.Text
