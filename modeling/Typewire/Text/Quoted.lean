import Typewire.Text.Hex
import Typewire.Text.Printable

/-!
# Quoted texts in messages

A message shows a text that came from outside between quotes, with everything that could not be seen
or would end the quotation written as an escape.
-/
namespace Typewire.Text

/-- The quote put around a text: double when the text has single quotes only, else single. -/
def quoteFor (cs : List Char) : Char :=
  if cs.contains '\'' && !cs.contains '"' then '"' else '\''

/-- A numeric escape, as short as the code point allows. -/
def codeEscape (n : Nat) : List Char :=
  if n < 0x100 then ['\\', 'x'] ++ hex 2 n
  else if n < 0x10000 then ['\\', 'u'] ++ hex 4 n
  else ['\\', 'U'] ++ hex 8 n

def quoteChar (quote c : Char) : List Char :=
  if c == quote || c == '\\' then ['\\', c]
  else if c == '\n' then ['\\', 'n']
  else if c == '\r' then ['\\', 'r']
  else if c == '\t' then ['\\', 't']
  else if isPrintable c then [c]
  else codeEscape c.toNat

/-- A text between quotes, on one line and with visible characters only. -/
def quoted (s : String) : String :=
  let quote := quoteFor s.toList
  String.ofList (quote :: s.toList.flatMap (quoteChar quote) ++ [quote])

end Typewire.Text
