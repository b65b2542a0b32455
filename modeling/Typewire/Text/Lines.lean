/-!
# Lines of text

Generated code is a list of lines, joined by line feeds at the very end. A name may carry characters
that break a line. They stay as they are until the line is indented; then the line falls apart
at every break, and each part is indented on its own.
-/
namespace Typewire.Text

/-- The characters that end a line. A carriage return takes a line feed after it with it. -/
def isBreak (c : Char) : Bool :=
  let n := c.toNat
  (0x0a ≤ n && n ≤ 0x0d) || (0x1c ≤ n && n ≤ 0x1e) || n == 0x85 || n == 0x2028 || n == 0x2029

/-- The lines of a text to which a closing line feed is added. -/
def brokenLines : List Char → List (List Char)
  | [] => [[]]
  | ['\r'] => [[]]
  | '\r' :: '\n' :: rest => [] :: brokenLines rest
  | c :: rest =>
    if isBreak c then [] :: brokenLines rest
    else
      match brokenLines rest with
      | [] => [[c]]
      | line :: lines => (c :: line) :: lines

/-- The lines of a block, each one broken where it holds a break. -/
def pieces (lines : List String) : List String :=
  lines.flatMap fun line => (brokenLines line.toList).map String.ofList

def blanks (width : Nat) : String :=
  String.ofList (List.replicate width ' ')

/-- A line moved to the right, unless it is empty. -/
def shift (width : Nat) (line : String) : String :=
  if line = "" then line else blanks width ++ line

/-- A block moved to the right. Empty lines stay empty, the first one excepted. -/
def indent (width : Nat) (lines : List String) : List String :=
  match pieces lines with
  | [] => []
  | first :: rest => (blanks width ++ first) :: rest.map (shift width)

/-- Two blocks, of which the second continues the last line of the first. -/
def joinBlocks : List String → List String → List String
  | [], second => second
  | [line], [] => [line]
  | [line], first :: rest => (line ++ first) :: rest
  | line :: lines, second => line :: joinBlocks lines second

/-- Blocks that each continue the last line of the one before. -/
def inline (blocks : List (List String)) : List String :=
  blocks.foldr joinBlocks []

/-- Blocks one below the other, with a comma after each but the last. -/
def punctuate : List (List String) → List String
  | [] => []
  | [block] => block
  | block :: blocks => joinBlocks block [","] ++ punctuate blocks

/-- A block that starts in the middle of a line: `before` precedes its first line, `after` follows
its last one, and the lines between hang `width` blanks to the right. -/
def hang (width : Nat) (before after : String) (lines : List String) : List String :=
  match pieces lines with
  | [] => [before ++ after]
  | first :: rest => joinBlocks ((before ++ first) :: rest.map (shift width)) [after]

def unlines (lines : List String) : String :=
  String.intercalate "\n" lines

end Typewire.Text
