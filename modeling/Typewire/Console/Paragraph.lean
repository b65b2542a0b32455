/-!
# Paragraphs

A paragraph fills lines up to a width. It is broken at blanks and behind the hyphens of compound words.
Blanks at a break are lost; all others stay as they are.
-/
namespace Typewire.Console

/-- Whether a hyphen between two texts divides a compound word: two letters stand on either side.
`before` is given in reverse. -/
def isCompoundHyphen (before after : List Char) : Bool :=
  let letters (cs : List Char) := (cs.take 2).length = 2 && (cs.take 2).all Char.isAlpha
  letters before && letters after

/-- The unbreakable parts of a text, given the current one in reverse. Runs of blanks are parts of
their own. -/
def partsAfter (current : List Char) : List Char → List (List Char)
  | [] => if current.isEmpty then [] else [current.reverse]
  | c :: rest =>
    if current.head?.any fun last => (last = ' ') != (c = ' ') then
      current.reverse :: partsAfter [c] rest
    else if c = '-' && isCompoundHyphen current rest then
      (c :: current).reverse :: partsAfter [] rest
    else partsAfter (c :: current) rest

def parts (text : String) : List (List Char) :=
  partsAfter [] text.toList

/-- Whether a part is a run of blanks. -/
def isGap (part : List Char) : Bool :=
  part.head? = some ' '

/-- A line from its parts in reverse, without a gap at its end. -/
def lineOf (reversed : List (List Char)) : String :=
  String.ofList (reversed.dropWhile isGap).reverse.flatten

/-- The lines of parts, given those on the current line in reverse and their length. A part that is too
long for any line stands alone. -/
def fillAfter (width : Nat) (current : List (List Char)) (length : Nat) :
    List (List Char) → List String
  | [] => if current.isEmpty then [] else [lineOf current]
  | part :: others =>
    if current.isEmpty || length + part.length ≤ width then
      fillAfter width (part :: current) (length + part.length) others
    else
      let lines := if isGap part then fillAfter width [] 0 others
        else fillAfter width [part] part.length others
      lineOf current :: lines

def fill (width : Nat) (text : String) : List String :=
  fillAfter width [] 0 (parts text)

end Typewire.Console
