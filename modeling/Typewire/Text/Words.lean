import Typewire.Text.Blank

/-!
# Words

The words of a text are what stands between its blanks.
-/
namespace Typewire.Text

/-- Words with one more character of the text in front of them; a blank starts a word anew. -/
def consWord (c : Char) : List (List Char) → List (List Char)
  | [] => if isBlank c then [] else [[c]]
  | word :: words => if isBlank c then [] :: word :: words else (c :: word) :: words

/-- The words of a text, without the blanks between them. -/
def wordsOf (cs : List Char) : List (List Char) :=
  (cs.foldr consWord []).filter (· ≠ [])

/-- What follows a name in a list of names and values in turn. -/
def valueAfter (name : List Char) : List (List Char) → Option (List Char)
  | known :: value :: rest => if known = name then some value else valueAfter name rest
  | _ => none

def trim (cs : List Char) : List Char :=
  ((cs.dropWhile isBlank).reverse.dropWhile isBlank).reverse

end Typewire.Text
