/-!
# Similar words

Two words are similar when they share most of their characters. What they share is counted by blocks:
the longest block of characters that both hold, and then the same again for what lies before it in
both and for what lies behind it in both.

A misspelt word is answered with up to three similar ones.
-/
namespace Typewire.Text

/-- The number of characters that two lists share at their start. -/
def commonStart : List Char → List Char → Nat
  | a :: as, b :: bs => if a = b then commonStart as bs + 1 else 0
  | _, _ => 0

/-- A block that two words share: where it starts in each of them, and its length. -/
structure SharedBlock where
  first : Nat := 0
  second : Nat := 0
  length : Nat := 0
  deriving Repr, DecidableEq, Inhabited

/-- The longest shared block that starts at position `i` of the first word, whose rest is `first`, and
at position `j` of the second or later, unless `best` is as long. -/
def longestFrom (i : Nat) (first : List Char) : Nat → List Char → SharedBlock → SharedBlock
  | _, [], best => best
  | j, b :: second, best =>
    let length := commonStart first (b :: second)
    longestFrom i first (j + 1) second (if best.length < length then ⟨i, j, length⟩ else best)

/-- The longest shared block that starts at position `i` of the first word or later, unless `best` is
as long. -/
def longestAfter (second : List Char) : Nat → List Char → SharedBlock → SharedBlock
  | _, [], best => best
  | i, a :: first, best =>
    longestAfter second (i + 1) first (longestFrom i (a :: first) 0 second best)

/-- The longest shared block. Of equally long ones the earliest in the first word counts, and there
the earliest in the second. -/
def longestBlock (first second : List Char) : SharedBlock :=
  longestAfter second 0 first {}

/-- The number of shared characters; `rounds` bounds the depth to which the words are cut up. -/
def sharedWithin : Nat → List Char → List Char → Nat
  | 0, _, _ => 0
  | rounds + 1, first, second =>
    let block := longestBlock first second
    if block.length = 0 then 0
    else
      block.length +
        sharedWithin rounds (first.take block.first) (second.take block.second) +
        sharedWithin rounds (first.drop (block.first + block.length))
          (second.drop (block.second + block.length))

/-- The number of characters that two words share in blocks. Every block takes a character of the
first word at least, so its length is depth enough. -/
def sharedCount (first second : List Char) : Nat :=
  sharedWithin first.length first second

/-- A word beside the one that was asked for: the characters they share, and those they have. -/
structure Candidate where
  word : String
  shared : Nat
  total : Nat
  deriving Repr, DecidableEq, Inhabited

namespace Candidate

def compare (word asked : String) : Candidate :=
  { word
    shared := sharedCount word.toList asked.toList
    total := word.length + asked.length }

/-- Whether six tenths of all characters are shared; a shared one counts in both words. -/
def isClose (candidate : Candidate) : Bool :=
  3 * candidate.total ≤ 10 * candidate.shared

/-- Whether a candidate comes before another: by what is shared, then by the later word. -/
def precedes (a b : Candidate) : Bool :=
  b.shared * a.total < a.shared * b.total ||
    (a.shared * b.total == b.shared * a.total && decide (b.word ≤ a.word))

end Candidate

/-- The words most similar to the one that was asked for, three at most, in alphabetical order. -/
def similarWords (words : List String) (asked : String) : List String :=
  let close := (words.map fun word => Candidate.compare word asked).filter Candidate.isClose
  let nearest := (close.mergeSort Candidate.precedes).take 3
  (nearest.map Candidate.word).mergeSort fun a b => decide (a ≤ b)

end Typewire.Text
