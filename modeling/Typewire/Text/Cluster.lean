import Typewire.Text.Width

/-!
# Clusters of characters

Characters that are drawn as one form a cluster: a visible character with the marks behind it, and
what a joiner melts into it. A text is cut between clusters only.
-/
namespace Typewire.Text

/-- Characters that are drawn as one, and the cells that they take. -/
structure Cluster where
  chars : List Char
  width : Nat
  deriving Repr, DecidableEq, Inhabited

namespace Cluster

def extend (cluster : Cluster) (cs : List Char) (width : Nat) : Cluster :=
  { chars := cluster.chars ++ cs, width := cluster.width + width }

end Cluster

/-- The clusters of a text. `last` is the last visible character before it, and `before` holds the
clusters so far in reverse. A joiner and a selector at the very start stand alone. -/
def clustersAfter (last : Option Char) (before : List Cluster) : List Char → List Cluster
  | [] => before.reverse
  | c :: rest =>
    match before with
    | [] =>
      if c = joiner || c = pictureSelector then clustersAfter last [⟨[c], 0⟩] rest
      else if charWidth c = 0 then clustersAfter last [⟨[c], 0⟩] rest
      else clustersAfter (some c) [⟨[c], charWidth c⟩] rest
    | cluster :: outer =>
      if c = joiner then
        match rest with
        | [] => (cluster.extend [c] 0 :: outer).reverse
        | next :: rest => clustersAfter last (cluster.extend [c, next] 0 :: outer) rest
      else if c = pictureSelector then
        if last.any (liesIn pictureRanges) then
          clustersAfter none (cluster.extend [c] 1 :: outer) rest
        else clustersAfter last (cluster.extend [c] 0 :: outer) rest
      else if charWidth c = 0 then clustersAfter last (cluster.extend [c] 0 :: outer) rest
      else clustersAfter (some c) (⟨[c], charWidth c⟩ :: before) rest

def clusters (cs : List Char) : List Cluster :=
  clustersAfter none [] cs

/-- The start of a text that takes the given cells. A cluster that would cross the end leaves a
blank. -/
def cutClusters : Nat → List Cluster → List Char
  | 0, _ => []
  | _, [] => []
  | limit, cluster :: rest =>
    if cluster.width ≤ limit then cluster.chars ++ cutClusters (limit - cluster.width) rest
    else [' ']

/-- The start of a text that takes the given cells. -/
def cutTo (limit : Nat) (cs : List Char) : List Char :=
  cutClusters limit (clusters cs)

/-- A text that takes exactly the given cells: cut if it is too wide, else padded. -/
def resize (limit : Nat) (cs : List Char) : List Char :=
  if limit = 0 then []
  else if width cs ≤ limit then cs ++ List.replicate (limit - width cs) ' '
  else cutTo limit cs

end Typewire.Text
