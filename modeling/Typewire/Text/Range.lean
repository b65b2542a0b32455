/-!
# Ranges of code points

Properties of characters are given as lists of inclusive ranges of code points.
-/
namespace Typewire.Text

/-- Whether a character lies in one of some ranges. -/
def liesIn (ranges : List (Nat × Nat)) (c : Char) : Bool :=
  ranges.any fun range => range.1 ≤ c.toNat && c.toNat ≤ range.2

end Typewire.Text
