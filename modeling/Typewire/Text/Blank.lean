/-!
# Blank characters

Two classes of blanks. `isBlank` is whitespace of any script, with the separators among the control
characters; `isFiller` is the small set that may stand between the parts of a parameter text.
Every filler is a blank.
-/
namespace Typewire.Text

/-- Whitespace of any script. -/
def isBlank (c : Char) : Bool :=
  let n := c.toNat
  (0x09 ≤ n && n ≤ 0x0d) || (0x1c ≤ n && n ≤ 0x20) || n == 0x85 || n == 0xa0 || n == 0x1680 ||
    (0x2000 ≤ n && n ≤ 0x200a) || n == 0x2028 || n == 0x2029 || n == 0x202f || n == 0x205f ||
    n == 0x3000

/-- Space, tab, line feed, form feed and carriage return. -/
def isFiller (c : Char) : Bool :=
  c == ' ' || c == '\t' || c == '\n' || c == '\x0c' || c == '\r'

theorem isBlank_of_isFiller {c : Char} (filler : isFiller c = true) : isBlank c = true := by
  simp only [isFiller, Bool.or_eq_true, beq_iff_eq] at filler
  rcases filler with (((rfl | rfl) | rfl) | rfl) | rfl <;> rfl

end Typewire.Text
