import Typewire.Text.Segment

/-!
# Text with styles

A styled text is a text with spans, each of which has a style. Cutting and padding a styled text moves
its spans along. The places where spans start and end divide it into segments.
-/
namespace Typewire.Text

/-- A style and where it reaches, from the character at `start` to the one before `stop`. -/
structure Span where
  start : Nat
  stop : Nat
  /-- The definition of the style, if it has one. -/
  style : Option String := none
  deriving Repr, DecidableEq, Inhabited

structure StyledText where
  chars : List Char := []
  spans : List Span := []
  deriving Repr, DecidableEq, Inhabited

namespace Span

/-- What a span covers of the characters from `start` to the one before `stop`, counted from there. -/
def within? (start stop : Nat) (span : Span) : Option Span :=
  let first := span.start - start
  let last := min span.stop stop - start
  if first < last then some { span with start := first, stop := last } else none

def shift (distance : Nat) (span : Span) : Span :=
  { span with start := span.start + distance, stop := span.stop + distance }

/-- What is left of a span in a text that was cut. -/
def clip? (length : Nat) (span : Span) : Option Span :=
  if span.start < length then some { span with stop := min span.stop length } else none

end Span

namespace StyledText

/-- The characters from `start` to the one before `stop`. -/
def slice (text : StyledText) (start stop : Nat) : StyledText :=
  { chars := (text.chars.take stop).drop start
    spans := text.spans.filterMap (Span.within? start stop) }

/-- The slices of a text between positions, given the position where the first one starts. -/
def slicesFrom (text : StyledText) (start : Nat) : List Nat → List StyledText
  | [] => [text.slice start text.chars.length]
  | stop :: stops => text.slice start stop :: text.slicesFrom stop stops

/-- A text divided at positions. Without positions it stays as it is. -/
def divide (text : StyledText) (stops : List Nat) : List StyledText :=
  if stops.isEmpty then [text] else text.slicesFrom 0 stops

/-- The positions in a text of the characters of a sort. -/
def positions (text : StyledText) (accept : Char → Bool) : List Nat :=
  text.chars.zipIdx.filterMap fun (c, position) => if accept c then some position else none

/-- The lines of a text between its line feeds. -/
def lines (text : StyledText) : List StyledText :=
  match text.positions (· = '\n') with
  | [] => [text]
  | first :: others =>
    let starts := 0 :: (first :: others).map (· + 1)
    let stops := first :: others ++ [text.chars.length]
    (starts.zip stops).map fun (start, stop) => text.slice start stop

/-- The text with other characters. Spans are cut when it gets shorter. -/
def withChars (text : StyledText) (cs : List Char) : StyledText :=
  { chars := cs
    spans :=
      if cs.length < text.chars.length then text.spans.filterMap (Span.clip? cs.length)
      else text.spans }

/-- The text with blanks at its end, which have no style. -/
def padRight (text : StyledText) (count : Nat) : StyledText :=
  { text with chars := text.chars ++ List.replicate count ' ' }

/-- The text with blanks at its start, which have no style. -/
def padLeft (text : StyledText) (count : Nat) : StyledText :=
  { chars := List.replicate count ' ' ++ text.chars, spans := text.spans.map (Span.shift count) }

/-- The text with blanks at its end, which take on the styles that reach there. -/
def extend (text : StyledText) (count : Nat) : StyledText :=
  { chars := text.chars ++ List.replicate count ' '
    spans := text.spans.map fun span =>
      if text.chars.length ≤ span.stop then { span with stop := span.stop + count } else span }

def append (first second : StyledText) : StyledText :=
  { chars := first.chars ++ second.chars
    spans := first.spans ++ second.spans.map (Span.shift first.chars.length) }

/-- The cells that a text takes when it is measured as a whole. -/
def width (text : StyledText) : Nat :=
  Text.width text.chars

/-- The style at a position: that of all spans that cover it, a later one within an earlier one. Texts
that denote no style do nothing. -/
def styleAt (text : StyledText) (position : Nat) : Except NumberFault TextStyle :=
  text.spans.foldlM (fun outer span =>
    match span.style with
    | some style =>
      if span.start ≤ position && position < span.stop then do
        return ((← TextStyle.parse style.toList).getD {}).inside outer
      else .ok outer
    | none => .ok outer) {}

def checkStyles (text : StyledText) : Except NumberFault Unit :=
  text.spans.forM fun span => (span.style.mapM fun style => TextStyle.parse style.toList).map fun _ => ()

/-- The positions where the segments of a text start. -/
def segmentStarts (text : StyledText) : List Nat :=
  let bounds := text.spans.flatMap fun span => [span.start, span.stop]
  (List.range text.chars.length).filter fun position => position = 0 || bounds.contains position

def segments (text : StyledText) : Except NumberFault (List Segment) := do
  text.checkStyles
  let starts := text.segmentStarts
  (starts.zip (starts.tail ++ [text.chars.length])).mapM fun (start, stop) => do
    return { chars := (text.slice start stop).chars, style := ← text.styleAt start }

end StyledText

end Typewire.Text
