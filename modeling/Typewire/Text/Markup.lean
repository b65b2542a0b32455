import Typewire.Text.ActionValue
import Typewire.Text.Emoji
import Typewire.Text.Style
import Typewire.Text.Styled

/-!
# Style tags in text

A tag in brackets opens a style, and one that starts with a slash closes it. Every closing tag must have
an open one to close; tags that are never closed reach to the end of the text. A backslash in front
takes a tag as text, and two of them stand for one.

Emoji may be named anywhere outside the tags, and some control characters vanish.
-/
namespace Typewire.Text

/-- What is wrong with the tags of a text. -/
inductive MarkupFault where
  /-- A closing tag has nothing to close. -/
  | unpairedTag
  /-- The value of an action is malformed. -/
  | malformedAction
  /-- A part of a colour is no number. -/
  | badNumber (fault : NumberFault)
  deriving Repr, DecidableEq

/-- Whether a character vanishes in shown text: bell, backspace, vertical tab, form feed and carriage
return. -/
def vanishes (c : Char) : Bool :=
  let n := c.toNat
  n == 7 || n == 8 || n == 11 || n == 12 || n == 13

/-- A piece of text with style tags. -/
inductive MarkupPiece where
  | text (cs : List Char)
  | tag (content : List Char)
  deriving Repr, DecidableEq

namespace Markup

/-- Whether a character may start a tag. -/
def startsTag (c : Char) : Bool :=
  ('a' ≤ c && c ≤ 'z') || c == '#' || c == '/' || c == '@'

/-- The content of the tag whose opening bracket precedes a text. -/
def tag? (cs : List Char) : Option (List Char) :=
  match cs with
  | [] => none
  | first :: _ =>
    let content := cs.takeWhile (· != ']')
    if startsTag first && !content.contains '[' && content.length < cs.length then some content
    else none

/-- The tag at the start of a text and the number of backslashes before it. -/
def escapedTag? (cs : List Char) : Option (Nat × List Char) :=
  match cs.dropWhile (· = '\\') with
  | '[' :: rest => (tag? rest).map ((cs.takeWhile (· = '\\')).length, ·)
  | _ => none

/-- The pieces of a tag after some backslashes. -/
def tagPieces (backslashes : Nat) (content : List Char) : List MarkupPiece :=
  let literal :=
    if backslashes / 2 = 0 then [] else [.text (List.replicate (backslashes / 2) '\\')]
  if backslashes % 2 = 1 then literal ++ [.text ('[' :: content ++ [']'])]
  else literal ++ [.tag content]

/-- Pieces with one more character of text in front. `joined` tells whether it belongs to the text
that the pieces start with. -/
def consText (joined : Bool) (c : Char) : List MarkupPiece → List MarkupPiece
  | .text cs :: pieces => if joined then .text (c :: cs) :: pieces else .text [c] :: .text cs :: pieces
  | pieces => .text [c] :: pieces

/-- The pieces of a text after `skipped` more characters of a tag. -/
def piecesAfter : Nat → List Char → List MarkupPiece
  | _, [] => []
  | skipped + 1, _ :: rest => piecesAfter skipped rest
  | 0, c :: rest =>
    match escapedTag? (c :: rest) with
    | some (backslashes, content) =>
      tagPieces backslashes content ++ piecesAfter (backslashes + content.length + 1) rest
    | none => consText (escapedTag? rest).isNone c (piecesAfter 0 rest)

/-- A text with brackets for escaped ones. -/
def unescape : List Char → List Char
  | '\\' :: '[' :: rest => '[' :: unescape rest
  | c :: rest => c :: unescape rest
  | [] => []

/-- A tag that is open: where its text starts, the name of its style, and what stands behind the
equals sign. -/
structure OpenTag where
  start : Nat
  name : String
  value : Option (List Char)
  deriving Repr, DecidableEq

namespace OpenTag

/-- Whether the tag ties an action to its text. -/
def isAction (tag : OpenTag) : Bool :=
  tag.name.toList.head? = some '@'

/-- The definition of the style that the tag stands for. -/
def style (tag : OpenTag) : String :=
  match tag.value with
  | none => tag.name
  | some value => tag.name ++ " " ++ String.ofList value

/-- The span of a tag that is closed at a position. The value of an action must be well formed. -/
def close (tag : OpenTag) (stop : Nat) : Except MarkupFault Span :=
  if tag.isAction then
    if (tag.value.all ActionValue.isWellFormed) then .ok { start := tag.start, stop }
    else .error .malformedAction
  else .ok { start := tag.start, stop, style := some tag.style }

end OpenTag

/-- A text with style tags that is being shown. -/
structure Showing where
  chars : List Char := []
  /-- The spans of closed tags, the last one first. -/
  spans : List Span := []
  /-- The open tags, the last one first. -/
  openTags : List OpenTag := []
  deriving Repr

namespace Showing

def addText (showing : Showing) (cs : List Char) : Showing :=
  { showing with chars := showing.chars ++ (withEmoji (unescape cs)).filter (!vanishes ·) }

def closeTag (showing : Showing) (tag : OpenTag) : Except MarkupFault Showing := do
  let span ← tag.close showing.chars.length
  return { showing with spans := span :: showing.spans, openTags := showing.openTags.erase tag }

/-- Follows a tag. A closing tag without a name closes the last open one. -/
def addTag (showing : Showing) (content : List Char) : Except MarkupFault Showing := do
  let name := content.takeWhile (· != '=')
  let value := if name.length < content.length then some (content.drop (name.length + 1)) else none
  match name with
  | '/' :: name =>
    let found ←
      if name.all isBlank then pure showing.openTags.head?
      else do
        let closed ← (TextStyle.normalName (trim name)).mapError .badNumber
        pure (showing.openTags.find? fun tag => tag.name = closed)
    match found with
    | some tag => showing.closeTag tag
    | none => .error .unpairedTag
  | name =>
    let name ← (TextStyle.normalName name).mapError .badNumber
    return { showing with openTags := ⟨showing.chars.length, name, value⟩ :: showing.openTags }

def addPiece (showing : Showing) : MarkupPiece → Except MarkupFault Showing
  | .text cs => .ok (showing.addText cs)
  | .tag content => showing.addTag content

/-- The shown text. Tags that were never closed reach to its end. Spans that start earlier come first,
and of those that start together the one that was closed last. -/
def finish (showing : Showing) : StyledText :=
  let unclosed := showing.openTags.map fun tag : OpenTag =>
    { start := tag.start, stop := showing.chars.length, style := some tag.style : Span }
  { chars := showing.chars
    spans := (unclosed.reverse ++ showing.spans).mergeSort fun a b => a.start ≤ b.start }

end Showing

end Markup

/-- A text as it is shown, with the styles of its tags. -/
def shown (s : String) : Except MarkupFault StyledText :=
  let cs := s.toList
  if cs.contains '[' then do
    let showing ← (Markup.piecesAfter 0 cs).foldlM Markup.Showing.addPiece {}
    return showing.finish
  else .ok { chars := (withEmoji cs).filter (!vanishes ·) }

end Typewire.Text
