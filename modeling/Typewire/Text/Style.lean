import Typewire.Text.Color

/-!
# Styles of text

A style is written as words: effects, each of which may be denied by `not` before it, a colour, a
colour behind the word `on` for the background, and a target behind the word `link`. Of several colours
the last one counts. Two texts that denote the same style have the same name.
-/
namespace Typewire.Text

/-- What a style can do to a text besides colouring it. -/
inductive Effect where
  | bold
  | dim
  | italic
  | underline
  | blink
  | blink2
  | reverse
  | conceal
  | strike
  | underline2
  | frame
  | encircle
  | overline
  deriving Repr, DecidableEq, Inhabited

namespace Effect

/-- All effects, in the order in which a style lists them. -/
def all : List Effect :=
  [bold, dim, italic, underline, blink, blink2, reverse, conceal, strike, underline2, frame, encircle,
   overline]

def name : Effect → String
  | bold => "bold"
  | dim => "dim"
  | italic => "italic"
  | underline => "underline"
  | blink => "blink"
  | blink2 => "blink2"
  | reverse => "reverse"
  | conceal => "conceal"
  | strike => "strike"
  | underline2 => "underline2"
  | frame => "frame"
  | encircle => "encircle"
  | overline => "overline"

def shortName? : Effect → Option String
  | bold => some "b"
  | dim => some "d"
  | italic => some "i"
  | underline => some "u"
  | reverse => some "r"
  | conceal => some "c"
  | strike => some "s"
  | underline2 => some "uu"
  | overline => some "o"
  | _ => none

/-- The effect of a name, short or long. -/
def ofName? (word : List Char) : Option Effect :=
  all.find? fun effect =>
    effect.name = String.ofList word || effect.shortName? = some (String.ofList word)

end Effect

/-- How a text looks. -/
structure TextStyle where
  /-- Effects that are given or denied, the last one of a kind first. -/
  effects : List (Effect × Bool) := []
  color : Option Color := none
  background : Option Color := none
  link : Option (List Char) := none
  deriving Repr, DecidableEq, Inhabited

namespace TextStyle

/-- Adds what words say to a style. There is no style when they are not understood. -/
def addWords (style : TextStyle) : List (List Char) → Except NumberFault (Option TextStyle)
  | [] => .ok style
  | word :: rest =>
    let key := String.ofList (lower word)
    if key = "on" then
      match rest with
      | [] => .ok none
      | next :: rest => do
        match ← Color.parse next with
        | some color => addWords { style with background := some color } rest
        | none => return none
    else if key = "not" then
      match rest with
      | [] => .ok none
      | next :: rest =>
        match Effect.ofName? next with
        | some effect =>
          addWords { style with effects := (effect, false) :: style.effects } rest
        | none => .ok none
    else if key = "link" then
      match rest with
      | [] => .ok none
      | next :: rest => addWords { style with link := some next } rest
    else
      match Effect.ofName? (lower word) with
      | some effect =>
        addWords { style with effects := (effect, true) :: style.effects } rest
      | none => do
        match ← Color.parse (lower word) with
        | some color => addWords { style with color := some color } rest
        | none => return none

/-- The style that a text denotes, if it denotes one. -/
def parse (cs : List Char) : Except NumberFault (Option TextStyle) :=
  if trim cs = "none".toList then .ok (some {}) else addWords {} (wordsOf cs)

def bold : TextStyle :=
  { effects := [(.bold, true)] }

def dim : TextStyle :=
  { effects := [(.dim, true)] }

/-- The style that only has one of the standard colours, given by name and number. -/
def colored (name : String) (number : Nat) : TextStyle :=
  { color := some { name := name.toList, shade := .numbered number } }

/-- A style within another one. What it does not say is left to the other. -/
def inside (inner outer : TextStyle) : TextStyle :=
  { effects := inner.effects ++ outer.effects
    color := inner.color.or outer.color
    background := inner.background.or outer.background
    link := inner.link.or outer.link }

def withoutColor (style : TextStyle) : TextStyle :=
  { style with color := none, background := none }

/-- The words that denote a style. -/
def words (style : TextStyle) : List String :=
  let effects := Effect.all.flatMap fun effect =>
    match style.effects.lookup effect with
    | some true => [effect.name]
    | some false => ["not " ++ effect.name]
    | none => []
  let color := (style.color.map fun color => [String.ofList color.name]).getD []
  let background := (style.background.map fun color => ["on", String.ofList color.name]).getD []
  let link := (style.link.map fun target => ["link", String.ofList target]).getD []
  effects ++ color ++ background ++ link

def name (style : TextStyle) : String :=
  if style.words.isEmpty then "none" else String.intercalate " " style.words

/-- The name of the style that a text denotes. A text that denotes none is its own name, in small
letters and without blanks around it. -/
def normalName (cs : List Char) : Except NumberFault String := do
  match ← parse cs with
  | some style => return style.name
  | none => return String.ofList (lower (trim cs))

end TextStyle

end Typewire.Text
