import Typewire.Rounding
import Typewire.Text.Style

/-!
# Colours of terminals

Terminals differ in how many colours they show. A colour that a terminal does not have is shown as the
one that comes closest. What starts a style on a terminal is a list of codes: one for each effect, and
some for the colours.
-/
namespace Typewire.Text

/-- How many colours a terminal shows: sixteen, 256, or all mixtures. -/
inductive ColorDepth where
  | standard
  | extended
  | full
  deriving Repr, DecidableEq, Inhabited

/-- Amounts of red, green and blue. -/
abbrev Mixture := Nat × Nat × Nat

namespace Mixture

/-- The mixtures of the sixteen colours that every terminal has. -/
def standard : List Mixture :=
  [(0, 0, 0), (170, 0, 0), (0, 170, 0), (170, 85, 0), (0, 0, 170), (170, 0, 170), (0, 170, 170),
   (170, 170, 170), (85, 85, 85), (255, 85, 85), (85, 255, 85), (255, 255, 85), (85, 85, 255),
   (255, 85, 255), (85, 255, 255), (255, 255, 255)]

/-- The amount at a step of the colour cube. -/
def cubeAmount (step : Nat) : Nat :=
  if step = 0 then 0 else 55 + 40 * step

/-- The mixture of a numbered colour: the sixteen first, then a cube with six steps on each side, then
a scale of greys. -/
def ofNumber (number : Nat) : Mixture :=
  if number < 16 then standard.getD number (0, 0, 0)
  else if number < 232 then
    let place := number - 16
    (cubeAmount (place / 36), cubeAmount (place / 6 % 6), cubeAmount (place % 6))
  else
    let grey := 8 + 10 * (number - 232)
    (grey, grey, grey)

def squaredDifference (a b : Nat) : Nat :=
  (a - b) * (a - b) + (b - a) * (b - a)

/-- How far two mixtures are apart to the eye. -/
def distance (a b : Mixture) : Nat :=
  let mean := (a.1 + b.1) / 2
  (512 + mean) * squaredDifference a.1 b.1 / 256 + 4 * squaredDifference a.2.1 b.2.1 +
    (767 - mean) * squaredDifference a.2.2 b.2.2 / 256

/-- The position of the nearest mixture in a list, given the best one so far and the position of the
next one. -/
def nearestFrom (mixture : Mixture) (best : Nat × Nat) (position : Nat) : List Mixture → Nat
  | [] => best.1
  | next :: others =>
    let found := distance mixture next
    nearestFrom mixture (if found < best.2 then (position, found) else best) (position + 1) others

/-- The number of the standard colour that comes closest; of several the first one. -/
def toStandard (mixture : Mixture) : Nat :=
  nearestFrom mixture (0, distance mixture (0, 0, 0)) 0 standard

/-- The step of the colour cube that comes closest to an amount. -/
def cubeStep (amount : Nat) : Nat :=
  if amount < 95 then roundedQuotient amount 95 else roundedQuotient (amount - 55) 40

/-- The number of the extended colour that comes closest. Pale mixtures become greys. -/
def toExtended (mixture : Mixture) : Nat :=
  let (red, green, blue) := mixture
  let most := max red (max green blue)
  let least := min red (min green blue)
  let total := most + least
  let rest := if total ≤ 255 then total else 510 - total
  if most = least || 100 * (most - least) < 15 * rest then
    let grey := roundedQuotient (25 * total) 510
    if grey = 0 then 16 else 231 + grey % 25
  else 16 + 36 * cubeStep red + 6 * cubeStep green + cubeStep blue

end Mixture

/-- A shade as a terminal shows it. -/
def Shade.within (depth : ColorDepth) : Shade → Shade
  | .unset => .unset
  | .numbered number =>
    if depth = .standard && 16 ≤ number then .numbered (Mixture.ofNumber number).toStandard
    else .numbered number
  | .mixed red green blue =>
    match depth with
    | .standard => .numbered (Mixture.toStandard (red, green, blue))
    | .extended => .numbered (Mixture.toExtended (red, green, blue))
    | .full => .mixed red green blue

/-- The codes of a shade, for the text itself or for what is behind it. -/
def Shade.codes (isBackground : Bool) (shade : Shade) : List Nat :=
  let offset := if isBackground then 10 else 0
  match shade with
  | .unset => [39 + offset]
  | .numbered number =>
    if number < 8 then [30 + offset + number]
    else if number < 16 then [82 + offset + number]
    else [38 + offset, 5, number]
  | .mixed red green blue => [38 + offset, 2, red, green, blue]

def Effect.code : Effect → Nat
  | bold => 1
  | dim => 2
  | italic => 3
  | underline => 4
  | blink => 5
  | blink2 => 6
  | reverse => 7
  | conceal => 8
  | strike => 9
  | underline2 => 21
  | frame => 51
  | encircle => 52
  | overline => 53

namespace TextStyle

/-- The codes that start a style on a terminal. -/
def codes (depth : ColorDepth) (style : TextStyle) : List Nat :=
  let effects := Effect.all.filter fun effect => style.effects.lookup effect = some true
  let shade (isBackground : Bool) (color : Option Color) :=
    (color.map fun color => (color.shade.within depth).codes isBackground).getD []
  effects.map Effect.code ++ shade false style.color ++ shade true style.background

/-- A text in a style: between the codes that start it and the one that ends all styles. Nothing is
added to an empty text, nor for a style without codes. -/
def paint (depth : ColorDepth) (style : TextStyle) (cs : List Char) : List Char :=
  match cs, style.codes depth with
  | [], _ => []
  | _, [] => cs
  | _, codes =>
    ['\x1b', '['] ++ (String.intercalate ";" (codes.map toString)).toList ++ ['m'] ++ cs ++
      ['\x1b', '[', '0', 'm']

end TextStyle

end Typewire.Text
