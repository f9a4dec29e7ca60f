import Swatch.Binary64.Decimal

/-!
# Colors

A color is three channels from 0 to 255 and an alpha from 0 to 1, all of them binary64 numbers that
are not rounded until they are written. This module holds the rounded views of a color and its hue,
saturation and lightness, whose computation can meet a zero divisor next to white.
-/

namespace Swatch

open Binary64 (Fault)

/-- Channels as whole numbers. -/
structure Rgb where
  red : Int
  green : Int
  blue : Int
  deriving DecidableEq, Repr

/-- A color: its channels on the scale from 0 to 255, and its alpha from 0 to 1. -/
structure Color where
  red : Binary64
  green : Binary64
  blue : Binary64
  alpha : Binary64 := 1
  deriving DecidableEq, Repr

/-! ## Whole channels -/

/-- The bits that are set in either number, negative numbers having all high bits set. -/
def bitOr : Int → Int → Int
  | .ofNat a, .ofNat b => .ofNat (a ||| b)
  | .ofNat a, .negSucc b => .negSucc (b - (b &&& a))
  | .negSucc a, .ofNat b => .negSucc (a - (a &&& b))
  | .negSucc a, .negSucc b => .negSucc (a &&& b)

/-- The channels packed into one number, eight bits for each. -/
def Rgb.packed (rgb : Rgb) : Int :=
  bitOr (bitOr (rgb.red * 0x10000) (rgb.green * 0x100)) rgb.blue

/-- A channel brought into the range of eight bits. -/
def Rgb.clampChannel (n : Int) : Nat :=
  (min n 255).toNat

/-- The channels brought into the range of eight bits. -/
def Rgb.clamped (rgb : Rgb) : Rgb :=
  ⟨Rgb.clampChannel rgb.red, Rgb.clampChannel rgb.green, Rgb.clampChannel rgb.blue⟩

/-- The squared distance of two triples of channels. -/
def Rgb.distance (a b : Rgb) : Int :=
  let red := a.red - b.red
  let green := a.green - b.green
  let blue := a.blue - b.blue
  red * red + green * green + blue * blue

namespace Color

/-- The whole number nearest to a number, the greater one of two that are equally near. -/
def roundHalfUp (x : Binary64) : Except Fault Int :=
  (x + 1 / 2).floor

/-- The color with whole channels. -/
def ofRgb (rgb : Rgb) (alpha : Binary64 := 1) : Color :=
  ⟨.ofInt rgb.red, .ofInt rgb.green, .ofInt rgb.blue, alpha⟩

/-- The rounded channels. -/
def rgb (color : Color) : Except Fault Rgb := do
  let red ← roundHalfUp color.red
  let green ← roundHalfUp color.green
  let blue ← roundHalfUp color.blue
  return ⟨red, green, blue⟩

/-- The rounded channels in one number. -/
def number (color : Color) : Except Fault Int :=
  color.rgb.map Rgb.packed

/-! ## Hue, saturation and lightness -/

/-- A hue in degrees, with a saturation and a lightness from 0 to 1. -/
structure Hsl where
  hue : Binary64
  saturation : Binary64
  lightness : Binary64
  deriving DecidableEq, Repr

/-- A hue in whole degrees and two whole percentages. -/
structure Polar where
  hue : Int
  first : Int
  second : Int
  deriving DecidableEq, Repr

/-- The greatest of three numbers. -/
def greatest (x y z : Binary64) : Binary64 :=
  (x.larger y).larger z

/-- The least of three numbers. -/
def least (x y z : Binary64) : Binary64 :=
  (x.smaller y).smaller z

/-- The sixth of the hue circle, counted from red, that channels from 0 to 1 point at. -/
def hueSixth (red green blue high range : Binary64) : Except Fault Binary64 := do
  let toRed ← (high - red).quotient range
  let toGreen ← (high - green).quotient range
  let toBlue ← (high - blue).quotient range
  return if red.same high then toBlue - toGreen
    else if green.same high then 2 + toRed - toBlue
    else 4 + toGreen - toRed

/-- The hue, saturation and lightness before any rounding. Without a range the hue and the
saturation are zero; otherwise the saturation is a quotient. The divisor of light colors takes the
rounded sum of the extremes away from two, and so it can be zero. -/
def hslExact (color : Color) : Except Fault Hsl := do
  let red := color.red / 255
  let green := color.green / 255
  let blue := color.blue / 255
  let high := greatest red green blue
  let low := least red green blue
  let sum := high + low
  let range := high - low
  let lightness := sum / 2
  if low.same high then
    return ⟨0, 0, lightness⟩
  let saturation ←
    if lightness.le (1 / 2) then range.quotient sum else range.quotient (2 - sum)
  let sixth ← hueSixth red green blue high range
  return ⟨(sixth / 6).wrap 1 * 360, saturation, lightness⟩

/-- The hue from 0 to 359 with the percentages of saturation and lightness. -/
def hsl (color : Color) : Except Fault Polar := do
  let exact ← color.hslExact
  let hue ← roundHalfUp exact.hue
  let saturation ← roundHalfUp (exact.saturation * 100)
  let lightness ← roundHalfUp (exact.lightness * 100)
  return ⟨hue % 360, saturation, lightness⟩

/-- The hue from 0 to 359 with the percentages of whiteness and blackness. -/
def hwb (color : Color) : Except Fault Polar := do
  let hue := (← color.hsl).hue
  let low := least color.red color.green color.blue / 255
  let high := greatest color.red color.green color.blue / 255
  let whiteness ← roundHalfUp (low * 100)
  let blackness ← roundHalfUp ((1 - high) * 100)
  return ⟨hue, whiteness, blackness⟩

/-! ## From hue, saturation and lightness -/

/-- One channel, from 0 to 1, of a color between `low` and `high` at a place on the hue circle. -/
def channelAt (low high turn : Binary64) : Binary64 :=
  let turn := turn.wrap 1
  if turn.lt (1 / 6) then low + (high - low) * turn * 6
  else if turn.lt (1 / 2) then high
  else if turn.lt (2 / 3) then low + (high - low) * (2 / 3 - turn) * 6
  else low

/-- The channels, from 0 to 1, at a place on the hue circle. -/
def channelsAt (turn lightness saturation : Binary64) : Binary64 × Binary64 × Binary64 :=
  if saturation.same 0 then (lightness, lightness, lightness)
  else
    let high :=
      if lightness.le (1 / 2) then lightness * (1 + saturation)
      else lightness + saturation - lightness * saturation
    let low := 2 * lightness - high
    (channelAt low high (turn + 1 / 3), channelAt low high turn, channelAt low high (turn - 1 / 3))

end Color

end Swatch
