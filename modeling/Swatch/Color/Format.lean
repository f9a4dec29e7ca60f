import Swatch.Color.Literal

/-!
# Color formats

The seven ways to write a color. Each has a name, and all but the keyword format have shorter
names too. Channels, degrees and percentages are written as whole numbers, rounded half up, and an
alpha below one with at most four decimals.
-/

namespace Swatch

/-- A way to write a color. -/
inductive ColorFormat where
  /-- `#RRGGBB`, without the alpha. -/
  | hex
  /-- `#RRGGBBAA`. -/
  | hexa
  /-- `rgb` or `rgba` with numbers. -/
  | rgb
  /-- `rgb` or `rgba` with percentages. -/
  | percent
  /-- `hsl` or `hsla`. -/
  | hsl
  /-- `hwb`. -/
  | hwb
  /-- The name of the color, or else the nearest name. -/
  | keyword
  deriving DecidableEq, Repr

namespace ColorFormat

/-! ## Names -/

/-- The name of a format. -/
def name : ColorFormat → String
  | hex => "hexString"
  | hexa => "hexaString"
  | rgb => "rgbString"
  | percent => "percentString"
  | hsl => "hslString"
  | hwb => "hwbString"
  | keyword => "keyword"

/-- The formats in the order in which they are listed. -/
def all : List ColorFormat := [hex, hexa, rgb, percent, hsl, hwb, keyword]

/-- The shorter names of formats. -/
def shortNames : List (String × ColorFormat) := [
  ("hex", hex), ("hexa", hexa), ("hexWithAlpha", hexa), ("rgb", rgb), ("percent", percent),
  ("hsl", hsl), ("hwb", hwb)]

/-- Every name of a format, the full ones first. -/
def nameTable : List (String × ColorFormat) :=
  all.map (fun format => (format.name, format)) ++ shortNames

/-- The format with a full or short name. -/
def ofName? (name : String) : Option ColorFormat :=
  nameTable.lookup name

end ColorFormat

namespace Color

open Binary64 (Fault)

/-! ## Parts -/

/-- A whole number in decimal notation. -/
def decimal (n : Int) : List Char :=
  (if n < 0 then ['-'] else []) ++ Nat.toDigits 10 n.natAbs

/-- A digit of the sixteen-based notation as a capital. -/
def capitalDigit (n : Nat) : Char :=
  Text.asciiUpper (Text.hexDigit n)

/-- A whole number in the sixteen-based notation: at least two characters, a minus sign being one
of them. -/
def twoDigits (n : Int) : List Char :=
  let digits := (Nat.toDigits 16 n.natAbs).map Text.asciiUpper
  if n < 0 then '-' :: digits
  else List.replicate (2 - digits.length) '0' ++ digits

/-- A channel in two digits of the sixteen-based notation, brought into range first. -/
def channelDigits (n : Int) : List Char :=
  let channel := Rgb.clampChannel n
  [capitalDigit (channel / 16), capitalDigit (channel % 16)]

/-- The alpha with four decimals, without the zeros at their end. -/
def alphaText (alpha : Binary64) : List Char :=
  let written := (alpha.fixed 4).reverse.dropWhile (· == '0')
  (written.dropWhile (· == '.')).reverse

/-- A function call with arguments separated by commas. The alpha is written only below one, as the
last argument. -/
def callText (plain transparent : String) (arguments : List (List Char)) (alpha : Binary64) :
    String :=
  let isTransparent := alpha.lt 1
  let all := if isTransparent then arguments ++ [alphaText alpha] else arguments
  String.ofList ((if isTransparent then transparent else plain).toList ++
    '(' :: [',', ' '].intercalate all ++ [')'])

/-- A whole percentage. -/
def percentText (n : Int) : List Char :=
  decimal n ++ ['%']

/-! ## The formats -/

/-- `#RRGGBB`. -/
def hexText (color : Color) : Except Fault String := do
  let rgb ← color.rgb
  return String.ofList
    ('#' :: channelDigits rgb.red ++ channelDigits rgb.green ++ channelDigits rgb.blue)

/-- `#RRGGBBAA`. -/
def hexaText (color : Color) : Except Fault String := do
  let plain ← color.hexText
  let alpha ← roundHalfUp (color.alpha * 255)
  return plain ++ String.ofList (twoDigits alpha)

/-- `rgb` or `rgba` with numbers. -/
def rgbText (color : Color) : Except Fault String := do
  let rgb ← color.rgb
  return callText "rgb" "rgba" ([rgb.red, rgb.green, rgb.blue].map decimal) color.alpha

/-- The percentage of a whole channel. -/
def channelPercent (n : Int) : Except Fault Int :=
  roundHalfUp (.ofInt n / 255 * 100)

/-- `rgb` or `rgba` with percentages of the whole channels. -/
def percentagesText (color : Color) : Except Fault String := do
  let rgb ← color.rgb
  let red ← channelPercent rgb.red
  let green ← channelPercent rgb.green
  let blue ← channelPercent rgb.blue
  return callText "rgb" "rgba" ([red, green, blue].map percentText) color.alpha

/-- `hsl` or `hsla`. -/
def hslText (color : Color) : Except Fault String := do
  let hsl ← color.hsl
  return callText "hsl" "hsla" [decimal hsl.hue, percentText hsl.first, percentText hsl.second]
    color.alpha

/-- `hwb`. -/
def hwbText (color : Color) : Except Fault String := do
  let hwb ← color.hwb
  return callText "hwb" "hwb" [decimal hwb.hue, percentText hwb.first, percentText hwb.second]
    color.alpha

/-- The name of the rounded channels, or else the name nearest to them. -/
def keyword (color : Color) : Except Fault String := do
  let rgb ← color.rgb
  return (ColorName.nameOf? rgb).getD (ColorName.nearest rgb)

/-- The color in a format. -/
def write (color : Color) : ColorFormat → Except Fault String
  | .hex => color.hexText
  | .hexa => color.hexaText
  | .rgb => color.rgbText
  | .percent => color.percentagesText
  | .hsl => color.hslText
  | .hwb => color.hwbText
  | .keyword => color.keyword

end Color

end Swatch
