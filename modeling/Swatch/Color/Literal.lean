import Swatch.Color.Name
import Swatch.Json.Basic
import Swatch.Text.Digit

/-!
# Color literals

A text is a color when, without the blanks around it, it is one of

- a name of the table or `transparent`, in any case;
- a number sign with 3, 4, 6 or 8 digits of the sixteen-based notation;
- `rgb`, `rgba`, `hsl`, `hsla`, `hwb` or `hwba` in any case, and between parentheses three or four
  arguments, separated by blanks, commas and slashes.

An argument is a decimal numeral with an optional sign, fraction and exponent, and perhaps a `%` or
`deg` after it. Which units are admissible depends on the place. Letters are matched whatever their
case, and so are the few letters beyond ASCII whose case forms are ASCII letters: they count as
letters of a name, and `ſ` as the letter `s` of a function name.
-/

namespace Swatch

/-- Why a value is not a color. -/
inductive LiteralError where
  /-- The value is not a text but of this kind. -/
  | notText (kind : String)
  /-- A word that names no color. -/
  | unknownName (literal : String)
  /-- A text of none of the three forms. -/
  | notAColor (literal : String)
  /-- An argument that is no numeral with a unit. -/
  | badArgument (argument : String)
  /-- Neither three nor four arguments. -/
  | argumentCount (function : String) (count : Nat)
  /-- Channels that are neither all numbers nor all percentages. -/
  | mixedChannels
  /-- An alpha in degrees. -/
  | angularAlpha
  /-- A hue in percent. -/
  | percentHue
  /-- A percentage in degrees. -/
  | angularPercentage
  deriving DecidableEq, Repr

/-- What a message says about a value that is not a color. -/
def LiteralError.message : LiteralError → String
  | .notText kind => "Expected a string, got " ++ kind
  | .unknownName literal => "Unknown color keyword: " ++ Text.quoted literal
  | .notAColor literal => "Not a color: " ++ Text.quoted literal
  | .badArgument argument => "Invalid color argument: " ++ Text.quoted argument
  | .argumentCount function count =>
    function ++ "() expects 3 or 4 arguments, got " ++ toString count
  | .mixedChannels => "rgb() channels must be all numbers or all percentages"
  | .angularAlpha => "Alpha cannot be an angle"
  | .percentHue => "Hue cannot be a percentage"
  | .angularPercentage => "Expected a percentage"

namespace Color

/-! ## Arguments -/

/-- What may stand after the numeral of an argument. -/
inductive Measure where
  | percent
  | degree
  deriving DecidableEq, Repr

/-- An argument of a color function. -/
structure Argument where
  value : Binary64
  measure : Option Measure
  deriving DecidableEq, Repr

/-- An optional sign: whether it is a minus sign, and the text after it. -/
def readSign : List Char → Bool × List Char
  | '-' :: rest => (true, rest)
  | '+' :: rest => (false, rest)
  | cs => (false, cs)

/-- The digits of a numeral before and after its point, and the text after them. There is at least
one digit, and a point without digits before it has some after it. -/
def readDigits? (cs : List Char) : Option (List Char × List Char × List Char) :=
  let whole := cs.takeWhile Text.isDecimalDigit
  match cs.dropWhile Text.isDecimalDigit with
  | '.' :: rest =>
    let places := rest.takeWhile Text.isDecimalDigit
    if whole.isEmpty && places.isEmpty then none
    else some (whole, places, rest.dropWhile Text.isDecimalDigit)
  | rest => if whole.isEmpty then none else some (whole, [], rest)

/-- An optional exponent: its value, and the text after it. -/
def readPower (cs : List Char) : Int × List Char :=
  match cs with
  | c :: rest =>
    let (negative, unsigned) := readSign rest
    let digits := unsigned.takeWhile Text.isDecimalDigit
    if Text.asciiLower c = 'e' ∧ digits ≠ [] then
      let size : Int := Text.decimalNumeral digits
      (if negative then -size else size, unsigned.dropWhile Text.isDecimalDigit)
    else (0, cs)
  | [] => (0, [])

/-- The unit that a text spells: none, percent or degrees. -/
def readMeasure? (cs : List Char) : Option (Option Measure) :=
  match cs.map Text.asciiLower with
  | [] => some none
  | ['%'] => some (some .percent)
  | ['d', 'e', 'g'] => some (some .degree)
  | _ => none

/-- The argument that a text spells. -/
def readArgument? (cs : List Char) : Option Argument := do
  let (negative, unsigned) := readSign cs
  let (whole, places, rest) ← readDigits? unsigned
  let (power, rest) := readPower rest
  let measure ← readMeasure? rest
  return ⟨.ofDecimal negative (Text.decimalNumeral (whole ++ places)) (power - places.length),
    measure⟩

/-- A character that separates arguments. -/
def isArgumentSeparator (c : Char) : Bool :=
  Text.isBlank c || c == ',' || c == '/'

/-- The arguments of a function; the first one that is not well formed is reported. -/
def readArguments (body : List Char) : Except LiteralError (List Argument) :=
  (Text.fields isArgumentSeparator body).mapM fun part =>
    match readArgument? part with
    | some argument => .ok argument
    | none => .error (.badArgument (String.ofList part))

/-! ## Components -/

/-- The alpha: one unless there is a fourth argument, which is a number or a percentage. -/
def readAlpha (arguments : List Argument) : Except LiteralError Binary64 :=
  match arguments.drop 3 with
  | [] => .ok 1
  | argument :: _ =>
    match argument.measure with
    | some .degree => .error .angularAlpha
    | some .percent => .ok (.clamp 0 1 (argument.value / 100))
    | none => .ok (.clamp 0 1 argument.value)

/-- The hue in degrees, at least zero. -/
def readHue (argument : Argument) : Except LiteralError Binary64 :=
  if argument.measure = some .percent then .error .percentHue
  else .ok (argument.value.wrap 360)

/-- A percentage as a number from 0 to 1; the percent sign may be missing. -/
def readPercentage (argument : Argument) : Except LiteralError Binary64 :=
  if argument.measure = some .degree then .error .angularPercentage
  else .ok (.clamp 0 100 argument.value / 100)

/-- The color of `rgb` arguments: three numbers, or three percentages. -/
def ofRgbArguments (r g b : Argument) (arguments : List Argument) : Except LiteralError Color := do
  let scale ←
    if [r, g, b].all (·.measure == none) then pure id
    else if [r, g, b].all (·.measure == some .percent) then pure (· * .ofDecimal false 255 (-2))
    else throw .mixedChannels
  let channel (argument : Argument) : Binary64 := .clamp 0 255 (scale argument.value)
  return ⟨channel r, channel g, channel b, ← readAlpha arguments⟩

/-- The color of `hsl` arguments: a hue and the percentages of saturation and lightness. -/
def ofHslArguments (h s l : Argument) (arguments : List Argument) : Except LiteralError Color := do
  let hue ← readHue h
  let saturation ← readPercentage s
  let lightness ← readPercentage l
  let (red, green, blue) := channelsAt (hue / 360) lightness saturation
  return ⟨red * 255, green * 255, blue * 255, ← readAlpha arguments⟩

/-- The color of `hwb` arguments: a hue and the percentages of whiteness and blackness. Together
at least one, these make a grey. -/
def ofHwbArguments (h w b : Argument) (arguments : List Argument) : Except LiteralError Color := do
  let hue ← readHue h
  let whiteness ← readPercentage w
  let blackness ← readPercentage b
  let alpha ← readAlpha arguments
  if (1 : Binary64).le (whiteness + blackness) then
    let grey := whiteness / (whiteness + blackness) * 255
    return ⟨grey, grey, grey, alpha⟩
  let (red, green, blue) := channelsAt (hue / 360) (1 / 2) 1
  let channel (pure : Binary64) : Binary64 :=
    (pure * (1 - whiteness - blackness) + whiteness) * 255
  return ⟨channel red, channel green, channel blue, alpha⟩

/-! ## The three forms -/

/-- The number of two digits of the sixteen-based notation as a channel. -/
def hexChannel (high low : Char) : Binary64 :=
  .ofNat (Text.hexNumeral [high, low])

/-- The number of two digits of the sixteen-based notation as an alpha, kept to two decimals. -/
def hexAlpha (high low : Char) : Binary64 :=
  (hexChannel high low / 255).roundedTo 2

/-- The color that digits after a number sign spell; a single digit stands for two. -/
def ofHexDigits? (digits : List Char) : Option Color :=
  if digits.all Text.isHexDigit then
    match digits with
    | [r, g, b] => some ⟨hexChannel r r, hexChannel g g, hexChannel b b, 1⟩
    | [r, g, b, a] => some ⟨hexChannel r r, hexChannel g g, hexChannel b b, hexAlpha a a⟩
    | [r, r', g, g', b, b'] => some ⟨hexChannel r r', hexChannel g g', hexChannel b b', 1⟩
    | [r, r', g, g', b, b', a, a'] =>
      some ⟨hexChannel r r', hexChannel g g', hexChannel b b', hexAlpha a a'⟩
    | _ => none
  else none

/-- The color that a number sign with digits spells. -/
def ofHex? : List Char → Option Color
  | '#' :: digits => ofHexDigits? digits
  | _ => none

/-- A letter of a name: an ASCII letter, or one of the four letters beyond ASCII that an ASCII
letter is a case form of. -/
def isNameLetter (c : Char) : Bool :=
  Text.isAsciiLetter c || [0x130, 0x131, 0x17F, 0x212A].contains c.toNat

/-- A text that can only be a name. -/
def isWord (cs : List Char) : Bool :=
  !cs.isEmpty && cs.all isNameLetter

/-- The name of the color without any paint. -/
def transparentName : String := "transparent"

/-- The color that a word names. -/
def ofWord? (word : String) : Option Color :=
  if Text.lowered word = transparentName then some ⟨0, 0, 0, 0⟩
  else (ColorName.rgb? word).map (ofRgb ·)

/-- The letter that a letter of a function name counts as. -/
def functionLetter (c : Char) : Char :=
  if c.toNat = 0x17F then 's' else Text.asciiLower c

/-- The names of the color functions. -/
def functionNames : List (List Char) := [
  ['r', 'g', 'b'], ['r', 'g', 'b', 'a'],
  ['h', 's', 'l'], ['h', 's', 'l', 'a'],
  ['h', 'w', 'b'], ['h', 'w', 'b', 'a']]

/-- A color function with the text between its parentheses. -/
structure Call where
  /-- The name in lower case. -/
  name : List Char
  body : List Char
  deriving DecidableEq, Repr

/-- The color function that a text is a call of. The call ends with the text. -/
def readCall? (cs : List Char) : Option Call :=
  let name := cs.takeWhile (· != '(')
  match cs.dropWhile (· != '(') with
  | '(' :: inner =>
    if functionNames.contains (name.map functionLetter) && inner.getLast? == some ')' then
      some ⟨name.map Text.asciiLower, inner.dropLast⟩
    else none
  | _ => none

/-- The color of a call. A name that spells neither `rgb` nor `hsl` out is read as `hwb`. -/
def ofCall (call : Call) : Except LiteralError Color := do
  let arguments ← readArguments call.body
  match arguments.take 4, arguments.length with
  | x :: y :: z :: _, 3 | x :: y :: z :: _, 4 =>
    if ['r', 'g', 'b'].isPrefixOf call.name then ofRgbArguments x y z arguments
    else if ['h', 's', 'l'].isPrefixOf call.name then ofHslArguments x y z arguments
    else ofHwbArguments x y z arguments
  | _, count => throw (.argumentCount (String.ofList call.name) count)

/-- The color that a text is a literal of. -/
def parse (literal : String) : Except LiteralError Color :=
  let cs := Text.trim literal.toList
  match ofHex? cs with
  | some color => .ok color
  | none =>
    if isWord cs then
      match ofWord? (String.ofList cs) with
      | some color => .ok color
      | none => .error (.unknownName literal)
    else
      match readCall? cs with
      | some call => ofCall call
      | none => .error (.notAColor literal)

/-- The color that a text is a literal of, if it is one. -/
def parse? (literal : String) : Option Color :=
  (parse literal).toOption

/-- The color that a value is a literal of; only a text is. -/
def parseValue : Json → Except LiteralError Color
  | .string literal => parse literal
  | value => .error (.notText value.kindName)

end Color

end Swatch
