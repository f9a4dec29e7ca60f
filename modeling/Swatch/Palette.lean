import Swatch.ExtractionError
import Swatch.Options

/-!
# Palettes

From the colors that were found to the list that is given out: each color is brought into the
format that is asked for, the list is put in order, and repeats are left out unless they are
wanted. Both orders are stable. Repeats are told by the written form, after formatting.
-/

namespace Swatch.Palette

/-- A color literal in the format that is asked for; without a known format as it is written. -/
def format (options : Options) (literal : String) : Extracted String :=
  match options.format? with
  | none => .ok literal
  | some format =>
    match Color.parse literal with
    | .error cause => .error (.unformattable literal cause)
    | .ok color => .ofComputed (color.write format)

/-- The hue of a color literal in degrees, before rounding. -/
def hue (literal : String) : Extracted Binary64 :=
  match Color.parse literal with
  | .error cause => .error (.unsortable literal cause)
  | .ok color => .ofComputed (color.hslExact.map (·.hue))

/-- The colors by ascending hue, colors of one hue in the order given. -/
def byHue (colors : List String) : Extracted (List String) := do
  let keyed ← colors.mapM fun color => do return (← hue color, color)
  return (keyed.mergeSort fun a b => !b.1.lt a.1).map (·.2)

/-- The colors by descending count, colors of one count in the order given. -/
def byFrequency (colors : List String) : List String :=
  let counted := colors.map fun color => (colors.count color, color)
  (counted.mergeSort fun a b => b.1 ≤ a.1).map (·.2)

/-- The first occurrence of each color. -/
def unique : List String → List String
  | [] => []
  | color :: colors => color :: (unique colors).filter (· != color)

/-- The colors in an order. -/
def inOrder (colors : List String) : Options.Order → Extracted (List String)
  | .asFound => .ok colors
  | .byHue => byHue colors
  | .byFrequency => .ok (byFrequency colors)

/-- The list that is given out for the literals found. -/
def arrange (options : Options) (literals : List String) : Extracted (List String) := do
  let colors ← literals.mapM (format options)
  let ordered ← inOrder colors options.order
  return if options.allColors then ordered else unique ordered

end Swatch.Palette
