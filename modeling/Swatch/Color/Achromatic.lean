import Swatch.Color.Format

/-!
# Achromatic colors and exact names

Which colors lie on the axis from black to white, and which have a name that stands for exactly
their channels. Hue and saturation are compared before rounding, so a faint tint is not taken for a
grey.
-/

namespace Swatch.Color

open Binary64 (Fault)

/-- Black, white or a grey: hue and saturation are zero. -/
def isMonochrome (color : Color) : Except Fault Bool := do
  let exact ← color.hslExact
  return exact.hue.same 0 && exact.saturation.same 0

/-- Strictly between black and white on the axis of greys. -/
def isGrey (color : Color) : Except Fault Bool := do
  let red := (← color.rgb).red
  let monochrome ← color.isMonochrome
  return monochrome && decide (0 < red) && decide (red < 255)

/-- The name that the color is written as stands for the same packed channels. -/
def hasExactName (color : Color) : Except Fault Bool := do
  match parse? (← color.keyword) with
  | none => return false
  | some named =>
    let found ← named.number
    let own ← color.number
    return found == own

end Swatch.Color
