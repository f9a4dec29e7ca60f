import Swatch.Text.Blank
import Swatch.Text.Case

/-!
# Declarations

A property with its value, and the selector of the block it stands in. Only some properties can
hold a color; their names are compared whatever the case of their letters.
-/

namespace Swatch.Css

/-- A property set to a value. -/
structure Declaration where
  property : String
  value : String
  /-- The selector of the block around it, if there is one. -/
  selector : Option String
  deriving DecidableEq, Repr

/-- The properties that can hold a color. -/
def colorProperties : List String := [
  "color", "background", "background-color", "background-image", "border", "border-top",
  "border-right", "border-bottom", "border-left", "border-color", "border-top-color",
  "border-right-color", "border-bottom-color", "border-left-color", "outline", "outline-color",
  "text-decoration", "text-decoration-color", "text-shadow", "box-shadow", "fill", "stroke",
  "stop-color", "flood-color", "lighting-color"]

/-- A property of this name can hold a color. -/
def allowsColor (property : String) : Bool :=
  colorProperties.contains (Text.lowered (Text.trimmed property))

end Swatch.Css
