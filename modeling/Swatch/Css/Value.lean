import Swatch.Css.Written

/-!
# Property values

A property value is cut at the commas or the spaces of its top level: what stands between brackets
stays whole. The pieces are written back, without blanks around them, and empty ones are left out.
A gradient is replaced by the pieces between its brackets; a gradient among those stays whole.
-/

namespace Swatch.Css.Value

/-- The pieces of a value between the components that separate them. -/
def pieces (separates : Component (List Char) → Bool) (value : String) :
    Extracted (List String) := do
  let components ← readComponents value.toList
  return ((components.splitOnP separates).map writeTrimmed).filter (· != "")

/-- The pieces between commas. -/
def commaPieces (value : String) : Extracted (List String) :=
  pieces (·.isDelim ",") value

/-- The pieces between spaces. -/
def spacePieces (value : String) : Extracted (List String) :=
  pieces (·.isWhitespace) value

/-- The pieces between commas, cut once more at their spaces. -/
def items (value : String) : Extracted (List String) := do
  let cut ← (← commaPieces value).mapM spacePieces
  return cut.flatten

/-! ## Gradients -/

/-- The names of the gradients that are opened, with the bracket after them. -/
def gradientOpenings : List String :=
  ["", "-webkit-", "-moz-", "-o-"].flatMap fun vendor =>
    ["", "repeating-"].flatMap fun repeated =>
      ["radial", "linear"].map fun shape => vendor ++ repeated ++ shape ++ "-gradient("

/-- What stands between the first and the last bracket of a gradient. -/
def gradientArguments? (item : String) : Option String :=
  gradientOpenings.findSome? fun opening =>
    match opening.toList.isPrefixOf? item.toList with
    | none => none
    | some inner => if inner.getLast? = some ')' then some (String.ofList inner.dropLast) else none

/-- A gradient as the pieces between its brackets; anything else as it is. -/
def openGradient (item : String) : Extracted (List String) :=
  match gradientArguments? item with
  | some inner => items inner
  | none => .ok [item]

/-- The pieces with the gradients among them opened. -/
def openGradients (found : List String) : Extracted (List String) := do
  let opened ← found.mapM openGradient
  return opened.flatten

end Swatch.Css.Value
