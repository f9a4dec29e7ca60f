import Swatch.Color.Achromatic
import Swatch.Css.Value
import Swatch.Css.Variables
import Swatch.Options

/-!
# Candidates

The pieces of a property value that may be colors, and what becomes of each. All references to
variables are replaced before the first candidate is judged. A candidate is kept when it is a color
and no filter that is asked for takes it out; the filters are tried in a fixed order, and each
looks at the color only if it is asked for.
-/

namespace Swatch

/-- The pieces of a value that may be colors: gradients are opened, and variables are replaced
where any are given. -/
def candidates (value : String) (scope : Option Css.Variables) :
    Extracted (List String) := do
  let opened ← Css.Value.openGradients (← Css.Value.items value)
  return match scope with
    | none => opened
    | some scope => opened.map scope.substitute

/-- What becomes of a candidate. -/
inductive Verdict where
  | kept
  /-- It is not a color. -/
  | notAColor
  /-- It is black, white or a grey. -/
  | monochrome
  /-- It is a grey. -/
  | grey
  /-- No name stands for exactly this color. -/
  | unnamed
  deriving DecidableEq, Repr

namespace Verdict

/-- A test that is made only when it is asked for. -/
def fails (wanted : Bool) (test : Except Binary64.Fault Bool) : Except Binary64.Fault Bool :=
  if wanted then test else .ok false

/-- What becomes of a color. -/
def ofColor (options : Options) (color : Color) : Except Binary64.Fault Verdict := do
  let dropped ← fails options.withoutMonochrome color.isMonochrome
  if dropped then return monochrome
  let dropped ← fails options.withoutGrey color.isGrey
  if dropped then return grey
  let dropped ← fails (options.format? == some .keyword) (color.hasExactName.map (!·))
  return if dropped then unnamed else kept

/-- What becomes of a candidate. -/
def of (options : Options) (candidate : String) : Except Binary64.Fault Verdict :=
  match Color.parse? candidate with
  | none => .ok notAColor
  | some color => ofColor options color

end Verdict

/-- The candidates that are kept, in order and with repeats. -/
def kept (options : Options) (candidates : List String) : Extracted (List String) := do
  let judged ← candidates.mapM fun candidate =>
    (Extracted.ofComputed (Verdict.of options candidate)).map (candidate, ·)
  return (judged.filter (·.2 == .kept)).map (·.1)

/-- The color literals of a property value. -/
def literals (options : Options) (value : String) (scope : Option Css.Variables) :
    Extracted (List String) := do
  kept options (← candidates value scope)

end Swatch
