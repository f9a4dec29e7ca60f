import Swatch.Color.Literal
import Swatch.Json.Strict
import Swatch.Text.Position

/-!
# Why an extraction has no result

The causes for which an extraction ends without a list of colors, and what a message says about
each.
-/

namespace Swatch

/-- Why an extraction has no result. -/
inductive ExtractionError where
  /-- A rule of the style sheet has no block; the position is that of its last part. -/
  | ruleWithoutBlock (position : Text.Position)
  /-- A whole number of too many digits. -/
  | tooManyDigits (count : Nat)
  /-- A computation with a color failed. -/
  | arithmetic (fault : Binary64.Fault)
  /-- A text to be formatted is not a color. -/
  | unformattable (literal : String) (cause : LiteralError)
  /-- A text to be sorted by hue is not a color. -/
  | unsortable (literal : String) (cause : LiteralError)
  deriving DecidableEq, Repr

/-- What a message says about a rule that ends for a reason before its block. -/
def blockMissingMessage (reason : String) : String :=
  reason ++ " reached before \x7b\x7d block for a qualified rule."

/-- What a message says about an extraction without a result. -/
def ExtractionError.message : ExtractionError → String
  | .ruleWithoutBlock position =>
    "invalid: " ++ blockMissingMessage "EOF" ++ " at " ++ position.shown
  | .tooManyDigits count => Json.tooManyDigitsMessage count
  | .arithmetic fault => fault.message
  | .unformattable literal cause =>
    "Cannot format " ++ Text.quoted literal ++ ": " ++ cause.message
  | .unsortable literal cause =>
    "Cannot sort " ++ Text.quoted literal ++ " by hue: " ++ cause.message

/-- The result of an extraction. -/
abbrev Extracted (α : Type) := Except ExtractionError α

/-- The result of a computation with a color as that of an extraction. -/
def Extracted.ofComputed {α : Type} : Except Binary64.Fault α → Extracted α
  | .ok value => .ok value
  | .error fault => .error (.arithmetic fault)

end Swatch
