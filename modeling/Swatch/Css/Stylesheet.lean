import Swatch.Css.Finding

/-!
# Style sheets

The declarations of a style sheet, in the order of the text. A rule without a block refuses the
style sheet; whatever else is wrong only costs the declaration it is in.
-/

namespace Swatch.Css

/-- The declarations among findings, or the mark of the first rule without a block. -/
def declared {α : Type} : List (Finding α) → Except α (List Declaration)
  | [] => .ok []
  | .declared declaration :: rest => (declared rest).map (declaration :: ·)
  | .skipped _ _ :: rest => declared rest
  | .broken mark :: _ => .error mark

namespace Stylesheet

/-- Where the text from a mark on starts in a style sheet. -/
def position (text : String) (mark : List Char) : Text.Position :=
  .before (normalized text.toList) mark

/-- The findings in a style sheet. -/
def findings (text : String) : Extracted (List (Finding (List Char))) := do
  return Css.findings .sheet .nothing (← readComponents text.toList)

/-- The declarations of a style sheet. -/
def declarations (text : String) : Extracted (List Declaration) := do
  match declared (← findings text) with
  | .ok declarations => return declarations
  | .error mark => throw (.ruleWithoutBlock (position text mark))

end Stylesheet

end Swatch.Css
