import Swatch.Candidate
import Swatch.Css.Stylesheet
import Swatch.Palette

/-!
# Extraction

The colors of a property value, of a declaration and of a style sheet. Each of the three finds the
literals and arranges them; a declaration counts only if its property can hold a color, and the
declarations of a style sheet see its variables, wherever those are defined.
-/

namespace Swatch

/-- The color literals of a declaration. -/
def declarationLiterals (options : Options) (known : Option Css.SelectorVariables)
    (declaration : Css.Declaration) : Extracted (List String) :=
  if Css.allowsColor declaration.property then
    literals options declaration.value (known.map (·.resolve declaration.selector))
  else .ok []

/-- The color literals of declarations, in order. -/
def declarationsLiterals (options : Options) (known : Option Css.SelectorVariables)
    (declarations : List Css.Declaration) : Extracted (List String) := do
  let found ← declarations.mapM (declarationLiterals options known)
  return found.flatten

namespace Extraction

/-- The colors of a property value. -/
def ofValue (options : Options) (value : String) (scope : Option Css.Variables) :
    Extracted (List String) := do
  Palette.arrange options (← literals options value scope)

/-- The colors of a declaration. -/
def ofDeclaration (options : Options) (declaration : Css.Declaration)
    (known : Option Css.SelectorVariables) : Extracted (List String) := do
  Palette.arrange options (← declarationLiterals options known declaration)

/-- The colors of a style sheet. -/
def ofStylesheet (options : Options) (text : String) : Extracted (List String) := do
  let declarations ← Css.Stylesheet.declarations text
  let known := Css.SelectorVariables.ofDeclarations declarations
  Palette.arrange options (← declarationsLiterals options (some known) declarations)

end Extraction

end Swatch
