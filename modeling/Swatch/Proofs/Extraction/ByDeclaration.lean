import Swatch.Extraction
import Swatch.Proofs.Outcome

/-!
# Extraction declaration by declaration

The colors of a style sheet are those of its declarations, one declaration after the other, put in
order once and freed from repeats once. Filters and formats work on each literal alone, so they may
be applied in each declaration; the order and the repeats look at the whole list, so the parts are
read with both switched off (`Options.forPart`) and arranged at the end (`Palette.finish`).
-/

namespace Swatch

open Outcome

/-- The options for one of several declarations whose colors are arranged together later: its
colors stay in their order, and repeats are kept. -/
def Options.forPart (options : Options) : Options :=
  { options with allColors := true, sort := .null }

namespace Palette

/-- Colors that are formatted already, put in order and freed from repeats as it is asked for. -/
def finish (options : Options) (colors : List String) : Extracted (List String) := do
  let ordered ← inOrder colors options.order
  return if options.allColors then ordered else unique ordered

theorem arrange_eq_format_finish (options : Options) (literals : List String) :
    arrange options literals = literals.mapM (format options) >>= finish options :=
  rfl

/-- The parts of an extraction are only formatted. -/
theorem arrange_forPart (options : Options) (literals : List String) :
    arrange options.forPart literals = literals.mapM (format options) := by
  have formatted : format options.forPart = format options := rfl
  rw [arrange_eq_format_finish, formatted]
  cases literals.mapM (format options) <;> rfl

end Palette

namespace Extraction

/-- The colors of declarations, found in each declaration alone, one declaration after the other.
The variables are those of all the declarations. -/
def ofDeclarations (options : Options) (declarations : List Css.Declaration) :
    Extracted (List String) := do
  let known := Css.SelectorVariables.ofDeclarations declarations
  let parts ← declarations.mapM fun declaration =>
    ofDeclaration options.forPart declaration (some known)
  return parts.flatten

/-- Formatting all literals of several declarations is formatting those of each. -/
theorem toOption_formatted_declarations (options : Options)
    (known : Option Css.SelectorVariables) (declarations : List Css.Declaration) :
    (declarationsLiterals options known declarations >>= fun literals =>
        literals.mapM (Palette.format options)).toOption =
      ((declarations.mapM fun declaration =>
        ofDeclaration options.forPart declaration known).toOption.map List.flatten) := by
  have part (declaration : Css.Declaration) :
      (ofDeclaration options.forPart declaration known).toOption =
        (declarationLiterals options known declaration).toOption.bind fun literals =>
          literals.mapM fun literal => (Palette.format options literal).toOption := by
    have same : declarationLiterals options.forPart known declaration =
        declarationLiterals options known declaration := rfl
    rw [ofDeclaration, same, toOption_bind]
    simp only [Palette.arrange_forPart, toOption_mapM]
  rw [toOption_mapM]
  simp only [part]
  rw [← bind_mapM_flatten, toOption_bind, declarationsLiterals]
  simp only [toOption_bind, toOption_mapM]
  cases declarations.mapM fun declaration =>
    (declarationLiterals options known declaration).toOption <;> rfl

/-- The literals of declarations arranged together, or the colors of each declaration finished. -/
theorem toOption_arranged_declarations (options : Options)
    (declarations : List Css.Declaration) :
    (declarationsLiterals options (some (.ofDeclarations declarations)) declarations
        >>= Palette.arrange options).toOption =
      (ofDeclarations options declarations >>= Palette.finish options).toOption := by
  have arranged : Palette.arrange options = fun literals =>
      literals.mapM (Palette.format options) >>= Palette.finish options :=
    funext (Palette.arrange_eq_format_finish options)
  rw [arranged, ← bind_assoc, toOption_bind, toOption_formatted_declarations, ofDeclarations,
    bind_assoc, toOption_bind]
  cases (declarations.mapM fun declaration =>
    ofDeclaration options.forPart declaration (some (.ofDeclarations declarations))) <;> rfl

/-- The colors of a style sheet are the colors of its declarations, each found alone, then put in
order and freed from repeats. There are none exactly when the text has no declarations to give, one
of the declarations has no colors to give, or the order cannot be made. -/
theorem toOption_ofStylesheet (options : Options) (text : String) :
    (ofStylesheet options text).toOption =
      (do
        let declarations ← Css.Stylesheet.declarations text
        let colors ← ofDeclarations options declarations
        Palette.finish options colors : Extracted (List String)).toOption := by
  rw [ofStylesheet, toOption_bind, toOption_bind]
  refine congrArg _ (funext fun declarations => ?_)
  exact toOption_arranged_declarations options declarations

end Extraction

end Swatch
