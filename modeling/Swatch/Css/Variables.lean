import Swatch.Css.Declaration
import Swatch.Entries

/-!
# Variables

A declaration whose property starts with two hyphens defines a variable for its selector. The
variables of `:root` hold everywhere, and those of a selector come before them in its own block. A
reference is replaced by the value of its variable once: what stands in the value is not looked up
again.
-/

namespace Swatch.Css

/-- Variables with their values; one may be known and have none. -/
abbrev Variables := List (String × Option String)

/-- The variables that each selector defines. -/
abbrev SelectorVariables := List (Option String × Variables)

/-- The selector whose variables hold everywhere. -/
def rootSelector : String := ":root"

/-- How the name of a variable starts. -/
def variableStart : String := "--"

namespace SelectorVariables

/-- The variables of a selector itself. -/
def own (known : SelectorVariables) (selector : Option String) : Variables :=
  (known.lookup selector).getD []

/-- The variables with the one that a declaration defines, if it defines one. -/
def define (known : SelectorVariables) (declaration : Declaration) : SelectorVariables :=
  let name := Text.trimmed declaration.property
  if variableStart.toList.isPrefixOf name.toList then
    Entries.put known declaration.selector
      (Entries.put (known.own declaration.selector) name (some declaration.value))
  else known

/-- The variables that declarations define, each in its turn. -/
def ofDeclarations (declarations : List Declaration) : SelectorVariables :=
  declarations.foldl define []

/-- The variables that hold in the block of a selector. -/
def resolve (known : SelectorVariables) (selector : Option String) : Variables :=
  let everywhere := known.own (some rootSelector)
  if selector = none ∨ selector = some rootSelector then everywhere
  else Entries.putAll everywhere (known.own selector)

end SelectorVariables

/-! ## References -/

/-- A character that the name of a variable may go on with. -/
def isVariableChar (c : Char) : Bool :=
  !Text.isBlank c && c != ',' && c != '(' && c != ')'

/-- The variable that a text refers to: it is one reference and nothing else, and the reference
gives no value to fall back on. -/
def referencedVariable? (text : String) : Option String := do
  let inner ← "var(".toList.isPrefixOf? text.toList
  let start := inner.dropWhile Text.isBlank
  let name ← variableStart.toList.isPrefixOf? start
  let own := name.takeWhile isVariableChar
  if own.isEmpty then none
  else
    match (name.dropWhile isVariableChar).dropWhile Text.isBlank with
    | [')'] | [')', '\n'] => some (variableStart ++ String.ofList own)
    | _ => none

/-- The value of a variable, if it is known and has one. -/
def Variables.value? (scope : Variables) (name : String) : Option String :=
  (scope.lookup name).join

/-- A reference replaced by the value of its variable; any other text, and a reference to nothing,
as it is. -/
def Variables.substitute (scope : Variables) (text : String) : String :=
  match (referencedVariable? text).bind scope.value? with
  | some value => Text.trimmed value
  | none => text

end Swatch.Css
