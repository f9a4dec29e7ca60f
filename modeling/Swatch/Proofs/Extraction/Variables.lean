import Swatch.Extraction
import Swatch.Proofs.Css.PropertyNames
import Swatch.Proofs.Css.Variables
import Swatch.Proofs.Outcome

/-!
# Where variables are defined

The colors of declarations depend on the definitions of variables only through the last definition
of each variable in the scopes of its uses (`variables_by_last_definition`): definitions may stand
anywhere, before or after the uses, and those that are overwritten or that belong to other
selectors do not count.
-/

namespace Swatch

open Css

/-! ## Definitions have no colors of their own -/

/-- A property that defines a variable holds no color. -/
theorem allowsColor_of_isVariable {declaration : Declaration} (defining : declaration.isVariable) :
    allowsColor declaration.property = false := by
  obtain ⟨rest, spelled⟩ := List.isPrefixOf_iff_prefix.mp defining
  have first : (anyScriptName declaration.property).toList.head? = some '-' := by
    rw [Text.trimmed, String.toList_ofList] at spelled
    rw [toList_anyScriptName, ← spelled]
    rfl
  have others : ∀ name ∈ colorProperties, name.toList.head? ≠ some '-' := by decide
  rw [allowsColor_eq, ← Bool.not_eq_true, List.contains_iff_mem]
  intro member
  exact others _ member first

section Lists

variable (options : Options)

theorem declarationsLiterals_cons (known : Option SelectorVariables) (declaration : Declaration)
    (declarations : List Declaration) :
    declarationsLiterals options known (declaration :: declarations) = do
      let first ← declarationLiterals options known declaration
      let others ← declarationsLiterals options known declarations
      return first ++ others := by
  rw [declarationsLiterals, List.mapM_cons, declarationsLiterals]
  cases declarationLiterals options known declaration with
  | error cause => rfl
  | ok first =>
    cases declarations.mapM (declarationLiterals options known) with
    | error cause => rfl
    | ok others => rfl

/-- Declarations without colors may be left out. -/
theorem declarationsLiterals_filter_of {known : Option SelectorVariables}
    {kept : Declaration → Bool}
    (others : ∀ declaration, kept declaration = false →
      declarationLiterals options known declaration = .ok [])
    (declarations : List Declaration) :
    declarationsLiterals options known (declarations.filter kept) =
      declarationsLiterals options known declarations := by
  induction declarations with
  | nil => rfl
  | cons declaration declarations ih =>
    rw [declarationsLiterals_cons]
    by_cases own : kept declaration
    · rw [List.filter_cons, if_pos own, declarationsLiterals_cons, ih]
    · rw [List.filter_cons, if_neg own, ih, others _ (by simpa using own), Outcome.ok_bind]
      cases declarationsLiterals options known declarations <;> rfl

/-- The definitions of variables may be left out of the declarations that are read for colors. -/
theorem declarationsLiterals_filter (known : Option SelectorVariables)
    (declarations : List Declaration) :
    declarationsLiterals options known (declarations.filter fun declaration =>
        !declaration.isVariable) =
      declarationsLiterals options known declarations := by
  apply declarationsLiterals_filter_of
  intro declaration defining
  have defining : declaration.isVariable = true := by simpa using defining
  rw [declarationLiterals, allowsColor_of_isVariable defining]
  rfl

/-- The colors of declarations are known from those of each. -/
theorem declarationsLiterals_congr {known known' : Option SelectorVariables}
    {declarations : List Declaration}
    (same : ∀ declaration ∈ declarations,
      declarationLiterals options known' declaration =
        declarationLiterals options known declaration) :
    declarationsLiterals options known' declarations =
      declarationsLiterals options known declarations := by
  rw [declarationsLiterals, declarationsLiterals, Outcome.mapM_congr same]

end Lists

/-! ## Uses -/

/-- The declaration refers to a variable: one of the pieces of its value does. -/
def Css.Declaration.RefersTo (declaration : Declaration) (name : String) : Prop :=
  ∃ pieces, candidates declaration.value none = .ok pieces ∧
    ∃ piece ∈ pieces, referencedVariable? piece = some name

/-- With variables each piece of a value is replaced on its own. -/
theorem candidates_some (value : String) (scope : Variables) :
    candidates value (some scope) = (candidates value none).map (·.map scope.substitute) := by
  rw [candidates, candidates]
  cases Value.items value with
  | error cause => rfl
  | ok items =>
    rw [Outcome.ok_bind, Outcome.ok_bind]
    cases Value.openGradients items <;> rfl

/-- A declaration has the same colors under variables that give what it refers to the same
values. -/
theorem declarationLiterals_congr (options : Options) {known known' : SelectorVariables}
    {declaration : Declaration}
    (same : allowsColor declaration.property → ∀ name, declaration.RefersTo name →
      (known'.resolve declaration.selector).value? name =
        (known.resolve declaration.selector).value? name) :
    declarationLiterals options (some known') declaration =
      declarationLiterals options (some known) declaration := by
  rw [declarationLiterals, declarationLiterals]
  by_cases colored : allowsColor declaration.property
  · rw [if_pos colored, if_pos colored, Option.map_some, Option.map_some, literals, literals,
      candidates_some, candidates_some]
    cases cut : candidates declaration.value none with
    | error cause => rfl
    | ok pieces =>
      have replaced : pieces.map (known'.resolve declaration.selector).substitute =
          pieces.map (known.resolve declaration.selector).substitute := by
        apply List.map_congr_left
        intro piece member
        rw [Variables.substitute, Variables.substitute]
        cases refers : referencedVariable? piece with
        | none => rfl
        | some name =>
          have values := same colored name ⟨pieces, cut, piece, member, refers⟩
          rw [Option.bind_some, Option.bind_some, values]
      rw [Except.map, Except.map, replaced]
  · rw [if_neg colored, if_neg colored]

/-- In the block of a selector a variable has the value of its last definition for the selector, or
else of its last definition for the root. So the colors of declarations stay as they are when
definitions are moved, left out, added or changed, as long as every variable that a declaration
refers to keeps its last definition in each scope of that declaration. -/
theorem variables_by_last_definition (declarations : List Declaration) :
    (∀ selector name,
      ((SelectorVariables.ofDeclarations declarations).resolve selector).lookup name =
        (scopedValue? declarations selector name).map some) ∧
    ∀ (options : Options) (rearranged : List Declaration),
      rearranged.filter (!·.isVariable) = declarations.filter (!·.isVariable) →
      (∀ declaration ∈ declarations, allowsColor declaration.property →
        ∀ name, declaration.RefersTo name → ∀ scope ∈ scopes declaration.selector,
          lastValue? rearranged scope name = lastValue? declarations scope name) →
      declarationsLiterals options (some (.ofDeclarations rearranged)) rearranged =
        declarationsLiterals options (some (.ofDeclarations declarations)) declarations := by
  constructor
  · exact SelectorVariables.lookup_resolve declarations
  · intro options rearranged others last
    rw [← declarationsLiterals_filter, others, declarationsLiterals_filter]
    apply declarationsLiterals_congr
    intro declaration member
    apply declarationLiterals_congr
    intro colored name refers
    have values : scopedValue? rearranged declaration.selector name =
        scopedValue? declarations declaration.selector name := by
      rw [scopedValue?, scopedValue?]
      have same := last declaration member colored name refers
      generalize scopes declaration.selector = scopes at same
      induction scopes with
      | nil => rfl
      | cons scope scopes ih =>
        rw [List.forall_mem_cons] at same
        rw [List.findSome?_cons, List.findSome?_cons, same.1, ih same.2]
    rw [SelectorVariables.value?_resolve, SelectorVariables.value?_resolve, values]

/-- A use before its definition, which is overwritten once and hides one for the root. -/
def definedBehind : List Declaration := [
  ⟨"color", "var(--x)", some "a"⟩, ⟨"--x", "red", some "a"⟩, ⟨"--x", "lime", some ":root"⟩,
  ⟨"--x", "blue", some "a"⟩, ⟨"--x", "teal", some "b"⟩]

/-- The same use behind the last definition, with other definitions for another selector. -/
def definedBefore : List Declaration := [
  ⟨"--x", "lime", some ":root"⟩, ⟨"--x", "blue", some "a"⟩, ⟨"color", "var(--x)", some "a"⟩,
  ⟨"--y", "navy", some "b"⟩]

theorem declarationsLiterals_definedBefore :
    declarationsLiterals {} (some (.ofDeclarations definedBefore)) definedBefore =
      declarationsLiterals {} (some (.ofDeclarations definedBehind)) definedBehind := by
  apply (variables_by_last_definition definedBehind).2 {} definedBefore (by decide)
  intro declaration member colored name refers scope near
  have uses : ∀ declaration ∈ definedBehind, allowsColor declaration.property →
      scopes declaration.selector = [some "a", some ":root"] := by
    decide
  rw [uses declaration member colored, List.mem_pair] at near
  by_cases same : name = "--x"
  · rw [same]
    rcases near with rfl | rfl <;> decide
  · have trimmed : Text.trimmed "--x" = "--x" := by decide
    rcases near with rfl | rfl <;>
      simp [lastValue?, definedBefore, definedBehind, Declaration.defines, trimmed, Ne.symm same]

end Swatch
