import Swatch.Proofs.Extraction.Variables

/-!
# Properties that hold colors

The colors of declarations are those of the values of the declarations whose property can hold a
color, and no other declaration counts (`declarationsLiterals_eq_values`). Where no property holds a
Kelvin sign or a blank that style sheets do not know, these are the properties of the list as style
sheets compare them (`declarationsLiterals_by_property`).
-/

namespace Swatch

open Css

section Declarations

variable (options : Options) (known : Option SelectorVariables)

/-- The color literals of the values of declarations, whatever their properties are. -/
def valuesLiterals (declarations : List Declaration) : Extracted (List String) := do
  let found ← declarations.mapM fun declaration =>
    literals options declaration.value (known.map (·.resolve declaration.selector))
  return found.flatten

/-- The declarations whose property is one of the list, by one way of naming properties. -/
def listedBy (name : String → String) (declarations : List Declaration) : List Declaration :=
  declarations.filter fun declaration => colorProperties.contains (name declaration.property)

/-- The declarations of properties that hold colors are read, and no others. -/
theorem declarationsLiterals_eq_values (declarations : List Declaration) :
    declarationsLiterals options known declarations =
      valuesLiterals options known (listedBy anyScriptName declarations) := by
  have others : ∀ declaration : Declaration,
      colorProperties.contains (anyScriptName declaration.property) = false →
        declarationLiterals options known declaration = .ok [] := by
    intro declaration other
    rw [declarationLiterals, allowsColor_eq, other]
    rfl
  have each : ∀ declaration ∈ listedBy anyScriptName declarations,
      declarationLiterals options known declaration =
        literals options declaration.value (known.map (·.resolve declaration.selector)) := by
    intro declaration member
    rw [declarationLiterals, allowsColor_eq, if_pos (List.mem_filter.mp member).2]
  rw [← declarationsLiterals_filter_of options others, valuesLiterals, ← Outcome.mapM_congr each]
  rfl

/-- Only the properties of the list contribute, compared in every script: the colors of declarations
are those of the values of such declarations, and any other declaration may be left out. In ASCII a
property is one of the list exactly if it is one in every script and holds ordinary characters only,
and it may be spelled in any case; so declarations with ordinary characters contribute as they do in
ASCII. -/
theorem declarationsLiterals_by_property :
    (∀ declarations, declarationsLiterals options known declarations =
      valuesLiterals options known (listedBy anyScriptName declarations)) ∧
    (∀ front declaration back, anyScriptName declaration.property ∉ colorProperties →
      declarationsLiterals options known (front ++ declaration :: back) =
        declarationsLiterals options known (front ++ back)) ∧
    (∀ property, asciiName property ∈ colorProperties ↔
      anyScriptName property ∈ colorProperties ∧ property.toList.all isOrdinary) ∧
    (∀ property, Text.asciiLowered property ∈ colorProperties →
      asciiName property ∈ colorProperties ∧ anyScriptName property ∈ colorProperties) ∧
    ∀ declarations : List Declaration,
      (∀ declaration ∈ declarations, declaration.property.toList.all isOrdinary) →
        declarationsLiterals options known declarations =
          valuesLiterals options known (listedBy asciiName declarations) := by
  refine ⟨declarationsLiterals_eq_values options known, ?_, fun _ => asciiName_iff, ?_, ?_⟩
  · intro front declaration back other
    have left : listedBy anyScriptName (front ++ declaration :: back) =
        listedBy anyScriptName (front ++ back) := by
      unfold listedBy
      rw [List.filter_append, List.filter_cons_of_neg (by simpa using other), List.filter_append]
    rw [declarationsLiterals_eq_values, left, ← declarationsLiterals_eq_values]
  · intro property spelled
    have listed := asciiName_of_asciiLowered spelled
    exact ⟨listed, (asciiName_iff.mp listed).1⟩
  · intro declarations ordinary
    have same : listedBy anyScriptName declarations = listedBy asciiName declarations := by
      apply List.filter_congr
      intro declaration member
      rw [asciiName_eq_of_ordinary (ordinary declaration member)]
    rw [declarationsLiterals_eq_values, same]

end Declarations

/-- A border contributes and a margin does not; and with the Kelvin sign a background contributes
that is none in ASCII. -/
theorem declarationsLiterals_of_border :
    declarationsLiterals {} none [⟨" Border\n", "1px red", none⟩, ⟨"margin", "lime", none⟩] =
        .ok ["red"] ∧
      declarationsLiterals {} none [⟨"bac\u212Aground", "blue", none⟩] = .ok ["blue"] ∧
      asciiName "bac\u212Aground" ∉ colorProperties := by
  have law := declarationsLiterals_by_property {} none
  refine ⟨?_, ?_, ?_⟩
  · have dropped := law.2.1 [⟨" Border\n", "1px red", none⟩] ⟨"margin", "lime", none⟩ []
      (by decide)
    refine dropped.trans ?_
    rw [law.2.2.2.2 _ (by decide)]
    exact Outcome.eq_ok_of_toOption (by decide +kernel)
  · rw [law.1]
    exact Outcome.eq_ok_of_toOption (by decide +kernel)
  · rw [law.2.2.1]
    decide

end Swatch
