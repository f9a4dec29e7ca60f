import Swatch.Proofs.Css.DocumentDeclarations
import Swatch.Proofs.Css.References
import Swatch.Proofs.Extraction.Joined
import Swatch.Proofs.Extraction.Variables

/-!
# What references are replaced by

A definition is kept under the name that its escapes mean, and a reference is looked up by the text
of the name, escapes included. `references_by_written_name` says for every name when the two meet:
in the style sheet that defines the variable and refers to it (`ofStylesheet_referringSheet`), and
among any declarations, where a reference that is found stands for the value of the last definition
in its scope (`replaced_reference`).
-/

namespace Swatch

open Css Text
open Color (functionNames functionLetter)

/-! ## A style sheet with one variable -/

/-- A style sheet that defines a variable for the root and refers to it. -/
def referringSheet (own : List Char) : String :=
  ":root\x7b" ++ String.ofList (writeIdent (variableName own).toList) ++ ":red\x7d a\x7bcolor:" ++
    reference (variableName own) ++ "\x7d"

namespace Css

/-- The components of such a style sheet. -/
def referringComponents (name : String) : List (Component Unit) := [
  signLeaf ":", .leaf () (.ident "root"),
  blockOf [.leaf () (.ident name), signLeaf ":", .leaf () (.ident "red")], spaceLeaf,
  .leaf () (.ident "a"),
  blockOf [.leaf () (.ident "color"), signLeaf ":",
    .group () (.function "var") [.leaf () (.ident name)]]]

/-- The declarations of such a style sheet. -/
def referringDeclarations (name : String) : List Declaration := [
  ⟨name, "red", some ":root"⟩, ⟨"color", reference name, some "a"⟩]

theorem normalized_referringSheet (own : List Char) :
    normalized (referringSheet own).toList =
      ":root\x7b--".toList ++ (own.flatMap arriving ++ (":red\x7d a\x7bcolor:var(--".toList ++
        (own.flatMap arriving ++ ")\x7d".toList))) := by
  have text : (referringSheet own).toList =
      ":root\x7b--".toList ++ (writeName own ++ (":red\x7d a\x7bcolor:var(--".toList ++
        (writeName own ++ ")\x7d".toList))) := by
    rw [referringSheet, reference_variableName, writeIdent_variableName]
    simp
  rw [text, normalized_append_of_kept (by decide), normalized_writeName,
    normalized_append_of_kept (by decide), normalized_writeName, normalized_of_kept (by decide)]

/-- The style sheet is read as its components. -/
theorem significant_referringSheet (own : List Char) :
    significant (normalized (referringSheet own).toList) =
      Component.lexemesOf (referringComponents (variableName (own.map received))) := by
  have round (rest : List Char) : significant (')' :: rest) =
      .closing .round :: significant rest :=
    significant_write (.closing .round) trivial trivial
  have call (rest : List Char) : significant ('v' :: 'a' :: 'r' :: '(' :: rest) =
      .opening (.function "var") :: significant rest :=
    significant_write (.opening (.function "var")) ⟨by decide, by decide⟩ trivial
  have word (text : String) (rest : List Char) (nonempty : text.toList ≠ [])
      (ends : (Lexeme.token (.ident text)).EndsBefore rest) :
      significant (writeIdent text.toList ++ rest) = .token (.ident text) :: significant rest :=
    significant_write (.token (.ident text)) nonempty ends
  have root (rest : List Char) : significant ('r' :: 'o' :: 'o' :: 't' :: '\x7b' :: rest) =
      .token (.ident "root") :: significant ('\x7b' :: rest) :=
    word "root" ('\x7b' :: rest) (by simp) ⟨rfl, by simp, fun _ => by simp, fun _ => rfl⟩
  have selector (rest : List Char) : significant ('a' :: '\x7b' :: rest) =
      .token (.ident "a") :: significant ('\x7b' :: rest) :=
    word "a" ('\x7b' :: rest) (by simp) ⟨rfl, by simp, fun _ => by simp, fun _ => rfl⟩
  have color (rest : List Char) : significant ('c' :: 'o' :: 'l' :: 'o' :: 'r' :: ':' :: rest) =
      .token (.ident "color") :: significant (':' :: rest) :=
    word "color" (':' :: rest) (by simp) ⟨rfl, by simp, fun _ => by simp, fun _ => rfl⟩
  have red (rest : List Char) : significant ('r' :: 'e' :: 'd' :: '\x7d' :: rest) =
      .token (.ident "red") :: significant ('\x7d' :: rest) :=
    word "red" ('\x7d' :: rest) (by simp) ⟨rfl, by simp, fun _ => by simp, fun _ => rfl⟩
  rw [normalized_referringSheet]
  change significant (':' :: 'r' :: 'o' :: 'o' :: 't' :: '\x7b' :: '-' :: '-' ::
    (own.flatMap arriving ++ (':' :: 'r' :: 'e' :: 'd' :: '\x7d' :: ' ' :: 'a' :: '\x7b' ::
      'c' :: 'o' :: 'l' :: 'o' :: 'r' :: ':' :: 'v' :: 'a' :: 'r' :: '(' :: '-' :: '-' ::
        (own.flatMap arriving ++ [')', '\x7d'])))) = _
  rw [significant_colon, root, significant_opening,
    significant_variableName own rfl (by simp) (by simp), significant_colon, red,
    significant_closing, significant_space rfl, selector, significant_opening, color,
    significant_colon, call, significant_variableName own rfl (by simp) (by simp), round,
    significant_closing, significant_nil]
  simp [referringComponents, blockOf, signLeaf, spaceLeaf, Opener.brackets]

theorem overlong?_referringSheet (own : List Char) :
    overlong? (normalized (referringSheet own).toList) = none := by
  rw [overlong?_eq_none_iff, significant_referringSheet]
  simp [referringComponents, blockOf, signLeaf, spaceLeaf]

/-- What such a style sheet says. -/
theorem findings_referring (name : String) :
    findings .sheet .nothing (referringComponents name) =
      [.declared ⟨name, writeTrimmed [.leaf () (.ident "red")], some ":root"⟩,
        .declared ⟨"color", writeTrimmed [.group () (.function "var") [.leaf () (.ident name)]],
          some "a"⟩] := by
  rfl

theorem not_mem_received (own : List Char) : '\x00' ∉ own.map received := by
  intro member
  obtain ⟨c, -, same⟩ := List.mem_map.mp member
  rw [received] at same
  split at same
  next => cases same
  next other => exact other same

theorem declarations_referringSheet (own : List Char) :
    Stylesheet.declarations (referringSheet own) =
      .ok (referringDeclarations (variableName (own.map received))) := by
  have single := isSingle_reference (not_mem_received own)
  have red : writeTrimmed [.leaf () (.ident "red")] = "red" := by decide
  apply Outcome.eq_ok_of_toOption
  rw [toOption_declarations, overlong?_referringSheet, sheetFindings, components,
    significant_referringSheet, Component.nested_lexemesOf, findings_referring,
    single.writeTrimmed_eq, red]
  rfl

theorem isVariable_variableName (own : List Char) (value : String) (selector : Option String) :
    Declaration.isVariable ⟨variableName own, value, selector⟩ = true := by
  rw [Declaration.isVariable, trimmed_variableName]
  exact List.isPrefixOf_iff_prefix.mpr ⟨trimEnd own, String.toList_ofList.symm⟩

/-- In the second rule the variable has the value of the first one, and no other variable has
one. -/
theorem scopedValue?_referring (own : List Char) (name : String) :
    scopedValue? (referringDeclarations (variableName own)) (some "a") name =
      if trimmed (variableName own) = name then some "red" else none := by
  have defining := isVariable_variableName own "red" (some ":root")
  have plain : Declaration.isVariable ⟨"color", reference (variableName own), some "a"⟩ =
      false := by
    change variableStart.toList.isPrefixOf (trimmed "color").toList = false
    decide
  have inner : lastValue? (referringDeclarations (variableName own)) (some "a") name = none := by
    simp [lastValue?, referringDeclarations, Declaration.defines, plain]
  have outer : lastValue? (referringDeclarations (variableName own)) (some rootSelector) name =
      if trimmed (variableName own) = name then some "red" else none := by
    have root : (some ":root" == some rootSelector) = true := rfl
    by_cases same : trimmed (variableName own) = name
    · simp [lastValue?, referringDeclarations, Declaration.defines, plain, defining, root, same]
    · simp [lastValue?, referringDeclarations, Declaration.defines, plain, same]
  rw [scopedValue?, scopes]
  simp only [List.findSome?_cons, inner, outer, List.findSome?_nil]
  by_cases same : trimmed (variableName own) = name <;> simp [same]

end Css

/-! ## References in values -/

/-- A piece of a value as it is after the variables are replaced: a reference stands for the value
that its variable has. -/
def replaced (declarations : List Declaration) (selector : Option String) (piece : String) :
    String :=
  match (referencedVariable? piece).bind (scopedValue? declarations selector) with
  | some value => trimmed value
  | none => piece

theorem substitute_resolve (declarations : List Declaration) (selector : Option String) :
    ((SelectorVariables.ofDeclarations declarations).resolve selector).substitute =
      replaced declarations selector := by
  funext piece
  have values : ((SelectorVariables.ofDeclarations declarations).resolve selector).value? =
      scopedValue? declarations selector :=
    funext fun name => SelectorVariables.value?_resolve declarations selector name
  rw [Variables.substitute, values]
  rfl

/-- In a declaration that can hold a color every piece is replaced on its own. -/
theorem declarationLiterals_replaced (options : Options) (declarations : List Declaration)
    (declaration : Declaration) {pieces : List String} (colored : allowsColor declaration.property)
    (cut : candidates declaration.value none = .ok pieces) :
    declarationLiterals options (some (.ofDeclarations declarations)) declaration =
      kept options (pieces.map (replaced declarations declaration.selector)) := by
  rw [declarationLiterals, if_pos colored, Option.map_some, literals, candidates_some, cut,
    ← substitute_resolve]
  rfl

section References

variable {own : List Char} (nonnull : '\x00' ∉ own)
include nonnull

/-- A reference is one piece of a value. -/
theorem candidates_reference :
    candidates (reference (variableName own)) none = .ok [reference (variableName own)] := by
  have whole : Value.gradientArguments? (reference (variableName own)) = none := by
    apply gradientArguments?_eq_none_of
    rintro opening known ⟨rest, start⟩
    have others : ∀ letters ∈ gradientLetters, letters.head?.any (· != 'v') := by decide
    have first := of_gradientLetters others known
    rw [toList_reference] at start
    cases spelled : opening.toList with
    | nil =>
      rw [spelled] at first
      cases first
    | cons c cs =>
      rw [spelled] at first start
      rw [(List.cons.inj start).1] at first
      cases first
  rw [candidates, (isSingle_reference nonnull).items_eq, Outcome.ok_bind, Value.openGradients,
    List.mapM_cons, List.mapM_nil, Value.openGradient, whole]
  rfl

/-- A reference is no color. -/
theorem parse?_reference : Color.parse? (reference (variableName own)) = none := by
  rw [Option.eq_none_iff_forall_ne_some]
  intro color read
  have call (rest : List Char) : 'v' :: 'a' :: 'r' :: '(' :: rest =
      ['v', 'a', 'r'] ++ '(' :: rest := rfl
  rw [Color.parse?_eq_some_iff, trim_solid (isSingle_reference nonnull).solid, toList_reference,
    call] at read
  have other : functionNames.contains (['v', 'a', 'r'].map functionLetter) = false := by
    decide
  exact not_denotes_call rfl (by simp) other read

theorem kept_reference : kept {} [reference (variableName own)] = .ok [] := by
  have verdict : Verdict.of {} (reference (variableName own)) = .ok .notAColor := by
    rw [Verdict.of, parse?_reference nonnull]
  rw [kept, List.mapM_cons, List.mapM_nil, verdict]
  rfl

end References

/-- A reference to a variable that is referable stands for the value of the variable, if it has
one. -/
theorem replaced_reference (declarations : List Declaration) (selector : Option String)
    {own : List Char} (referable : isReferable own) :
    replaced declarations selector (reference (variableName own)) =
      ((scopedValue? declarations selector (trimmed (variableName own))).map trimmed).getD
        (reference (variableName own)) := by
  rw [replaced, (referencedVariable?_reference own).mpr referable, Option.bind_some]
  cases scopedValue? declarations selector (trimmed (variableName own)) <;> rfl

/-- In its style sheet a reference stands for the value of the variable, or for itself. -/
theorem replaced_referring (own : List Char) :
    replaced (referringDeclarations (variableName own)) (some "a") (reference (variableName own)) =
      if isReferable own then "red" else reference (variableName own) := by
  by_cases referable : isReferable own
  · have red : trimmed "red" = "red" := by decide
    rw [if_pos referable, replaced_reference _ _ referable, scopedValue?_referring, if_pos rfl,
      Option.map_some, red]
    rfl
  · rw [if_neg referable, replaced]
    cases named : referencedVariable? (reference (variableName own)) with
    | none => rfl
    | some name =>
      have other : trimmed (variableName own) ≠ name := by
        rintro rfl
        exact referable ((referencedVariable?_reference own).mp named)
      rw [Option.bind_some, scopedValue?_referring, if_neg other]

theorem declarationsLiterals_referring {own : List Char} (free : '\x00' ∉ own) :
    declarationsLiterals {} (some (.ofDeclarations (referringDeclarations (variableName own))))
        (referringDeclarations (variableName own)) =
      .ok (if isReferable own then ["red"] else []) := by
  have definition : declarationLiterals {}
      (some (.ofDeclarations (referringDeclarations (variableName own))))
      ⟨variableName own, "red", some ":root"⟩ = .ok [] := by
    rw [declarationLiterals, allowsColor_of_isVariable (isVariable_variableName own _ _)]
    rfl
  have colored : allowsColor "color" = true := by decide
  have use := declarationLiterals_replaced {} (referringDeclarations (variableName own))
    ⟨"color", reference (variableName own), some "a"⟩ colored (candidates_reference free)
  have red : kept {} ["red"] = .ok ["red"] := Outcome.eq_ok_of_toOption (by decide)
  have found : kept {} [if isReferable own then "red" else reference (variableName own)] =
      .ok (if isReferable own then ["red"] else []) := by
    split
    next => exact red
    next => exact kept_reference free
  rw [List.map_singleton, replaced_referring, found] at use
  rw [referringDeclarations, declarationsLiterals_cons, declarationsLiterals_cons,
    ← referringDeclarations, definition, use]
  cases isReferable own <;> rfl

/-- A style sheet with one variable has the color of the variable exactly when references find
it. -/
theorem ofStylesheet_referringSheet (own : List Char) :
    Extraction.ofStylesheet {} (referringSheet own) =
      .ok (if isReferable (own.map received) then ["red"] else []) := by
  have literals := declarationsLiterals_referring (not_mem_received own)
  rw [Extraction.ofStylesheet, declarations_referringSheet]
  simp only [Outcome.ok_bind, literals]
  cases isReferable (own.map received) with
  | false => rfl
  | true => exact Outcome.eq_ok_of_toOption (by decide)

/-- A reference is looked up by the name that its text spells. So in the style sheet that defines a
variable and refers to it, and in general, a definition is found exactly when the name is written
without escapes and has no blanks but at its end; and then the reference stands for the value of the
last definition in its scope. -/
theorem references_by_written_name (own : List Char) :
    Extraction.ofStylesheet {} (referringSheet own) =
      .ok (if isReferable (own.map received) then ["red"] else []) ∧
    (referencedVariable? (reference (variableName own)) = some (trimmed (variableName own)) ↔
      isReferable own) ∧
    ∀ options declarations declaration pieces, allowsColor declaration.property →
      candidates declaration.value none = .ok pieces →
      declarationLiterals options (some (.ofDeclarations declarations)) declaration =
          kept options (pieces.map (replaced declarations declaration.selector)) ∧
        (isReferable own →
          replaced declarations declaration.selector (reference (variableName own)) =
            ((scopedValue? declarations declaration.selector
              (trimmed (variableName own))).map trimmed).getD (reference (variableName own))) := by
  refine ⟨ofStylesheet_referringSheet own, referencedVariable?_reference own, ?_⟩
  intro options declarations declaration pieces colored cut
  constructor
  · exact declarationLiterals_replaced options declarations declaration colored cut
  · intro referable
    exact replaced_reference declarations declaration.selector referable

/-- A variable that is defined for the root, and a use of it. -/
theorem declarationLiterals_referring :
    declarationLiterals {} (some (.ofDeclarations (referringDeclarations "--x")))
        ⟨"color", "var(--x)", some "a"⟩ =
      kept {} (["var(--x)"].map (replaced (referringDeclarations "--x") (some "a"))) ∧
    replaced (referringDeclarations "--x") (some "a") "var(--x)" = "red" := by
  have free : '\x00' ∉ ['x'] := by decide
  have text : reference (variableName ['x']) = "var(--x)" := by decide
  have cut := candidates_reference free
  rw [text] at cut
  obtain ⟨-, -, general⟩ := references_by_written_name ['x']
  obtain ⟨literals, value⟩ := general {} (referringDeclarations "--x")
    ⟨"color", "var(--x)", some "a"⟩ ["var(--x)"] (by decide) cut
  have value := value (by decide)
  rw [text] at value
  refine ⟨literals, ?_⟩
  rw [value]
  decide

end Swatch
