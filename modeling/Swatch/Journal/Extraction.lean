import Swatch.Extraction
import Swatch.Journal.Event

/-!
# The journal of an extraction

The events of an extraction in the order in which they come about. What fails has no event of its
own, and nothing follows it.
-/

namespace Swatch.Journal

/-- The events of judging a color literal: a word has to be looked up, and a filter may take the
color out. -/
def ofCandidate (options : Options) (candidate : String) : List Event :=
  let word := Color.isWord (Text.trim candidate.toList) &&
    Text.lowered (Text.trimmed candidate) != Color.transparentName
  let verdict := Verdict.of options candidate
  let named := options.format? == some .keyword &&
    (verdict matches .ok .kept || verdict matches .ok .unnamed)
  (if word || named then [.namesLoaded] else []) ++
    match verdict with
    | .ok .kept | .ok .notAColor | .error _ => []
    | .ok dropped => [.dropped candidate dropped]

/-- The events of judging color literals, up to the first one that cannot be judged. -/
def ofCandidates (options : Options) : List String → List Event
  | [] => []
  | candidate :: rest =>
    ofCandidate options candidate ++
      match Verdict.of options candidate with
      | .ok _ => ofCandidates options rest
      | .error _ => []

/-- The references among pieces of a value that are to no variable with a value. -/
def unresolved (scope : Css.Variables) (pieces : List String) : List Event :=
  (pieces.filter fun piece =>
    match Css.referencedVariable? piece with
    | some name => (scope.value? name).isNone
    | none => false).map .unresolved

/-- The events of finding the literals of a property value. -/
def ofValue (options : Options) (value : String) (scope : Option Css.Variables) :
    List Event :=
  match candidates value none, candidates value scope with
  | .ok pieces, .ok replaced =>
    (scope.map (unresolved · pieces)).getD [] ++ ofCandidates options replaced ++
      match kept options replaced with
      | .ok kept => [.literals value kept]
      | .error _ => []
  | _, _ => []

/-- The events of finding the literals of declarations, up to the first one that fails. -/
def ofDeclarations (options : Options) (known : Css.SelectorVariables) :
    List Css.Declaration → List Event
  | [] => []
  | declaration :: rest =>
    (if Css.allowsColor declaration.property then
      ofValue options declaration.value (some (known.resolve declaration.selector))
    else []) ++
      match declarationLiterals options (some known) declaration with
      | .ok _ => ofDeclarations options known rest
      | .error _ => []

/-- The events of arranging literals. -/
def ofPalette (options : Options) (literals : List String) : List Event :=
  match Palette.arrange options literals with
  | .ok colors => [.arranged colors.length options.sort]
  | .error _ => []

/-- The events of reading a style sheet, up to the first rule without a block. -/
def ofFindings (text : String) : List (Css.Finding (List Char)) → List Event
  | [] => []
  | .declared _ :: rest => ofFindings text rest
  | .skipped mark ending :: rest =>
    .skipped (Css.Stylesheet.position text mark) ending :: ofFindings text rest
  | .broken _ :: _ => []

/-- The events of what follows once the declarations of a style sheet are known. -/
def ofDeclared (options : Options) (declarations : List Css.Declaration) : List Event :=
  let known := Css.SelectorVariables.ofDeclarations declarations
  .declared declarations.length :: .defined known.length ::
    (ofDeclarations options known declarations ++
      match declarationsLiterals options (some known) declarations with
      | .error _ => []
      | .ok literals =>
        .collected literals.length :: .extracted declarations.length literals.length ::
          ofPalette options literals)

/-- The events with every report of the first look at the names but the first left out. -/
def firstLook : List Event → List Event
  | [] => []
  | .namesLoaded :: rest =>
    .namesLoaded :: rest.filter fun event => !(event matches .namesLoaded)
  | event :: rest => event :: firstLook rest

/-- The events of extracting the colors of a style sheet. -/
def ofStylesheet (options : Options) (text : String) : List Event :=
  match Css.Stylesheet.findings text with
  | .error _ => []
  | .ok findings =>
    ofFindings text findings ++
      match Css.declared findings with
      | .error _ => []
      | .ok declarations => firstLook (ofDeclared options declarations)

end Swatch.Journal
