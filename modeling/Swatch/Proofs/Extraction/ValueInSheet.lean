import Mathlib.Data.List.Infix
import Swatch.Extraction
import Swatch.Proofs.Css.DocumentDeclarations
import Swatch.Proofs.Css.Rereading

/-!
# A value alone and in a style sheet

A style sheet with one rule and one declaration has the colors of the value of that declaration
(`Extraction.ofStylesheet_sheetOf`). The style sheet writes the value and reads what it wrote, so
the statement rests on what a plain text keeps when it is written and read again
(`cutPieces_rewritten`).
-/

namespace Swatch

open Css

/-- A style sheet with one rule, which sets the color to a value. -/
def sheetOf (value : String) : String :=
  "a\x7bcolor:" ++ value ++ "\x7d"

namespace Css

/-- The name of the selector. -/
def sheetSelector : Identifier := ⟨"a", by decide, by decide⟩

theorem color_starts : startsName "color".toList = true := by
  decide

theorem color_plain : "color".toList.all (fun c => isNameChar c && c.toNat < 0x80) = true := by
  decide

/-- The name of the property. -/
def sheetProperty : Identifier := ⟨"color", color_starts, color_plain⟩

section Sheets

variable {value : String} (plain : Plain value.toList) (balanced : Balanced 0 value.toList)
include plain

/-- The lexemes of the style sheet are those of the value with the rule around them. -/
theorem significant_sheetOf :
    significant (sheetOf value).toList =
      .token (.ident "a") :: .opening (.bracket .curly) :: .token (.ident "color") ::
        .token (.delim ":") :: (significant value.toList ++ [.closing .curly]) := by
  have text : (sheetOf value).toList =
      sheetSelector.name.toList ++ '\x7b' ::
        (sheetProperty.name.toList ++ ':' :: (value.toList ++ ['\x7d'])) := by
    simp only [sheetOf, String.toList_append, List.append_assoc]
    rfl
  rw [text, significant_name sheetSelector ⟨'\x7b', _, rfl, .inr (.inr (.inr rfl))⟩,
    significant_opening, significant_name sheetProperty ⟨':', _, rfl, .inr (.inl rfl)⟩,
    significant_colon, significant_append_stop plain.calm rfl, significant_closing,
    significant_nil]
  rfl

theorem overlong?_sheetOf : overlong? (sheetOf value).toList = overlong? value.toList := by
  rw [overlong?, significant_sheetOf plain, overlong?]
  simp only [List.findSome?_cons, List.findSome?_append, List.findSome?_nil, overlong_ident,
    overlong_opening, overlong_delim, overlong_closing, Option.or_none]

theorem normalized_sheetOf : normalized (sheetOf value).toList = (sheetOf value).toList := by
  apply normalized_of_kept
  rw [sheetOf, String.toList_append, String.toList_append, List.all_append, List.all_append,
    all_isKept_of (fun _ => isKept_of_plain) plain.chars]
  rfl

include balanced

/-- The components of the style sheet are those of the value with the rule around them. -/
theorem components_sheetOf :
    components (sheetOf value).toList =
      [nameLeaf sheetSelector,
        blockOf (nameLeaf sheetProperty :: signLeaf ":" :: components value.toList)] := by
  have nested := Component.nested_lexemesOf [nameLeaf sheetSelector,
    blockOf (nameLeaf sheetProperty :: signLeaf ":" :: components value.toList)]
  rw [components, significant_sheetOf plain]
  simp only [nameLeaf, blockOf, signLeaf, Component.lexemesOf_cons, Component.lexemesOf_nil,
    Component.lexemes_leaf, Component.lexemes_group, (readsBack_of_plain plain balanced).nested,
    List.singleton_append, List.append_nil] at nested
  exact nested

/-- The components of a plain value hold no block, no semicolon and no exclamation mark. -/
theorem components_calm {component : Component Unit}
    (member : component ∈ components value.toList) :
    component.isCalm = true ∧ component.isInert = true := by
  have rows := plainRow_significant plain
  rw [← (readsBack_of_plain plain balanced).nested] at rows
  have own : PlainRow component.lexemes := fun lexeme found =>
    rows lexeme (Component.lexemes_subset member found)
  cases component with
  | leaf mark token =>
    have sign (text : String) (odd : text.toList.all isPlain = false) :
        Component.isDelim text (.leaf mark token) = false := by
      rw [Component.isDelim, beq_eq_false_iff_ne]
      intro same
      obtain ⟨piece, rest, spells, chars⟩ := own (.token token) (by simp)
      have read := spells.of_delim (congrArg Lexeme.token (Option.some.inj same))
      rw [read.1, odd] at chars
      cases chars
    rw [Component.isCalm, Component.isInert, sign ";" rfl, sign "!" rfl]
    exact ⟨rfl, rfl⟩
  | group mark opener content =>
    have open_round : opener ≠ .bracket .curly := by
      rintro rfl
      obtain ⟨piece, rest, spells, -⟩ := own (.opening (.bracket .curly)) (by simp)
      cases spells
    cases opener with
    | function name => exact ⟨rfl, rfl⟩
    | bracket bracket =>
      cases bracket with
      | curly => exact (open_round rfl).elim
      | _ => exact ⟨rfl, rfl⟩

/-- The style sheet declares the value as it is written. -/
theorem declared_sheetOf :
    declared (sheetFindings (sheetOf value).toList) =
      .ok [⟨"color", writeTrimmed (components value.toList), some "a"⟩] := by
  have calm : (signLeaf ":" :: components value.toList).all (·.isCalm) := by
    rw [List.all_cons, Bool.and_eq_true]
    exact ⟨rfl, List.all_eq_true.mpr fun _ member => (components_calm plain balanced member).1⟩
  have inert : (components value.toList).all (·.isInert) :=
    List.all_eq_true.mpr fun _ member => (components_calm plain balanced member).2
  have empty : ([] : List (Component Unit)).all (·.isCalm) = true := rfl
  have rule := findings_run_block sheetSelector empty .sheet
    (nameLeaf sheetProperty :: signLeaf ":" :: components value.toList) [] rfl
  have selector : writeTrimmed [nameLeaf sheetSelector] = "a" := by decide
  rw [List.nil_append, selector, findings_run_end sheetProperty calm, Finding.ofRun,
    declarationOf?_inert "a" sheetProperty inert] at rule
  rw [sheetFindings, components_sheetOf plain balanced, rule]
  rfl

/-- The declarations of the style sheet: the value as it is written, unless a number in it has too
many digits. -/
theorem declarations_sheetOf :
    Stylesheet.declarations (sheetOf value) =
      match overlong? value.toList with
      | some count => .error (.tooManyDigits count)
      | none => .ok [⟨"color", writeTrimmed (components value.toList), some "a"⟩] := by
  cases found : overlong? value.toList with
  | some count =>
    have reading := readComponents_unmarked (sheetOf value).toList
    rw [normalized_sheetOf plain, overlong?_sheetOf plain, found] at reading
    rw [Stylesheet.declarations, Stylesheet.findings]
    cases read : readComponents (sheetOf value).toList with
    | error cause =>
      rw [read] at reading
      exact congrArg Except.error (Except.error.inj reading)
    | ok marked =>
      rw [read] at reading
      cases reading
  | none =>
    apply Outcome.eq_ok_of_toOption
    rw [toOption_declarations, normalized_sheetOf plain, overlong?_sheetOf plain, found,
      declared_sheetOf plain balanced]
    rfl

/-- The value as it is written is cut at its commas like the value itself. -/
theorem commaPieces_written (short : overlong? value.toList = none) :
    Value.commaPieces (writeTrimmed (components value.toList)) = Value.commaPieces value := by
  have same (component : Component Unit) :
      Component.isDelim "," component.settle = Component.isDelim "," component :=
    Component.isDelim_settle "," component
  have kept : normalized (rewritten value.toList) = rewritten value.toList := by
    obtain ⟨-, -, -, -, -, -, -, -, -, kept⟩ := exists_rewritten plain balanced
    exact normalized_of_kept kept
  have pieces := cutPieces_rewritten plain balanced same fun _ => rfl
  have written : (writeTrimmed (components value.toList)).toList = rewritten value.toList := rfl
  rw [commaPieces_eq, commaPieces_eq, written, kept, overlong?_rewritten plain balanced short,
    (readsBack_of_plain plain balanced).normalized_eq, short]
  exact congrArg Except.ok pieces

end Sheets

end Css

/-- Without variables nothing is replaced. -/
theorem literals_no_variables (options : Options) (value : String) :
    literals options value (some []) = literals options value none := by
  have same : Variables.substitute [] = id := by
    funext text
    rw [Variables.substitute]
    cases referencedVariable? text <;> rfl
  rw [literals, literals, candidates, candidates]
  simp only [same, List.map_id]

/-- A color is no variable. -/
theorem ofDeclarations_color (value : String) (selector : Option String) :
    SelectorVariables.ofDeclarations [⟨"color", value, selector⟩] = [] := by
  have plain : ¬variableStart.toList.isPrefixOf (Text.trimmed "color").toList := by decide
  rw [SelectorVariables.ofDeclarations, List.foldl_cons, List.foldl_nil, SelectorVariables.define,
    if_neg plain]

/-- A declaration of a color that sees no variables has the literals of its value. -/
theorem declarationsLiterals_color (options : Options) (value : String) (selector : String) :
    declarationsLiterals options (some []) [⟨"color", value, some selector⟩] =
      literals options value none := by
  have colored : allowsColor "color" = true := by decide
  have resolved : SelectorVariables.resolve [] (some selector) = [] := by
    rw [SelectorVariables.resolve]
    split <;> rfl
  have own : declarationLiterals options (some []) ⟨"color", value, some selector⟩ =
      literals options value none := by
    rw [declarationLiterals, if_pos colored, Option.map_some, resolved, literals_no_variables]
  rw [declarationsLiterals, List.mapM_cons, List.mapM_nil, own]
  cases literals options value none with
  | error cause => rfl
  | ok found =>
    change Except.ok [found].flatten = Except.ok found
    rw [List.flatten_singleton]

namespace Extraction

/-- A plain value with balanced brackets has the same colors, or the same fault, alone and as the
value of a declaration. -/
theorem ofStylesheet_sheetOf (options : Options) (value : String)
    (chars : value.toList.all isPlain)
    (prefixes : ∀ front, front <+: value.toList → front.count ')' ≤ front.count '(')
    (whole : value.toList.count ')' = value.toList.count '(')
    (free : ¬"url(".toList <:+: value.toList.map Text.asciiLower) :
    ofStylesheet options (sheetOf value) = ofValue options value none := by
  have plain : Plain value.toList := ⟨chars, free⟩
  have balanced : Balanced 0 value.toList :=
    balanced_of_prefixes (by simpa using prefixes) (by simpa using whole)
  rw [ofStylesheet, declarations_sheetOf plain balanced]
  cases found : overlong? value.toList with
  | some count =>
    have refused : Value.commaPieces value = .error (.tooManyDigits count) := by
      rw [commaPieces_eq, (readsBack_of_plain plain balanced).normalized_eq, found]
    rw [ofValue, literals, candidates, Value.items, refused]
    rfl
  | none =>
    have same : literals options (writeTrimmed (components value.toList)) none =
        literals options value none := by
      rw [literals, literals, candidates, candidates, Value.items, Value.items,
        commaPieces_written plain balanced found]
    simp only [Outcome.ok_bind, ofDeclarations_color, declarationsLiterals_color, same]
    rfl

/-- A gradient in which a number goes on with the letter of an exponent. -/
def gradientValue : String := " linear-gradient(#FFF 1e, RGB(1,2e0,.5)) "

theorem ofStylesheet_gradientValue :
    ofStylesheet { allColors := true } (sheetOf gradientValue) =
      ofValue { allColors := true } gradientValue none := by
  have prefixes : ∀ front ∈ gradientValue.toList.inits, front.count ')' ≤ front.count '(' := by
    decide
  exact ofStylesheet_sheetOf { allColors := true } gradientValue (by decide)
    (fun front before => prefixes front ((List.mem_inits front _).mpr before)) (by decide)
    (by decide)

end Extraction

end Swatch
