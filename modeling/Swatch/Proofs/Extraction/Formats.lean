import Swatch.Proofs.Color.Written
import Swatch.Proofs.Extraction.Literals

/-!
# What is formatted and sorted is a color

After the filters a literal is read twice more: it is read to be formatted, and what the format
wrote is read to be sorted by hue. Neither reading can fail. What is kept names a color, and
whatever a format writes for a color that was read is a color literal again; so an extraction
without a result ends for a reason in its input, or in a computation (`failsWith_expected`).
-/

namespace Swatch

open Outcome

/-- A cause other than a text that should be a color and is none. -/
def ExtractionError.IsExpected : ExtractionError → Prop
  | .unformattable _ _ => False
  | .unsortable _ _ => False
  | _ => True

/-- Whatever a computation with a color ends with is expected. -/
theorem Extracted.ofComputed_failsWith {α : Type} (computed : Except Binary64.Fault α) :
    FailsWith ExtractionError.IsExpected (ofComputed computed) := by
  cases computed with
  | ok value => exact .ok value
  | error fault =>
    intro cause failed
    rw [← Except.error.inj failed]
    trivial

/-! ## Formats and orders -/

/-- The text is a color literal. -/
def Color.IsNamedBy (text : String) : Prop :=
  ∃ color, Color.parse text = .ok color

theorem Color.isNamedBy_iff {text : String} : IsNamedBy text ↔ (parse? text).isSome := by
  unfold IsNamedBy parse?
  cases parse text <;> simp [Except.toOption]

namespace Palette

variable {options : Options} {literal : String} {literals : List String}

theorem format_failsWith (named : Color.IsNamedBy literal) :
    FailsWith ExtractionError.IsExpected (format options literal) := by
  obtain ⟨color, read⟩ := named
  unfold format
  split
  next => exact .ok literal
  next format _ =>
    rw [read]
    exact Extracted.ofComputed_failsWith (color.write format)

/-- What is given out for a literal is the literal itself, without a known format, or what the
format wrote for its color. -/
theorem format_cases {text : String} (formatted : format options literal = .ok text) :
    (options.format? = none ∧ text = literal) ∨
      ∃ color written, options.format? = some written ∧ Color.parse literal = .ok color ∧
        color.write written = .ok text := by
  unfold format at formatted
  split at formatted
  next unformatted => exact .inl ⟨unformatted, (Except.ok.inj formatted).symm⟩
  next written known =>
    split at formatted
    next => cases formatted
    next color read =>
      cases computed : color.write written with
      | error fault =>
        rw [computed] at formatted
        cases formatted
      | ok own =>
        rw [computed] at formatted
        cases formatted
        exact .inr ⟨color, written, known, read, computed⟩

/-- In any format a color literal is a color literal. -/
theorem isNamedBy_of_format (named : Color.IsNamedBy literal) {text : String}
    (formatted : format options literal = .ok text) : Color.IsNamedBy text := by
  rcases format_cases formatted with ⟨_, rfl⟩ | ⟨color, _, _, read, computed⟩
  · exact named
  · have shape := Color.written_of_write (Color.ranged_of_parse read) computed
    have again := Color.exists_parse_of_written shape
    rwa [String.ofList_toList] at again

theorem hue_failsWith (named : Color.IsNamedBy literal) :
    FailsWith ExtractionError.IsExpected (hue literal) := by
  obtain ⟨color, read⟩ := named
  unfold hue
  rw [read]
  exact Extracted.ofComputed_failsWith _

theorem inOrder_failsWith {colors : List String} (named : ∀ color ∈ colors, Color.IsNamedBy color)
    (order : Options.Order) : FailsWith ExtractionError.IsExpected (inOrder colors order) := by
  cases order with
  | asFound => exact .ok colors
  | byHue =>
    have each (color : String) (member : color ∈ colors) :
        FailsWith ExtractionError.IsExpected (do return (← hue color, color)) :=
      (hue_failsWith (named color member)).bind fun _ _ => .ok _
    exact (FailsWith.mapM each).bind fun _ _ => .ok _
  | byFrequency => exact .ok (byFrequency colors)

theorem arrange_failsWith (named : ∀ literal ∈ literals, Color.IsNamedBy literal) :
    FailsWith ExtractionError.IsExpected (arrange options literals) := by
  unfold arrange
  refine (FailsWith.mapM fun literal member => format_failsWith (named literal member)).bind
    fun colors formatted => ?_
  refine (inOrder_failsWith (fun color member => ?_) options.order).bind fun _ _ => .ok _
  obtain ⟨literal, before, own⟩ := exists_of_mem_mapM formatted member
  exact isNamedBy_of_format (named literal before) own

end Palette

/-! ## Values, declarations and style sheets -/

namespace Css

theorem readComponents_failsWith (text : List Char) :
    FailsWith ExtractionError.IsExpected (readComponents text) := by
  unfold readComponents
  dsimp only
  split
  next =>
    intro cause failed
    rw [← Except.error.inj failed]
    trivial
  next => exact .ok _

theorem Value.pieces_failsWith (separates : Component (List Char) → Bool) (value : String) :
    FailsWith ExtractionError.IsExpected (pieces separates value) :=
  (readComponents_failsWith _).bind fun _ _ => .ok _

theorem Value.items_failsWith (value : String) :
    FailsWith ExtractionError.IsExpected (items value) :=
  (pieces_failsWith _ value).bind fun _ _ =>
    (FailsWith.mapM fun piece _ => pieces_failsWith _ piece).bind fun _ _ => .ok _

theorem Value.openGradients_failsWith (found : List String) :
    FailsWith ExtractionError.IsExpected (openGradients found) := by
  refine (FailsWith.mapM fun item _ => ?_).bind fun _ _ => .ok _
  unfold openGradient
  split
  next inner _ => exact items_failsWith inner
  next => exact .ok _

theorem Stylesheet.declarations_failsWith (text : String) :
    FailsWith ExtractionError.IsExpected (declarations text) := by
  refine ((readComponents_failsWith _).bind fun _ _ => .ok _).bind fun found _ => ?_
  split
  next => exact .ok _
  next =>
    intro cause failed
    rw [← Except.error.inj failed]
    trivial

end Css

section Literals

variable (options : Options)

theorem literals_failsWith (value : String) (scope : Option Css.Variables) :
    FailsWith ExtractionError.IsExpected (literals options value scope) := by
  have cut : FailsWith ExtractionError.IsExpected (candidates value scope) :=
    (Css.Value.items_failsWith value).bind fun _ _ =>
      (Css.Value.openGradients_failsWith _).bind fun _ _ => .ok _
  refine cut.bind fun found _ => ?_
  refine (FailsWith.mapM fun candidate _ => ?_).bind fun _ _ => .ok _
  cases judged : Extracted.ofComputed (Verdict.of options candidate) with
  | ok verdict => exact .ok _
  | error cause =>
    intro other failed
    rw [← Except.error.inj failed]
    exact Extracted.ofComputed_failsWith _ cause judged

theorem declarationLiterals_failsWith (known : Option Css.SelectorVariables)
    (declaration : Css.Declaration) :
    FailsWith ExtractionError.IsExpected (declarationLiterals options known declaration) := by
  unfold declarationLiterals
  split
  next => exact literals_failsWith options _ _
  next => exact .ok []

variable {options} {found : List String}

theorem isNamedBy_of_literals {value : String} {scope : Option Css.Variables}
    (read : literals options value scope = .ok found) {literal : String}
    (member : literal ∈ found) : Color.IsNamedBy literal := by
  obtain ⟨cut, -, judged⟩ := exists_of_bind_eq_ok read
  exact Color.isNamedBy_iff.mpr (mem_and_isSome_of_mem_kept judged member).2

theorem isNamedBy_of_declarationLiterals {known : Option Css.SelectorVariables}
    {declaration : Css.Declaration}
    (read : declarationLiterals options known declaration = .ok found) {literal : String}
    (member : literal ∈ found) : Color.IsNamedBy literal := by
  unfold declarationLiterals at read
  split at read
  next => exact isNamedBy_of_literals read member
  next =>
    cases read
    cases member

theorem isNamedBy_of_declarationsLiterals {known : Option Css.SelectorVariables}
    {declarations : List Css.Declaration}
    (read : declarationsLiterals options known declarations = .ok found) {literal : String}
    (member : literal ∈ found) : Color.IsNamedBy literal := by
  obtain ⟨parts, inner, read⟩ := exists_of_bind_eq_ok read
  cases read
  obtain ⟨part, own, member⟩ := List.mem_flatten.mp member
  obtain ⟨declaration, -, read⟩ := exists_of_mem_mapM inner own
  exact isNamedBy_of_declarationLiterals read member

end Literals

/-- Whatever is extracted, with whichever options, no text is to be formatted or sorted that is not
a color: the literals that were kept are color literals, and in the format that is asked for they
still are. -/
theorem failsWith_expected (options : Options) :
    (∀ text, FailsWith ExtractionError.IsExpected (Extraction.ofStylesheet options text)) ∧
    (∀ declaration known,
      FailsWith ExtractionError.IsExpected (Extraction.ofDeclaration options declaration known)) ∧
    (∀ value scope, FailsWith ExtractionError.IsExpected (Extraction.ofValue options value scope)) ∧
    ∀ value scope found, literals options value scope = .ok found → ∀ literal ∈ found,
      (Color.parse? literal).isSome ∧
        ∀ text, Palette.format options literal = .ok text → (Color.parse? text).isSome := by
  refine ⟨fun text => ?_, fun declaration known => ?_, fun value scope => ?_,
    fun value scope found read literal member => ?_⟩
  · refine (Css.Stylesheet.declarations_failsWith text).bind fun declarations _ => ?_
    refine FailsWith.bind ?_ fun found read => Palette.arrange_failsWith fun literal member =>
      isNamedBy_of_declarationsLiterals read member
    exact (FailsWith.mapM
      fun declaration _ => declarationLiterals_failsWith options _ declaration).bind
      fun _ _ => .ok _
  · exact (declarationLiterals_failsWith options known declaration).bind fun found read =>
      Palette.arrange_failsWith fun literal member => isNamedBy_of_declarationLiterals read member
  · exact (literals_failsWith options value scope).bind fun found read =>
      Palette.arrange_failsWith fun literal member => isNamedBy_of_literals read member
  · have named := isNamedBy_of_literals read member
    exact ⟨Color.isNamedBy_iff.mp named, fun text formatted =>
      Color.isNamedBy_iff.mp (Palette.isNamedBy_of_format named formatted)⟩

end Swatch
