import Swatch.Proofs.Color.ExactNames
import Swatch.Proofs.Palette.Distinct

/-!
# The keyword format

Where colors are asked for by name, those without a name of their own are left out. What is left are
exactly the candidates that are kept without the format and whose whole channels are in the table of
names (`literals_keyword`), and each of them is given out under a name of its channels
(`keyword_guard`).
-/

namespace Swatch

open Outcome

namespace Options

/-- The options without a format. -/
def withoutFormat (options : Options) : Options :=
  { options with colorFormat := .null }

end Options

/-- The text is a color whose whole channels are those of some name. -/
def hasNamedChannels (literal : String) : Bool :=
  (Color.parse? literal).any fun color =>
    color.rgb.toOption.any fun rgb => (ColorName.table.map (·.2)).contains rgb

variable {options : Options}

theorem hasNamedChannels_iff {literal : String} {color : Color} {rgb : Rgb}
    (read : Color.parse literal = .ok color) (own : color.rgb = .ok rgb) :
    hasNamedChannels literal = true ↔ Color.Named rgb := by
  rw [hasNamedChannels, Color.parse?, read, Except.toOption, Option.any_some, own, Except.toOption,
    Option.any_some, List.contains_iff_mem, List.mem_map]
  constructor
  · rintro ⟨⟨name, rgb⟩, entry, rfl⟩
    exact ⟨name, entry⟩
  · rintro ⟨name, entry⟩
    exact ⟨_, entry, rfl⟩

/-! ## Verdicts -/

/-- With the keyword format a color that would be kept is kept if it has a name. -/
theorem ofColor_keyword (keyword : options.format? = some .keyword) {color : Color} {answer : Bool}
    (guard : color.hasExactName = .ok answer) :
    Verdict.ofColor options color = (Verdict.ofColor options.withoutFormat color).map fun verdict =>
      if verdict = .kept ∧ answer = false then .unnamed else verdict := by
  have plain : options.withoutFormat.format? = none := rfl
  have first : options.withoutFormat.withoutMonochrome = options.withoutMonochrome := rfl
  have second : options.withoutFormat.withoutGrey = options.withoutGrey := rfl
  unfold Verdict.ofColor
  rw [keyword, guard, plain, first, second]
  generalize Verdict.fails options.withoutMonochrome color.isMonochrome = monochrome
  generalize Verdict.fails options.withoutGrey color.isGrey = grey
  cases monochrome with
  | error fault => rfl
  | ok dropped =>
    cases dropped with
    | true => rfl
    | false =>
      cases grey with
      | error fault => rfl
      | ok dropped => cases dropped <;> cases answer <;> rfl

theorem of_keyword (keyword : options.format? = some .keyword) (candidate : String) :
    Verdict.of options candidate = (Verdict.of options.withoutFormat candidate).map fun verdict =>
      if verdict = .kept ∧ hasNamedChannels candidate = false then .unnamed else verdict := by
  unfold Verdict.of
  cases parsed : Color.parse? candidate with
  | none => rfl
  | some color =>
    have read : Color.parse candidate = .ok color := eq_ok_of_toOption parsed
    obtain ⟨rgb, own, eight⟩ := (Color.gamut_of_parse read).rgb
    obtain ⟨answer, guard, exactly⟩ := Color.hasExactName_iff own eight
    have same : hasNamedChannels candidate = answer := by
      rw [Bool.eq_iff_iff, hasNamedChannels_iff read own, exactly]
    rw [same]
    exact ofColor_keyword keyword guard

/-- A candidate is judged before the others. -/
theorem kept_cons (options : Options) (candidate : String) (others : List String) :
    kept options (candidate :: others) =
      (Extracted.ofComputed (Verdict.of options candidate)).bind fun verdict =>
        (kept options others).map fun found =>
          if verdict = .kept then candidate :: found else found := by
  unfold kept
  rw [List.mapM_cons]
  generalize others.mapM (fun candidate =>
    (Extracted.ofComputed (Verdict.of options candidate)).map (candidate, ·)) = judged
  cases Extracted.ofComputed (Verdict.of options candidate) with
  | error cause => rfl
  | ok verdict =>
    cases judged with
    | error cause => rfl
    | ok judged => cases verdict <;> rfl

/-- The candidates that are kept with the keyword format. -/
theorem kept_keyword (keyword : options.format? = some .keyword) (candidates : List String) :
    kept options candidates =
      (kept options.withoutFormat candidates).map (·.filter hasNamedChannels) := by
  induction candidates with
  | nil => rfl
  | cons candidate others ih =>
    rw [kept_cons, kept_cons, of_keyword keyword, ih]
    cases Verdict.of options.withoutFormat candidate with
    | error fault => rfl
    | ok verdict =>
      cases kept options.withoutFormat others with
      | error cause => rfl
      | ok found =>
        simp only [Except.map, Extracted.ofComputed, Except.bind]
        by_cases keeps : verdict = .kept
        · cases named : hasNamedChannels candidate <;> simp [keeps, named]
        · simp [keeps]

theorem literals_keyword (keyword : options.format? = some .keyword) (value : String)
    (scope : Option Css.Variables) :
    literals options value scope =
      (literals options.withoutFormat value scope).map (·.filter hasNamedChannels) := by
  unfold literals
  cases cut : candidates value scope with
  | error cause => rfl
  | ok found => exact kept_keyword keyword found

/-! ## Names that are given out -/

/-- A literal with named channels is given out under a name of its channels. -/
theorem format_keyword (keyword : options.format? = some .keyword) {literal : String}
    (named : hasNamedChannels literal = true) :
    ∃ color rgb name, Color.parse literal = .ok color ∧ color.rgb = .ok rgb ∧
      Palette.format options literal = .ok name ∧ (name, rgb) ∈ ColorName.table := by
  cases parsed : Color.parse literal with
  | error cause =>
    rw [hasNamedChannels, Color.parse?, parsed] at named
    cases named
  | ok color =>
    obtain ⟨rgb, own, -⟩ := (Color.gamut_of_parse parsed).rgb
    have entry := Color.entry_of_named ((hasNamedChannels_iff parsed own).mp named)
    refine ⟨color, rgb, _, rfl, own, ?_, entry⟩
    unfold Palette.format
    rw [keyword, parsed]
    exact congrArg Extracted.ofComputed (Color.keyword_eq own)

/-- The literals of a value are given out under names of their channels. -/
theorem hasNamedChannels_of_mem_literals (keyword : options.format? = some .keyword)
    {value : String}
    {scope : Option Css.Variables} {found : List String}
    (read : literals options value scope = .ok found) {literal : String}
    (member : literal ∈ found) :
    hasNamedChannels literal = true := by
  rw [literals_keyword keyword] at read
  cases plain : literals options.withoutFormat value scope with
  | error cause =>
    rw [plain] at read
    cases read
  | ok all =>
    rw [plain] at read
    rw [← Except.ok.inj read] at member
    exact (List.mem_filter.mp member).2

theorem hasNamedChannels_of_mem_declarationsLiterals (keyword : options.format? = some .keyword)
    {known : Option Css.SelectorVariables} {declarations : List Css.Declaration}
    {found : List String}
    (read : declarationsLiterals options known declarations = .ok found) {literal : String}
    (member : literal ∈ found) : hasNamedChannels literal = true := by
  unfold declarationsLiterals at read
  obtain ⟨parts, inner, read⟩ := exists_of_bind_eq_ok read
  cases read
  obtain ⟨part, own, member⟩ := List.mem_flatten.mp member
  obtain ⟨declaration, -, read⟩ := exists_of_mem_mapM inner own
  unfold declarationLiterals at read
  split at read
  next => exact hasNamedChannels_of_mem_literals keyword read member
  next =>
    cases read
    cases member

/-- A color is found to have a name exactly if its whole channels are those of some name, and then
it is written as a name of just these channels. So with the keyword format the literals of a value
are those that are kept without it and have named channels. What is given out for a style sheet are
the literals of its declarations, each under the name of its own channels, and nothing else. -/
theorem keyword_guard (options : Options) (keyword : options.format? = some .keyword) :
    (∀ (color : Color) (rgb : Rgb), color.rgb = .ok rgb → Color.EightBit rgb →
      ∃ answer, color.hasExactName = .ok answer ∧ (answer = true ↔ Color.Named rgb) ∧
        (answer = true → ∃ name, color.keyword = .ok name ∧ (name, rgb) ∈ ColorName.table)) ∧
    (∀ value scope, literals options value scope =
      (literals options.withoutFormat value scope).map (·.filter hasNamedChannels)) ∧
    (∀ value scope found, literals options value scope = .ok found → ∀ literal ∈ found,
      ∃ color rgb name, Color.parse literal = .ok color ∧ color.rgb = .ok rgb ∧
        Palette.format options literal = .ok name ∧ (name, rgb) ∈ ColorName.table) ∧
    ∀ text emitted, Extraction.ofStylesheet options text = .ok emitted →
      ∃ declarations found, Css.Stylesheet.declarations text = .ok declarations ∧
        declarationsLiterals options (some (.ofDeclarations declarations)) declarations =
          .ok found ∧
        (∀ literal ∈ found, ∃ name ∈ emitted, Palette.format options literal = .ok name) ∧
        ∀ name ∈ emitted, ∃ literal ∈ found, ∃ color rgb,
          Color.parse literal = .ok color ∧ color.rgb = .ok rgb ∧
            Palette.format options literal = .ok name ∧ (name, rgb) ∈ ColorName.table := by
  refine ⟨fun color rgb own eight => ?_, literals_keyword keyword, ?_, fun text emitted done => ?_⟩
  · obtain ⟨answer, guard, exactly⟩ := Color.hasExactName_iff own eight
    exact ⟨answer, guard, exactly, fun named =>
      ⟨_, Color.keyword_eq own, Color.entry_of_named (exactly.mp named)⟩⟩
  · intro value scope found read literal member
    exact format_keyword keyword (hasNamedChannels_of_mem_literals keyword read member)
  · unfold Extraction.ofStylesheet at done
    obtain ⟨declarations, declared, done⟩ := exists_of_bind_eq_ok done
    obtain ⟨found, read, done⟩ := exists_of_bind_eq_ok done
    have named {literal : String} (member : literal ∈ found) :=
      format_keyword keyword (hasNamedChannels_of_mem_declarationsLiterals keyword read member)
    refine ⟨declarations, found, declared, read, fun literal member => ?_, fun name member => ?_⟩
    · obtain ⟨-, -, name, -, -, formatted, -⟩ := named member
      exact ⟨name, (Palette.mem_arrange done).mpr ⟨literal, member, formatted⟩, formatted⟩
    · obtain ⟨literal, inner, formatted⟩ := (Palette.mem_arrange done).mp member
      obtain ⟨color, rgb, name', parsed, own, formatted', entry⟩ := named inner
      rw [formatted] at formatted'
      cases formatted'
      exact ⟨literal, inner, color, rgb, parsed, own, formatted, entry⟩

/-- White has a name, and a color next to black has none. -/
theorem keyword_guard_white :
    literals { colorFormat := .string "keyword" } "#fff, #010203" none = .ok ["#fff"] ∧
      ∃ color rgb name, Color.parse "#fff" = .ok color ∧ color.rgb = .ok rgb ∧
        Palette.format { colorFormat := .string "keyword" } "#fff" = .ok name ∧
        (name, rgb) ∈ ColorName.table := by
  have found : literals { colorFormat := .string "keyword" } "#fff, #010203" none = .ok ["#fff"] :=
    eq_ok_of_toOption (by decide +kernel)
  have guarded := keyword_guard { colorFormat := .string "keyword" } (by decide)
  exact ⟨found, guarded.2.2.1 _ _ _ found _ List.mem_cons_self⟩

end Swatch
