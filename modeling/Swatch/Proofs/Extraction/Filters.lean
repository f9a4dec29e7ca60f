import Swatch.Proofs.Palette.Filtering

/-!
# Extraction with filters

The filters look at each literal alone and come before the order and the repeats. As long as colors
stay as they are written, a filter may as well come last: with more filters the list given out is
that with fewer of them, without the literals that the filters take out (`filters_commute`).
-/

namespace Swatch

open Outcome

namespace Options

/-- The options with other filters. -/
def withFilters (options : Options) (grey monochrome : Bool) : Options :=
  { options with withoutGrey := grey, withoutMonochrome := monochrome }

/-- A filter that is asked for takes the literal out. -/
def leavesOut (options : Options) (literal : String) : Bool :=
  match Color.parse? literal with
  | none => false
  | some color =>
    (options.withoutMonochrome && color.isMonochrome.toOption == some true) ||
      (options.withoutGrey && color.isGrey.toOption == some true)

end Options

/-! ## One literal -/

section Literal

variable {options : Options} {color : Color}

/-- A test that is asked for has a result, and one that is not does not count. -/
theorem eq_of_fails {wanted result : Bool} {test : Except Binary64.Fault Bool}
    (done : Verdict.fails wanted test = .ok result) :
    result = (wanted && test.toOption == some true) := by
  cases wanted with
  | false =>
    cases done
    rfl
  | true =>
    have own : test = .ok result := done
    rw [own]
    cases result <;> rfl

/-- A color is kept if no filter that is asked for takes it out. -/
theorem kept_iff_of_ofColor (plain : options.format? = none) {verdict : Verdict}
    (judged : Verdict.ofColor options color = .ok verdict) :
    (verdict == .kept) =
      !((options.withoutMonochrome && color.isMonochrome.toOption == some true) ||
        (options.withoutGrey && color.isGrey.toOption == some true)) := by
  unfold Verdict.ofColor at judged
  obtain ⟨monochrome, first, judged⟩ := exists_of_bind_eq_ok judged
  rw [← eq_of_fails first]
  cases monochrome with
  | true =>
    cases judged
    rfl
  | false =>
    obtain ⟨grey, second, judged⟩ := exists_of_bind_eq_ok judged
    rw [← eq_of_fails second]
    cases grey with
    | true =>
      cases judged
      rfl
    | false =>
      rw [plain] at judged
      cases judged
      rfl

theorem kept_iff_of_of (plain : options.format? = none) {candidate : String} {verdict : Verdict}
    (judged : Verdict.of options candidate = .ok verdict) :
    (verdict == .kept) = ((Color.parse? candidate).isSome && !options.leavesOut candidate) := by
  unfold Verdict.of at judged
  unfold Options.leavesOut
  cases parsed : Color.parse? candidate with
  | none =>
    rw [parsed] at judged
    cases judged
    rfl
  | some color =>
    rw [parsed] at judged
    exact kept_iff_of_ofColor plain judged

/-- The candidates that are kept are the colors that no filter takes out. -/
theorem kept_eq_filter (plain : options.format? = none) {candidates found : List String}
    (done : kept options candidates = .ok found) :
    found = candidates.filter fun candidate =>
      (Color.parse? candidate).isSome && !options.leavesOut candidate := by
  unfold kept at done
  obtain ⟨judged, inner, done⟩ := exists_of_bind_eq_ok done
  rw [← Except.ok.inj done]
  have verdicts := map_of_mapM (g := fun entry : String × Verdict => (entry.1, entry.2 == .kept))
    (h := fun candidate => (candidate,
      (Color.parse? candidate).isSome && !options.leavesOut candidate))
    (fun candidate entry computed => by
      cases outcome : Verdict.of options candidate with
      | error fault =>
        rw [outcome] at computed
        cases computed
      | ok verdict =>
        rw [outcome] at computed
        rw [← Except.ok.inj computed, kept_iff_of_of plain outcome]) inner
  have split : (judged.filter (·.2 == .kept)).map (·.1) =
      ((judged.map fun entry => (entry.1, entry.2 == .kept)).filter (·.2)).map (·.1) := by
    rw [List.filter_map, List.map_map]
    rfl
  rw [split, verdicts, List.filter_map, List.map_map]
  exact List.map_id _

end Literal

/-! ## More filters -/

section More

variable {options : Options} {grey monochrome grey' monochrome' : Bool}

/-- The filters of the second options take out whatever those of the first ones do. -/
def Options.Stricter (strict loose : Options) : Prop :=
  ∀ literal, loose.leavesOut literal = true → strict.leavesOut literal = true

/-- With more filters the candidates that are kept are those of them that pass. -/
theorem kept_stricter {strict loose : Options} (plain : strict.format? = none)
    (plain' : loose.format? = none) (stricter : strict.Stricter loose)
    {candidates fewer more : List String} (done : kept loose candidates = .ok more)
    (done' : kept strict candidates = .ok fewer) :
    fewer = more.filter (!strict.leavesOut ·) := by
  rw [kept_eq_filter plain' done, kept_eq_filter plain done', List.filter_filter]
  refine List.filter_congr fun candidate _ => ?_
  cases passes : strict.leavesOut candidate with
  | true => simp
  | false =>
    have looser : loose.leavesOut candidate = false := by
      rw [Bool.eq_false_iff]
      intro left
      rw [stricter candidate left] at passes
      cases passes
    simp [looser]

theorem literals_stricter {strict loose : Options} (plain : strict.format? = none)
    (plain' : loose.format? = none) (stricter : strict.Stricter loose) {value : String}
    {scope : Option Css.Variables} {fewer more : List String}
    (done : literals loose value scope = .ok more)
    (done' : literals strict value scope = .ok fewer) :
    fewer = more.filter (!strict.leavesOut ·) := by
  unfold literals at done done'
  obtain ⟨cut, read, done⟩ := exists_of_bind_eq_ok done
  obtain ⟨cut', read', done'⟩ := exists_of_bind_eq_ok done'
  rw [read] at read'
  cases read'
  exact kept_stricter plain plain' stricter done done'

theorem declarationLiterals_stricter {strict loose : Options} (plain : strict.format? = none)
    (plain' : loose.format? = none) (stricter : strict.Stricter loose)
    {known : Option Css.SelectorVariables} {declaration : Css.Declaration}
    {fewer more : List String} (done : declarationLiterals loose known declaration = .ok more)
    (done' : declarationLiterals strict known declaration = .ok fewer) :
    fewer = more.filter (!strict.leavesOut ·) := by
  unfold declarationLiterals at done done'
  split at done
  next allowed =>
    rw [if_pos allowed] at done'
    exact literals_stricter plain plain' stricter done done'
  next other =>
    rw [if_neg other] at done'
    rw [← Except.ok.inj done, ← Except.ok.inj done']
    rfl

/-- With more filters the literals of declarations are those of them that pass. -/
theorem declarationsLiterals_stricter {strict loose : Options} (plain : strict.format? = none)
    (plain' : loose.format? = none) (stricter : strict.Stricter loose)
    {known : Option Css.SelectorVariables} {declarations : List Css.Declaration}
    {fewer more : List String} (done : declarationsLiterals loose known declarations = .ok more)
    (done' : declarationsLiterals strict known declarations = .ok fewer) :
    fewer = more.filter (!strict.leavesOut ·) := by
  unfold declarationsLiterals at done done'
  obtain ⟨parts, inner, done⟩ := exists_of_bind_eq_ok done
  obtain ⟨parts', inner', done'⟩ := exists_of_bind_eq_ok done'
  have same := mapM_eq_map (fun _ _ _ first second =>
    declarationLiterals_stricter plain plain' stricter first second) inner inner'
  rw [← Except.ok.inj done, ← Except.ok.inj done', same, List.filter_flatten]

/-- Without a format the literals are arranged as they are. -/
theorem Palette.arrange_plain (plain : options.format? = none) (literals : List String) :
    Palette.arrange options literals = Palette.finish options literals := by
  have formatted : literals.mapM (Palette.format options) = .ok literals := by
    induction literals with
    | nil => rfl
    | cons literal literals ih =>
      rw [List.mapM_cons, ih, Palette.format, plain]
      rfl
  rw [Palette.arrange_eq_format_finish, formatted]
  rfl

/-- With more filters the list given out is what is left of the one given out with fewer. -/
theorem ofStylesheet_stricter (plain : options.format? = none) {text : String}
    (stricter : (options.withFilters grey' monochrome').Stricter
      (options.withFilters grey monochrome))
    {fewer more : List String}
    (done : Extraction.ofStylesheet (options.withFilters grey monochrome) text = .ok more)
    (done' : Extraction.ofStylesheet (options.withFilters grey' monochrome') text = .ok fewer) :
    fewer = more.filter (!(options.withFilters grey' monochrome').leavesOut ·) := by
  have loose : (options.withFilters grey monochrome).format? = none := plain
  have strict : (options.withFilters grey' monochrome').format? = none := plain
  unfold Extraction.ofStylesheet at done done'
  obtain ⟨declarations, read, done⟩ := exists_of_bind_eq_ok done
  obtain ⟨declarations', read', done'⟩ := exists_of_bind_eq_ok done'
  rw [read] at read'
  cases read'
  obtain ⟨literals, found, done⟩ := exists_of_bind_eq_ok done
  obtain ⟨literals', found', done'⟩ := exists_of_bind_eq_ok done'
  rw [Palette.arrange_plain loose] at done
  rw [Palette.arrange_plain strict,
    declarationsLiterals_stricter strict loose stricter found found'] at done'
  exact Palette.finish_filter _ done done'

end More

/-! ## The filters compared -/

section Compared

variable {options : Options} {color : Color}

/-- A grey is monochrome. -/
theorem isMonochrome_of_isGrey (grey : color.isGrey = .ok true) :
    color.isMonochrome = .ok true := by
  obtain ⟨rgb, -, grey⟩ := exists_of_bind_eq_ok grey
  obtain ⟨monochrome, own, grey⟩ := exists_of_bind_eq_ok grey
  have all : (monochrome && decide (0 < rgb.red) && decide (rgb.red < 255)) = true :=
    Except.ok.inj grey
  rw [Bool.and_eq_true, Bool.and_eq_true] at all
  rw [own, all.1.1]

theorem isGrey_of_not_isMonochrome (ranged : color.Ranged)
    (other : color.isMonochrome = .ok false) : color.isGrey = .ok false := by
  obtain ⟨rgb, own, -⟩ := Color.rgb_of_ranged ranged
  rw [Color.isGrey, own, ok_bind, other, ok_bind]
  rfl

theorem leavesOut_iff {literal : String} {color : Color}
    (read : Color.parse? literal = some color) :
    options.leavesOut literal = true ↔
      (options.withoutMonochrome = true ∧ color.isMonochrome = .ok true) ∨
        (options.withoutGrey = true ∧ color.isGrey = .ok true) := by
  have decided (test : Except Binary64.Fault Bool) :
      (test.toOption == some true) = true ↔ test = .ok true := by
    rw [beq_iff_eq]
    constructor
    · exact eq_ok_of_toOption
    · rintro rfl
      rfl
  rw [Options.leavesOut, read]
  simp only [Bool.or_eq_true, Bool.and_eq_true, decided]

theorem exists_of_leavesOut {literal : String} (out : options.leavesOut literal = true) :
    ∃ color, Color.parse? literal = some color := by
  cases read : Color.parse? literal with
  | none =>
    rw [Options.leavesOut, read] at out
    cases out
  | some color => exact ⟨color, rfl⟩

/-- To turn filters on is stricter. -/
theorem stricter_of_imp {grey monochrome grey' monochrome' : Bool} (first : grey → grey')
    (second : monochrome → monochrome') :
    (options.withFilters grey' monochrome').Stricter (options.withFilters grey monochrome) := by
  intro literal out
  obtain ⟨color, read⟩ := exists_of_leavesOut out
  rw [leavesOut_iff read] at out ⊢
  exact out.imp (.imp_left second) (.imp_left first)

/-- The filter of monochrome colors is stricter than that of greys. -/
theorem stricter_monochrome :
    (options.withFilters false true).Stricter (options.withFilters true false) := by
  intro literal out
  obtain ⟨color, read⟩ := exists_of_leavesOut out
  rw [leavesOut_iff read] at out ⊢
  rcases out with ⟨other, -⟩ | ⟨-, grey⟩
  · cases other
  · exact .inl ⟨rfl, isMonochrome_of_isGrey grey⟩

/-- Behind the filter of monochrome colors that of greys changes no verdict. -/
theorem verdict_both :
    Verdict.of (options.withFilters true true) = Verdict.of (options.withFilters false true) := by
  funext candidate
  unfold Verdict.of
  cases read : Color.parse? candidate with
  | none => rfl
  | some color =>
    dsimp only
    have ranged := Color.ranged_of_parse (eq_ok_of_toOption read)
    have both : Verdict.fails true color.isMonochrome = color.isMonochrome := rfl
    unfold Verdict.ofColor Options.withFilters
    dsimp only
    rw [both]
    cases monochrome : color.isMonochrome with
    | error fault => rfl
    | ok result =>
      cases result with
      | true => rfl
      | false =>
        have grey : Verdict.fails true color.isGrey = .ok false :=
          isGrey_of_not_isMonochrome ranged monochrome
        rw [ok_bind, ok_bind, grey]
        rfl

theorem ofStylesheet_both (text : String) :
    Extraction.ofStylesheet (options.withFilters true true) text =
      Extraction.ofStylesheet (options.withFilters false true) text := by
  have same (value : String) (scope : Option Css.Variables) :
      literals (options.withFilters true true) value scope =
        literals (options.withFilters false true) value scope := by
    unfold literals kept
    rw [verdict_both]
  have each (known : Option Css.SelectorVariables) :
      declarationLiterals (options.withFilters true true) known =
        declarationLiterals (options.withFilters false true) known := by
    funext declaration
    unfold declarationLiterals
    rw [same]
  unfold Extraction.ofStylesheet declarationsLiterals
  rw [funext each]
  rfl

/-- Without a format the filters may as well come last. The list with filters is the one without
them, less the literals that a filter takes out; with more filters turned on, what is left is in the
same order; of the two filters that of monochrome colors leaves a part of what the other one leaves;
and behind it the other one changes nothing. -/
theorem filters_commute (plain : options.format? = none) (text : String) :
    (∀ all found, Extraction.ofStylesheet (options.withFilters false false) text = .ok all →
      Extraction.ofStylesheet options text = .ok found →
        found = all.filter (!options.leavesOut ·)) ∧
    (∀ grey monochrome grey' monochrome' : Bool, ∀ more fewer,
      (grey → grey') → (monochrome → monochrome') →
      Extraction.ofStylesheet (options.withFilters grey monochrome) text = .ok more →
        Extraction.ofStylesheet (options.withFilters grey' monochrome') text = .ok fewer →
          fewer.Sublist more) ∧
    (∀ more fewer, Extraction.ofStylesheet (options.withFilters true false) text = .ok more →
      Extraction.ofStylesheet (options.withFilters false true) text = .ok fewer →
        fewer.Sublist more) ∧
    Extraction.ofStylesheet (options.withFilters true true) text =
      Extraction.ofStylesheet (options.withFilters false true) text := by
  refine ⟨fun all found done done' => ?_, fun _ _ _ _ more fewer first second done done' => ?_,
    fun more fewer done done' => ?_, ofStylesheet_both text⟩
  · have stricter : options.Stricter (options.withFilters false false) :=
      stricter_of_imp (fun off => by cases off) (fun off => by cases off)
    exact ofStylesheet_stricter plain stricter done done'
  · rw [ofStylesheet_stricter plain (stricter_of_imp first second) done done']
    exact List.filter_sublist
  · rw [ofStylesheet_stricter plain stricter_monochrome done done']
    exact List.filter_sublist

/-- Of blue and a grey, blue is left without the greys. -/
theorem filters_commute_gray :
    Extraction.ofStylesheet { withoutGrey := true } "a{color:#00f;color:#888}" =
        .ok ["#00f"] ∧
      ["#00f"] = ["#00f", "#888"].filter fun literal =>
        !Options.leavesOut { withoutGrey := true } literal := by
  have found : Extraction.ofStylesheet { withoutGrey := true }
      "a{color:#00f;color:#888}" = .ok ["#00f"] :=
    eq_ok_of_toOption (by decide +kernel)
  have all : Extraction.ofStylesheet {} "a{color:#00f;color:#888}" =
      .ok ["#00f", "#888"] :=
    eq_ok_of_toOption (by decide +kernel)
  exact ⟨found, (filters_commute rfl _).1 _ _ all found⟩

end Compared

end Swatch
