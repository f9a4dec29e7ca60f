import Swatch.Proofs.Css.FunctionCalls
import Swatch.Proofs.Extraction.Joined
import Swatch.Proofs.Extraction.KeywordFormat

/-!
# Gradients

A gradient is opened once: the candidates of a gradient around a plain text are the pieces of that
text (`opened_gradient`), cut out of the gradient as it is written and read again. A gradient among
those pieces stays whole and is no color, so it contributes nothing (`literals_gradient`).
-/

namespace Swatch

open Text Css

namespace Css

/-! ## Names -/

/-- The names of the gradients that are opened. -/
def gradientNames : List String :=
  ["", "-webkit-", "-moz-", "-o-"].flatMap fun vendor =>
    ["", "repeating-"].flatMap fun repeated =>
      ["radial", "linear"].map fun shape => vendor ++ repeated ++ shape ++ "-gradient"

theorem gradientOpenings_eq : Value.gradientOpenings = gradientNames.map (· ++ "(") := by
  have opening : "-gradient(" = "-gradient" ++ "(" := by decide
  simp only [Value.gradientOpenings, gradientNames, opening, List.map_flatMap, List.map_map,
    Function.comp_def, String.append_assoc]

theorem opening_mem {name : String} (named : name ∈ gradientNames) :
    name ++ "(" ∈ Value.gradientOpenings := by
  rw [gradientOpenings_eq]
  exact List.mem_map_of_mem named

/-- The names of gradients are those of functions. -/
theorem functionName_gradient {name : String} (named : name ∈ gradientNames) :
    FunctionName name := by
  have known : ∀ letters ∈ gradientLetters, startsName letters.dropLast ∧
      letters.dropLast.all isNameChar ∧ letters.dropLast.all isPlain ∧
      letters.dropLast.map asciiLower ≠ "url".toList := by
    decide
  have own := of_gradientLetters known (opening_mem named)
  have letters : (name ++ "(").toList.dropLast = name.toList := by simp
  rw [letters] at own
  obtain ⟨starts, chars, plain, other⟩ := own
  refine ⟨starts, chars, plain, fun same => other ?_⟩
  rw [← same, asciiLowered, String.toList_ofList]

/-- No gradient opens like another one. -/
theorem eq_of_gradientOpenings {opening other : String} (known : opening ∈ Value.gradientOpenings)
    (known' : other ∈ Value.gradientOpenings) {cs : List Char} (first : opening.toList <+: cs)
    (second : other.toList <+: cs) : opening = other := by
  have apart : ∀ letters ∈ gradientLetters, ∀ others ∈ gradientLetters,
      letters <+: others → letters = others := by
    decide
  have same {opening other : String} (known : opening ∈ Value.gradientOpenings)
      (known' : other ∈ Value.gradientOpenings) (before : opening.toList <+: other.toList) :
      opening = other :=
    String.toList_inj.mp (of_gradientLetters (of_gradientLetters apart known) known' before)
  rcases List.prefix_or_prefix_of_prefix first second with before | before
  · exact same known known' before
  · exact (same known' known before).symm

/-! ## What stands between the brackets -/

theorem toList_opening (name inner : String) :
    (name ++ "(").toList ++ (inner.toList ++ [')']) = (callText name inner).toList := by
  simp [callText]

theorem exists_of_gradientArguments? {item inner : String}
    (found : Value.gradientArguments? item = some inner) :
    ∃ name ∈ gradientNames, item = callText name inner := by
  obtain ⟨opening, known, matched⟩ := List.exists_of_findSome?_eq_some found
  rw [gradientOpenings_eq, List.mem_map] at known
  obtain ⟨name, named, rfl⟩ := known
  split at matched
  next => cases matched
  next rest opens =>
    split at matched
    next last =>
      obtain ⟨body, rfl⟩ := List.getLast?_eq_some_iff.mp last
      rw [List.isPrefixOf?_eq_some_iff_append_eq] at opens
      rw [List.dropLast_concat] at matched
      refine ⟨name, named, ?_⟩
      rw [← String.toList_inj, ← opens, toList_callText, ← Option.some.inj matched,
        String.toList_ofList]
      simp
    next => cases matched

/-- The arguments of a gradient stand between its opening and its last bracket. -/
theorem gradientArguments?_eq_some_iff {item inner : String} :
    Value.gradientArguments? item = some inner ↔
      ∃ name ∈ gradientNames, item = callText name inner := by
  refine ⟨exists_of_gradientArguments?, ?_⟩
  rintro ⟨name, named, rfl⟩
  cases found : Value.gradientArguments? (callText name inner) with
  | none =>
    have unopened := List.findSome?_eq_none_iff.mp found _ (opening_mem named)
    rw [List.isPrefixOf?_eq_some_iff_append_eq.mpr (toList_opening name inner)] at unopened
    simp at unopened
  | some other =>
    obtain ⟨name', named', same⟩ := exists_of_gradientArguments? found
    have first : (name ++ "(").toList <+: (callText name inner).toList :=
      ⟨_, toList_opening name inner⟩
    have second : (name' ++ "(").toList <+: (callText name inner).toList :=
      same ▸ ⟨_, toList_opening name' other⟩
    have one := eq_of_gradientOpenings (opening_mem named) (opening_mem named') first second
    have whole : (name ++ "(").toList ++ (inner.toList ++ [')']) =
        (name ++ "(").toList ++ (other.toList ++ [')']) := by
      rw [toList_opening, same, ← toList_opening, one]
    have inside := List.append_cancel_right (List.append_cancel_left whole)
    rw [String.toList_inj.mp inside]

/-- A gradient is no color. -/
theorem parse?_gradient {item inner : String} (found : Value.gradientArguments? item = some inner) :
    Color.parse? item = none := by
  obtain ⟨name, named, rfl⟩ := exists_of_gradientArguments? found
  cases read : Color.parse? (callText name inner) with
  | none => rfl
  | some color =>
    have denotes := Color.parse?_eq_some_iff.mp read
    rw [trim_solid (solid_callText (functionName_gradient named) inner)] at denotes
    exact (no_gradient denotes (opening_mem named) ⟨_, toList_opening name inner⟩).elim

/-- A gradient refers to no variable. -/
theorem substitute_gradient (scope : Variables) {item inner : String}
    (found : Value.gradientArguments? item = some inner) : scope.substitute item = item := by
  obtain ⟨name, named, rfl⟩ := exists_of_gradientArguments? found
  have heads : ∀ letters ∈ gradientLetters, letters.head?.any (· != 'v') := by decide
  have first := of_gradientLetters heads (opening_mem named)
  have apart : "var(".toList.isPrefixOf? (callText name inner).toList = none := by
    rw [← toList_opening]
    cases letters : (name ++ "(").toList with
    | nil =>
      rw [letters] at first
      cases first
    | cons c cs =>
      rw [letters] at first
      have other : 'v' ≠ c := by
        rintro rfl
        cases first
      simp [List.isPrefixOf?, other]
  have unreferenced : referencedVariable? (callText name inner) = none := by
    rw [referencedVariable?, apart]
    rfl
  rw [Variables.substitute, unreferenced]
  rfl

/-! ## Gradients around plain texts -/

section Opening

variable {name arguments : String} (named : name ∈ gradientNames) (plain : Plain arguments.toList)
  (balanced : Balanced 0 arguments.toList)
include named plain balanced

/-- A gradient is opened to the pieces of its arguments, or has a number of too many digits like
these. -/
theorem opened_gradient :
    Value.items (callText name arguments) >>= Value.openGradients = Value.items arguments := by
  have function := functionName_gradient named
  have back := readsBack_of_plain plain balanced
  rw [items_call function plain balanced]
  cases found : overlong? arguments.toList with
  | some count =>
    rw [Value.items, commaPieces_eq, back.normalized_eq, found]
    rfl
  | none =>
    have opened :
        Value.openGradient (callText name (writeComponents (components arguments.toList))) =
          Value.items arguments := by
      rw [Value.openGradient, gradientArguments?_eq_some_iff.mpr ⟨name, named, rfl⟩]
      exact back.items_written
    rw [Outcome.ok_bind, Value.openGradients, List.mapM_cons, List.mapM_nil, opened]
    cases Value.items arguments with
    | error cause => rfl
    | ok pieces =>
      change Except.ok [pieces].flatten = Except.ok pieces
      rw [List.flatten_singleton]

end Opening

end Css

/-! ## Candidates -/

/-- A piece with a reference to a variable replaced, where variables are given. -/
def substituted (scope : Option Variables) (piece : String) : String :=
  match scope with
  | none => piece
  | some scope => scope.substitute piece

theorem candidates_eq (value : String) (scope : Option Variables) :
    candidates value scope =
      (Value.items value >>= Value.openGradients).map (·.map (substituted scope)) := by
  rw [candidates]
  cases Value.items value with
  | error cause => rfl
  | ok pieces =>
    rw [Outcome.ok_bind, Outcome.ok_bind]
    cases Value.openGradients pieces with
    | error cause => rfl
    | ok opened =>
      cases scope with
      | none => exact congrArg Except.ok (List.map_id opened).symm
      | some scope => rfl

/-- The pieces that become no colors may be left out. -/
theorem kept_filter (options : Options) {p : String → Bool} {f : String → String}
    (others : ∀ piece, p piece = false → Color.parse? (f piece) = none) (pieces : List String) :
    kept options ((pieces.filter p).map f) = kept options (pieces.map f) := by
  induction pieces with
  | nil => rfl
  | cons piece pieces ih =>
    rw [List.map_cons, kept_cons]
    by_cases own : p piece
    · rw [List.filter_cons_of_pos own, List.map_cons, kept_cons, ih]
    · have dropped : Verdict.of options (f piece) = .ok .notAColor := by
        rw [Verdict.of, others piece (by simpa using own)]
      rw [List.filter_cons_of_neg own, dropped, ih]
      cases kept options (pieces.map f) <;> rfl

/-- A piece that is no gradient. -/
def isWhole (piece : String) : Bool :=
  (Value.gradientArguments? piece).isNone

/-- Gradients among the pieces contribute nothing. -/
theorem kept_whole (options : Options) (scope : Option Variables) (pieces : List String) :
    kept options ((pieces.filter isWhole).map (substituted scope)) =
      kept options (pieces.map (substituted scope)) := by
  refine kept_filter options (fun piece opens => ?_) pieces
  obtain ⟨inner, found⟩ : ∃ inner, Value.gradientArguments? piece = some inner := by
    rw [isWhole, Option.isNone_eq_false_iff] at opens
    exact Option.isSome_iff_exists.mp opens
  have same : substituted scope piece = piece := by
    cases scope with
    | none => rfl
    | some scope => exact substitute_gradient scope found
  rw [same, parse?_gradient found]

/-- A gradient around a plain text with balanced brackets is opened once: its colors are those of
the pieces of the text, with their variables replaced, and no piece is opened again. So a gradient
among the pieces contributes nothing; and without one the gradient has the colors of the text. -/
theorem literals_gradient (options : Options) (scope : Option Variables) (name arguments : String)
    (named : name ∈ gradientNames) (chars : arguments.toList.all isPlain)
    (prefixes : ∀ front, front <+: arguments.toList → front.count ')' ≤ front.count '(')
    (whole : arguments.toList.count ')' = arguments.toList.count '(')
    (free : ¬"url(".toList <:+: arguments.toList.map asciiLower) :
    literals options (callText name arguments) scope = (do
      let pieces ← Value.items arguments
      kept options (pieces.map (substituted scope))) ∧
    literals options (callText name arguments) scope = (do
      let pieces ← Value.items arguments
      kept options ((pieces.filter isWhole).map (substituted scope))) ∧
    ((∀ pieces, Value.items arguments = .ok pieces → ∀ piece ∈ pieces, isWhole piece) →
      literals options (callText name arguments) scope = literals options arguments scope) := by
  have plain : Plain arguments.toList := ⟨chars, free⟩
  have balanced : Balanced 0 arguments.toList :=
    balanced_of_prefixes (by simpa using prefixes) (by simpa using whole)
  have opened : literals options (callText name arguments) scope = (do
      let pieces ← Value.items arguments
      kept options (pieces.map (substituted scope))) := by
    rw [literals, candidates_eq, opened_gradient named plain balanced]
    cases Value.items arguments <;> rfl
  refine ⟨opened, ?_, fun alone => ?_⟩
  · simp only [kept_whole]
    exact opened
  · rw [opened, literals, candidates_eq]
    cases found : Value.items arguments with
    | error cause => rfl
    | ok pieces =>
      have still : Value.openGradients pieces = .ok pieces := by
        refine openGradients_of_none fun piece member => ?_
        exact Option.isNone_iff_eq_none.mp (alone pieces found piece member)
      rw [Outcome.ok_bind, Outcome.ok_bind, still]
      rfl

/-- Arguments with a gradient among them. -/
def nestingArguments : String := "RGB(1,2,.5) 1E,linear-gradient(red),var(--a)"

/-- Of these arguments the color and the variable contribute; and a gradient around two colors has
the colors of its arguments. -/
theorem literals_nested :
    literals {} (callText "-webkit-repeating-linear-gradient" nestingArguments)
        (some [("--a", some "#FFF")]) = .ok ["RGB(1,2,.5)", "#FFF"] ∧
      literals {} (callText "radial-gradient" " red 5%, #abc") none =
        literals {} " red 5%, #abc" none := by
  constructor
  · have prefixes : ∀ front ∈ nestingArguments.toList.inits, front.count ')' ≤ front.count '(' := by
      decide
    have opened := literals_gradient {} (some [("--a", some "#FFF")])
      "-webkit-repeating-linear-gradient" nestingArguments (by decide) (by decide)
      (fun front before => prefixes front ((List.mem_inits front _).mpr before)) (by decide)
      (by decide)
    rw [opened.1]
    exact Outcome.eq_ok_of_toOption (by decide +kernel)
  · have prefixes : ∀ front ∈ " red 5%, #abc".toList.inits, front.count ')' ≤ front.count '(' := by
      decide
    have opened := literals_gradient {} none "radial-gradient" " red 5%, #abc" (by decide)
      (by decide) (fun front before => prefixes front ((List.mem_inits front _).mpr before))
      (by decide) (by decide)
    have pieces : Value.items " red 5%, #abc" = .ok ["red", "5%", "#abc"] :=
      Outcome.eq_ok_of_toOption (by decide +kernel)
    refine opened.2.2 fun found cut => ?_
    rw [pieces] at cut
    rw [← Except.ok.inj cut]
    decide

end Swatch
