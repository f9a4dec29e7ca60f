import Swatch.Proofs.Css.Document
import Swatch.Proofs.Outcome
import Swatch.Proofs.Text.Trimming

/-!
# Declarations of a document

What is found in a document is what its tree says. An item of a document ends where its text ends,
so the findings of a list are those of its items, one item after the other; with that the four ways
to read an item are four statements about runs of components (`findings_run_semicolon`,
`findings_run_end`, `findings_run_block`, `findings_atRule`).

The main statement is `Stylesheet.declarations_text`: the text of a document gives its declarations,
each with the selector of the innermost rule around it that does not group. Only a run that dangles
where rules are expected has no declarations to give (`Stylesheet.toOption_declarations_text`).
-/

namespace Swatch.Css

/-! ## Runs of components -/

/-- A component that neither ends a run nor opens a block. -/
def Component.isCalm (component : Component Unit) : Bool :=
  !component.isBlock && !component.isDelim ";"

/-- A block with its content. -/
def blockOf (content : List (Component Unit)) : Component Unit :=
  .group () (.bracket .curly) content

theorem findings_go {scope : Scope} {begun next : Begun Unit} {component : Component Unit}
    {found : List (Finding Unit)} (step : Step.of scope begun component = .go next found)
    (rest : List (Component Unit)) :
    findings scope begun (component :: rest) = found ++ findings scope next rest := by
  rw [findings, step]

theorem findings_enter {scope inner : Scope} {begun : Begun Unit}
    {content : List (Component Unit)} (step : Step.of scope begun (blockOf content) = .enter inner)
    (rest : List (Component Unit)) :
    findings scope begun (blockOf content :: rest) =
      findings inner .nothing content ++ findings scope .nothing rest := by
  rw [findings, step]
  simp only [blockOf, Component.findings]

theorem findings_space (scope : Scope) (rest : List (Component Unit)) :
    findings scope .nothing (spaceLeaf :: rest) = findings scope .nothing rest := by
  have step : Step.of scope .nothing spaceLeaf = .go .nothing [] := by
    simp [Step.of, Step.atStart, Scope.skips, spaceLeaf, Component.isWhitespace, Component.token?,
      Token.isWhitespace]
  exact findings_go step rest

/-- A name begins a run. -/
theorem findings_name (scope : Scope) (name : Identifier) (rest : List (Component Unit)) :
    findings scope .nothing (nameLeaf name :: rest) =
      findings scope (.run (nameLeaf name) []) rest := by
  have step : Step.of scope .nothing (nameLeaf name) = .go (.run (nameLeaf name) []) [] := by
    cases scope <;> rfl
  exact findings_go step rest

/-- A run goes on up to its end. -/
theorem findings_run (scope : Scope) (run : List (Component Unit)) (calm : run.all (·.isCalm))
    (last : Component Unit) (before rest : List (Component Unit)) :
    ∃ last' before', last' :: before' = run.reverse ++ last :: before ∧
      findings scope (.run last before) (run ++ rest) =
        findings scope (.run last' before') rest := by
  induction run generalizing last before with
  | nil => exact ⟨last, before, rfl, rfl⟩
  | cons component run ih =>
    rw [List.all_cons, Bool.and_eq_true] at calm
    obtain ⟨last', before', whole, found⟩ := ih calm.2 component (last :: before)
    have step : Step.of scope (.run last before) component =
        .go (.run component (last :: before)) [] := by
      have own := calm.1
      simp only [Component.isCalm, Bool.and_eq_true, Bool.not_eq_true'] at own
      have goes : scope.endsRun component = false := by
        cases scope
        · rfl
        · rfl
        · exact own.2
      simp [Step.of, Step.inRun, own.1, goes]
    refine ⟨last', before', ?_, ?_⟩
    · rw [whole, List.reverse_cons, List.append_assoc, List.singleton_append]
    · rw [List.cons_append, findings_go step, List.nil_append, found]

theorem findings_atRule_run (scope : Scope) (keyword : String) (run : List (Component Unit))
    (calm : run.all (·.isCalm)) (before rest : List (Component Unit)) :
    findings scope (.atRule keyword before) (run ++ rest) =
      findings scope (.atRule keyword (run.reverse ++ before)) rest := by
  induction run generalizing before with
  | nil => rfl
  | cons component run ih =>
    rw [List.all_cons, Bool.and_eq_true] at calm
    have step : Step.of scope (.atRule keyword before) component =
        .go (.atRule keyword (component :: before)) [] := by
      have own := calm.1
      simp only [Component.isCalm, Bool.and_eq_true, Bool.not_eq_true'] at own
      simp [Step.of, Step.inAtRule, own]
    rw [List.cons_append, findings_go step, List.nil_append, ih calm.2, List.reverse_cons,
      List.append_assoc, List.singleton_append]

section Runs

variable (name : Identifier) {run : List (Component Unit)} (calm : run.all (·.isCalm))
include calm

/-- A run in a block that a semicolon ends. -/
theorem findings_run_semicolon (selector : String) (rest : List (Component Unit)) :
    findings (.block selector) .nothing (nameLeaf name :: (run ++ signLeaf ";" :: rest)) =
      Finding.ofRun (.block selector) (nameLeaf name :: run) () .semicolon ::
        findings (.block selector) .nothing rest := by
  obtain ⟨last, before, whole, found⟩ :=
    findings_run (.block selector) run calm (nameLeaf name) [] (signLeaf ";" :: rest)
  have step : Step.of (.block selector) (.run last before) (signLeaf ";") =
      .go .nothing [.ofRun (.block selector) (last :: before).reverse () .semicolon] := rfl
  rw [findings_name, found, findings_go step, whole]
  simp

/-- A run that the end of the content ends. -/
theorem findings_run_end (scope : Scope) :
    findings scope .nothing (nameLeaf name :: run) =
      [Finding.ofRun scope (nameLeaf name :: run) () .text] := by
  obtain ⟨last, before, whole, found⟩ := findings_run scope run calm (nameLeaf name) [] []
  rw [List.append_nil] at found
  rw [findings_name, found, findings, Finding.ofEnd, whole]
  simp

/-- A run with a block that is no declaration is a rule. -/
theorem findings_run_block (scope : Scope) (content rest : List (Component Unit))
    (undeclared : scope.declaration? (nameLeaf name :: (run ++ [blockOf content])) = none) :
    findings scope .nothing (nameLeaf name :: (run ++ blockOf content :: rest)) =
      findings (.block (writeTrimmed (nameLeaf name :: run))) .nothing content ++
        findings scope .nothing rest := by
  obtain ⟨last, before, whole, found⟩ :=
    findings_run scope run calm (nameLeaf name) [] (blockOf content :: rest)
  have step : Step.of scope (.run last before) (blockOf content) =
      .enter (.block (writeTrimmed (nameLeaf name :: run))) := by
    have reversed : (blockOf content :: last :: before).reverse =
        nameLeaf name :: (run ++ [blockOf content]) := by
      rw [whole]
      simp
    have selector : (last :: before).reverse = nameLeaf name :: run := by
      rw [whole]
      simp
    have block : (blockOf content).isBlock = true := rfl
    rw [Step.of, Step.inRun, if_pos block, reversed, undeclared, selector]
  rw [findings_name, found, findings_enter step]

/-- A rule that starts with an at sign. -/
theorem findings_atRule (scope : Scope) (keyword : String)
    (content rest : List (Component Unit)) :
    findings scope .nothing
        (.leaf () (.atKeyword keyword) :: (run ++ blockOf content :: rest)) =
      findings (scope.ofAtRule keyword run) .nothing content ++
        findings scope .nothing rest := by
  have start : Step.of scope .nothing (.leaf () (.atKeyword keyword)) =
      .go (.atRule keyword []) [] := by
    cases scope <;> rfl
  have step : Step.of scope (.atRule keyword run.reverse) (blockOf content) =
      .enter (scope.ofAtRule keyword run) := by
    have block : (blockOf content).isBlock = true := rfl
    rw [Step.of, Step.inAtRule, if_pos block, List.reverse_reverse]
  rw [findings_go start, List.nil_append, findings_atRule_run scope keyword run calm,
    List.append_nil, findings_enter step]

end Runs

/-! ## Runs as text -/

/-- A space is written next to anything but a backslash. -/
theorem gap_spaceLeaf {before : Option Kind} (plain : before ≠ some (.delim "\\")) :
    Component.gap before spaceLeaf = [] := by
  cases before with
  | none => rfl
  | some kind =>
    have free : spaceLeaf.kind ∉ kind.clashing := other_not_mem_clashing kind
    have other : kind ≠ .delim "\\" := fun same => plain (by rw [same])
    simp [Component.gap, free, other]

/-- What is written after a name with a space before it. -/
theorem writeFrom_name (name : Identifier) (before : Option Kind) (rest : List (Component Unit))
    (free : Component.gap before (nameLeaf name) = []) :
    Component.writeFrom before (nameLeaf name :: rest) =
      name.name.toList ++ Component.writeFrom (some .ident) rest := by
  have text : Component.write (nameLeaf name) = name.name.toList := by
    rw [nameLeaf, Component.write]
    exact name.writeIdent_name
  rw [Component.writeFrom, free, text, List.nil_append]
  rfl

theorem writeFrom_space {before : Option Kind} (plain : before ≠ some (.delim "\\"))
    (rest : List (Component Unit)) :
    Component.writeFrom before (spaceLeaf :: rest) =
      ' ' :: Component.writeFrom (some .other) rest := by
  have text : Component.write spaceLeaf = [' '] := by
    rw [spaceLeaf, Component.write]
    rfl
  rw [Component.writeFrom, gap_spaceLeaf plain, text]
  rfl

/-- Names with a space before each are written as they are read. -/
theorem writeFrom_spacedLeaves (names : List Identifier) (before : Option Kind)
    (plain : before ≠ some (.delim "\\")) (rest : List (Component Unit)) :
    ∃ after, after ≠ some (.delim "\\") ∧
      Component.writeFrom before (spacedLeaves names ++ rest) =
        (spaced names).toList ++ Component.writeFrom after rest := by
  induction names generalizing before with
  | nil => exact ⟨before, plain, by simp [spaced_nil, spacedLeaves]⟩
  | cons name names ih =>
    obtain ⟨after, free, written⟩ := ih (some .ident) (by simp)
    have more : spacedLeaves (name :: names) ++ rest =
        spaceLeaf :: nameLeaf name :: (spacedLeaves names ++ rest) := rfl
    refine ⟨after, free, ?_⟩
    rw [more, writeFrom_space plain, writeFrom_name name _ _ rfl, written, spaced_cons]
    simp

theorem writeFrom_spaces {before : Option Kind} (plain : before ≠ some (.delim "\\")) :
    Component.writeFrom before [spaceLeaf] = [' '] := by
  rw [writeFrom_space plain, Component.writeFrom]

/-! ## Trimmed runs -/

theorem isBlank_of_plain {c : Char} (name : isNameChar c) (ascii : c.toNat < 0x80) :
    Text.isBlank c = false := by
  rw [isNameChar_iff] at name
  simp only [Text.isBlank, Bool.or_eq_false_iff, Bool.and_eq_false_iff, decide_eq_false_iff_not,
    beq_eq_false_iff_ne]
  omega

theorem Identifier.solid (name : Identifier) : Text.Solid name.name.toList := by
  have plain := name.plain
  simp only [List.all_eq_true, Bool.and_eq_true, decide_eq_true_eq] at plain
  have free (c : Char) (member : c ∈ name.name.toList) : Text.isBlank c = false :=
    isBlank_of_plain (plain c member).1 (plain c member).2
  constructor
  · cases first : name.name.toList.head? with
    | none => rfl
    | some c => exact free c (List.mem_of_mem_head? first)
  · cases last : name.name.toList.getLast? with
    | none => rfl
    | some c => exact free c (List.mem_of_getLast? last)

theorem last_spaced (names : List Identifier) :
    (spaced names).toList.getLast?.any Text.isBlank = false := by
  induction names with
  | nil => simp [spaced_nil]
  | cons name names ih =>
    have own := name.solid.last
    rw [spaced_cons, List.getLast?_cons, List.getLast?_append]
    cases rest : (spaced names).toList.getLast? with
    | some c => simpa [rest] using ih
    | none =>
      cases last : name.name.toList.getLast? with
      | some c => simpa [last] using own
      | none => exact (name.name_ne_nil (List.getLast?_eq_none_iff.mp last)).elim

/-- Names behind a text, with a space before each, leave no blank at its ends. -/
theorem solid_spaced {front : List Char} (own : Text.Solid front) (nonempty : front ≠ [])
    (names : List Identifier) : Text.Solid (front ++ (spaced names).toList) := by
  constructor
  · have head := own.head
    cases spelled : front with
    | nil => exact (nonempty spelled).elim
    | cons c cs => simpa [spelled] using head
  · have last := last_spaced names
    rw [List.getLast?_append]
    cases rest : (spaced names).toList.getLast? with
    | some c => simpa [rest] using last
    | none => simpa using own.last

/-- Names with spaces between them neither start nor end with a blank. -/
theorem solid_phrase (first : Identifier) (more : List Identifier) :
    Text.Solid (first.name ++ spaced more).toList := by
  rw [String.toList_append]
  exact solid_spaced first.solid first.name_ne_nil more

/-- A value is written as its names with spaces between them. -/
theorem writeTrimmed_value (first : Identifier) (more : List Identifier) :
    writeTrimmed (spacedLeaves (first :: more)) = first.name ++ spaced more := by
  obtain ⟨after, -, written⟩ := writeFrom_spacedLeaves (first :: more) none (by simp) []
  have text : Component.writeFrom none (spacedLeaves (first :: more)) =
      [' '] ++ ((first.name ++ spaced more).toList ++ []) := by
    rw [List.append_nil] at written
    rw [written, Component.writeFrom, spaced_cons]
    simp
  rw [writeTrimmed, writeComponents, Text.trimmed, String.toList_ofList, text,
    Text.trim_parts rfl rfl (solid_phrase first more), String.ofList_toList]

theorem writeTrimmed_prelude (first : Identifier) (more : List Identifier) :
    writeTrimmed (spacedLeaves (first :: more) ++ [spaceLeaf]) = first.name ++ spaced more := by
  obtain ⟨after, plain, written⟩ := writeFrom_spacedLeaves (first :: more) none (by simp)
    [spaceLeaf]
  have text : Component.writeFrom none (spacedLeaves (first :: more) ++ [spaceLeaf]) =
      [' '] ++ ((first.name ++ spaced more).toList ++ [' ']) := by
    rw [written, writeFrom_spaces plain, spaced_cons]
    simp
  rw [writeTrimmed, writeComponents, Text.trimmed, String.toList_ofList, text,
    Text.trim_parts rfl rfl (solid_phrase first more), String.ofList_toList]

theorem phrase_ne_nil (first : Identifier) (more : List Identifier) :
    (first.name ++ spaced more).toList ≠ [] := by
  rw [String.toList_append]
  exact fun empty => first.name_ne_nil (List.append_eq_nil_iff.mp empty).1

theorem solid_at : Text.Solid ['@'] :=
  ⟨rfl, rfl⟩

/-- The selector of a rule that starts with an at sign. -/
theorem ofAtRule_eq (scope : Scope) (keyword : Identifier) (prelude : List Identifier)
    (plain : isGrouping keyword = false) :
    scope.ofAtRule keyword.name (spacedLeaves prelude ++ [spaceLeaf]) =
      .block ("@" ++ keyword.name ++ spaced prelude) := by
  unfold Scope.ofAtRule
  rw [if_neg (by simpa [isGrouping] using plain), Text.trimmed]
  cases prelude with
  | nil =>
    have only : writeTrimmed (spacedLeaves [] ++ [spaceLeaf]) = "" := rfl
    have text : ("@" ++ keyword.name ++ " " ++ "").toList =
        [] ++ (['@'] ++ ([] ++ keyword.name.toList) ++ [' ']) := by simp
    have solid := solid_at.join keyword.solid (by simp) keyword.name_ne_nil []
    rw [only, text, Text.trim_parts rfl rfl solid]
    simp [spaced]
  | cons first more =>
    have text : ("@" ++ keyword.name ++ " " ++ (first.name ++ spaced more)).toList =
        ['@'] ++ ((keyword.name.toList ++ [' ']) ++ (first.name ++ spaced more).toList) := by simp
    have solid := solid_at.join (solid_phrase first more) (by simp) (phrase_ne_nil first more)
      (keyword.name.toList ++ [' '])
    rw [writeTrimmed_prelude, text, Text.trim_solid solid, ← text, String.ofList_toList]
    simp [spaced, String.append_assoc]

/-- The selector of a style rule is written as it is read. -/
theorem writeTrimmed_selector (selector : Selector) :
    writeTrimmed (selector.components ++ [spaceLeaf]) = selector.text := by
  have text : Component.writeFrom none (selector.components ++ [spaceLeaf]) =
      [] ++ (selector.text.toList ++ [' ']) ∧ Text.Solid selector.text.toList := by
    obtain ⟨element, state, descendants⟩ := selector
    obtain ⟨after, plain, behind⟩ := writeFrom_spacedLeaves (descendants.map Word.identifier)
      (some .ident) (by simp) [spaceLeaf]
    rw [writeFrom_spaces plain] at behind
    cases state with
    | none =>
      refine ⟨?_, ?_⟩
      · have written := writeFrom_name element.identifier none
          (spacedLeaves (descendants.map Word.identifier) ++ [spaceLeaf]) rfl
        rw [behind] at written
        rw [List.nil_append, text_selector]
        exact written
      · rw [Selector.text, String.toList_append]
        exact solid_spaced element.identifier.solid element.identifier.name_ne_nil _
    | some state =>
      refine ⟨?_, ?_⟩
      · have colon : Component.writeFrom (some .ident) (signLeaf ":" ::
            nameLeaf state.identifier ::
              (spacedLeaves (descendants.map Word.identifier) ++ [spaceLeaf])) =
            ':' :: (state.identifier.name.toList ++
              ((spaced (descendants.map Word.identifier)).toList ++ [' '])) := by
          rw [Component.writeFrom, writeFrom_name state.identifier _ _ rfl, behind, signLeaf,
            Component.write]
          rfl
        have written := writeFrom_name element.identifier none (signLeaf ":" ::
          nameLeaf state.identifier ::
            (spacedLeaves (descendants.map Word.identifier) ++ [spaceLeaf])) rfl
        rw [colon] at written
        rw [List.nil_append, text_selector_state]
        exact written
      · have solid := element.identifier.solid.join state.identifier.solid
          element.identifier.name_ne_nil state.identifier.name_ne_nil [':']
        have front : (element.name ++ ":" ++ state.name).toList =
            element.identifier.name.toList ++ ([':'] ++ state.identifier.name.toList) := by
          simp [Word.identifier]
        rw [Selector.text, String.toList_append, front]
        exact solid_spaced solid (by simp [element.identifier.name_ne_nil]) _
  rw [writeTrimmed, writeComponents, Text.trimmed, String.toList_ofList, text.1,
    Text.trim_parts rfl rfl text.2, String.ofList_toList]

/-! ## Runs as declarations -/

/-- A name or a space: nothing that a value does not hold. -/
def isNameOrSpace (component : Component Unit) : Bool :=
  match component.token? with
  | some (.ident _) => true
  | some (.whitespace _) => true
  | _ => false

theorem nameOrSpace_cases {component : Component Unit} (plain : isNameOrSpace component) :
    (∃ name, component = .leaf () (.ident name)) ∨
      ∃ spaces, component = .leaf () (.whitespace spaces) := by
  cases component with
  | group mark opener content => cases plain
  | leaf mark token =>
    cases token with
    | ident name => exact .inl ⟨name, rfl⟩
    | whitespace spaces => exact .inr ⟨spaces, rfl⟩
    | _ => cases plain

theorem isCalm_of_isNameOrSpace {component : Component Unit} (plain : isNameOrSpace component) :
    component.isCalm = true := by
  obtain ⟨name, rfl⟩ | ⟨spaces, rfl⟩ := nameOrSpace_cases plain <;> rfl

theorem all_spacedLeaves (names : List Identifier) :
    (spacedLeaves names).all isNameOrSpace = true := by
  induction names with
  | nil => rfl
  | cons name names ih =>
    have more : spacedLeaves (name :: names) = spaceLeaf :: nameLeaf name :: spacedLeaves names :=
      rfl
    simp [more, ih, isNameOrSpace, spaceLeaf, nameLeaf, Component.token?]

theorem all_isCalm_spacedLeaves (names : List Identifier) :
    (spacedLeaves names).all (·.isCalm) = true := by
  have all := all_spacedLeaves names
  rw [List.all_eq_true] at all ⊢
  exact fun component member => isCalm_of_isNameOrSpace (all component member)

/-- A component that neither mixes a block into a value nor makes it important. -/
def Component.isInert (component : Component Unit) : Bool :=
  !component.isBlock && !component.isDelim "!"

theorem all_isInert_spacedLeaves (names : List Identifier) :
    (spacedLeaves names).all (·.isInert) = true := by
  have all := all_spacedLeaves names
  rw [List.all_eq_true] at all ⊢
  intro component member
  obtain ⟨name, rfl⟩ | ⟨spaces, rfl⟩ := nameOrSpace_cases (all component member) <;> rfl

/-- What is known of a value after more such components. -/
theorem foldl_inert {value : List (Component Unit)} (inert : value.all (·.isInert)) (start : Nat)
    (state : ValueState) (plain : state.importance = .plain) (free : state.mixed = false) :
    ∃ counted : Bool, (state.counted → counted) ∧
      (value.zipIdx start).foldl (fun state (component, index) => state.next component index)
        state = ⟨.plain, counted, false⟩ := by
  induction value generalizing start state with
  | nil =>
    refine ⟨state.counted, id, ?_⟩
    rw [List.zipIdx_nil, List.foldl_nil, ← plain, ← free]
  | cons component value ih =>
    rw [List.all_cons, Bool.and_eq_true] at inert
    have own := inert.1
    simp only [Component.isInert, Bool.and_eq_true, Bool.not_eq_true'] at own
    by_cases space : component.isWhitespace
    · have step : state.next component start = state := by rw [ValueState.next, if_pos space]
      simp only [List.zipIdx_cons, List.foldl_cons, step]
      exact ih inert.2 (start + 1) state plain free
    · have step : state.next component start = ⟨.plain, true, false⟩ := by
        simp [ValueState.next, ValueState.next.count, space, plain, own, free]
      obtain ⟨counted, keeps, after⟩ := ih inert.2 (start + 1) ⟨.plain, true, false⟩ rfl rfl
      simp only [List.zipIdx_cons, List.foldl_cons, step]
      exact ⟨counted, fun _ => keeps rfl, after⟩

/-- A value of such components holds no block and is not important. -/
theorem ofValue_inert {value : List (Component Unit)} (inert : value.all (·.isInert)) :
    (ValueState.ofValue value).importance = .plain ∧ (ValueState.ofValue value).mixed = false := by
  obtain ⟨counted, -, after⟩ := foldl_inert inert 0 {} rfl rfl
  rw [ValueState.ofValue, after]
  exact ⟨rfl, rfl⟩

/-- A block behind a name is mixed into the value. -/
theorem mixed_block (name : Identifier) {between : List (Component Unit)}
    (inert : between.all (·.isInert)) (content : List (Component Unit)) :
    (ValueState.ofValue (nameLeaf name :: (between ++ [blockOf content]))).mixed = true := by
  obtain ⟨counted, keeps, after⟩ := foldl_inert inert 1 ⟨.plain, true, false⟩ rfl rfl
  have known := keeps rfl
  have first : ({} : ValueState).next (nameLeaf name) 0 = ⟨.plain, true, false⟩ := rfl
  have last (index : Nat) : (⟨.plain, true, false⟩ : ValueState).next (blockOf content) index =
      ⟨.plain, true, true⟩ := rfl
  simp only [ValueState.ofValue, List.zipIdx_cons, List.foldl_cons, first, List.zipIdx_append,
    List.foldl_append, Nat.zero_add, after, known, List.zipIdx_nil, List.foldl_nil, last]

/-- A name, a colon and a value are a declaration. -/
theorem declarationOf?_inert (selector : String) (name : Identifier)
    {value : List (Component Unit)} (inert : value.all (·.isInert)) :
    declarationOf? selector (nameLeaf name :: signLeaf ":" :: value) =
      some ⟨name.name, writeTrimmed value, some selector⟩ := by
  obtain ⟨importance, mixed⟩ := ofValue_inert inert
  have colon : (signLeaf ":").isWhitespace = false := rfl
  have delim : (signLeaf ":").isDelim ":" = true := rfl
  rw [nameLeaf, declarationOf?, List.dropWhile_cons, if_neg (by simp [colon])]
  simp only [delim, mixed, ValueState.kept, importance, Bool.not_false, Bool.and_self, if_true]

theorem declarationOf?_value (selector : String) (name first : Identifier)
    (more : List Identifier) :
    declarationOf? selector (nameLeaf name :: signLeaf ":" :: spacedLeaves (first :: more)) =
      some ⟨name.name, first.name ++ spaced more, some selector⟩ := by
  rw [declarationOf?_inert selector name (all_isInert_spacedLeaves (first :: more)),
    writeTrimmed_value]

/-- Words without a colon are no declaration. -/
theorem declarationOf?_words (selector : String) (first : Identifier)
    (others : List (Component Unit)) (plain : others.all isNameOrSpace) :
    declarationOf? selector (nameLeaf first :: others) = none := by
  rw [nameLeaf, declarationOf?]
  cases found : others.dropWhile (·.isWhitespace) with
  | nil => rfl
  | cons colon value =>
    have member : colon ∈ others :=
      (List.dropWhile_suffix _).subset (found ▸ List.mem_cons_self)
    obtain ⟨name, rfl⟩ | ⟨spaces, rfl⟩ :=
      nameOrSpace_cases (List.all_eq_true.mp plain colon member)
    · rfl
    · rfl

/-- A selector with a block behind it is no declaration. -/
theorem declarationOf?_selector (inner : String) (selector : Selector)
    (content : List (Component Unit)) :
    declarationOf? inner (selector.components ++ [spaceLeaf, blockOf content]) = none := by
  obtain ⟨element, state, descendants⟩ := selector
  cases state with
  | none =>
    cases descendants with
    | nil => rfl
    | cons word words => rfl
  | some state =>
    have inert : (spacedLeaves (descendants.map Word.identifier) ++ [spaceLeaf]).all
        (·.isInert) := by
      rw [List.all_append, all_isInert_spacedLeaves]
      rfl
    have mixed := mixed_block state.identifier inert content
    have colon : (signLeaf ":").isWhitespace = false := rfl
    rw [List.append_assoc, List.singleton_append] at mixed
    rw [Selector.components, List.cons_append, List.cons_append, List.cons_append, nameLeaf,
      declarationOf?, List.dropWhile_cons, if_neg (by simp [colon])]
    simp only [mixed, Bool.not_true, Bool.and_false]
    rfl

/-! ## Whole documents -/

theorem toOption_declared_append (first second : List (Finding Unit)) :
    (declared (first ++ second)).toOption =
      (declared first).toOption.bind fun before =>
        (declared second).toOption.map (before ++ ·) := by
  induction first with
  | nil =>
    rw [List.nil_append, declared]
    cases declared second <;> rfl
  | cons finding first ih =>
    cases finding with
    | declared declaration =>
      simp only [List.cons_append, declared, Outcome.toOption_map, ih]
      cases (declared first).toOption with
      | none => rfl
      | some before => cases (declared second).toOption <;> rfl
    | skipped mark ending => simpa only [List.cons_append, declared] using ih
    | broken mark => rfl

/-- What the place of a scope is; declarations there have the selector. -/
def Scope.Fits (selector : Option String) : Scope → Place → Prop
  | .block inner, .block => selector = some inner
  | .sheet, .rules => True
  | .group, .rules => True
  | _, _ => False

/-- The outcome of a part of a document. -/
def outcome (breaks : Bool) (declarations : List Declaration) : Option (List Declaration) :=
  if breaks then none else some declarations

theorem outcome_append (first second : Bool) (before after : List Declaration) :
    ((outcome first before).bind fun before => (outcome second after).map (before ++ ·)) =
      outcome (first || second) (before ++ after) := by
  cases first <;> cases second <;> rfl

/-- The scope in the block of a rule that starts with an at sign is that of the place in it. -/
theorem fits_inside {scope : Scope} {selector : Option String} {place : Place}
    (fits : scope.Fits selector place) (keyword : Identifier) (prelude : List Word) :
    (scope.ofAtRule keyword.name
        (spacedLeaves (prelude.map Word.identifier) ++ [spaceLeaf])).Fits
      (if isGrouping keyword then selector else some (atSelector keyword prelude))
      (place.inside keyword) := by
  by_cases grouping : isGrouping keyword
  · have grouped : groupingNames.contains (Text.asciiLowered keyword.name) = true := grouping
    unfold Scope.ofAtRule
    rw [if_pos grouped, if_pos grouping, Place.inside, if_pos grouping]
    cases scope <;> cases place <;> exact fits
  · rw [ofAtRule_eq scope keyword _ (by simpa using grouping), if_neg grouping, Place.inside,
      if_neg grouping]
    rfl

/-- A selector begins a run, and the space behind it belongs to the run. -/
theorem selector_run (selector : Selector) :
    ∃ run, selector.components ++ [spaceLeaf] = nameLeaf selector.element.identifier :: run ∧
      run.all (·.isCalm) = true := by
  obtain ⟨element, state, descendants⟩ := selector
  have calm : (spacedLeaves (descendants.map Word.identifier) ++ [spaceLeaf]).all (·.isCalm) := by
    rw [List.all_append, all_isCalm_spacedLeaves]
    rfl
  cases state with
  | none => exact ⟨_, rfl, calm⟩
  | some state => exact ⟨_, rfl, calm⟩

theorem findings_declaration (name first : Identifier) (more : List Identifier) (selector : String)
    (rest : List (Component Unit)) :
    findings (.block selector) .nothing ((Item.declaration name first more).components ++ rest) =
      [.declared ⟨name.name, first.name ++ spaced more, some selector⟩] ++
        findings (.block selector) .nothing rest := by
  have calm : (signLeaf ":" :: spacedLeaves (first :: more)).all (·.isCalm) = true := by
    rw [List.all_cons, all_isCalm_spacedLeaves]
    rfl
  have read := findings_run_semicolon name calm selector rest
  rw [Finding.ofRun, declarationOf?_value] at read
  simpa [Item.components] using read

theorem findings_junk (first : Word) (more : List Word) (selector : String)
    (rest : List (Component Unit)) :
    findings (.block selector) .nothing ((Item.junk first more).components ++ rest) =
      [.skipped () .semicolon] ++ findings (.block selector) .nothing rest := by
  have all := all_spacedLeaves (more.map Word.identifier)
  have read := findings_run_semicolon first.identifier
    (all_isCalm_spacedLeaves (more.map Word.identifier)) selector rest
  rw [Finding.ofRun, declarationOf?_words selector first.identifier _ all] at read
  simpa [Item.components] using read

/-- The content of a style rule is read in its own scope, wherever the rule stands. -/
theorem findings_rule {place : Place} (selector : Selector) (content : Content .block)
    (scope : Scope)
    (rest : List (Component Unit)) :
    findings scope .nothing ((@Item.rule place selector content).components ++ rest) =
      findings (.block selector.text) .nothing content.components ++
        findings scope .nothing rest := by
  obtain ⟨run, components, calm⟩ := selector_run selector
  have undeclared : scope.declaration? (nameLeaf selector.element.identifier ::
      (run ++ [blockOf (spaceLeaf :: content.components)])) = none := by
    cases scope with
    | block outer =>
      have rule := declarationOf?_selector outer selector (spaceLeaf :: content.components)
      rwa [List.append_cons, components] at rule
    | _ => rfl
  have read := findings_run_block selector.element.identifier calm scope
    (spaceLeaf :: content.components) rest undeclared
  rw [findings_space, ← components, writeTrimmed_selector] at read
  rw [← read, Item.components, List.append_cons, components]
  simp [blockOf]

theorem findings_atRule_item {place : Place} (keyword : Identifier) (prelude : List Word)
    (content : Content (place.inside keyword)) (scope : Scope) (rest : List (Component Unit)) :
    findings scope .nothing ((Item.atRule keyword prelude content).components ++ rest) =
      findings
          (scope.ofAtRule keyword.name
            (spacedLeaves (prelude.map Word.identifier) ++ [spaceLeaf]))
          .nothing content.components ++
        findings scope .nothing rest := by
  have calm : (spacedLeaves (prelude.map Word.identifier) ++ [spaceLeaf]).all (·.isCalm) := by
    rw [List.all_append, all_isCalm_spacedLeaves]
    rfl
  have read := findings_atRule calm scope keyword.name (spaceLeaf :: content.components) rest
  rw [findings_space] at read
  simpa [Item.components, blockOf] using read

mutual

/-- An item says its declarations, and what follows it is read on its own. -/
theorem declared_item {place : Place} : ∀ (item : Item place) (scope : Scope)
    (selector : Option String), scope.Fits selector place →
    ∃ found, (∀ rest, findings scope .nothing (item.components ++ rest) =
        found ++ findings scope .nothing rest) ∧
      (declared found).toOption = outcome item.breaks (item.declarations selector)
  | .declaration name first more, scope, selector, fits => by
    cases scope with
    | block inner =>
      have fits : selector = some inner := fits
      refine ⟨_, findings_declaration name first more inner, ?_⟩
      rw [fits, Item.breaks, Item.declarations]
      rfl
    | _ => exact fits.elim
  | .junk first more, scope, selector, fits => by
    cases scope with
    | block inner =>
      refine ⟨_, findings_junk first more inner, ?_⟩
      rw [Item.breaks, Item.declarations]
      rfl
    | _ => exact fits.elim
  | .rule inner content, scope, selector, fits => by
    refine ⟨_, findings_rule inner content scope, ?_⟩
    rw [declared_content content (.block inner.text) (some inner.text) rfl, Item.breaks,
      Item.declarations]
  | .atRule keyword prelude content, scope, selector, fits => by
    refine ⟨_, findings_atRule_item keyword prelude content scope, ?_⟩
    rw [declared_content content _ _ (fits_inside fits keyword prelude), Item.breaks,
      Item.declarations]

/-- A list of items says the declarations of its items, one item after the other. -/
theorem declared_content {place : Place} : ∀ (content : Content place) (scope : Scope)
    (selector : Option String), scope.Fits selector place →
    (declared (findings scope .nothing content.components)).toOption =
      outcome content.breaks (content.declarations selector)
  | .done, scope, selector, fits => by
    rw [Content.components, findings, Content.breaks, Content.declarations]
    rfl
  | .dangling first more, scope, selector, fits => by
    have all : (spacedLeaves (more.map Word.identifier) ++ [spaceLeaf]).all isNameOrSpace := by
      rw [List.all_append, all_spacedLeaves]
      rfl
    have calm : (spacedLeaves (more.map Word.identifier) ++ [spaceLeaf]).all (·.isCalm) := by
      rw [List.all_append, all_isCalm_spacedLeaves]
      rfl
    rw [Content.components, findings_run_end first.identifier calm, Content.breaks,
      Content.declarations]
    cases scope with
    | block inner =>
      rw [Finding.ofRun, declarationOf?_words inner first.identifier _ all]
      cases place with
      | rules => exact fits.elim
      | block => rfl
    | sheet =>
      cases place with
      | rules => rfl
      | block => exact fits.elim
    | group =>
      cases place with
      | rules => rfl
      | block => exact fits.elim
  | .item first others, scope, selector, fits => by
    obtain ⟨found, read, own⟩ := declared_item first scope selector fits
    have rest := declared_content others scope selector fits
    rw [Content.components, read, findings_space, toOption_declared_append, own, rest,
      outcome_append, Content.breaks, Content.declarations]

end

namespace Stylesheet

/-- A document has declarations to give unless a run dangles where rules are expected. -/
theorem toOption_declarations_text (document : Document) :
    (declarations document.text).toOption =
      outcome document.breaks (document.declarations none) := by
  obtain ⟨kept, read, free⟩ := components_text document
  rw [toOption_declarations, kept, free, sheetFindings, read]
  exact declared_content document .sheet none trivial

/-- The text of a document gives its declarations, in order, each with the selector of the
innermost rule around it that does not group. -/
theorem declarations_text (document : Document) (whole : document.breaks = false) :
    declarations document.text = .ok (document.declarations none) := by
  apply Outcome.eq_ok_of_toOption
  rw [toOption_declarations_text, whole]
  rfl

/-- A rule inside a rule inside a grouping rule. -/
def nestedRules : Document :=
  .item (.atRule ⟨"media", by decide, by decide⟩ [⟨"print", by decide, by decide⟩]
    (.item (.rule ⟨⟨"a", by decide, by decide⟩, some ⟨"hover", by decide, by decide⟩, []⟩
      (.item (.declaration ⟨"--x", by decide, by decide⟩ ⟨"red", by decide, by decide⟩
          [⟨"blue", by decide, by decide⟩])
        (.item (.rule ⟨⟨"b", by decide, by decide⟩, none, []⟩
          (.item (.declaration ⟨"color", by decide, by decide⟩ ⟨"red", by decide, by decide⟩ [])
            .done)) .done))) .done)) .done

theorem declarations_nestedRules :
    declarations
        "@media print \x7b a:hover \x7b --x: red blue; b \x7b color: red; \x7d \x7d \x7d " =
      .ok [⟨"--x", "red blue", some "a:hover"⟩, ⟨"color", "red", some "b"⟩] :=
  declarations_text nestedRules rfl

end Stylesheet

end Swatch.Css
