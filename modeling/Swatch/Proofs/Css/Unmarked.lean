import Swatch.Css.Stylesheet

/-!
# Components without their marks

A component carries a mark that tells where it stands, and no reading or writing looks at it.
Nesting, writing and finding commute with any change of the marks (`Component.nest_remark`,
`Component.writeFrom_remark`, `findings_remark`), so a statement about a text may be proved about
components without marks.
-/

namespace Swatch.Css

variable {α β : Type}

namespace Component

/-! ## Changing marks -/

mutual

/-- The component with every mark replaced. -/
def remark (f : α → β) : Component α → Component β
  | leaf mark token => leaf (f mark) token
  | group mark opener content => group (f mark) opener (remarkAll f content)

/-- The components with every mark replaced. -/
def remarkAll (f : α → β) : List (Component α) → List (Component β)
  | [] => []
  | component :: rest => remark f component :: remarkAll f rest

end

theorem remarkAll_eq_map (f : α → β) (components : List (Component α)) :
    remarkAll f components = components.map (remark f) := by
  induction components with
  | nil => rfl
  | cons component rest ih => rw [remarkAll, ih, List.map_cons]

/-- The component without its marks. -/
def unmarked (component : Component α) : Component Unit :=
  component.remark fun _ => ()

@[simp] theorem remark_leaf (f : α → β) (mark : α) (token : Token) :
    remark f (leaf mark token) = leaf (f mark) token := by
  rw [remark]

@[simp] theorem remark_group (f : α → β) (mark : α) (opener : Opener)
    (content : List (Component α)) :
    remark f (group mark opener content) = group (f mark) opener (content.map (remark f)) := by
  rw [remark, remarkAll_eq_map]

section Views

variable (f : α → β) (component : Component α)

@[simp] theorem mark_remark : (remark f component).mark = f component.mark := by
  cases component <;> simp [mark]

@[simp] theorem token?_remark : (remark f component).token? = component.token? := by
  cases component <;> simp [token?]

@[simp] theorem isWhitespace_remark :
    (remark f component).isWhitespace = component.isWhitespace := by
  rw [isWhitespace, token?_remark, isWhitespace]

@[simp] theorem isDelim_remark (text : String) :
    (remark f component).isDelim text = component.isDelim text := by
  rw [isDelim, token?_remark, isDelim]

@[simp] theorem isImportant_remark : (remark f component).isImportant = component.isImportant := by
  rw [isImportant, token?_remark, isImportant]

@[simp] theorem startsLine_remark : (remark f component).startsLine = component.startsLine := by
  rw [startsLine, token?_remark, startsLine]

@[simp] theorem isBlock_remark : (remark f component).isBlock = component.isBlock := by
  cases component with
  | leaf mark token => simp [isBlock]
  | group mark opener content =>
    cases opener with
    | function name => simp [isBlock]
    | bracket bracket => cases bracket <;> simp [isBlock]

@[simp] theorem kind_remark : (remark f component).kind = component.kind := by
  cases component with
  | leaf mark token => simp [kind]
  | group mark opener content =>
    cases opener with
    | function name => simp [kind]
    | bracket bracket => cases bracket <;> simp [kind]

@[simp] theorem gap_remark (before : Option Kind) :
    gap before (remark f component) = gap before component := by
  simp [gap]

end Views

/-! ## Nesting -/

/-- The open group with every mark replaced. -/
def Unclosed.remark (f : α → β) (unclosed : Unclosed α) : Unclosed β :=
  ⟨f unclosed.mark, unclosed.opener, unclosed.before.map (Component.remark f)⟩

theorem close_remark (f : α → β) (unclosed : Unclosed α) (done : List (Component α)) :
    (unclosed.remark f).close (done.map (remark f)) = (unclosed.close done).map (remark f) := by
  simp [Unclosed.close, Unclosed.remark]

theorem closeAll_remark (f : α → β) (opened : List (Unclosed α)) (done : List (Component α)) :
    closeAll (opened.map (Unclosed.remark f)) (done.map (remark f)) =
      (closeAll opened done).map (remark f) := by
  induction opened generalizing done with
  | nil => simp [closeAll]
  | cons innermost outer ih =>
    have step := ih (innermost.close done)
    simpa only [closeAll, List.map_cons, List.foldl_cons, close_remark] using step

/-- Nesting hands the marks on. -/
theorem nest_remark (f : α → β) (opened : List (Unclosed α)) (done : List (Component α))
    (lexemes : List (α × Lexeme)) :
    nest (opened.map (Unclosed.remark f)) (done.map (remark f))
        (lexemes.map fun found => (f found.1, found.2)) =
      (nest opened done lexemes).map (remark f) := by
  induction lexemes generalizing opened done with
  | nil => simpa only [List.map_nil, nest] using closeAll_remark f opened done
  | cons found rest ih =>
    obtain ⟨mark, lexeme⟩ := found
    cases lexeme with
    | token token =>
      have step := ih opened (leaf mark token :: done)
      simpa only [List.map_cons, nest, remark_leaf] using step
    | opening opener =>
      have step := ih (⟨mark, opener, done⟩ :: opened) []
      simpa only [List.map_cons, List.map_nil, nest, Unclosed.remark] using step
    | comment => simpa only [List.map_cons, nest] using ih opened done
    | closing bracket =>
      cases opened with
      | nil =>
        have step := ih [] (leaf mark (.unmatched bracket) :: done)
        simpa only [List.map_cons, List.map_nil, nest, remark_leaf] using step
      | cons innermost outer =>
        by_cases fits : innermost.opener.brackets = bracket
        · have step := ih outer (innermost.close done)
          have same : (innermost.remark f).opener.brackets = bracket := fits
          simpa only [List.map_cons, nest, fits, same, if_true, close_remark] using step
        · have step := ih (innermost :: outer) (leaf mark (.unmatched bracket) :: done)
          have same : (innermost.remark f).opener.brackets ≠ bracket := fits
          simpa only [List.map_cons, nest, fits, same, if_false, remark_leaf] using step

/-! ## Writing -/

mutual

theorem endsUnclosed_remark (f : α → β) :
    ∀ component : Component α, endsUnclosed (remark f component) = endsUnclosed component
  | leaf mark token => by rw [remark_leaf, endsUnclosed, endsUnclosed]
  | group mark (.bracket bracket) content => by rw [remark_group, endsUnclosed, endsUnclosed]
  | group mark (.function name) content => by
    rw [remark_group, endsUnclosed, endsUnclosed, lastEndsUnclosed_remark f content]

theorem lastEndsUnclosed_remark (f : α → β) : ∀ components : List (Component α),
    lastEndsUnclosed (components.map (remark f)) = lastEndsUnclosed components
  | [] => rfl
  | component :: rest => by
    rw [List.map_cons, lastEndsUnclosed, lastEndsUnclosed, List.isEmpty_map,
      endsUnclosed_remark f component, lastEndsUnclosed_remark f rest]

end

mutual

theorem write_remark (f : α → β) :
    ∀ component : Component α, write (remark f component) = write component
  | leaf mark token => by rw [remark_leaf, write, write]
  | group mark (.bracket bracket) content => by
    rw [remark_group, write, write, writeFrom_remark f content none]
  | group mark (.function name) content => by
    rw [remark_group, write, write, writeFrom_remark f content none,
      lastEndsUnclosed_remark f content]

/-- Writing does not look at the marks. -/
theorem writeFrom_remark (f : α → β) : ∀ (components : List (Component α)) (before : Option Kind),
    writeFrom before (components.map (remark f)) = writeFrom before components
  | [], before => by rw [List.map_nil, writeFrom, writeFrom]
  | component :: rest, before => by
    rw [List.map_cons, writeFrom, writeFrom, gap_remark, kind_remark, write_remark f component,
      writeFrom_remark f rest]

end

end Component

@[simp] theorem writeTrimmed_remark (f : α → β) (components : List (Component α)) :
    writeTrimmed (components.map (Component.remark f)) = writeTrimmed components := by
  rw [writeTrimmed, writeComponents, Component.writeFrom_remark, writeTrimmed, writeComponents]

/-! ## Declarations -/

theorem ValueState.next_remark (f : α → β) (state : ValueState) (component : Component α)
    (index : Nat) : state.next (component.remark f) index = state.next component index := by
  simp [next, next.count]

@[simp] theorem ValueState.ofValue_remark (f : α → β) (value : List (Component α)) :
    ofValue (value.map (Component.remark f)) = ofValue value := by
  simp [ofValue, List.zipIdx_map, List.foldl_map, next_remark]

@[simp] theorem ValueState.kept_remark (f : α → β) (state : ValueState)
    (value : List (Component α)) :
    state.kept (value.map (Component.remark f)) = (state.kept value).map (Component.remark f) := by
  cases found : state.importance <;> simp [kept, found]

theorem dropWhile_isWhitespace_remark (f : α → β) (components : List (Component α)) :
    (components.map (Component.remark f)).dropWhile (·.isWhitespace) =
      (components.dropWhile (·.isWhitespace)).map (Component.remark f) := by
  simp [List.dropWhile_map, Function.comp_def]

@[simp] theorem declarationOf?_remark (f : α → β) (selector : String)
    (run : List (Component α)) :
    declarationOf? selector (run.map (Component.remark f)) = declarationOf? selector run := by
  match run with
  | [] => rfl
  | .group _ _ _ :: _ => rfl
  | .leaf mark token :: rest =>
    cases token with
    | ident name =>
      rw [List.map_cons, Component.remark_leaf, declarationOf?, declarationOf?,
        dropWhile_isWhitespace_remark]
      cases rest.dropWhile (·.isWhitespace) <;> simp
    | _ => rfl

/-! ## Findings -/

/-- The finding with its mark replaced. -/
def Finding.remark (f : α → β) : Finding α → Finding β
  | declared declaration => .declared declaration
  | skipped mark ending => .skipped (f mark) ending
  | broken mark => .broken (f mark)

/-- The item that has begun with every mark replaced. -/
def Begun.remark (f : α → β) : Begun α → Begun β
  | nothing => .nothing
  | atRule keyword before => .atRule keyword (before.map (Component.remark f))
  | run last before => .run (last.remark f) (before.map (Component.remark f))

/-- The step with every mark replaced. -/
def Step.remark (f : α → β) : Step α → Step β
  | go begun found => .go (begun.remark f) (found.map (Finding.remark f))
  | enter scope => .enter scope

section Steps

variable (f : α → β) (scope : Scope) (component last : Component α) (before : List (Component α))

@[simp] theorem Scope.endsRun_remark :
    scope.endsRun (component.remark f) = scope.endsRun component := by
  cases scope <;> simp [endsRun]

@[simp] theorem Scope.skips_remark :
    scope.skips (component.remark f) = scope.skips component := by
  simp [skips]

@[simp] theorem Scope.declaration?_remark (run : List (Component α)) :
    scope.declaration? (run.map (Component.remark f)) = scope.declaration? run := by
  cases scope <;> simp [declaration?]

@[simp] theorem Scope.ofAtRule_remark (keyword : String) (run : List (Component α)) :
    scope.ofAtRule keyword (run.map (Component.remark f)) = scope.ofAtRule keyword run := by
  simp [ofAtRule]

theorem Finding.ofRun_remark (run : List (Component α)) (mark : α) (ending : RunEnd) :
    ofRun scope (run.map (Component.remark f)) (f mark) ending =
      (ofRun scope run mark ending).remark f := by
  cases scope with
  | block selector =>
    rw [ofRun, ofRun, declarationOf?_remark]
    cases declarationOf? selector run <;> rfl
  | _ => rfl

theorem Finding.ofEnd_remark (begun : Begun α) :
    ofEnd scope (begun.remark f) = (ofEnd scope begun).map (Finding.remark f) := by
  cases begun with
  | run last before =>
    have run := ofRun_remark f scope (last :: before).reverse last.mark .text
    simpa [ofEnd, Begun.remark] using run
  | _ => rfl

theorem Step.atStart_remark :
    atStart scope (component.remark f) = (atStart scope component).remark f := by
  rw [atStart, atStart, Scope.skips_remark, Component.isBlock_remark, Component.token?_remark]
  split
  · rfl
  split
  · rfl
  split <;> rfl

theorem Step.inAtRule_remark (keyword : String) :
    inAtRule scope keyword (before.map (Component.remark f)) (component.remark f) =
      (inAtRule scope keyword before component).remark f := by
  rw [inAtRule, inAtRule, Component.isBlock_remark, Component.isDelim_remark, ← List.map_reverse,
    Scope.ofAtRule_remark]
  split
  · rfl
  split <;> rfl

theorem Step.inRun_remark :
    inRun scope (last.remark f) (before.map (Component.remark f)) (component.remark f) =
      (inRun scope last before component).remark f := by
  have whole : (component.remark f :: last.remark f :: before.map (Component.remark f)).reverse =
      (component :: last :: before).reverse.map (Component.remark f) := by simp
  have run : (last.remark f :: before.map (Component.remark f)).reverse =
      (last :: before).reverse.map (Component.remark f) := by simp
  rw [inRun, inRun, whole, run, Component.isBlock_remark, Scope.declaration?_remark,
    Scope.endsRun_remark, writeTrimmed_remark, Component.mark_remark]
  split
  · cases scope.declaration? (component :: last :: before).reverse <;> rfl
  split
  · rw [Finding.ofRun_remark]
    rfl
  · rfl

theorem Step.of_remark (begun : Begun α) :
    Step.of scope (begun.remark f) (component.remark f) =
      (Step.of scope begun component).remark f := by
  cases begun with
  | nothing => exact atStart_remark f scope component
  | atRule keyword before => exact inAtRule_remark f scope component before keyword
  | run last before => exact inRun_remark f scope component last before

end Steps

mutual

theorem Component.findings_remark (f : α → β) : ∀ (component : Component α) (scope : Scope),
    Component.findings scope (component.remark f) =
      (Component.findings scope component).map (Finding.remark f)
  | .leaf mark token, scope => by
    rw [Component.remark_leaf, Component.findings, Component.findings, List.map_nil]
  | .group mark opener content, scope => by
    rw [Component.remark_group, Component.findings, Component.findings]
    exact Css.findings_remark f content scope .nothing

/-- What is found does not depend on the marks; they are handed on. -/
theorem findings_remark (f : α → β) :
    ∀ (components : List (Component α)) (scope : Scope) (begun : Begun α),
      findings scope (begun.remark f) (components.map (Component.remark f)) =
        (findings scope begun components).map (Finding.remark f)
  | [], scope, begun => by
    rw [List.map_nil, findings, findings, Finding.ofEnd_remark]
  | component :: rest, scope, begun => by
    rw [List.map_cons, findings, findings, Step.of_remark]
    cases Step.of scope begun component with
    | go next found =>
      simp only [Step.remark, List.map_append]
      rw [findings_remark f rest scope next]
    | enter inner =>
      simp only [Step.remark, List.map_append]
      rw [Component.findings_remark f component inner]
      exact congrArg _ (findings_remark f rest scope .nothing)

end

/-- Whether there is a rule without a block, and else the declarations, does not depend on the
marks. -/
theorem toOption_declared_remark (f : α → β) (findings : List (Finding α)) :
    (declared (findings.map (Finding.remark f))).toOption = (declared findings).toOption := by
  induction findings with
  | nil => rfl
  | cons finding rest ih =>
    cases finding with
    | declared declaration =>
      simp only [List.map_cons, Finding.remark, Css.declared]
      cases first : Css.declared rest <;>
        cases second : Css.declared (rest.map (Finding.remark f)) <;>
          simp_all [Except.toOption, Except.map]
    | skipped mark ending => simpa only [List.map_cons, Finding.remark, Css.declared] using ih
    | broken mark => rfl

end Swatch.Css
