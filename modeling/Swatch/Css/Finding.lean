import Swatch.Css.Declaration
import Swatch.Css.Written

/-!
# Findings in rules and blocks

Components read as rules and declarations. A run of components ends in one of three ways.

- At a block in curly brackets. In a block around it the run with the block may be a declaration
  whose value is the block; otherwise it is a rule with the run as its selector.
- At a semicolon, in a block: the run is a declaration, or it is skipped.
- At the end of the content: in a block as at a semicolon; elsewhere the rule has no block, and
  nothing is found after it.

A rule that starts with an at sign ends at its block or at a semicolon. The block of a grouping
rule holds what the place around the rule may hold; any other block holds declarations, for which
the rule itself is the selector.

The findings are a list in the order of the text. It is made without a look at the marks, which are
only handed on.
-/

namespace Swatch.Css

variable {α : Type}

/-! ## Declarations -/

/-- How far the end of a value has come towards `! important`; with the count of the components
before the exclamation mark. -/
inductive Importance where
  | plain
  | marked (kept : Nat)
  | important (kept : Nat)
  deriving DecidableEq, Repr

/-- What is known of a value up to some component. -/
structure ValueState where
  importance : Importance := .plain
  /-- There is a component that counts: no space, and no part of `! important`. -/
  counted : Bool := false
  /-- There is a block after a component that counts. -/
  mixed : Bool := false
  deriving DecidableEq, Repr

/-- The word that makes a declaration important. -/
def Component.isImportant (component : Component α) : Bool :=
  match component.token? with
  | some (.ident name) => Text.asciiLowered name == "important"
  | _ => false

namespace ValueState

/-- What is known with one more component, which stands at this index. -/
def next (state : ValueState) (component : Component α) (index : Nat) : ValueState :=
  if component.isWhitespace then state
  else
    match state.importance with
    | .plain =>
      if component.isDelim "!" then { state with importance := .marked index }
      else count state
    | .marked kept =>
      if component.isImportant then { state with importance := .important kept }
      else count state
    | .important _ => count state
where
  /-- What is known once the component counts. -/
  count (state : ValueState) : ValueState :=
    ⟨.plain, true, state.mixed || (state.counted && component.isBlock)⟩

/-- What is known of a whole value. -/
def ofValue (value : List (Component α)) : ValueState :=
  value.zipIdx.foldl (fun state (component, index) => state.next component index) {}

/-- The value without the `! important` at its end. -/
def kept (state : ValueState) (value : List (Component α)) : List (Component α) :=
  match state.importance with
  | .important count => value.take count
  | _ => value

end ValueState

/-- The declaration that a run spells: a name, a colon and a value. A value may hold a block only
when it holds nothing else. -/
def declarationOf? (selector : String) (run : List (Component α)) : Option Declaration :=
  match run with
  | .leaf _ (.ident name) :: rest =>
    match rest.dropWhile (·.isWhitespace) with
    | [] => none
    | colon :: value =>
      let state := ValueState.ofValue value
      if colon.isDelim ":" && !state.mixed then
        some ⟨name, writeTrimmed (state.kept value), some selector⟩
      else none
  | _ => none

/-! ## Scopes -/

/-- What may be read at a place. -/
inductive Scope where
  /-- Rules; the marks around hidden parts are skipped between them. -/
  | sheet
  /-- Rules. -/
  | group
  /-- Declarations for a selector, and rules. -/
  | block (selector : String)
  deriving DecidableEq, Repr

/-- The names of the rules that group other rules. -/
def groupingNames : List String := [
  "media", "supports", "document", "-moz-document", "layer", "container", "scope",
  "starting-style"]

namespace Scope

/-- A component that ends a run. Only in a block is it the semicolon. -/
def endsRun (scope : Scope) (component : Component α) : Bool :=
  match scope with
  | block _ => component.isDelim ";"
  | _ => false

/-- A component that is skipped between two items. -/
def skips (scope : Scope) (component : Component α) : Bool :=
  component.isWhitespace || scope.endsRun component ||
    (scope == sheet && (component.isDelim "<!--" || component.isDelim "-->"))

/-- The declaration that a run spells here. -/
def declaration? (scope : Scope) (run : List (Component α)) : Option Declaration :=
  match scope with
  | block selector => declarationOf? selector run
  | _ => none

/-- The block of a rule that starts with an at sign, when the rule stands here. -/
def ofAtRule (scope : Scope) (keyword : String) (run : List (Component α)) : Scope :=
  if groupingNames.contains (Text.asciiLowered keyword) then
    match scope with
    | block selector => block selector
    | _ => group
  else block (Text.trimmed ("@" ++ keyword ++ " " ++ writeTrimmed run))

end Scope

/-! ## Findings -/

/-- What ends a run. -/
inductive RunEnd where
  | semicolon
  | text
  deriving DecidableEq, Repr

/-- What is found in rules and blocks. -/
inductive Finding (α : Type) where
  | declared (declaration : Declaration)
  /-- A run in a block that is no declaration and has no block: where the run was given up, and
  what ended it. -/
  | skipped (mark : α) (ending : RunEnd)
  /-- A rule that has no block: where its last component stands. -/
  | broken (mark : α)
  deriving DecidableEq, Repr

/-- An item that has begun, with its components so far, the last one first. -/
inductive Begun (α : Type) where
  | nothing
  | atRule (keyword : String) (before : List (Component α))
  | run (last : Component α) (before : List (Component α))

/-- What a component does. -/
inductive Step (α : Type) where
  /-- It is taken, and leaves the item begun like this. -/
  | go (begun : Begun α) (found : List (Finding α))
  /-- Its content is read in a scope, and the item is done. -/
  | enter (scope : Scope)

namespace Finding

/-- What is found when a run in a scope ends without a block. -/
def ofRun (scope : Scope) (run : List (Component α)) (mark : α) (ending : RunEnd) : Finding α :=
  match scope with
  | .block selector =>
    match declarationOf? selector run with
    | some declaration => declared declaration
    | none => skipped mark ending
  | _ => broken mark

/-- What is found when the content of a scope ends. -/
def ofEnd (scope : Scope) : Begun α → List (Finding α)
  | .nothing => []
  | .atRule _ _ => []
  | .run last before => [ofRun scope (last :: before).reverse last.mark .text]

end Finding

namespace Step

/-- What a component does at the start of an item. -/
def atStart (scope : Scope) (component : Component α) : Step α :=
  if scope.skips component then go .nothing []
  else if component.isBlock then enter (.block "")
  else
    match component.token? with
    | some (.atKeyword keyword) => go (.atRule keyword []) []
    | _ => go (.run component []) []

/-- What a component does in a rule that started with an at sign. -/
def inAtRule (scope : Scope) (keyword : String) (before : List (Component α))
    (component : Component α) : Step α :=
  if component.isBlock then enter (scope.ofAtRule keyword before.reverse)
  else if component.isDelim ";" then go .nothing []
  else go (.atRule keyword (component :: before)) []

/-- What a component does in a run. -/
def inRun (scope : Scope) (last : Component α) (before : List (Component α))
    (component : Component α) : Step α :=
  if component.isBlock then
    match scope.declaration? (component :: last :: before).reverse with
    | some declaration => go .nothing [.declared declaration]
    | none => enter (.block (writeTrimmed (last :: before).reverse))
  else if scope.endsRun component then
    go .nothing [.ofRun scope (last :: before).reverse component.mark .semicolon]
  else go (.run component (last :: before)) []

/-- What a component does. -/
def of (scope : Scope) (begun : Begun α) (component : Component α) : Step α :=
  match begun with
  | .nothing => atStart scope component
  | .atRule keyword before => inAtRule scope keyword before component
  | .run last before => inRun scope last before component

end Step

mutual

/-- The findings in the content of a component. -/
def Component.findings (scope : Scope) : Component α → List (Finding α)
  | .leaf _ _ => []
  | .group _ _ content => Css.findings scope .nothing content

/-- The findings in components that follow what has begun. -/
def findings (scope : Scope) (begun : Begun α) : List (Component α) → List (Finding α)
  | [] => Finding.ofEnd scope begun
  | component :: rest =>
    match Step.of scope begun component with
    | .go begun found => found ++ findings scope begun rest
    | .enter inner => Component.findings inner component ++ findings scope .nothing rest

end

end Swatch.Css
