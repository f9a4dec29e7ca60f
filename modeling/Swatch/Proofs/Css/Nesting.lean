import Swatch.Proofs.Css.Reading

/-!
# Components as rows of lexemes

A component is a row of lexemes in which every group is closed (`Component.lexemes`). Nesting takes
the row back to the component (`nested_lexemesOf`), and a row in which every bracket is closed is
the row of its nesting (`lexemesOf_nested`). Writing components is writing the lexemes of their row,
one after the other (`writeFrom_eq_writeRow`), so what a written text reads as is a question about
neighbouring lexemes only.
-/

namespace Swatch.Css

namespace Component

variable {α : Type}

mutual

/-- The lexemes of a component. -/
def lexemes : Component α → List Lexeme
  | leaf _ token => [.token token]
  | group _ opener content => .opening opener :: (lexemesOf content ++ [.closing opener.brackets])

/-- The lexemes of components. -/
def lexemesOf : List (Component α) → List Lexeme
  | [] => []
  | component :: rest => lexemes component ++ lexemesOf rest

end

@[simp] theorem lexemesOf_nil : lexemesOf ([] : List (Component α)) = [] := by
  rw [lexemesOf]

@[simp] theorem lexemesOf_cons (component : Component α) (rest : List (Component α)) :
    lexemesOf (component :: rest) = lexemes component ++ lexemesOf rest := by
  rw [lexemesOf]

@[simp] theorem lexemesOf_append (first second : List (Component α)) :
    lexemesOf (first ++ second) = lexemesOf first ++ lexemesOf second := by
  induction first with
  | nil => simp
  | cons component rest ih => simp [ih]

@[simp] theorem lexemes_leaf (mark : α) (token : Token) :
    lexemes (leaf mark token) = [.token token] := by
  rw [lexemes]

@[simp] theorem lexemes_group (mark : α) (opener : Opener) (content : List (Component α)) :
    lexemes (group mark opener content) =
      .opening opener :: (lexemesOf content ++ [.closing opener.brackets]) := by
  rw [lexemes]

/-- The lexemes of a component are among those of the list it is in. -/
theorem lexemes_subset {component : Component α} {components : List (Component α)}
    (member : component ∈ components) : lexemes component ⊆ lexemesOf components := by
  intro lexeme own
  obtain ⟨before, after, rfl⟩ := List.append_of_mem member
  rw [lexemesOf_append, lexemesOf_cons]
  exact List.mem_append_right _ (List.mem_append_left _ own)

/-! ## Nesting a row -/

/-- Nesting at some depth, of lexemes without marks. -/
abbrev nestRow (opened : List (Unclosed Unit)) (done : List (Component Unit))
    (row : List Lexeme) : List (Component Unit) :=
  nest opened done (row.map fun lexeme => ((), lexeme))

mutual

theorem nestRow_lexemes : ∀ (component : Component Unit) (opened : List (Unclosed Unit))
    (done : List (Component Unit)) (row : List Lexeme),
    nestRow opened done (lexemes component ++ row) = nestRow opened (component :: done) row
  | leaf _ token, opened, done, row => by
    rw [lexemes_leaf]
    rfl
  | group _ opener content, opened, done, row => by
    have inner := nestRow_lexemesOf content (⟨(), opener, done⟩ :: opened) []
      (.closing opener.brackets :: row)
    rw [lexemes_group, List.cons_append, List.append_assoc]
    simp only [nestRow, List.map_cons, nest] at inner ⊢
    rw [List.singleton_append, inner]
    simp [Unclosed.close]

/-- The row of components is nested to the components. -/
theorem nestRow_lexemesOf : ∀ (components : List (Component Unit))
    (opened : List (Unclosed Unit)) (done : List (Component Unit)) (row : List Lexeme),
    nestRow opened done (lexemesOf components ++ row) =
      nestRow opened (components.reverse ++ done) row
  | [], opened, done, row => by simp
  | component :: rest, opened, done, row => by
    rw [lexemesOf_cons, List.append_assoc, nestRow_lexemes component,
      nestRow_lexemesOf rest, List.reverse_cons, List.append_assoc, List.singleton_append]

end

theorem nested_lexemesOf (components : List (Component Unit)) :
    nested (lexemesOf components) = components := by
  have row := nestRow_lexemesOf components [] [] []
  rw [List.append_nil, List.append_nil] at row
  calc nested (lexemesOf components) = nestRow [] components.reverse [] := row
    _ = components := by simp [nestRow, nest, closeAll]

/-! ## Closed rows -/

/-- The row closes the given brackets, the innermost one first, and all that it opens itself. -/
def Closes : List Bracket → List Lexeme → Prop
  | brackets, [] => brackets = []
  | brackets, .token _ :: row => Closes brackets row
  | brackets, .comment :: row => Closes brackets row
  | brackets, .opening opener :: row => Closes (opener.brackets :: brackets) row
  | brackets, .closing bracket :: row =>
    match brackets with
    | [] => False
    | innermost :: outer => innermost = bracket ∧ Closes outer row

/-- The row of everything before a place inside open groups. -/
def spine : List (Unclosed Unit) → List (Component Unit) → List Lexeme
  | [], done => lexemesOf done.reverse
  | innermost :: outer, done =>
    spine outer innermost.before ++ .opening innermost.opener :: lexemesOf done.reverse

theorem spine_cons (opened : List (Unclosed Unit)) (component : Component Unit)
    (done : List (Component Unit)) :
    spine opened (component :: done) = spine opened done ++ lexemes component := by
  cases opened with
  | nil => simp [spine]
  | cons innermost outer => simp [spine]

/-- Nesting loses nothing of a closed row without comments. -/
theorem lexemesOf_nestRow (row : List Lexeme) (opened : List (Unclosed Unit))
    (done : List (Component Unit)) (plain : .comment ∉ row)
    (closes : Closes (opened.map (·.opener.brackets)) row) :
    lexemesOf (nestRow opened done row) = spine opened done ++ row := by
  induction row generalizing opened done with
  | nil =>
    have empty : opened = [] := List.map_eq_nil_iff.mp closes
    subst empty
    simp [nestRow, nest, closeAll, spine]
  | cons lexeme row ih =>
    have rest : .comment ∉ row := fun member => plain (List.mem_cons_of_mem _ member)
    cases lexeme with
    | token token =>
      have step := ih opened (leaf () token :: done) rest closes
      rw [spine_cons, lexemes_leaf, List.append_assoc] at step
      exact step
    | opening opener =>
      have step := ih (⟨(), opener, done⟩ :: opened) [] rest closes
      rw [spine, List.reverse_nil, lexemesOf_nil, List.append_assoc] at step
      exact step
    | comment => exact (plain List.mem_cons_self).elim
    | closing bracket =>
      cases opened with
      | nil => exact closes.elim
      | cons innermost outer =>
        obtain ⟨fits, closes⟩ := closes
        have fits : innermost.opener.brackets = bracket := fits
        have step := ih outer (innermost.close done) rest closes
        rw [Unclosed.close, spine_cons, lexemes_group, fits] at step
        have nests : nestRow (innermost :: outer) done (.closing bracket :: row) =
            nestRow outer (innermost.close done) row := by
          simp [nestRow, nest, fits]
        rw [nests, Unclosed.close, step, spine]
        simp

theorem lexemesOf_nested {row : List Lexeme} (plain : .comment ∉ row) (closes : Closes [] row) :
    lexemesOf (nested row) = row := by
  have whole := lexemesOf_nestRow row [] [] plain closes
  rw [spine, List.reverse_nil, lexemesOf_nil, List.nil_append] at whole
  exact whole

end Component

/-! ## Writing a row -/

namespace Lexeme

/-- A lexeme as text. -/
def write : Lexeme → List Char
  | token part => part.write
  | opening opener => Component.writeOpener opener
  | closing bracket => [bracket.closing]
  | comment => "/**/".toList

/-- What matters of a lexeme for the one before it. -/
def kind : Lexeme → Kind
  | token part => .ofToken part
  | opening (.function _) => .function
  | opening (.bracket .round) => .round
  | _ => .other

/-- What matters of a lexeme for the one after it: only a token can clash with what follows. -/
def kindBefore : Lexeme → Option Kind
  | token part => some (.ofToken part)
  | _ => none

@[simp] theorem kindBefore_opening (opener : Opener) : (opening opener).kindBefore = none :=
  rfl

@[simp] theorem kindBefore_closing (bracket : Bracket) : (closing bracket).kindBefore = none :=
  rfl

/-- A run of spaces that starts with a line end. -/
def startsLine : Lexeme → Bool
  | token (.whitespace spaces) => spaces.toList.head? == some '\n'
  | _ => false

/-- What is written between a lexeme and the one before it; nothing stands before a closing
bracket. -/
def gap (before : Option Kind) (lexeme : Lexeme) : List Char :=
  match before, lexeme with
  | none, _ => []
  | some _, closing _ => []
  | some before, lexeme =>
    if lexeme.kind ∈ before.clashing then "/**/".toList
    else if before = .delim "\\" ∧ ¬lexeme.startsLine then ['\n']
    else []

end Lexeme

theorem other_not_mem_clashing (kind : Kind) : .other ∉ kind.clashing := by
  unfold Kind.clashing
  split <;> simp [Kind.names, Kind.numerals]

/-- A row of lexemes as text, after something of the given kind. -/
def writeRow (before : Option Kind) : List Lexeme → List Char
  | [] => []
  | lexeme :: row => lexeme.gap before ++ lexeme.write ++ writeRow lexeme.kindBefore row

namespace Component

variable {α : Type}

theorem gap_leaf (before : Option Kind) (mark : α) (token : Token) :
    gap before (leaf mark token) = (Lexeme.token token).gap before := by
  cases before with
  | none => rfl
  | some before => cases token <;> rfl

theorem gap_group (before : Option Kind) (mark : α) (opener : Opener)
    (content : List (Component α)) :
    gap before (group mark opener content) = (Lexeme.opening opener).gap before := by
  cases before with
  | none => rfl
  | some before =>
    cases opener with
    | function name => rfl
    | bracket bracket => cases bracket <;> rfl

/-- What matters of a component for what follows it: nothing clashes with a group before it. -/
def kindBefore : Component α → Option Kind
  | leaf _ token => some (.ofToken token)
  | group .. => none

theorem writeFrom_kindBefore (component : Component α) (rest : List (Component α)) :
    writeFrom (some component.kind) rest = writeFrom component.kindBefore rest := by
  cases component with
  | leaf mark token => rfl
  | group mark opener content =>
    cases rest with
    | nil => rw [writeFrom, writeFrom]
    | cons next rest =>
      have free : gap (some (group mark opener content).kind) next = [] := by
        cases opener with
        | function name => simp [gap, kind, Kind.clashing]
        | bracket bracket => cases bracket <;> simp [gap, kind, Kind.clashing]
      rw [writeFrom, writeFrom, free]
      rfl

/-- No string in the row lacks its end. -/
def AllClosed (row : List Lexeme) : Prop :=
  ∀ token, .token token ∈ row → token.isUnclosedString = false

mutual

theorem endsUnclosed_eq_false : ∀ component : Component α,
    AllClosed (lexemes component) → endsUnclosed component = false
  | leaf _ token, closed => by
    rw [endsUnclosed]
    exact closed token (by simp)
  | group _ (.bracket _) _, _ => by rw [endsUnclosed]
  | group _ (.function _) content, closed => by
    rw [endsUnclosed]
    exact lastEndsUnclosed_eq_false content fun token member => closed token (by simp [member])

theorem lastEndsUnclosed_eq_false : ∀ components : List (Component α),
    AllClosed (lexemesOf components) → lastEndsUnclosed components = false
  | [], _ => by rw [lastEndsUnclosed]
  | component :: rest, closed => by
    rw [lastEndsUnclosed, endsUnclosed_eq_false component fun token member =>
        closed token (by simp [member]),
      lastEndsUnclosed_eq_false rest fun token member => closed token (by simp [member]),
      ite_self]

end

mutual

theorem write_append_writeRow : ∀ (component : Component α) (row : List Lexeme),
    AllClosed (lexemes component) → ∀ before,
      gap before component ++ (write component ++ writeRow component.kindBefore row) =
        writeRow before (lexemes component ++ row)
  | leaf _ token, row, _, before => by
    rw [gap_leaf, write, lexemes_leaf, List.singleton_append, writeRow, List.append_assoc]
    rfl
  | group mark opener content, row, closed, before => by
    have inner : AllClosed (lexemesOf content) := fun token member =>
      closed token (by simp [member])
    have written := writeFrom_append_closing content opener.brackets row inner none
    have ends := lastEndsUnclosed_eq_false content inner
    rw [gap_group, lexemes_group, List.cons_append, List.append_assoc, List.cons_append,
      List.nil_append, writeRow, Lexeme.kindBefore_opening, ← written, List.append_assoc]
    cases opener with
    | function name =>
      simp [write, ends, Lexeme.write, Opener.brackets, Bracket.closing, kindBefore]
    | bracket bracket => simp [write, Lexeme.write, Opener.brackets, kindBefore]

theorem writeFrom_append_closing : ∀ (components : List (Component α)) (bracket : Bracket)
    (row : List Lexeme), AllClosed (lexemesOf components) → ∀ before,
      writeFrom before components ++ bracket.closing :: writeRow none row =
        writeRow before (lexemesOf components ++ .closing bracket :: row)
  | [], bracket, row, _, before => by
    cases before <;> simp [writeFrom, writeRow, Lexeme.gap, Lexeme.write]
  | component :: rest, bracket, row, closed, before => by
    have first := write_append_writeRow component (lexemesOf rest ++ .closing bracket :: row)
      (fun token member => closed token (by simp [member])) before
    have later := writeFrom_append_closing rest bracket row
      (fun token member => closed token (by simp [member])) component.kindBefore
    rw [lexemesOf_cons, List.append_assoc, ← first, ← later, writeFrom, writeFrom_kindBefore,
      List.append_assoc, List.append_assoc]

end

/-- Components are written as the row of their lexemes, when every string has its end. -/
theorem writeFrom_eq_writeRow (components : List (Component α))
    (closed : AllClosed (lexemesOf components)) (before : Option Kind) :
    writeFrom before components = writeRow before (lexemesOf components) := by
  induction components generalizing before with
  | nil => rw [writeFrom, lexemesOf_nil, writeRow]
  | cons component rest ih =>
    have first := write_append_writeRow component (lexemesOf rest)
      (fun token member => closed token (by simp [member])) before
    have later := ih (fun token member => closed token (by simp [member])) component.kindBefore
    rw [lexemesOf_cons, ← first, ← later, writeFrom, writeFrom_kindBefore, List.append_assoc]

end Component

/-! ## Single tokens -/

/-- A space as a component. -/
def spaceLeaf : Component Unit :=
  .leaf () (.whitespace " ")

/-- A sign as a component. -/
def signLeaf (text : String) : Component Unit :=
  .leaf () (.delim text)

end Swatch.Css
