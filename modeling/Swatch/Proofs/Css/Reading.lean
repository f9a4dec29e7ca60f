import Swatch.Css.Value
import Swatch.Proofs.Css.Unmarked
import Swatch.Proofs.Text.Classes

/-!
# Texts read without marks

What a text says is its lexemes without the comments (`significant`), nested into components
(`components`). Every reading of a text factors through these two: the components with their marks
(`readComponents_unmarked`), the declarations of a style sheet (`toOption_declarations`) and the
pieces of a value (`pieces_eq`).
-/

namespace Swatch.Css

/-! ## Lexemes that count -/

/-- The lexemes of a text without its comments. -/
def significant (text : List Char) : List Lexeme :=
  ((lexemes text).map (·.2)).filter (· != .comment)

@[simp] theorem significant_nil : significant [] = [] := by
  rw [significant, lexemes]
  rfl

/-- One lexeme and what follows it. -/
theorem significant_cons (c : Char) (cs : List Char) :
    significant (c :: cs) =
      [(Lexeme.read c cs).1].filter (· != .comment) ++ significant (Lexeme.read c cs).2 := by
  rw [significant, lexemes, List.map_cons, ← List.singleton_append, List.filter_append]
  rfl

theorem significant_of_read {c : Char} {cs rest : List Char} {lexeme : Lexeme}
    (read : Lexeme.read c cs = (lexeme, rest)) (counts : lexeme ≠ .comment) :
    significant (c :: cs) = lexeme :: significant rest := by
  rw [significant_cons, read]
  simp [counts]

theorem significant_of_read_comment {c : Char} {cs rest : List Char}
    (read : Lexeme.read c cs = (.comment, rest)) :
    significant (c :: cs) = significant rest := by
  rw [significant_cons, read]
  simp

/-! ## Texts that are read as they are -/

/-- A character that is read as it is. -/
def isKept (c : Char) : Bool :=
  c != '\r' && c != '\x0c' && c != '\x00'

theorem isKept_iff (c : Char) : isKept c = true ↔ c.toNat ≠ 13 ∧ c.toNat ≠ 12 ∧ c.toNat ≠ 0 := by
  simp only [isKept, Bool.and_eq_true, bne_iff_ne, ne_eq, Text.char_eq_iff, and_assoc]
  rfl

theorem isKept_of_isNameChar {c : Char} (name : isNameChar c) : isKept c = true := by
  rw [isNameChar_iff] at name
  rw [isKept_iff]
  omega

theorem isKept_of_isSpace {c : Char} (space : isSpace c) : isKept c = true := by
  rw [isSpace_iff] at space
  rw [isKept_iff]
  omega

theorem all_isKept_of {p : Char → Bool} (kept : ∀ c, p c = true → isKept c = true) {cs : List Char}
    (all : cs.all p) : cs.all isKept :=
  List.all_eq_true.mpr fun c member => kept c (List.all_eq_true.mp all c member)

theorem normalized_append_of_kept {cs : List Char} (kept : cs.all isKept) (rest : List Char) :
    normalized (cs ++ rest) = cs ++ normalized rest := by
  induction cs with
  | nil => rfl
  | cons c cs ih =>
    simp only [List.all_cons, Bool.and_eq_true, isKept, bne_iff_ne, ne_eq] at kept
    obtain ⟨⟨⟨carriage, feed⟩, null⟩, others⟩ := kept
    rw [List.cons_append, normalized.eq_3]
    · simp [carriage, feed, null, ih others]
    · intro ds same
      exact (carriage same).elim

/-- A text of such characters is read as it is. -/
theorem normalized_of_kept {cs : List Char} (kept : cs.all isKept) : normalized cs = cs := by
  have whole := normalized_append_of_kept kept []
  rwa [List.append_nil, normalized, List.append_nil] at whole

/-! ## Components -/

namespace Component

/-- The components of lexemes, without marks. -/
def nested (lexemes : List Lexeme) : List (Component Unit) :=
  nest [] [] (lexemes.map fun lexeme => ((), lexeme))

/-- Comments do not count for the nesting. -/
theorem nest_filter_comment {α : Type} (opened : List (Unclosed α)) (done : List (Component α))
    (lexemes : List (α × Lexeme)) :
    nest opened done (lexemes.filter (·.2 != .comment)) = nest opened done lexemes := by
  induction lexemes generalizing opened done with
  | nil => rfl
  | cons found rest ih =>
    obtain ⟨mark, lexeme⟩ := found
    cases lexeme with
    | token token => simpa [nest] using ih _ _
    | opening opener => simpa [nest] using ih _ _
    | comment => simpa [nest] using ih _ _
    | closing bracket =>
      cases opened with
      | nil => simpa [nest] using ih _ _
      | cons innermost outer =>
        by_cases fits : innermost.opener.brackets = bracket
        · simpa [nest, fits] using ih _ _
        · simpa [nest, fits] using ih _ _

theorem nest_unmarked (lexemes : List (List Char × Lexeme)) :
    (nest [] [] lexemes).map unmarked =
      nested ((lexemes.map (·.2)).filter (· != .comment)) := by
  have bare := nest_remark (fun _ : List Char => ()) [] [] lexemes
  have filtered := nest_filter_comment [] [] (lexemes.map fun found => ((), found.2))
  rw [nested, List.filter_map, List.map_map]
  rw [List.filter_map, List.map_nil, List.map_nil] at *
  exact bare.symm.trans filtered.symm

end Component

/-- The components of a text with only one kind of line end, without marks. -/
def components (text : List Char) : List (Component Unit) :=
  Component.nested (significant text)

/-- The count of digits of the first whole number in a text that has too many. -/
def overlong? (text : List Char) : Option Nat :=
  (significant text).findSome? Lexeme.overlong?

/-- No lexeme of the row is a number of too many digits. -/
def NoneOverlong (row : List Lexeme) : Prop :=
  ∀ lexeme ∈ row, lexeme.overlong? = none

@[simp] theorem noneOverlong_nil : NoneOverlong [] := by
  simp [NoneOverlong]

@[simp] theorem noneOverlong_cons (lexeme : Lexeme) (row : List Lexeme) :
    NoneOverlong (lexeme :: row) ↔ lexeme.overlong? = none ∧ NoneOverlong row :=
  List.forall_mem_cons

@[simp] theorem noneOverlong_append (first second : List Lexeme) :
    NoneOverlong (first ++ second) ↔ NoneOverlong first ∧ NoneOverlong second :=
  List.forall_mem_append

@[simp] theorem overlong_ident (name : String) :
    Lexeme.overlong? (.token (.ident name)) = none :=
  rfl

@[simp] theorem overlong_whitespace (spaces : String) :
    Lexeme.overlong? (.token (.whitespace spaces)) = none :=
  rfl

@[simp] theorem overlong_delim (text : String) : Lexeme.overlong? (.token (.delim text)) = none :=
  rfl

@[simp] theorem overlong_atKeyword (name : String) :
    Lexeme.overlong? (.token (.atKeyword name)) = none :=
  rfl

@[simp] theorem overlong_opening (opener : Opener) : Lexeme.overlong? (.opening opener) = none :=
  rfl

@[simp] theorem overlong_closing (bracket : Bracket) :
    Lexeme.overlong? (.closing bracket) = none :=
  rfl

theorem overlong?_eq_none_iff {text : List Char} :
    overlong? text = none ↔ NoneOverlong (significant text) := by
  rw [overlong?, List.findSome?_eq_none_iff]
  rfl

theorem findSome?_overlong (lexemes : List (List Char × Lexeme)) :
    lexemes.findSome? (·.2.overlong?) =
      ((lexemes.map (·.2)).filter (· != .comment)).findSome? Lexeme.overlong? := by
  induction lexemes with
  | nil => rfl
  | cons found rest ih =>
    obtain ⟨mark, lexeme⟩ := found
    by_cases comment : lexeme = .comment
    · subst comment
      simpa [Lexeme.overlong?] using ih
    · have kept : (lexeme != .comment) = true := by simpa using comment
      rw [List.map_cons, List.filter_cons, if_pos kept, List.findSome?_cons, List.findSome?_cons,
        ih]

/-- A text is read as its components, unless a whole number in it has too many digits. -/
theorem readComponents_unmarked (text : List Char) :
    (readComponents text).map (·.map Component.unmarked) =
      match overlong? (normalized text) with
      | some count => .error (.tooManyDigits count)
      | none => .ok (components (normalized text)) := by
  rw [readComponents, overlong?, significant, ← findSome?_overlong]
  cases (lexemes (normalized text)).findSome? (·.2.overlong?) with
  | some count => rfl
  | none => exact congrArg Except.ok (Component.nest_unmarked _)

/-! ## Style sheets -/

/-- The findings in a text as a style sheet, without marks. -/
def sheetFindings (text : List Char) : List (Finding Unit) :=
  findings .sheet .nothing (components text)

theorem toOption_located (text : String) (found : Except (List Char) (List Declaration)) :
    (match found with
      | .ok declarations => (pure declarations : Extracted (List Declaration))
      | .error mark =>
        throw (ExtractionError.ruleWithoutBlock (Stylesheet.position text mark))).toOption =
      found.toOption := by
  cases found <;> rfl

/-- The declarations of a style sheet, whatever the cause when there are none. -/
theorem toOption_declarations (text : String) :
    (Stylesheet.declarations text).toOption =
      match overlong? (normalized text.toList) with
      | some _ => none
      | none => (declared (sheetFindings (normalized text.toList))).toOption := by
  have reading := readComponents_unmarked text.toList
  rw [Stylesheet.declarations, Stylesheet.findings]
  cases read : readComponents text.toList with
  | error cause =>
    rw [read] at reading
    cases found : overlong? (normalized text.toList) with
    | some count => rfl
    | none =>
      rw [found] at reading
      cases reading
  | ok marked =>
    rw [read] at reading
    cases found : overlong? (normalized text.toList) with
    | some count =>
      rw [found] at reading
      cases reading
    | none =>
      rw [found] at reading
      have same : marked.map Component.unmarked = components (normalized text.toList) :=
        Except.ok.inj reading
      have findings : (Css.findings .sheet .nothing marked).map (Finding.remark fun _ => ()) =
          sheetFindings (normalized text.toList) := by
        rw [sheetFindings, ← same]
        exact (findings_remark (fun _ => ()) marked .sheet .nothing).symm
      rw [← findings, toOption_declared_remark]
      exact toOption_located text _

/-! ## Values -/

/-- Cutting commutes with a map that keeps what separates. -/
theorem splitOnP_map {α β : Type} {f : α → β} {p : α → Bool} {q : β → Bool}
    (same : ∀ x, q (f x) = p x) (xs : List α) :
    (xs.map f).splitOnP q = (xs.splitOnP p).map (List.map f) := by
  induction xs with
  | nil => rfl
  | cons x xs ih =>
    rw [List.map_cons, List.splitOnP_cons_eq_if_modifyHead, List.splitOnP_cons_eq_if_modifyHead,
      same, ih]
    split
    · rfl
    · cases xs.splitOnP p <;> rfl

/-- Components cut where they are separated, each piece written without blanks around it, and empty
pieces left out. -/
def cutPieces {α : Type} (separates : Component α → Bool) (found : List (Component α)) :
    List String :=
  ((found.splitOnP separates).map writeTrimmed).filter (· != "")

theorem cutPieces_remark {α β : Type} (f : α → β) (separates : Component α → Bool)
    (separates' : Component β → Bool)
    (same : ∀ component, separates' (component.remark f) = separates component)
    (found : List (Component α)) :
    cutPieces separates' (found.map (Component.remark f)) = cutPieces separates found := by
  rw [cutPieces, splitOnP_map same, List.map_map, cutPieces]
  simp only [Function.comp_def, writeTrimmed_remark]

/-- The pieces of a text come from its components without marks. -/
theorem pieces_eq (separates : Component (List Char) → Bool) (separates' : Component Unit → Bool)
    (same : ∀ component, separates' component.unmarked = separates component) (value : String) :
    Value.pieces separates value =
      match overlong? (normalized value.toList) with
      | some count => .error (.tooManyDigits count)
      | none => .ok (cutPieces separates' (components (normalized value.toList))) := by
  have reading := readComponents_unmarked value.toList
  rw [Value.pieces]
  cases read : readComponents value.toList with
  | error cause =>
    rw [read] at reading
    cases found : overlong? (normalized value.toList) with
    | some count =>
      rw [found] at reading
      exact congrArg Except.error (Except.error.inj reading)
    | none =>
      rw [found] at reading
      cases reading
  | ok marked =>
    rw [read] at reading
    cases found : overlong? (normalized value.toList) with
    | some count =>
      rw [found] at reading
      cases reading
    | none =>
      rw [found] at reading
      have whole : marked.map Component.unmarked = components (normalized value.toList) :=
        Except.ok.inj reading
      rw [← whole]
      exact congrArg Except.ok (cutPieces_remark _ separates separates' same marked).symm

theorem commaPieces_eq (value : String) :
    Value.commaPieces value =
      match overlong? (normalized value.toList) with
      | some count => .error (.tooManyDigits count)
      | none => .ok (cutPieces (·.isDelim ",") (components (normalized value.toList))) :=
  pieces_eq _ _ (fun component => Component.isDelim_remark _ component ",") value

theorem spacePieces_eq (value : String) :
    Value.spacePieces value =
      match overlong? (normalized value.toList) with
      | some count => .error (.tooManyDigits count)
      | none => .ok (cutPieces (·.isWhitespace) (components (normalized value.toList))) :=
  pieces_eq _ _ (fun component => Component.isWhitespace_remark _ component) value

end Swatch.Css
