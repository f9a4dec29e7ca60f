import Swatch.Proofs.Css.Rows

/-!
# Settled components

Of all that is read back, only the unit of a number may change: a capital letter that is written by
a code becomes the small one (`Token.settled`). Settled components are written as before
(`writeFrom_settle`), so they are cut into the same pieces (`cutPieces_settle`).
-/

namespace Swatch.Css

/-! ## Settled tokens -/

/-- A token is settled already, or its unit is written by a code. -/
theorem Token.settled_cases (token : Token) :
    token.settled = token ∨
      ∃ numeral tail, token = .dimension numeral (String.ofList ('E' :: tail)) ∧
        token.settled = .dimension numeral (String.ofList ('e' :: tail)) ∧
        (tail.isEmpty || tail.head? == some '-') = true := by
  cases token with
  | dimension numeral unit =>
    rw [Token.settled]
    split
    next tail spelled =>
      split
      next escaped =>
        refine .inr ⟨numeral, tail, ?_, rfl, escaped⟩
        rw [← spelled, String.ofList_toList]
      next => exact .inl rfl
    next => exact .inl rfl
  | _ => exact .inl rfl

/-- A settled token is written as before. -/
theorem Token.write_settled (token : Token) : token.settled.write = token.write := by
  rcases token.settled_cases with same | ⟨numeral, tail, rfl, settled, escaped⟩
  · rw [same]
  · rw [settled]
    change numeral.toList ++ writeUnit (String.ofList ('e' :: tail)).toList =
      numeral.toList ++ writeUnit (String.ofList ('E' :: tail)).toList
    rw [String.toList_ofList, String.toList_ofList, writeUnit, writeUnit, if_pos escaped,
      if_pos escaped]

theorem Token.ofToken_settled (token : Token) :
    Kind.ofToken token.settled = Kind.ofToken token := by
  rcases token.settled_cases with same | ⟨numeral, tail, rfl, settled, -⟩
  · rw [same]
  · rw [settled]
    rfl

theorem Lexeme.overlong_settled (lexeme : Lexeme) :
    lexeme.settled.overlong? = lexeme.overlong? := by
  cases lexeme with
  | token part =>
    rcases part.settled_cases with same | ⟨numeral, tail, rfl, settled, -⟩
    · rw [Lexeme.settled, same]
    · rw [Lexeme.settled, settled]
      rfl
  | _ => rfl

namespace Component

variable {α : Type}

/-! ## Settled components -/

mutual

/-- The component that is read where this one is written. -/
def settle : Component α → Component α
  | leaf mark token => leaf mark token.settled
  | group mark opener content => group mark opener (settleAll content)

/-- The components that are read where these are written. -/
def settleAll : List (Component α) → List (Component α)
  | [] => []
  | component :: rest => settle component :: settleAll rest

end

@[simp] theorem settle_leaf (mark : α) (token : Token) :
    settle (leaf mark token) = leaf mark token.settled := by
  rw [settle]

@[simp] theorem settle_group (mark : α) (opener : Opener) (content : List (Component α)) :
    settle (group mark opener content) = group mark opener (settleAll content) := by
  rw [settle]

theorem settleAll_eq_map (components : List (Component α)) :
    settleAll components = components.map settle := by
  induction components with
  | nil => rw [settleAll, List.map_nil]
  | cons component rest ih => rw [settleAll, ih, List.map_cons]

theorem kind_settle (component : Component α) : component.settle.kind = component.kind := by
  cases component with
  | leaf mark token =>
    rw [settle_leaf]
    exact token.ofToken_settled
  | group mark opener content =>
    rw [settle_group]
    cases opener with
    | function name => rfl
    | bracket bracket => cases bracket <;> rfl

theorem isDelim_settle (text : String) (component : Component α) :
    component.settle.isDelim text = component.isDelim text := by
  cases component with
  | leaf mark token =>
    rcases token.settled_cases with same | ⟨numeral, tail, rfl, settled, -⟩
    · rw [settle_leaf, same]
    · rw [settle_leaf, settled]
      rfl
  | group mark opener content =>
    rw [settle_group]
    rfl

theorem isWhitespace_settle (component : Component α) :
    component.settle.isWhitespace = component.isWhitespace := by
  cases component with
  | leaf mark token =>
    rcases token.settled_cases with same | ⟨numeral, tail, rfl, settled, -⟩
    · rw [settle_leaf, same]
    · rw [settle_leaf, settled]
      rfl
  | group mark opener content =>
    rw [settle_group]
    rfl

theorem gap_settle (before : Option Kind) (component : Component α) :
    gap before component.settle = gap before component := by
  have line : component.settle.startsLine = component.startsLine := by
    cases component with
    | leaf mark token =>
      rcases token.settled_cases with same | ⟨numeral, tail, rfl, settled, -⟩
      · rw [settle_leaf, same]
      · rw [settle_leaf, settled]
        rfl
    | group mark opener content =>
      rw [settle_group]
      rfl
  cases before with
  | none => rfl
  | some before =>
    unfold gap
    rw [kind_settle, line]

mutual

theorem lexemes_settle : ∀ component : Component α,
    lexemes component.settle = (lexemes component).map Lexeme.settled
  | leaf mark token => by simp [Lexeme.settled]
  | group mark opener content => by simp [Lexeme.settled, lexemesOf_settle content]

/-- The row of settled components is settled. -/
theorem lexemesOf_settle : ∀ components : List (Component α),
    lexemesOf (settleAll components) = (lexemesOf components).map Lexeme.settled
  | [] => by simp [settleAll]
  | component :: rest => by simp [settleAll, lexemes_settle component, lexemesOf_settle rest]

end

/-! ## Settled components as text -/

mutual

theorem endsUnclosed_settle : ∀ component : Component α,
    endsUnclosed component.settle = endsUnclosed component
  | leaf mark token => by
    rw [settle_leaf, endsUnclosed, endsUnclosed]
    rcases token.settled_cases with same | ⟨numeral, tail, rfl, settled, -⟩
    · rw [same]
    · rw [settled]
      rfl
  | group mark (.function name) content => by
    rw [settle_group, endsUnclosed, endsUnclosed, lastEndsUnclosed_settle content]
  | group mark (.bracket bracket) content => by rw [settle_group, endsUnclosed, endsUnclosed]

theorem lastEndsUnclosed_settle : ∀ components : List (Component α),
    lastEndsUnclosed (settleAll components) = lastEndsUnclosed components
  | [] => by rw [settleAll]
  | component :: rest => by
    rw [settleAll, lastEndsUnclosed, lastEndsUnclosed, endsUnclosed_settle component,
      lastEndsUnclosed_settle rest]
    cases rest <;> simp [settleAll]

end

mutual

theorem write_settle : ∀ component : Component α, write component.settle = write component
  | leaf mark token => by rw [settle_leaf, write, write, token.write_settled]
  | group mark (.bracket bracket) content => by
    rw [settle_group, write, write, writeFrom_settle content none]
  | group mark (.function name) content => by
    rw [settle_group, write, write, writeFrom_settle content none, lastEndsUnclosed_settle content]

/-- Settled components are written as before. -/
theorem writeFrom_settle : ∀ (components : List (Component α)) (before : Option Kind),
    writeFrom before (settleAll components) = writeFrom before components
  | [], before => by rw [settleAll]
  | component :: rest, before => by
    rw [settleAll, writeFrom, writeFrom, gap_settle, write_settle component, kind_settle component,
      writeFrom_settle rest]

end

end Component

/-- Settled components are cut into the same pieces. -/
theorem cutPieces_settle {α : Type} {separates : Component α → Bool}
    (same : ∀ component : Component α, separates component.settle = separates component)
    (found : List (Component α)) :
    cutPieces separates (Component.settleAll found) = cutPieces separates found := by
  have written (piece : List (Component α)) :
      writeTrimmed (piece.map Component.settle) = writeTrimmed piece := by
    rw [writeTrimmed, writeComponents, ← Component.settleAll_eq_map, Component.writeFrom_settle]
    rfl
  rw [cutPieces, Component.settleAll_eq_map, splitOnP_map same, List.map_map, cutPieces]
  simp only [Function.comp_def, written]

end Swatch.Css
