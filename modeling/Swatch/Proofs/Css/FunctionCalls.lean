import Swatch.Proofs.Css.Rereading
import Swatch.Proofs.Outcome

/-!
# Functions around plain texts

A plain text between the brackets of a function is one component with the components of the text in
it (`components_call`). What is written for that component is again a call, of what is written for
the components in it (`written_call`), and it reads back (`readsBack_call`). So a call is cut into
nothing but itself (`items_call`).
-/

namespace Swatch.Css

open Text

/-! ## Calls -/

/-- A name that a bracket makes the opening of a function, with characters of plain texts. -/
structure FunctionName (name : String) : Prop where
  starts : startsName name.toList
  chars : name.toList.all isNameChar
  plain : name.toList.all isPlain
  other : asciiLowered name ≠ "url"

/-- A function with a text between its brackets. -/
def callText (name arguments : String) : String :=
  name ++ "(" ++ arguments ++ ")"

section Calls

variable {name arguments : String}

theorem toList_callText :
    (callText name arguments).toList = name.toList ++ '(' :: (arguments.toList ++ [')']) := by
  simp [callText]

theorem FunctionName.not_blank (function : FunctionName name) {c : Char}
    (member : c ∈ name.toList) :
    isBlank c = false := by
  rw [Bool.eq_false_iff, ne_eq, isBlank_iff_of_plain (List.all_eq_true.mp function.plain c member)]
  rintro rfl
  exact absurd (List.all_eq_true.mp function.chars ' ' member) (by decide)

/-- A call has no blanks around it. -/
theorem solid_callText (function : FunctionName name) (arguments : String) :
    Solid (callText name arguments).toList := by
  rw [toList_callText]
  constructor
  · cases letters : name.toList with
    | nil => rfl
    | cons c cs => exact function.not_blank (by simp [letters])
  · rw [← List.cons_append, ← List.append_assoc, List.getLast?_concat]
    rfl

theorem FunctionName.written (function : FunctionName name) :
    (Lexeme.opening (.function name)).write = name.toList ++ ['('] := by
  change writeIdent name.toList ++ ['('] = _
  rw [writeIdent_plain function.starts function.chars]

theorem FunctionName.valid (function : FunctionName name) :
    (Lexeme.opening (.function name)).Valid := by
  refine ⟨?_, function.other⟩
  intro empty
  have starts := function.starts
  rw [empty] at starts
  cases starts

/-- The closing bracket of a plain text is no part of an address. -/
theorem plain_closed {text : List Char} (plain : Plain text) : Plain (text ++ [')']) where
  chars := by
    rw [List.all_append, plain.chars]
    rfl
  free := by
    rw [List.map_append]
    rintro ⟨front, rest, whole⟩
    rcases List.eq_nil_or_concat rest with rfl | ⟨rest, c, rfl⟩
    · have last := congrArg List.getLast? whole
      have closing : asciiLower ')' = ')' := by decide
      simp [closing] at last
    · rw [List.concat_eq_append, ← List.append_assoc] at whole
      exact plain.free ⟨front, rest, (List.append_inj' whole rfl).1⟩

theorem significant_closed {text : List Char} (plain : Plain text) :
    significant (text ++ [')']) = significant text ++ [.closing .round] := by
  have ends : (Lexeme.closing .round).EndsBefore [] := trivial
  have closing := significant_write (.closing .round) trivial ends
  rw [List.append_nil, significant_nil] at closing
  rw [significant_append_stop plain.calm rfl]
  exact congrArg _ closing

/-- The component of a function with components in it. -/
def functionOf (name : String) (content : List (Component Unit)) : Component Unit :=
  .group () (.function name) content

variable (function : FunctionName name) (plain : Plain arguments.toList)
include function plain

/-- The lexemes of a call are those of its arguments between the brackets. -/
theorem significant_call :
    significant (callText name arguments).toList =
      .opening (.function name) :: (significant arguments.toList ++ [.closing .round]) := by
  have ends : (Lexeme.opening (.function name)).EndsBefore (arguments.toList ++ [')']) := trivial
  have opened := significant_write (.opening (.function name)) function.valid ends
  rw [function.written, List.append_assoc, List.singleton_append] at opened
  rw [toList_callText, opened, significant_closed plain]
  rfl

theorem overlong?_call :
    overlong? (callText name arguments).toList = overlong? arguments.toList := by
  rw [overlong?, significant_call function plain, overlong?, List.findSome?_cons,
    List.findSome?_append, overlong_opening, List.findSome?_singleton, overlong_closing,
    Option.or_none]

variable (balanced : Balanced 0 arguments.toList)
include balanced

/-- The row of a call is that of its component. -/
theorem lexemesOf_call :
    Component.lexemesOf [functionOf name (components arguments.toList)] =
      significant (callText name arguments).toList := by
  rw [significant_call function plain, functionOf, Component.lexemesOf_cons,
    Component.lexemesOf_nil,
    Component.lexemes_group, (readsBack_of_plain plain balanced).nested, List.append_nil]
  rfl

/-- A call is one component. -/
theorem components_call :
    components (callText name arguments).toList =
      [functionOf name (components arguments.toList)] := by
  rw [components, ← lexemesOf_call function plain balanced, Component.nested_lexemesOf]

/-- A call of a plain text is read back. -/
theorem readsBack_call : ReadsBack (callText name arguments).toList where
  rows := by
    have closed := plainRow_significant (plain_closed plain)
    rw [significant_closed plain] at closed
    rw [significant_call function plain, PlainRow, List.forall_mem_cons]
    have spells : Spells (name.toList ++ ['(']) (.opening (.function name)) [] := by
      have own : Spells (name.toList ++ ['(']) _ [] := .function function.starts function.chars
        (by rw [String.ofList_toList]; exact function.other)
      rwa [String.ofList_toList] at own
    refine ⟨⟨_, _, spells, ?_⟩, closed⟩
    rw [List.all_append, function.plain]
    rfl
  apart := by
    have closed := apart_of_plain (plain_closed plain)
    rw [significant_closed plain] at closed
    rw [significant_call function plain]
    refine ⟨function.valid, ?_, closed⟩
    cases significant arguments.toList ++ [.closing .round] with
    | nil => exact id
    | cons next row =>
      rintro (⟨spaces, more, same, -⟩ | ⟨same, -⟩ | ⟨same | same, -⟩ | ⟨same, -⟩ |
        ⟨same | same, -⟩) <;> cases same
  nested := by
    rw [components_call function plain balanced, lexemesOf_call function plain balanced]
  kept := by
    have name_kept := all_isKept_of (fun _ => isKept_of_isNameChar) function.chars
    have kept := all_isKept_of (fun _ => isKept_of_plain) (plain_closed plain).chars
    rw [toList_callText, List.all_append, List.all_cons, name_kept, kept]
    rfl

/-! ## Calls as they are written -/

/-- What is written for a call is a call of what is written for its arguments. -/
theorem written_call :
    writeComponents (components (callText name arguments).toList) =
      callText name (writeComponents (components arguments.toList)) := by
  have back := readsBack_of_plain plain balanced
  have closed : Component.lastEndsUnclosed (components arguments.toList) = false := by
    refine Component.lastEndsUnclosed_eq_false _ ?_
    rw [back.nested]
    exact back.rows.allClosed
  rw [components_call function plain balanced, ← String.toList_inj, toList_callText,
    writeComponents,
    writeComponents, String.toList_ofList, String.toList_ofList, functionOf, Component.writeFrom,
    Component.writeFrom, Component.write, closed, Component.writeOpener,
    writeIdent_plain function.starts function.chars]
  simp [Component.gap]

/-- A call is one piece. -/
theorem cutPieces_call {separates : Component Unit → Bool}
    (joins : separates (functionOf name (components arguments.toList)) = false) :
    cutPieces separates (components (callText name arguments).toList) =
      [callText name (writeComponents (components arguments.toList))] := by
  have written := written_call function plain balanced
  rw [components_call function plain balanced] at written ⊢
  have trimmed : writeTrimmed [functionOf name (components arguments.toList)] =
      callText name (writeComponents (components arguments.toList)) := by
    rw [writeTrimmed, written, Text.trimmed, trim_solid (solid_callText function _),
      String.ofList_toList]
  have nonempty : callText name (writeComponents (components arguments.toList)) ≠ "" := by
    intro empty
    have letters := congrArg String.toList empty
    rw [toList_callText] at letters
    simp at letters
  rw [cutPieces, List.splitOnP_cons_eq_if_modifyHead, joins, List.splitOnP_nil]
  simp [trimmed, nonempty]

/-- A call is cut into nothing but itself as it is written. -/
theorem items_call :
    Value.items (callText name arguments) =
      match overlong? arguments.toList with
      | some count => .error (.tooManyDigits count)
      | none => .ok [callText name (writeComponents (components arguments.toList))] := by
  have back := readsBack_call function plain balanced
  have commas : cutPieces (·.isDelim ",") (components (callText name arguments).toList) = _ :=
    cutPieces_call function plain balanced rfl
  have spaces : cutPieces (·.isWhitespace) (components (callText name arguments).toList) = _ :=
    cutPieces_call function plain balanced rfl
  rw [Value.items, commaPieces_eq, back.normalized_eq, overlong?_call function plain, commas]
  cases found : overlong? arguments.toList with
  | some count => rfl
  | none =>
    dsimp only
    rw [Outcome.ok_bind, List.mapM_cons, List.mapM_nil, ← written_call function plain balanced,
      back.spacePieces_written, spacePieces_eq, back.normalized_eq, overlong?_call function plain,
      found, spaces, written_call function plain balanced]
    rfl

end Calls

end Swatch.Css
