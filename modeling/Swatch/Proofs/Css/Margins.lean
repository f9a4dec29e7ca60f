import Mathlib.Data.List.DropRight
import Swatch.Proofs.Css.Nesting
import Swatch.Proofs.Text.Trimming

/-!
# Spaces around components

Spaces before and after components are lost where these are written without the blanks around them,
and so they are where the components are cut into pieces first (`cutPieces_margins`). A row of
lexemes splits in the same way: into a row that neither starts nor ends with spaces, and the spaces
around it (`exists_middle`).
-/

namespace Swatch.Css

open Text

/-- Runs of spaces as lexemes. -/
def spaceRuns (runs : List String) : List Lexeme :=
  runs.map fun run => .token (.whitespace run)

/-- Runs of spaces as components. -/
def spaceLeaves (runs : List String) : List (Component Unit) :=
  runs.map fun run => .leaf () (.whitespace run)

/-- All of the runs hold nothing but blanks. -/
def AllBlank (runs : List String) : Prop :=
  ∀ run ∈ runs, run.toList.all isBlank

/-! ## Pieces -/

section Pieces

variable {separates : Component Unit → Bool} {run : String}

theorem writeFrom_other (found : List (Component Unit)) :
    Component.writeFrom (some .other) found = Component.writeFrom none found := by
  cases found with
  | nil => rw [Component.writeFrom, Component.writeFrom]
  | cons component rest =>
    have free : Component.gap (some .other) component = [] := by
      simp [Component.gap, Kind.clashing]
    rw [Component.writeFrom, Component.writeFrom, free]
    rfl

/-- Spaces before components are no part of their text. -/
theorem writeTrimmed_cons_space (blank : run.toList.all isBlank) (found : List (Component Unit)) :
    writeTrimmed (.leaf () (.whitespace run) :: found) = writeTrimmed found := by
  have written : Component.writeFrom none (.leaf () (.whitespace run) :: found) =
      run.toList ++ Component.writeFrom none found := by
    rw [Component.writeFrom, Component.write]
    exact congrArg (run.toList ++ ·) (writeFrom_other found)
  unfold writeTrimmed writeComponents trimmed
  rw [written, String.toList_ofList, String.toList_ofList, trim_blanks_append blank]

theorem writeFrom_concat_space (found : List (Component Unit)) (blank : run.toList.all isBlank)
    (before : Option Kind) :
    ∃ blanks, blanks.all isBlank ∧
      Component.writeFrom before (found ++ [.leaf () (.whitespace run)]) =
        Component.writeFrom before found ++ blanks := by
  induction found generalizing before with
  | nil =>
    have gap : (Component.gap before (.leaf () (.whitespace run))).all isBlank := by
      cases before with
      | none => rfl
      | some kind =>
        have free : ¬Kind.other ∈ kind.clashing := other_not_mem_clashing kind
        unfold Component.gap
        change (if Kind.other ∈ kind.clashing then _ else _ : List Char).all isBlank
        rw [if_neg free]
        split <;> rfl
    refine ⟨Component.gap before (.leaf () (.whitespace run)) ++ run.toList, ?_, ?_⟩
    · rw [List.all_append, gap, blank]
      rfl
    · rw [List.nil_append, Component.writeFrom, Component.writeFrom, Component.writeFrom,
        Component.write, List.append_nil, List.nil_append]
      rfl
  | cons component rest ih =>
    obtain ⟨blanks, all, written⟩ := ih (some component.kind)
    refine ⟨blanks, all, ?_⟩
    rw [List.cons_append, Component.writeFrom, Component.writeFrom, written, List.append_assoc,
      List.append_assoc, List.append_assoc]

/-- Spaces after components are no part of their text. -/
theorem writeTrimmed_concat_space (blank : run.toList.all isBlank)
    (found : List (Component Unit)) :
    writeTrimmed (found ++ [.leaf () (.whitespace run)]) = writeTrimmed found := by
  obtain ⟨blanks, all, written⟩ := writeFrom_concat_space found blank none
  unfold writeTrimmed writeComponents trimmed
  rw [written, String.toList_ofList, String.toList_ofList, trim_append_blanks _ all]

theorem cutPieces_cons_space (blank : run.toList.all isBlank)
    (joins : separates (.leaf () (.whitespace run)) = false) (found : List (Component Unit)) :
    cutPieces separates (.leaf () (.whitespace run) :: found) = cutPieces separates found := by
  unfold cutPieces
  rw [List.splitOnP_cons_eq_if_modifyHead, joins, if_neg Bool.false_ne_true]
  cases found.splitOnP separates with
  | nil => rfl
  | cons piece pieces =>
    rw [List.modifyHead_cons, List.map_cons, List.map_cons, writeTrimmed_cons_space blank]

/-- A component that does not separate belongs to the last piece. -/
theorem splitOnP_concat {last : Component Unit} (joins : separates last = false)
    (found : List (Component Unit)) :
    ∃ pieces piece, found.splitOnP separates = pieces ++ [piece] ∧
      (found ++ [last]).splitOnP separates = pieces ++ [piece ++ [last]] := by
  induction found with
  | nil =>
    refine ⟨[], [], rfl, ?_⟩
    rw [List.nil_append, List.splitOnP_cons_eq_if_modifyHead, joins]
    rfl
  | cons component found ih =>
    obtain ⟨pieces, piece, before, after⟩ := ih
    rw [List.cons_append, List.splitOnP_cons_eq_if_modifyHead,
      List.splitOnP_cons_eq_if_modifyHead, before, after]
    split
    · exact ⟨[] :: pieces, piece, rfl, rfl⟩
    · cases pieces with
      | nil => exact ⟨[], component :: piece, rfl, rfl⟩
      | cons first pieces => exact ⟨(component :: first) :: pieces, piece, rfl, rfl⟩

theorem cutPieces_concat_space (blank : run.toList.all isBlank)
    (joins : separates (.leaf () (.whitespace run)) = false) (found : List (Component Unit)) :
    cutPieces separates (found ++ [.leaf () (.whitespace run)]) = cutPieces separates found := by
  obtain ⟨pieces, piece, before, after⟩ := splitOnP_concat joins found
  unfold cutPieces
  rw [before, after, List.map_append, List.map_append, List.map_singleton, List.map_singleton,
    writeTrimmed_concat_space blank]

end Pieces

/-! ## Spaces on both sides -/

section Margins

variable {lead trail : List String}

/-- What no space at the start and none at the end changes, the spaces on both sides do not
change. -/
theorem eq_of_margins {β : Type} {value : List (Component Unit) → β}
    (start : ∀ run found, run.toList.all isBlank →
      value (.leaf () (.whitespace run) :: found) = value found)
    (last : ∀ run found, run.toList.all isBlank →
      value (found ++ [.leaf () (.whitespace run)]) = value found)
    (before : AllBlank lead) (after : AllBlank trail) (found : List (Component Unit)) :
    value (spaceLeaves lead ++ (found ++ spaceLeaves trail)) = value found := by
  induction lead with
  | nil =>
    change value (found ++ spaceLeaves trail) = value found
    induction trail generalizing found with
    | nil => rw [spaceLeaves, List.map_nil, List.append_nil]
    | cons run trail ih =>
      rw [AllBlank, List.forall_mem_cons] at after
      change value (found ++ (.leaf () (.whitespace run) :: spaceLeaves trail)) = value found
      rw [List.append_cons, ih after.2, last run found after.1]
  | cons run lead ih =>
    rw [AllBlank, List.forall_mem_cons] at before
    change value (.leaf () (.whitespace run) :: (spaceLeaves lead ++ _)) = value found
    rw [start run _ before.1, ih before.2]

theorem writeTrimmed_margins (before : AllBlank lead) (after : AllBlank trail)
    (found : List (Component Unit)) :
    writeTrimmed (spaceLeaves lead ++ (found ++ spaceLeaves trail)) = writeTrimmed found :=
  eq_of_margins (fun _ found blank => writeTrimmed_cons_space blank found)
    (fun _ found blank => writeTrimmed_concat_space blank found) before after found

theorem cutPieces_margins {separates : Component Unit → Bool}
    (joins : ∀ run, separates (.leaf () (.whitespace run)) = false) (before : AllBlank lead)
    (after : AllBlank trail) (found : List (Component Unit)) :
    cutPieces separates (spaceLeaves lead ++ (found ++ spaceLeaves trail)) =
      cutPieces separates found :=
  eq_of_margins (fun run found blank => cutPieces_cons_space blank (joins run) found)
    (fun run found blank => cutPieces_concat_space blank (joins run) found) before after found

end Margins

/-! ## Rows -/

theorem lexemesOf_spaceLeaves (runs : List String) :
    Component.lexemesOf (spaceLeaves runs) = spaceRuns runs := by
  induction runs with
  | nil => exact Component.lexemesOf_nil
  | cons run runs ih =>
    change Component.lexemesOf (.leaf () (.whitespace run) :: spaceLeaves runs) = _
    rw [Component.lexemesOf_cons, ih, Component.lexemes_leaf]
    rfl

/-- The lexeme is a run of spaces. -/
def Lexeme.isWhitespace : Lexeme → Bool
  | token part => part.isWhitespace
  | _ => false

theorem Lexeme.isWhitespace_iff {lexeme : Lexeme} :
    lexeme.isWhitespace = true ↔ ∃ run, lexeme = .token (.whitespace run) := by
  constructor
  · intro space
    cases lexeme with
    | token part =>
      cases part with
      | whitespace run => exact ⟨run, rfl⟩
      | _ => cases space
    | _ => cases space
  · rintro ⟨run, rfl⟩
    rfl

theorem exists_spaceRuns (row : List Lexeme) (all : row.all Lexeme.isWhitespace) :
    ∃ runs, row = spaceRuns runs := by
  induction row with
  | nil => exact ⟨[], rfl⟩
  | cons lexeme row ih =>
    rw [List.all_cons, Bool.and_eq_true] at all
    obtain ⟨run, rfl⟩ := Lexeme.isWhitespace_iff.mp all.1
    obtain ⟨runs, rfl⟩ := ih all.2
    exact ⟨run :: runs, rfl⟩

/-- A row is a row that neither starts nor ends with spaces, with spaces around it. -/
theorem exists_middle (row : List Lexeme) :
    ∃ lead middle trail, row = spaceRuns lead ++ (middle ++ spaceRuns trail) ∧
      (∀ first, middle.head? = some first → first.isWhitespace = false) ∧
      ∀ last, middle.getLast? = some last → last.isWhitespace = false := by
  obtain ⟨lead, lead_eq⟩ := exists_spaceRuns (row.takeWhile Lexeme.isWhitespace)
    (List.all_eq_true.mpr fun _ => List.mem_takeWhile_imp)
  obtain ⟨rest, rest_eq⟩ : ∃ rest, rest = row.dropWhile Lexeme.isWhitespace := ⟨_, rfl⟩
  obtain ⟨trail, trail_eq⟩ := exists_spaceRuns (rest.rtakeWhile Lexeme.isWhitespace)
    (List.all_eq_true.mpr fun _ => List.mem_rtakeWhile_imp)
  refine ⟨lead, rest.rdropWhile Lexeme.isWhitespace, trail, ?_, ?_, ?_⟩
  · rw [← trail_eq, ← lead_eq, List.rdropWhile_append_rtakeWhile, rest_eq,
      List.takeWhile_append_dropWhile]
  · intro first head
    have prefixed := List.rdropWhile_prefix Lexeme.isWhitespace rest
    obtain ⟨back, whole⟩ := prefixed
    have starts : rest.head? = some first := by
      rw [← whole, List.head?_append, head]
      rfl
    rw [rest_eq] at starts
    have stops := List.head?_dropWhile_not Lexeme.isWhitespace row
    rw [starts] at stops
    exact stops
  · intro last ends
    have nonempty : rest.rdropWhile Lexeme.isWhitespace ≠ [] := by
      intro empty
      rw [empty] at ends
      cases ends
    have stops := List.rdropWhile_last_not Lexeme.isWhitespace rest nonempty
    rw [List.getLast?_eq_some_getLast nonempty] at ends
    rw [Option.some.inj ends] at stops
    exact Bool.eq_false_iff.mpr stops

/-- Spaces close nothing and open nothing. -/
theorem closes_margins {lead trail : List String} {row : List Lexeme} {brackets : List Bracket} :
    Component.Closes brackets (spaceRuns lead ++ (row ++ spaceRuns trail)) ↔
      Component.Closes brackets row := by
  induction lead with
  | cons run lead ih => exact ih
  | nil =>
    change Component.Closes brackets (row ++ spaceRuns trail) ↔ _
    induction row generalizing brackets with
    | nil =>
      induction trail with
      | nil => rfl
      | cons run trail ih => exact ih
    | cons lexeme row ih =>
      cases lexeme with
      | token part => exact ih
      | opening opener => exact ih
      | comment => exact ih
      | closing bracket =>
        cases brackets with
        | nil => rfl
        | cons innermost outer => exact and_congr_right fun _ => ih

/-- A closed row with spaces around it is nested to the components of the row, with the spaces
around them. -/
theorem nested_margins {lead trail : List String} {row : List Lexeme} (plain : .comment ∉ row)
    (closes : Component.Closes [] row) :
    Component.nested (spaceRuns lead ++ (row ++ spaceRuns trail)) =
      spaceLeaves lead ++ (Component.nested row ++ spaceLeaves trail) := by
  have whole := Component.lexemesOf_nested plain closes
  have nested := Component.nested_lexemesOf
    (spaceLeaves lead ++ (Component.nested row ++ spaceLeaves trail))
  rw [Component.lexemesOf_append, Component.lexemesOf_append, lexemesOf_spaceLeaves,
    lexemesOf_spaceLeaves, whole] at nested
  exact nested

end Swatch.Css
