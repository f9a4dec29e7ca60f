import Swatch.Extraction
import Swatch.Proofs.Css.Sound
import Swatch.Proofs.Text.Trimming

/-!
# Where literals come from

A color that is given out is a literal, formatted or as it is
(`exists_literal_of_mem_ofStylesheet`). A literal names a color, and it was written from components
that were read: it is a piece of a value, a piece between the brackets of a gradient, or the value
of a variable.
-/

namespace Swatch

open Css
open Outcome (exists_of_bind_eq_ok exists_of_mem_mapM)

/-! ## Values of entries -/

namespace Entries

variable {κ β : Type} [BEq κ] {P : β → Prop} {entries changes : List (κ × β)}

/-- All values of the entries are as it says. -/
def AllValues (P : β → Prop) (entries : List (κ × β)) : Prop :=
  ∀ entry ∈ entries, P entry.2

theorem AllValues.put (all : AllValues P entries) (key : κ) {value : β} (own : P value) :
    AllValues P (put entries key value) := by
  induction entries with
  | nil => exact List.forall_mem_cons.mpr ⟨own, all⟩
  | cons entry rest ih =>
    rw [AllValues, List.forall_mem_cons] at all
    rw [Entries.put]
    split
    · exact List.forall_mem_cons.mpr ⟨own, all.2⟩
    · exact List.forall_mem_cons.mpr ⟨all.1, ih all.2⟩

theorem AllValues.putAll (all : AllValues P entries) (more : AllValues P changes) :
    AllValues P (putAll entries changes) := by
  induction changes generalizing entries with
  | nil => exact all
  | cons change changes ih =>
    rw [AllValues, List.forall_mem_cons] at more
    exact ih (all.put change.1 more.1) more.2

theorem AllValues.of_lookup [LawfulBEq κ] (all : AllValues P entries) {key : κ} {value : β}
    (found : entries.lookup key = some value) : P value := by
  obtain ⟨before, after, rfl, -⟩ := List.lookup_eq_some_iff.mp found
  exact all (key, value) (by simp)

end Entries

/-! ## Variables -/

namespace Css

/-- All values of the variables are written texts. -/
def Variables.AllWritten (scope : Variables) : Prop :=
  Entries.AllValues (fun value => ∀ text, value = some text → IsWritten text) scope

namespace SelectorVariables

variable {known : SelectorVariables}

theorem allWritten_own (all : Entries.AllValues Variables.AllWritten known)
    (selector : Option String) : (known.own selector).AllWritten := by
  rw [own]
  cases found : known.lookup selector with
  | none => exact fun _ member => by cases member
  | some scope => exact all.of_lookup found

theorem allWritten_define (all : Entries.AllValues Variables.AllWritten known)
    {declaration : Declaration} (written : IsWritten declaration.value) :
    Entries.AllValues Variables.AllWritten (known.define declaration) := by
  unfold define
  dsimp only
  split
  · refine all.put _ ((allWritten_own all _).put _ ?_)
    intro text same
    rw [← Option.some.inj same]
    exact written
  · exact all

/-- The variables that declarations define have values of these declarations. -/
theorem allWritten_ofDeclarations {declarations : List Declaration}
    (written : ∀ declaration ∈ declarations, IsWritten declaration.value) :
    Entries.AllValues Variables.AllWritten (ofDeclarations declarations) := by
  have steps (declarations : List Declaration) (known : SelectorVariables)
      (written : ∀ declaration ∈ declarations, IsWritten declaration.value)
      (all : Entries.AllValues Variables.AllWritten known) :
      Entries.AllValues Variables.AllWritten (declarations.foldl define known) := by
    induction declarations generalizing known with
    | nil => exact all
    | cons declaration rest ih =>
      rw [List.forall_mem_cons] at written
      exact ih _ written.2 (allWritten_define all written.1)
  exact steps declarations [] written fun _ member => by cases member

theorem allWritten_resolve (all : Entries.AllValues Variables.AllWritten known)
    (selector : Option String) : (known.resolve selector).AllWritten := by
  unfold resolve
  dsimp only
  split
  · exact allWritten_own all _
  · exact (allWritten_own all _).putAll (allWritten_own all _)

end SelectorVariables

/-- A written text has no blanks around it. -/
theorem IsWritten.trimmed {text : String} (written : IsWritten text) :
    Text.trimmed text = text := by
  obtain ⟨found, -, rfl⟩ := written
  obtain ⟨-, -, -, -, -, solid⟩ := Text.exists_trim (writeComponents found).toList
  unfold writeTrimmed Text.trimmed
  rw [String.toList_ofList, Text.trim_solid solid]

/-- A reference is replaced by a written text. -/
theorem isWritten_substitute {scope : Variables} (all : scope.AllWritten) {text : String}
    (written : IsWritten text) : IsWritten (scope.substitute text) := by
  unfold Variables.substitute
  split
  next value found =>
    obtain ⟨name, -, known⟩ := Option.bind_eq_some_iff.mp found
    unfold Variables.value? at known
    have own : scope.lookup name = some (some value) := Option.join_eq_some_iff.mp known
    have stored : IsWritten value := all.of_lookup own value rfl
    rw [stored.trimmed]
    exact stored
  next => exact written

/-! ## Pieces -/

theorem isWritten_of_mem_spacePieces {value : String} {pieces : List String}
    (cut : Value.spacePieces value = .ok pieces) {piece : String} (member : piece ∈ pieces) :
    IsWritten piece := by
  rw [spacePieces_eq] at cut
  cases short : overlong? (normalized value.toList) with
  | some count =>
    rw [short] at cut
    cases cut
  | none =>
    rw [short] at cut
    cases cut
    exact isWritten_of_mem_cutPieces (allSound_components (all_normalized _) short) member

theorem isWritten_of_mem_items {value : String} {found : List String}
    (cut : Value.items value = .ok found) {item : String} (member : item ∈ found) :
    IsWritten item := by
  unfold Value.items at cut
  obtain ⟨pieces, -, cut⟩ := exists_of_bind_eq_ok cut
  obtain ⟨parts, inner, cut⟩ := exists_of_bind_eq_ok cut
  cases cut
  obtain ⟨part, own, member⟩ := List.mem_flatten.mp member
  obtain ⟨piece, -, read⟩ := exists_of_mem_mapM inner own
  exact isWritten_of_mem_spacePieces read member

theorem isWritten_of_mem_openGradients {items found : List String}
    (opened : Value.openGradients items = .ok found)
    (written : ∀ item ∈ items, IsWritten item) {item : String} (member : item ∈ found) :
    IsWritten item := by
  unfold Value.openGradients at opened
  obtain ⟨parts, inner, opened⟩ := exists_of_bind_eq_ok opened
  cases opened
  obtain ⟨part, own, member⟩ := List.mem_flatten.mp member
  obtain ⟨whole, place, read⟩ := exists_of_mem_mapM inner own
  unfold Value.openGradient at read
  split at read
  next => exact isWritten_of_mem_items read member
  next =>
    cases read
    rw [List.mem_singleton.mp member]
    exact written whole place

/-! ## Literals -/

/-- A written text that names a color. -/
def IsLiteral (text : String) : Prop :=
  IsWritten text ∧ (Color.parse? text).isSome

end Css

theorem isWritten_of_mem_candidates {value : String} {scope : Option Variables}
    (all : ∀ known, scope = some known → known.AllWritten) {found : List String}
    (cut : candidates value scope = .ok found) {candidate : String} (member : candidate ∈ found) :
    IsWritten candidate := by
  unfold candidates at cut
  obtain ⟨items, inner, cut⟩ := exists_of_bind_eq_ok cut
  obtain ⟨opened, read, cut⟩ := exists_of_bind_eq_ok cut
  have written {item : String} (member : item ∈ opened) : IsWritten item :=
    isWritten_of_mem_openGradients read (fun _ own => isWritten_of_mem_items inner own) member
  cases scope with
  | none =>
    cases cut
    exact written member
  | some known =>
    cases cut
    obtain ⟨item, own, rfl⟩ := List.mem_map.mp member
    exact isWritten_substitute (all known rfl) (written own)

/-- A candidate that is kept names a color. -/
theorem mem_and_isSome_of_mem_kept {options : Options} {candidates found : List String}
    (judged : kept options candidates = .ok found) {candidate : String}
    (member : candidate ∈ found) :
    candidate ∈ candidates ∧ (Color.parse? candidate).isSome := by
  unfold kept at judged
  obtain ⟨verdicts, inner, judged⟩ := exists_of_bind_eq_ok judged
  cases judged
  obtain ⟨⟨text, verdict⟩, own, rfl⟩ := List.mem_map.mp member
  obtain ⟨place, keeps⟩ := List.mem_filter.mp own
  obtain ⟨original, before, computed⟩ := exists_of_mem_mapM inner place
  have verdict_eq : verdict = .kept := eq_of_beq keeps
  rw [verdict_eq] at computed
  cases outcome : Verdict.of options original with
  | error fault =>
    rw [outcome] at computed
    cases computed
  | ok own =>
    rw [outcome] at computed
    have same : (original, own) = (text, .kept) := Except.ok.inj computed
    obtain ⟨rfl, rfl⟩ := Prod.mk.inj same
    refine ⟨before, ?_⟩
    cases parsed : Color.parse? original with
    | none =>
      unfold Verdict.of at outcome
      rw [parsed] at outcome
      cases outcome
    | some color => rfl

theorem isLiteral_of_mem_literals {options : Options} {value : String} {scope : Option Variables}
    (all : ∀ known, scope = some known → known.AllWritten) {found : List String}
    (read : literals options value scope = .ok found) {literal : String}
    (member : literal ∈ found) : IsLiteral literal := by
  unfold literals at read
  obtain ⟨cut, before, judged⟩ := exists_of_bind_eq_ok read
  obtain ⟨place, named⟩ := mem_and_isSome_of_mem_kept judged member
  exact ⟨isWritten_of_mem_candidates all before place, named⟩

theorem isLiteral_of_mem_declarationsLiterals {options : Options} {known : SelectorVariables}
    (all : Entries.AllValues Variables.AllWritten known) {declarations : List Declaration}
    {found : List String}
    (read : declarationsLiterals options (some known) declarations = .ok found) {literal : String}
    (member : literal ∈ found) : IsLiteral literal := by
  unfold declarationsLiterals at read
  obtain ⟨parts, inner, read⟩ := exists_of_bind_eq_ok read
  cases read
  obtain ⟨part, own, member⟩ := List.mem_flatten.mp member
  obtain ⟨declaration, -, read⟩ := exists_of_mem_mapM inner own
  unfold declarationLiterals at read
  split at read
  next =>
    refine isLiteral_of_mem_literals (fun scope same => ?_) read member
    rw [← Option.some.inj same]
    exact SelectorVariables.allWritten_resolve all _
  next =>
    cases read
    cases member

/-! ## Arranged literals -/

namespace Palette

theorem mem_of_mem_unique {colors : List String} {color : String} (member : color ∈ unique colors) :
    color ∈ colors := by
  induction colors with
  | nil => cases member
  | cons first rest ih =>
    rw [unique] at member
    rcases List.mem_cons.mp member with rfl | member
    · exact List.mem_cons_self
    · exact List.mem_cons_of_mem _ (ih (List.mem_filter.mp member).1)

theorem mem_of_mem_byHue {colors ordered : List String} (sorted : byHue colors = .ok ordered)
    {color : String} (member : color ∈ ordered) : color ∈ colors := by
  unfold byHue at sorted
  obtain ⟨keyed, inner, sorted⟩ := exists_of_bind_eq_ok sorted
  cases sorted
  obtain ⟨⟨key, text⟩, own, rfl⟩ := List.mem_map.mp member
  obtain ⟨original, before, computed⟩ := exists_of_mem_mapM inner (List.mem_mergeSort.mp own)
  obtain ⟨angle, -, computed⟩ := exists_of_bind_eq_ok computed
  have same : (angle, original) = (key, text) := Except.ok.inj computed
  rw [← (Prod.mk.inj same).2]
  exact before

theorem mem_of_mem_byFrequency {colors : List String} {color : String}
    (member : color ∈ byFrequency colors) : color ∈ colors := by
  unfold byFrequency at member
  obtain ⟨⟨count, text⟩, own, rfl⟩ := List.mem_map.mp member
  obtain ⟨original, before, same⟩ := List.mem_map.mp (List.mem_mergeSort.mp own)
  rw [← (Prod.mk.inj same).2]
  exact before

/-- What is given out is a literal in the format that is asked for. -/
theorem exists_of_mem_arrange {options : Options} {literals arranged : List String}
    (done : arrange options literals = .ok arranged) {color : String} (member : color ∈ arranged) :
    ∃ literal ∈ literals, format options literal = .ok color := by
  unfold arrange at done
  obtain ⟨formatted, inner, done⟩ := exists_of_bind_eq_ok done
  obtain ⟨ordered, sorted, done⟩ := exists_of_bind_eq_ok done
  cases done
  have place : color ∈ ordered := by
    split at member
    next => exact member
    next => exact mem_of_mem_unique member
  have own : color ∈ formatted := by
    unfold inOrder at sorted
    split at sorted
    next =>
      cases sorted
      exact place
    next => exact mem_of_mem_byHue sorted place
    next =>
      cases sorted
      exact mem_of_mem_byFrequency place
  exact exists_of_mem_mapM inner own

end Palette

/-- The colors of a style sheet are literals, in the format that is asked for. -/
theorem exists_literal_of_mem_ofStylesheet {options : Options} {text : String}
    {colors : List String} (found : Extraction.ofStylesheet options text = .ok colors)
    {color : String} (member : color ∈ colors) :
    ∃ literal, IsLiteral literal ∧ Palette.format options literal = .ok color := by
  unfold Extraction.ofStylesheet at found
  obtain ⟨declarations, read, found⟩ := exists_of_bind_eq_ok found
  obtain ⟨literals, inner, found⟩ := exists_of_bind_eq_ok found
  obtain ⟨literal, own, formatted⟩ := Palette.exists_of_mem_arrange found member
  have written : ∀ declaration ∈ declarations, IsWritten declaration.value :=
    fun declaration member => isWritten_of_mem_declarations read member
  have known := SelectorVariables.allWritten_ofDeclarations written
  exact ⟨literal, isLiteral_of_mem_declarationsLiterals known inner own, formatted⟩

end Swatch
