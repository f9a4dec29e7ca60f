import Mathlib.Data.List.Basic
import Swatch.Css.Variables
import Swatch.Proofs.Css.Steady

/-!
# References to variables

A variable is known by the name that its declaration has: escapes are resolved, and the blanks at
the end do not count. A reference is looked up by the text it is written as. The two meet exactly
for the names that are written without escapes and whose blanks all stand at the end
(`referencedVariable?_reference`).

A name that is written into a style sheet is read back (`significant_identText`). Only the null
character is no part of a name: where it is written, its replacement is read.
-/

namespace Swatch.Css

open Text

/-- The name of a variable, by what stands behind its two hyphens. -/
def variableName (own : List Char) : String :=
  String.ofList ('-' :: '-' :: own)

/-- A reference to a variable. -/
def reference (name : String) : String :=
  String.ofList ("var(".toList ++ (writeIdent name.toList ++ [')']))

/-- The references to a variable find its definitions, by what stands behind its two hyphens: it
is written without escapes, and has no blanks but at its end. -/
def isReferable (own : List Char) : Bool :=
  own.all isNameChar && !(trimEnd own).isEmpty && (trimEnd own).all (!isBlank ·)

theorem toList_reference (name : String) :
    (reference name).toList = 'v' :: 'a' :: 'r' :: '(' :: (writeIdent name.toList ++ [')']) :=
  String.toList_ofList

/-! ## Names without their blanks -/

theorem trimmed_variableName (own : List Char) :
    trimmed (variableName own) = variableName (trimEnd own) := by
  have hyphen : isBlank '-' = false := rfl
  have kept : trimEnd ('-' :: '-' :: own) = '-' :: '-' :: trimEnd own := by
    rw [trimEnd, trimEnd]
    cases trimEnd own <;> simp [hyphen]
  rw [trimmed, variableName, String.toList_ofList, trim, List.dropWhile_cons, hyphen,
    if_neg (by simp), kept, variableName]

theorem variableName_inj {own own' : List Char} :
    variableName own = variableName own' ↔ own = own' :=
  ⟨fun same => (List.cons.inj (List.cons.inj (String.ofList_injective same)).2).2, congrArg _⟩

/-! ## What a reference is looked up by -/

theorem not_isVariableChar_of_isBlank {c : Char} (blank : isBlank c) :
    isVariableChar c = false := by
  simp [isVariableChar, blank]

/-- Of the text between the brackets a reference is looked up by all that stands before the blanks
at its end, if no bracket, comma or other blank stands there. -/
theorem referencedVariable?_eq_some_iff {spelled : List Char} {name : String} :
    referencedVariable? (String.ofList ("var(--".toList ++ (spelled ++ [')']))) = some name ↔
      ∃ own blanks, spelled = own ++ blanks ∧ own ≠ [] ∧ own.all isVariableChar ∧
        blanks.all isBlank ∧ name = variableName own := by
  have opening : "var(".toList.isPrefixOf? ("var(--".toList ++ (spelled ++ [')'])) =
      some ('-' :: '-' :: (spelled ++ [')'])) := rfl
  have hyphens : variableStart.toList.isPrefixOf?
      (('-' :: '-' :: (spelled ++ [')'])).dropWhile isBlank) = some (spelled ++ [')']) := rfl
  have stops : [')'].head?.any isVariableChar = false := rfl
  have last : [')'].head?.any isBlank = false := rfl
  simp only [referencedVariable?, String.toList_ofList, opening, hyphens, Option.bind_eq_bind,
    Option.bind_some, takeWhile_append_stop stops, dropWhile_append_stop stops,
    dropWhile_append_stop last]
  constructor
  · intro found
    by_cases empty : (spelled.takeWhile isVariableChar).isEmpty
    · rw [if_pos empty] at found
      cases found
    · rw [if_neg empty] at found
      cases rest : (spelled.dropWhile isVariableChar).dropWhile isBlank with
      | nil =>
        rw [rest] at found
        refine ⟨spelled.takeWhile isVariableChar, spelled.dropWhile isVariableChar,
          List.takeWhile_append_dropWhile.symm, by simpa using empty, List.all_takeWhile, ?_, ?_⟩
        · simpa using List.dropWhile_eq_nil_iff.mp rest
        · rw [← Option.some.inj found, variableName]
          exact String.toList_inj.mp (by simp [variableStart])
      | cons c cs =>
        rw [rest, List.cons_append] at found
        split at found
        next short => simp at short
        next long =>
          have last := congrArg List.getLast? (List.cons.inj long).2
          simp at last
        next => cases found
  · rintro ⟨own, blanks, rfl, nonempty, all, blank, rfl⟩
    have stops : blanks.head?.any isVariableChar = false := by
      cases blanks with
      | nil => rfl
      | cons c blanks =>
        rw [List.all_cons, Bool.and_eq_true] at blank
        exact not_isVariableChar_of_isBlank blank.1
    rw [takeWhile_run all stops, dropWhile_run all stops, if_neg (by simpa using nonempty),
      List.dropWhile_eq_nil_iff.mpr (by simpa using blank), variableName]
    exact congrArg Option.some (String.toList_inj.mp (by simp [variableStart]))

/-! ## Written names -/

theorem writeIdent_variableName (own : List Char) :
    writeIdent (variableName own).toList = '-' :: '-' :: writeName own := by
  rw [variableName, String.toList_ofList]
  rfl

theorem reference_variableName (own : List Char) :
    reference (variableName own) = String.ofList ("var(--".toList ++ (writeName own ++ [')'])) := by
  apply String.toList_inj.mp
  rw [toList_reference, writeIdent_variableName]
  simp

/-- Every character that is escaped brings one backslash. -/
theorem count_writeName (own : List Char) :
    (writeName own).count '\\' = own.count '\\' + own.countP (!isNameChar ·) := by
  have each (c : Char) : (writeNameChar c).count '\\' =
      [c].count '\\' + [c].countP (!isNameChar ·) := by
    rw [writeNameChar]
    by_cases plain : isNameChar c
    · simp [plain]
    · rw [if_neg plain, writeEscaped]
      cases line : lineEscape? c with
      | some written =>
        unfold lineEscape? at line
        split at line
        next => rw [← Option.some.inj line]; rfl
        next => rw [← Option.some.inj line]; rfl
        next => rw [← Option.some.inj line]; rfl
        next => cases line
      | none => simp [plain]
  induction own with
  | nil => rfl
  | cons c own ih =>
    have step : writeName (c :: own) = writeNameChar c ++ writeName own := rfl
    have split : c :: own = [c] ++ own := rfl
    rw [step, List.count_append, each, ih, split, List.count_append, List.countP_append]
    omega

theorem count_blanks {blanks : List Char} (blank : blanks.all isBlank) : blanks.count '\\' = 0 := by
  rw [List.count_eq_zero]
  intro member
  exact absurd (List.all_eq_true.mp blank _ member) (by decide)

/-- The definitions of a variable are found by its references exactly when it is referable. -/
theorem referencedVariable?_reference (own : List Char) :
    referencedVariable? (reference (variableName own)) = some (trimmed (variableName own)) ↔
      isReferable own = true := by
  rw [reference_variableName, trimmed_variableName, referencedVariable?_eq_some_iff]
  obtain ⟨back, behind, whole, -⟩ := exists_trimEnd own
  simp only [isReferable, Bool.and_eq_true, Bool.not_eq_true', List.isEmpty_eq_false_iff]
  constructor
  · rintro ⟨front, blanks, written, nonempty, all, blank, same⟩
    rw [variableName_inj] at same
    subst same
    have spelled := count_writeName own
    have core := congrArg (List.count '\\') whole
    rw [written, List.count_append, count_blanks blank] at spelled
    rw [List.count_append, count_blanks behind] at core
    have plain : own.countP (!isNameChar ·) = 0 := by omega
    refine ⟨⟨?_, nonempty⟩, ?_⟩
    · simpa [List.countP_eq_zero] using plain
    · rw [List.all_eq_true] at all ⊢
      intro c member
      have own := all c member
      simp only [isVariableChar, Bool.and_eq_true] at own
      exact own.1.1.1
  · rintro ⟨⟨plain, nonempty⟩, solid⟩
    refine ⟨trimEnd own, back, ?_, nonempty, ?_, behind, rfl⟩
    · rw [writeName_plain plain, ← whole]
    · rw [List.all_eq_true] at plain solid ⊢
      intro c member
      have name := plain c (by rw [whole]; exact List.mem_append_left _ member)
      simp only [isVariableChar, Bool.and_eq_true, bne_iff_ne]
      refine ⟨⟨⟨solid c member, ?_⟩, ?_⟩, ?_⟩ <;>
        · rintro rfl
          cases name

/-! ## Names in a style sheet -/

/-- The character of a name that is read where this one is written. -/
def received (c : Char) : Char :=
  if c = '\x00' then replacement else c

/-- A character of a name as it is read, before its escape is resolved. -/
def arriving (c : Char) : List Char :=
  if c = '\x00' then ['\\', replacement] else writeNameChar c

theorem all_isKept_writeNameChar {c : Char} (nonnull : c ≠ '\x00') :
    (writeNameChar c).all isKept = true := by
  rw [writeNameChar]
  by_cases name : isNameChar c
  · simp [name, isKept_of_isNameChar name]
  · rw [if_neg name, writeEscaped]
    unfold lineEscape?
    split
    next => rfl
    next => rfl
    next => rfl
    next feed carriage line =>
      have kept : isKept c = true := by
        simp only [isKept, Bool.and_eq_true, bne_iff_ne]
        exact ⟨⟨carriage, line⟩, nonnull⟩
      have backslash : isKept '\\' = true := rfl
      simp [kept, backslash]

theorem all_isKept_writeName {own : List Char} (nonnull : '\x00' ∉ own) :
    (writeName own).all isKept = true := by
  rw [writeName, List.all_flatMap, List.all_eq_true]
  intro c member
  apply all_isKept_writeNameChar
  rintro rfl
  exact nonnull member

theorem normalized_writeName (own rest : List Char) :
    normalized (writeName own ++ rest) = own.flatMap arriving ++ normalized rest := by
  induction own with
  | nil => rfl
  | cons c own ih =>
    have step : writeName (c :: own) = writeNameChar c ++ writeName own := rfl
    rw [step, List.flatMap_cons, List.append_assoc, List.append_assoc, ← ih, arriving]
    by_cases null : c = '\x00'
    · rw [if_pos null, null]
      rfl
    · rw [if_neg null, normalized_append_of_kept (all_isKept_writeNameChar null)]

theorem readName_arriving (own : List Char) {rest : List Char} (ends : endsName rest) :
    readName (own.flatMap arriving ++ rest) = (own.map received, rest) := by
  induction own with
  | nil => exact readName_of_endsName rest ends
  | cons c own ih =>
    rw [List.flatMap_cons, List.append_assoc, arriving, List.map_cons, received]
    by_cases null : c = '\x00'
    · rw [if_pos null, if_pos null]
      have escaped := readName_writeEscaped (c := replacement) (by decide)
        (own.flatMap arriving ++ rest)
      rw [ih] at escaped
      exact escaped
    · rw [if_neg null, if_neg null, readName_writeNameChar, ih]

/-- The name of a variable that was written into a text is read from it. -/
theorem significant_variableName (own : List Char) {rest : List Char} (ends : endsName rest)
    (round : rest.head? ≠ some '(') (hidden : rest.head? ≠ some '>') :
    significant ('-' :: '-' :: (own.flatMap arriving ++ rest)) =
      .token (.ident (variableName (own.map received))) :: significant rest := by
  have hyphen : isNameChar '-' = true := rfl
  have named : readName ('-' :: '-' :: (own.flatMap arriving ++ rest)) =
      ('-' :: '-' :: own.map received, rest) := by
    rw [readName_nameChar hyphen, readName_nameChar hyphen, readName_arriving own ends]
  obtain ⟨c, cs, spelled, read⟩ := Lexeme.read_of_readName rfl named (fun _ => hidden)
    (by rintro (same | same) <;> cases same)
  obtain ⟨rfl, rfl⟩ := List.cons.inj spelled
  refine significant_of_read ?_ (by simp)
  rw [read, Lexeme.readWord, named, variableName]
  cases rest with
  | nil => simp
  | cons d ds =>
    have other : d ≠ '(' := fun same => round (by rw [same]; rfl)
    simp [other]

/-- A reference is written for one component. -/
theorem isSingle_reference {own : List Char} (nonnull : '\x00' ∉ own) :
    IsSingle (reference (variableName own))
      (.group () (.function "var") [.leaf () (.ident (variableName own))]) := by
  have opening : (Lexeme.opening (.function "var")).Lasts :=
    ⟨⟨by decide, by decide⟩, rfl, by decide⟩
  have name : (Lexeme.token (.ident (variableName own))).Lasts := by
    refine ⟨?_, rfl, ?_⟩
    · change (variableName own).toList ≠ []
      rw [variableName, String.toList_ofList]
      simp
    · change (writeIdent (variableName own).toList).all isKept
      rw [writeIdent_variableName, List.all_cons, List.all_cons, all_isKept_writeName nonnull]
      rfl
  have closing : (Lexeme.closing .round).Lasts := ⟨trivial, rfl, rfl⟩
  have lexemes : Component.lexemes
      (.group () (.function "var") [.leaf () (.ident (variableName own))]) =
      [.opening (.function "var"), .token (.ident (variableName own)), .closing .round] := by
    rw [Component.lexemes_group]
    simp [Opener.brackets]
  have written := toList_reference (variableName own)
  have row (name : String) : rowText [.opening (.function "var"), .token (.ident name),
      .closing .round] = 'v' :: 'a' :: 'r' :: '(' :: (writeIdent name.toList ++ [')']) := rfl
  refine ⟨?_, ?_, ⟨?_, ?_⟩, ?_, rfl, rfl⟩
  · rw [lexemes]
    refine .cons opening (fun next _ => ⟨Lexeme.meets_of_kindBefore rfl next, fun row => ?_⟩)
      (.cons name (fun next first => ?_) (.singleton closing))
    · simp [Lexeme.Fuses, Lexeme.kind]
    · rw [← Option.some.inj first]
      exact Lexeme.beside_closing _ .round
  · rw [written, lexemes, row]
  · rw [written]
    rfl
  · have last : isBlank ')' = false := rfl
    simp [written, List.getLast?_cons, last]
  · intro empty
    rw [empty] at written
    cases written

end Swatch.Css
