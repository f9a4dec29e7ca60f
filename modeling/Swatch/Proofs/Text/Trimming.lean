import Swatch.Proofs.Text.Classes

/-!
# Texts without the blanks around them

Every text is its trimmed form with blanks around it (`exists_trim`), and the trimmed form is the
only one that neither starts nor ends with a blank (`trim_parts`).
-/

namespace Swatch.Text

/-- The text neither starts nor ends with a blank. -/
structure Solid (cs : List Char) : Prop where
  head : cs.head?.any isBlank = false
  last : cs.getLast?.any isBlank = false

theorem trimEnd_append (first second : List Char) (nonempty : trimEnd second ≠ []) :
    trimEnd (first ++ second) = first ++ trimEnd second := by
  induction first with
  | nil => rfl
  | cons c first ih =>
    rw [List.cons_append, trimEnd, ih]
    split
    next empty => exact (nonempty (List.append_eq_nil_iff.mp empty).2).elim
    next => rfl

theorem trimEnd_append_blanks (cs : List Char) {blanks : List Char} (all : blanks.all isBlank) :
    trimEnd (cs ++ blanks) = trimEnd cs := by
  induction cs with
  | nil =>
    induction blanks with
    | nil => rfl
    | cons c blanks ih =>
      rw [List.all_cons, Bool.and_eq_true] at all
      have rest : trimEnd blanks = [] := ih all.2
      simp [trimEnd, rest, all.1]
  | cons c cs ih => rw [List.cons_append, trimEnd, trimEnd, ih]

/-- A text that does not end with a blank is kept. -/
theorem trimEnd_of_last {cs : List Char} (last : cs.getLast?.any isBlank = false) :
    trimEnd cs = cs := by
  rcases List.eq_nil_or_concat cs with rfl | ⟨front, c, rfl⟩
  · rfl
  · have solid : isBlank c = false := by simpa using last
    have single : trimEnd [c] = [c] := by simp [trimEnd, solid]
    rw [List.concat_eq_append, trimEnd_append front [c] (by simp [single]), single]

theorem exists_trimEnd (cs : List Char) :
    ∃ back, back.all isBlank ∧ cs = trimEnd cs ++ back ∧
      (trimEnd cs).getLast?.any isBlank = false := by
  induction cs with
  | nil => exact ⟨[], rfl, rfl, rfl⟩
  | cons c cs ih =>
    obtain ⟨back, all, whole, last⟩ := ih
    rw [trimEnd]
    cases rest : trimEnd cs with
    | nil =>
      rw [rest, List.nil_append] at whole
      by_cases blank : isBlank c
      · exact ⟨c :: back, by simp [blank, all], by simp [blank, whole], by simp [blank]⟩
      · exact ⟨back, all, by simp [blank, whole], by simp [blank]⟩
    | cons d ds =>
      rw [rest] at whole last
      exact ⟨back, all, by simp [whole], by simpa using last⟩

/-- A text without the blanks around it is what stands between them. -/
theorem trim_parts {front core back : List Char} (before : front.all isBlank)
    (after : back.all isBlank) (solid : Solid core) : trim (front ++ (core ++ back)) = core := by
  rw [trim, List.dropWhile_append_of_pos (by simpa using before)]
  cases core with
  | nil =>
    rw [List.nil_append, List.dropWhile_eq_nil_iff.mpr (by simpa using after)]
    rfl
  | cons c cs =>
    have first : isBlank c = false := by simpa using solid.head
    rw [List.cons_append, List.dropWhile_cons, if_neg (by simp [first]), ← List.cons_append,
      trimEnd_append_blanks _ after, trimEnd_of_last solid.last]

theorem trim_solid {cs : List Char} (solid : Solid cs) : trim cs = cs := by
  have parts : trim ([] ++ (cs ++ [])) = cs := trim_parts rfl rfl solid
  rwa [List.nil_append, List.append_nil] at parts

/-- A text is its trimmed form with blanks around it. -/
theorem exists_trim (cs : List Char) :
    ∃ front back, front.all isBlank ∧ back.all isBlank ∧ cs = front ++ (trim cs ++ back) ∧
      Solid (trim cs) := by
  obtain ⟨back, after, whole, last⟩ := exists_trimEnd (cs.dropWhile isBlank)
  refine ⟨cs.takeWhile isBlank, back, ?_, after, ?_, ?_, last⟩
  · exact List.all_takeWhile
  · rw [trim, ← whole, List.takeWhile_append_dropWhile]
  · have first := head?_dropWhile isBlank cs
    rw [trim]
    cases rest : cs.dropWhile isBlank with
    | nil => rfl
    | cons c ds =>
      rw [rest] at first
      have first : isBlank c = false := by simpa using first
      rw [trimEnd]
      split
      next => simp [first]
      next => simpa using first

theorem trim_blanks_append {blanks : List Char} (all : blanks.all isBlank) (cs : List Char) :
    trim (blanks ++ cs) = trim cs := by
  rw [trim, List.dropWhile_append_of_pos (by simpa using all), trim]

theorem trim_append_blanks (cs : List Char) {blanks : List Char} (all : blanks.all isBlank) :
    trim (cs ++ blanks) = trim cs := by
  obtain ⟨front, back, before, after, whole, solid⟩ := exists_trim cs
  have wider : (back ++ blanks).all isBlank := by
    rw [List.all_append, after, all]
    rfl
  have parts := trim_parts before wider solid
  have text : front ++ (trim cs ++ (back ++ blanks)) = cs ++ blanks := by
    rw [← List.append_assoc (trim cs), ← List.append_assoc front, ← whole]
  rw [text] at parts
  exact parts

/-- What stands between two solid texts does not count. -/
theorem Solid.join {first last : List Char} (before : Solid first) (after : Solid last)
    (nonempty : first ≠ []) (more : last ≠ []) (between : List Char) :
    Solid (first ++ (between ++ last)) where
  head := by
    have head := before.head
    cases first with
    | nil => exact (nonempty rfl).elim
    | cons c cs => exact head
  last := by
    have own := after.last
    rw [List.getLast?_append, List.getLast?_append]
    cases found : last.getLast? with
    | none => exact (more (List.getLast?_eq_none_iff.mp found)).elim
    | some c => simpa [found] using own

end Swatch.Text
