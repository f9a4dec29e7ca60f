import Swatch.Css.Token
import Swatch.Text.Blank
import Mathlib.Data.List.TakeWhile

/-!
# Classes of characters as ranges of codes

Each class of characters that the readers ask for is a few ranges of code points. Once a class is
given by its ranges, how two classes lie to each other is a question of linear arithmetic.
-/

namespace Swatch

namespace Text

theorem char_le_iff (c d : Char) : c ≤ d ↔ c.toNat ≤ d.toNat := by
  rw [Char.le_def, UInt32.le_iff_toNat_le]
  rfl

theorem char_eq_iff (c d : Char) : c = d ↔ c.toNat = d.toNat :=
  Char.toNat_inj.symm

theorem isAsciiDigit_iff (c : Char) :
    isAsciiDigit c = true ↔ 48 ≤ c.toNat ∧ c.toNat ≤ 57 := by
  simp [isAsciiDigit, char_le_iff]

theorem isAsciiLetter_iff (c : Char) :
    isAsciiLetter c = true ↔
      (97 ≤ c.toNat ∧ c.toNat ≤ 122) ∨ (65 ≤ c.toNat ∧ c.toNat ≤ 90) := by
  simp [isAsciiLetter, char_le_iff]

theorem isHexDigit_iff (c : Char) :
    isHexDigit c = true ↔
      (48 ≤ c.toNat ∧ c.toNat ≤ 57) ∨ (97 ≤ c.toNat ∧ c.toNat ≤ 102) ∨
        (65 ≤ c.toNat ∧ c.toNat ≤ 70) := by
  simp only [isHexDigit, hexValue?, char_le_iff]
  split
  · simp_all
  split
  · simp_all
  split <;> simp_all

/-! ## Runs of one class -/

section Runs

variable {p : Char → Bool} {run cs rest : List Char}

theorem takeWhile_append_stop (stops : rest.head?.any p = false) :
    (cs ++ rest).takeWhile p = cs.takeWhile p := by
  induction cs with
  | nil => cases rest <;> simp_all
  | cons c cs ih => simp [List.takeWhile_cons, ih]

theorem dropWhile_append_stop (stops : rest.head?.any p = false) :
    (cs ++ rest).dropWhile p = cs.dropWhile p ++ rest := by
  induction cs with
  | nil => cases rest <;> simp_all
  | cons c cs ih =>
    rw [List.cons_append, List.dropWhile_cons, List.dropWhile_cons, ih]
    split <;> rfl

theorem takeWhile_run (all : run.all p) (stops : rest.head?.any p = false) :
    (run ++ rest).takeWhile p = run := by
  rw [takeWhile_append_stop stops, List.takeWhile_eq_self_iff]
  simpa using all

theorem dropWhile_run (all : run.all p) (stops : rest.head?.any p = false) :
    (run ++ rest).dropWhile p = rest := by
  rw [dropWhile_append_stop stops, List.dropWhile_eq_nil_iff.mpr (by simpa using all),
    List.nil_append]

theorem head?_dropWhile (p : Char → Bool) (cs : List Char) :
    (cs.dropWhile p).head?.any p = false := by
  have stops := List.head?_dropWhile_not p cs
  cases head : (cs.dropWhile p).head? with
  | none => rfl
  | some c =>
    rw [head] at stops
    exact stops

end Runs

/-! ## Pieces between separators -/

theorem subset_of_mem_splitOnP {α : Type} {p : α → Bool} {xs piece : List α}
    (member : piece ∈ xs.splitOnP p) : piece ⊆ xs := by
  induction xs generalizing piece with
  | nil =>
    rw [List.splitOnP_nil, List.mem_singleton] at member
    rw [member]
    exact List.Subset.refl _
  | cons x xs ih =>
    rw [List.splitOnP_cons_eq_if_modifyHead] at member
    split at member
    next =>
      rcases List.mem_cons.mp member with rfl | member
      · exact List.nil_subset _
      · exact List.subset_cons_of_subset x (ih member)
    next =>
      obtain ⟨first, pieces, split⟩ := List.exists_cons_of_ne_nil (List.splitOnP_ne_nil p xs)
      rw [split] at member ih
      rcases List.mem_cons.mp member with rfl | member
      · exact List.cons_subset_cons x (ih List.mem_cons_self)
      · exact List.subset_cons_of_subset x (ih (List.mem_cons_of_mem _ member))

end Text

namespace Css

open Text

theorem isSpace_iff (c : Char) :
    isSpace c = true ↔ c.toNat = 32 ∨ c.toNat = 10 ∨ c.toNat = 9 := by
  simp [isSpace, char_eq_iff, or_assoc]

theorem isNameStart_iff (c : Char) :
    isNameStart c = true ↔
      (97 ≤ c.toNat ∧ c.toNat ≤ 122) ∨ (65 ≤ c.toNat ∧ c.toNat ≤ 90) ∨ c.toNat = 95 ∨
        128 ≤ c.toNat := by
  simp [isNameStart, isAsciiLetter_iff, char_eq_iff, or_assoc]

theorem isNameChar_iff (c : Char) :
    isNameChar c = true ↔
      (97 ≤ c.toNat ∧ c.toNat ≤ 122) ∨ (65 ≤ c.toNat ∧ c.toNat ≤ 90) ∨ c.toNat = 95 ∨
        128 ≤ c.toNat ∨ (48 ≤ c.toNat ∧ c.toNat ≤ 57) ∨ c.toNat = 45 := by
  simp [isNameChar, isNameStart_iff, isAsciiDigit_iff, char_eq_iff, or_assoc]

end Css

end Swatch
