import Swatch.Css.Written
import Swatch.Proofs.Text.Classes

/-!
# Names read back

A name is written with escapes where it needs them, and reads back as itself wherever the text
after it does not go on with a name (`readName_writeName`, `readName_writeIdent`). Written to stand
alone, it also starts like a name (`startsName_writeIdent`), whatever its characters are.
-/

namespace Swatch.Css

open Text

/-- A name before this text ends here. -/
def endsName : List Char → Bool
  | [] => true
  | c :: cs => !isNameChar c && !(c == '\\' && isEscape cs)

theorem readName_of_endsName (rest : List Char) (ends : endsName rest) :
    readName rest = ([], rest) := by
  cases rest with
  | nil => rw [readName]
  | cons c cs =>
    simp only [endsName, Bool.and_eq_true, Bool.not_eq_true', Bool.and_eq_false_imp, beq_iff_eq]
      at ends
    rw [readName, if_neg (by simp [ends.1]), if_neg fun both => by simp [ends.2 both.1] at both]

theorem readName_nameChar {c : Char} (name : isNameChar c) (cs : List Char) :
    readName (c :: cs) = (c :: (readName cs).1, (readName cs).2) := by
  rw [readName, if_pos name]

theorem readName_escape (cs : List Char) (escape : isEscape cs) :
    readName ('\\' :: cs) = ((readEscape cs).1 :: (readName (readEscape cs).2).1,
      (readName (readEscape cs).2).2) := by
  have backslash : isNameChar '\\' = false := by decide
  rw [readName, backslash, if_neg (by simp), if_pos ⟨rfl, escape⟩]

/-! ## Escapes -/

/-- A character that is no digit of a code escapes itself. -/
theorem readEscape_self {c : Char} (plain : isHexDigit c = false) (rest : List Char) :
    readEscape (c :: rest) = (c, rest) := by
  simp [readEscape, plain]

/-- A code ends at the space behind it. -/
theorem readEscape_digits (digits rest : List Char) (hex : digits.all isHexDigit)
    (short : digits.length < 6) (nonempty : digits ≠ []) :
    readEscape (digits ++ ' ' :: rest) = (charOfCode (hexNumeral digits), rest) := by
  have space : isHexDigit ' ' = false := by decide
  have whole : ((digits ++ ' ' :: rest).take 6).takeWhile isHexDigit = digits := by
    obtain ⟨room, length⟩ : ∃ room, 6 = digits.length + (room + 1) :=
      ⟨6 - digits.length - 1, by omega⟩
    rw [length, List.take_length_add_append, List.take_succ_cons,
      List.takeWhile_append_of_pos (by simpa using hex),
      List.takeWhile_cons_of_neg (by simp [space]), List.append_nil]
  have blank : isSpace ' ' = true := by decide
  simp [readEscape, whole, nonempty, dropSpace, blank]

/-- A line end is written as a code of one digit. -/
theorem lineEscape?_eq_some {c : Char} {written : List Char}
    (found : lineEscape? c = some written) :
    ∃ digit, isHexDigit digit ∧ charOfCode (hexNumeral [digit]) = c ∧
      written = ['\\', digit, ' '] := by
  unfold lineEscape? at found
  split at found
  next => exact ⟨'A', by decide, by decide, (Option.some.inj found).symm⟩
  next => exact ⟨'D', by decide, by decide, (Option.some.inj found).symm⟩
  next => exact ⟨'C', by decide, by decide, (Option.some.inj found).symm⟩
  next => cases found

/-- A character that is written with a backslash is an escape of that character. -/
theorem writeEscaped_eq (c : Char) (rest : List Char) :
    ∃ escaped, writeEscaped c ++ rest = '\\' :: escaped ∧ isEscape escaped = true ∧
      (isHexDigit c = false → readEscape escaped = (c, rest)) := by
  cases line : lineEscape? c with
  | some written =>
    obtain ⟨digit, hex, code, rfl⟩ := lineEscape?_eq_some line
    have read := readEscape_digits [digit] rest (by simp [hex]) (by simp) (by simp)
    refine ⟨digit :: ' ' :: rest, by simp [writeEscaped, line], ?_, fun _ => ?_⟩
    · have hex := (isHexDigit_iff digit).mp hex
      simp only [isEscape, List.head?_cons, bne_iff_ne, ne_eq, Option.some_inj, char_eq_iff]
      change digit.toNat ≠ 10
      omega
    · rw [← code]
      exact read
  | none =>
    refine ⟨c :: rest, by simp [writeEscaped, line], ?_,
      fun special => readEscape_self special rest⟩
    simp only [isEscape, List.head?_cons, bne_iff_ne, ne_eq, Option.some_inj]
    rintro rfl
    cases line

theorem readName_writeEscaped {c : Char} (special : isHexDigit c = false) (rest : List Char) :
    readName (writeEscaped c ++ rest) = (c :: (readName rest).1, (readName rest).2) := by
  obtain ⟨escaped, written, escape, read⟩ := writeEscaped_eq c rest
  rw [written, readName_escape escaped escape, read special]

/-! ## Whole names -/

theorem readName_writeNameChar (c : Char) (rest : List Char) :
    readName (writeNameChar c ++ rest) = (c :: (readName rest).1, (readName rest).2) := by
  rw [writeNameChar]
  split
  next name => exact readName_nameChar name rest
  next special =>
    refine readName_writeEscaped ?_ rest
    rw [Bool.not_eq_true, Bool.eq_false_iff, ne_eq, isNameChar_iff] at special
    rw [Bool.eq_false_iff, ne_eq, isHexDigit_iff]
    omega

/-- A name reads back where the text after it does not go on with it. -/
theorem readName_writeName (name rest : List Char) (ends : endsName rest) :
    readName (writeName name ++ rest) = (name, rest) := by
  induction name with
  | nil => exact readName_of_endsName _ ends
  | cons c name ih =>
    rw [writeName] at ih
    rw [writeName, List.flatMap_cons, List.append_assoc, readName_writeNameChar, ih]

/-- The code that a digit is written by is its own. -/
theorem charOfCode_digit {c : Char} (digit : isAsciiDigit c) :
    charOfCode (hexNumeral ['3', c]) = c := by
  have all : ∀ n < 10,
      charOfCode (hexNumeral ['3', Char.ofNat (48 + n)]) = Char.ofNat (48 + n) := by
    decide
  rw [isAsciiDigit_iff] at digit
  have same : Char.ofNat (48 + (c.toNat - 48)) = c := by
    rw [Nat.add_sub_cancel' digit.1, Char.ofNat_toNat]
  have code := all (c.toNat - 48) (by omega)
  rw [same] at code
  exact code

theorem readName_writeNameStart (c : Char) (rest : List Char) :
    readName (writeNameStart c ++ rest) = (c :: (readName rest).1, (readName rest).2) := by
  rw [writeNameStart]
  split
  next start => exact readName_nameChar (by simp [isNameChar, start]) rest
  split
  next digit =>
    have hex : ['3', c].all isHexDigit := by
      rw [isAsciiDigit_iff] at digit
      have second : isHexDigit c := by
        rw [isHexDigit_iff]
        omega
      have first : isHexDigit '3' := by decide
      simp [first, second]
    have code := readEscape_digits ['3', c] rest hex (by simp) (by simp)
    have read := readName_escape ('3' :: c :: ' ' :: rest) (by simp [isEscape])
    have same : charOfCode (hexNumeral ['3', c]) = c := charOfCode_digit digit
    rw [List.cons_append, List.singleton_append] at code
    rw [code, same] at read
    exact read
  next start digit =>
    refine readName_writeEscaped ?_ rest
    rw [isNameStart_iff] at start
    rw [isAsciiDigit_iff] at digit
    rw [Bool.eq_false_iff, ne_eq, isHexDigit_iff]
    omega

/-- A name that is to be read wherever it stands reads back. -/
theorem readName_writeIdent (name rest : List Char) (ends : endsName rest) :
    readName (writeIdent name ++ rest) = (name, rest) := by
  have hyphen : isNameChar '-' = true := by decide
  have later (name : List Char) : readName (writeName name ++ rest) = (name, rest) :=
    readName_writeName name rest ends
  fun_cases writeIdent name with
  | case1 => exact readName_of_endsName _ ends
  | case2 =>
    have escaped := readName_writeEscaped (c := '-') (by decide) rest
    rw [readName_of_endsName _ ends] at escaped
    exact escaped
  | case3 name =>
    rw [List.cons_append, List.cons_append, readName_nameChar hyphen, readName_nameChar hyphen,
      later]
  | case4 c name =>
    rw [List.cons_append, List.append_assoc, readName_nameChar hyphen, readName_writeNameStart,
      later]
  | case5 c name =>
    rw [List.append_assoc, readName_writeNameStart, later]

theorem startsName_writeNameStart (c : Char) (rest : List Char) :
    ∃ d ds, writeNameStart c ++ rest = d :: ds ∧
      (isNameStart d || d == '\\' && isEscape ds) = true := by
  rw [writeNameStart]
  split
  next start => exact ⟨c, rest, rfl, by simp [start]⟩
  split
  next digit => exact ⟨'\\', '3' :: c :: ' ' :: rest, rfl, by simp [isEscape]⟩
  next special digit =>
    obtain ⟨escaped, written, escape, _⟩ := writeEscaped_eq c rest
    exact ⟨'\\', escaped, written, by simp [escape]⟩

/-- A name that is to be read wherever it stands starts like a name. -/
theorem startsName_writeIdent {name : List Char} (nonempty : name ≠ []) (rest : List Char) :
    startsName (writeIdent name ++ rest) = true := by
  fun_cases writeIdent name with
  | case1 => exact (nonempty rfl).elim
  | case2 => simp [startsName, isEscape]
  | case3 name => simp [startsName]
  | case4 c name =>
    obtain ⟨d, ds, written, start⟩ := startsName_writeNameStart c (writeName name ++ rest)
    rw [List.cons_append, List.append_assoc, written]
    simp only [startsName, Bool.or_eq_true, Bool.and_eq_true, beq_iff_eq] at start ⊢
    grind
  | case5 c name =>
    obtain ⟨d, ds, written, start⟩ := startsName_writeNameStart c (writeName name ++ rest)
    rw [List.append_assoc, written]
    simp only [startsName, start, Bool.true_or]

end Swatch.Css
