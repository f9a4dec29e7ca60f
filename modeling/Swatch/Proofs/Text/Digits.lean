import Mathlib.Algebra.Group.Nat.Defs
import Mathlib.Data.List.Induction
import Swatch.Proofs.Text.Classes
import Swatch.Css.Written

/-!
# Digits of a number

The numerals that are written spell the number they are written for, in the sixteen-based notation
(`hexNumeral_writeHex`) and in the decimal one (`decimalNumeral_toDigits`), and they hold digits
only.
-/

namespace Swatch.Text

/-! ## The value of a numeral -/

theorem numeralValue_append (base : Nat) (digits : List Nat) (last : Nat) :
    numeralValue base (digits ++ [last]) = numeralValue base digits * base + last := by
  simp [numeralValue]

/-- The digits of a number spell it, where each digit is read as its value. -/
theorem numeralValue_toDigits {base : Nat} (large : 1 < base) {value : Char → Nat}
    (reads : ∀ digit < base, value digit.digitChar = digit) (n : Nat) :
    numeralValue base ((Nat.toDigits base n).map value) = n := by
  induction n using Nat.strongRecOn with
  | ind n ih =>
    rw [Nat.toDigits_eq_if large]
    split
    next small => simp [numeralValue, reads n small]
    next more =>
      have less : n / base < n := Nat.div_lt_self (by omega) large
      rw [List.map_append, List.map_singleton, numeralValue_append, ih _ less,
        reads _ (Nat.mod_lt _ (by omega))]
      exact Nat.div_add_mod' n base

/-- A numeral of so many digits is less than the power of the base. -/
theorem numeralValue_lt {base : Nat} {digits : List Nat} (small : ∀ digit ∈ digits, digit < base) :
    numeralValue base digits < base ^ digits.length := by
  induction digits using List.reverseRecOn with
  | nil => simp [numeralValue]
  | append_singleton digits last ih =>
    have own : last < base := small last (by simp)
    have before := ih fun digit member => small digit (by simp [member])
    rw [numeralValue_append, List.length_append, List.length_singleton, Nat.pow_succ]
    calc numeralValue base digits * base + last
        < numeralValue base digits * base + base := Nat.add_lt_add_left own _
      _ = (numeralValue base digits + 1) * base := (Nat.succ_mul _ _).symm
      _ ≤ base ^ digits.length * base := Nat.mul_le_mul_right base before

/-- A property of all digits is one of all characters of a numeral. -/
theorem all_toDigits {base : Nat} (large : 1 < base) {p : Char → Bool}
    (all : ∀ digit < base, p digit.digitChar = true) (n : Nat) :
    (Nat.toDigits base n).all p = true := by
  induction n using Nat.strongRecOn with
  | ind n ih =>
    rw [Nat.toDigits_eq_if large]
    split
    next small => simp [all n small]
    next more =>
      have less : n / base < n := Nat.div_lt_self (by omega) large
      simp [ih _ less, all _ (Nat.mod_lt n (by omega : 0 < base))]

/-! ## Both notations -/

theorem decimalNumeral_toDigits (n : Nat) : decimalNumeral (Nat.toDigits 10 n) = n :=
  numeralValue_toDigits (by decide) (by decide) n

theorem hexNumeral_writeHex (n : Nat) : hexNumeral (Css.writeHex n) = n := by
  rw [hexNumeral, Css.writeHex, List.map_map]
  exact numeralValue_toDigits (by decide) (by decide) n

/-- So many digits of the sixteen-based notation spell less than the power of sixteen. -/
theorem hexNumeral_lt_pow (digits : List Char) : hexNumeral digits < 16 ^ digits.length := by
  have value (c : Char) : (hexValue? c).getD 0 < 16 := by
    simp only [hexValue?, char_le_iff]
    split
    next digit =>
      change 48 ≤ c.toNat ∧ c.toNat ≤ 57 at digit
      change c.toNat - 48 < 16
      omega
    split
    next small =>
      change 97 ≤ c.toNat ∧ c.toNat ≤ 102 at small
      change c.toNat - 97 + 10 < 16
      omega
    split
    next large =>
      change 65 ≤ c.toNat ∧ c.toNat ≤ 70 at large
      change c.toNat - 65 + 10 < 16
      omega
    next => decide
  have less : hexNumeral digits < 16 ^ (digits.map fun c => (hexValue? c).getD 0).length :=
    numeralValue_lt fun digit member => by
      obtain ⟨c, -, rfl⟩ := List.mem_map.mp member
      exact value c
  rwa [List.length_map] at less

theorem hexNumeral_lt {digits : List Char} (short : digits.length ≤ 6) :
    hexNumeral digits < 0x1000000 :=
  (hexNumeral_lt_pow digits).trans_le (Nat.pow_le_pow_right (by decide) short)

theorem all_writeHex (n : Nat) : (Css.writeHex n).all isHexDigit = true := by
  rw [Css.writeHex, List.all_map]
  exact all_toDigits (by decide) (by decide) n

theorem length_writeHex_le {n : Nat} (small : n < 0x1000000) :
    (Css.writeHex n).length ≤ 6 := by
  rw [Css.writeHex, List.length_map]
  exact (Nat.length_toDigits_le_iff (by decide) (by decide)).mpr small

theorem head_writeHex (n : Nat) : ∃ d ds, Css.writeHex n = d :: ds ∧ isHexDigit d = true := by
  have all := all_writeHex n
  cases written : Css.writeHex n with
  | nil => simp [Css.writeHex, Nat.toDigits_ne_nil] at written
  | cons d ds =>
    rw [written, List.all_cons, Bool.and_eq_true] at all
    exact ⟨d, ds, rfl, all.1⟩

/-! ## Digits of every script -/

/-- What holds of the ten digits of each script holds of every digit. -/
theorem of_isDecimalDigit {p : Char → Bool}
    (all : digitZeros.all fun start =>
      (List.range 10).all fun value => p (Char.ofNat (start + value)))
    {c : Char} (digit : isDecimalDigit c) : p c = true := by
  unfold isDecimalDigit digitValue? at digit
  rw [Option.isSome_map, List.find?_isSome] at digit
  obtain ⟨start, script, bounds⟩ := digit
  rw [Bool.and_eq_true, decide_eq_true_eq, decide_eq_true_eq] at bounds
  have own := List.all_eq_true.mp (List.all_eq_true.mp all start script) (c.toNat - start)
    (List.mem_range.mpr (by omega))
  have code : Char.ofNat (start + (c.toNat - start)) = c := by
    rw [Nat.add_sub_cancel' bounds.1, Char.ofNat_toNat]
  rwa [code] at own

theorem isDecimalDigit_of_isAsciiDigit {c : Char} (digit : isAsciiDigit c) :
    isDecimalDigit c = true := by
  rw [isAsciiDigit_iff] at digit
  have bounds : (0x30 ≤ c.toNat && c.toNat < 0x30 + 10) = true := by
    rw [Bool.and_eq_true, decide_eq_true_eq, decide_eq_true_eq]
    omega
  unfold isDecimalDigit digitValue?
  rw [Option.isSome_map, List.find?_isSome]
  exact ⟨0x30, List.mem_cons_self, bounds⟩

/-! ## Small letters -/

theorem toNat_asciiLower (c : Char) :
    (asciiLower c).toNat = if 65 ≤ c.toNat ∧ c.toNat ≤ 90 then c.toNat + 32 else c.toNat := by
  have capital : 'A' ≤ c ∧ c ≤ 'Z' ↔ 65 ≤ c.toNat ∧ c.toNat ≤ 90 := by
    rw [char_le_iff, char_le_iff]
    rfl
  have all : ∀ n < 26, (Char.ofNat (65 + n + 32)).toNat = 65 + n + 32 := by decide
  unfold asciiLower
  split
  next letter =>
    rw [if_pos (capital.mp letter)]
    have bounds := capital.mp letter
    have own := all (c.toNat - 65) (by omega)
    rwa [Nat.add_sub_cancel' bounds.1] at own
  next other => rw [if_neg fun bounds => other (capital.mpr bounds)]

/-- The letters with the same small letter. -/
theorem asciiLower_eq_iff {c letter : Char} (small : 97 ≤ letter.toNat ∧ letter.toNat ≤ 122) :
    asciiLower c = letter ↔ c = letter ∨ c.toNat + 32 = letter.toNat := by
  rw [char_eq_iff, char_eq_iff, toNat_asciiLower]
  split <;> omega

theorem eq_of_asciiLower {c small : Char} (capital : Char) (letter : asciiLower c = small)
    (same : capital.toNat + 32 = small.toNat) (bounds : 97 ≤ small.toNat ∧ small.toNat ≤ 122) :
    c = small ∨ c = capital := by
  rw [asciiLower_eq_iff bounds] at letter
  refine letter.imp_right fun shifted => ?_
  rw [char_eq_iff]
  omega

end Swatch.Text
