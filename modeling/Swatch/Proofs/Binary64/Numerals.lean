import Swatch.Proofs.Binary64.Nearness
import Swatch.Proofs.Text.Digits

/-!
# Numerals as numbers

A decimal numeral stands for a rational value (`decimalValue`). It is read as a number next to that
value, as near as one rounding allows (`near_ofDecimal_at`), also where the power of ten is not
computed; and a numeral of a whole number is read as that number (`ofDecimal_eq_ofNat`).
-/

namespace Swatch.Binary64

/-- The rational value of `± significand · 10 ^ exponent`. -/
def decimalValue (negative : Bool) (significand : Nat) (exponent : Int) : ℚ :=
  signed negative significand * 10 ^ exponent

section Numerals

variable {negative : Bool} {significand : Nat} {exponent : Int}

theorem ten_zpow_pos (exponent : Int) : (0 : ℚ) < 10 ^ exponent :=
  zpow_pos (by norm_num) exponent

theorem abs_decimalValue :
    |decimalValue negative significand exponent| = significand * 10 ^ exponent := by
  have size : |((signed negative significand : Int) : ℚ)| = significand := by
    rw [← Int.cast_abs, Int.abs_eq_natAbs, natAbs_signed, Int.cast_natCast]
  rw [decimalValue, abs_mul, abs_of_pos (ten_zpow_pos exponent), size]

/-- Places behind the point divide a numeral by a power of ten. -/
theorem decimalValue_places (n count : Nat) :
    decimalValue false n (0 - count) = n / 10 ^ count := by
  rw [decimalValue, zero_sub, zpow_neg, zpow_natCast, ← div_eq_mul_inv]
  rfl

/-! ## The magnitude of a numeral -/

theorem significand_lt (significand : Nat) : significand < 10 ^ decimalLength significand := by
  have positive : 0 < decimalLength significand := List.length_pos_iff.mpr Nat.toDigits_ne_nil
  exact (Nat.length_toDigits_le_iff (by decide) positive).mp le_rfl

theorem le_significand (nonzero : significand ≠ 0) :
    10 ^ (decimalLength significand - 1) ≤ significand := by
  rcases Nat.lt_or_ge 1 (decimalLength significand) with more | few
  · by_contra less
    have short := (Nat.length_toDigits_le_iff (b := 10) (by decide) (by omega)).mpr (not_le.mp less)
    rw [decimalLength] at more short
    omega
  · rw [show decimalLength significand - 1 = 0 by omega]
    omega

/-- A numeral of small magnitude has hardly any value. -/
theorem abs_decimalValue_lt {magnitude : Int}
    (small : exponent + decimalLength significand ≤ magnitude) :
    |decimalValue negative significand exponent| < 10 ^ magnitude := by
  have less : (significand : ℚ) < 10 ^ (decimalLength significand : Int) := by
    rw [zpow_natCast]
    exact_mod_cast significand_lt significand
  calc |decimalValue negative significand exponent| = significand * 10 ^ exponent :=
        abs_decimalValue
    _ < 10 ^ (decimalLength significand : Int) * 10 ^ exponent :=
        mul_lt_mul_of_pos_right less (ten_zpow_pos exponent)
    _ = 10 ^ (exponent + decimalLength significand) := by
        rw [← zpow_add₀ (by norm_num), add_comm]
    _ ≤ 10 ^ magnitude := zpow_le_zpow_right₀ (by norm_num) small

/-- A numeral of large magnitude has a large value. -/
theorem le_abs_decimalValue (nonzero : significand ≠ 0) {magnitude : Int}
    (large : magnitude < exponent + decimalLength significand) :
    10 ^ magnitude ≤ |decimalValue negative significand exponent| := by
  have positive : 0 < decimalLength significand := List.length_pos_iff.mpr Nat.toDigits_ne_nil
  have least : (10 : ℚ) ^ (decimalLength significand - 1 : Int) ≤ significand := by
    rw [← Nat.cast_one, ← Nat.cast_sub positive, zpow_natCast]
    exact_mod_cast le_significand nonzero
  calc (10 : ℚ) ^ magnitude ≤ 10 ^ (exponent + (decimalLength significand - 1)) :=
        zpow_le_zpow_right₀ (by norm_num) (by omega)
    _ = 10 ^ (decimalLength significand - 1 : Int) * 10 ^ exponent := by
        rw [← zpow_add₀ (by norm_num), add_comm]
    _ ≤ significand * 10 ^ exponent := mul_le_mul_of_nonneg_right least (ten_zpow_pos exponent).le
    _ = |decimalValue negative significand exponent| := abs_decimalValue.symm

/-! ## Reading -/

/-- A ratio of units is rounded to a number of its sign that is next to its value. -/
theorem near_ofRatio_at (level : Nat) (low : level ≤ 100) {num den : Nat} (positive : 0 < den)
    {q : ℚ}
    (ratio : (signed negative num : ℚ) / (den * unitsPerOne) = q) (room : |q| ≤ 2 ^ level) :
    ∃ units, ofRatio negative num den = finite negative units ∧
      Near (finite negative units) q (grainAt level) := by
  have exact : |(signed negative num : ℚ) / (den * unitsPerOne) - q| ≤ 0 := by
    rw [ratio, sub_self, abs_zero]
  obtain ⟨small, near⟩ := near_nearest_at level low positive exact (by rwa [add_zero])
  have own := @units_ofRatio (signed negative num) den negative
    (fun less => by
      cases negative with
      | true => rfl
      | false => exact absurd less (not_lt.mpr (Int.natCast_nonneg num)))
    (fun more => by
      cases negative with
      | false => rfl
      | true => exact absurd more (not_lt.mpr (Int.neg_nonpos_of_nonneg (Int.natCast_nonneg num))))
        small
  rw [natAbs_signed] at own
  rw [zero_add] at near
  have fits : ofRatio negative num den = finite negative (roundUnits num den) := by
    obtain ⟨negative', units, written, -⟩ := own
    unfold ofRatio at written ⊢
    dsimp only at written ⊢
    split at written
    next fits => rw [if_pos fits]
    next => cases written
  exact ⟨_, fits, fits ▸ ⟨_, own, near⟩⟩

/-- A numeral of moderate magnitude is read as a ratio of units that has its value. -/
theorem ofDecimal_eq_ofRatio (nonzero : significand ≠ 0)
    (least : ¬exponent + decimalLength significand < -330)
    (most : ¬310 < exponent + decimalLength significand) :
    ∃ num den, 0 < den ∧ ofDecimal negative significand exponent = ofRatio negative num den ∧
      (signed negative num : ℚ) / (den * unitsPerOne) =
        decimalValue negative significand exponent := by
  have scale := unitsPerOne_rat_pos
  unfold ofDecimal
  dsimp only
  rw [if_neg (not_or.mpr ⟨nonzero, least⟩), if_neg most]
  split
  next nonneg =>
    obtain ⟨power, rfl⟩ := Int.eq_ofNat_of_zero_le nonneg
    have scaled : (signed negative (significand * Nat.pow 10 power * unitsPerOne) : ℚ) =
        signed negative significand * 10 ^ power * unitsPerOne := by
      cases negative <;> simp [signed]
    refine ⟨_, 1, Nat.one_pos, rfl, ?_⟩
    rw [decimalValue, zpow_natCast, Int.toNat_natCast, scaled, Nat.cast_one, one_mul,
      mul_div_cancel_right₀ _ scale.ne']
  next =>
    obtain ⟨power, size⟩ := Int.eq_ofNat_of_zero_le (a := -exponent) (by omega)
    have scaled : (signed negative (significand * unitsPerOne) : ℚ) =
        signed negative significand * unitsPerOne := by
      cases negative <;> simp [signed]
    refine ⟨_, _, Nat.pow_pos (by decide), rfl, ?_⟩
    rw [decimalValue, show exponent = -(power : Int) by omega, neg_neg, Int.toNat_natCast, zpow_neg,
      zpow_natCast, scaled, mul_div_mul_right _ _ scale.ne', div_eq_mul_inv]
    push_cast
    rfl

/-- Where the power of ten is not computed since it is tiny, zero is next to the value. -/
theorem abs_decimalValue_le_grain (level : Nat)
    (least : significand = 0 ∨ exponent + decimalLength significand < -330) :
    |decimalValue negative significand exponent| ≤ grainAt level := by
  rcases least with zero | small
  · rw [abs_decimalValue, zero, Nat.cast_zero, zero_mul]
    exact (grainAt_pos level).le
  · have less : |decimalValue negative significand exponent| < 10 ^ (-17 : Int) :=
      abs_decimalValue_lt (by omega)
    have grain : (10 : ℚ) ^ (-17 : Int) ≤ grainAt 0 := by norm_num [grainAt]
    have more : grainAt 0 ≤ grainAt level := by
      unfold grainAt
      gcongr
      · norm_num
      · omega
    exact less.le.trans (grain.trans more)

/-- A numeral is read as a number of its sign that is next to its value. -/
theorem near_ofDecimal_at (level : Nat) (low : level ≤ 100)
    (room : |decimalValue negative significand exponent| ≤ 2 ^ level) :
    ∃ units, ofDecimal negative significand exponent = finite negative units ∧
      Near (finite negative units) (decimalValue negative significand exponent)
        (grainAt level) := by
  by_cases least : significand = 0 ∨ exponent + decimalLength significand < -330
  · have zero : Near (finite negative 0) 0 0 := by
      have own : Units (finite negative 0) 0 := ⟨negative, 0, rfl, by cases negative <;> rfl⟩
      exact own.near.of_eq (by simp [valueOf])
    have near := zero.move (q := decimalValue negative significand exponent) (e := grainAt level)
      (by rw [zero_sub, abs_neg]; exact abs_decimalValue_le_grain level least)
    exact ⟨0, by rw [ofDecimal, if_pos least], near.widen (zero_add _).le⟩
  obtain ⟨nonzero, least⟩ := not_or.mp least
  have most : ¬310 < exponent + decimalLength significand := fun large => by
    have more : 10 ^ (100 : Int) ≤ |decimalValue negative significand exponent| :=
      le_abs_decimalValue nonzero (by omega)
    have top : (2 : ℚ) ^ level ≤ 2 ^ 100 := pow_le_pow_right₀ (by norm_num) low
    have limit : (2 : ℚ) ^ 100 < 10 ^ (100 : Int) := by norm_num
    linarith
  obtain ⟨num, den, positive, read, ratio⟩ := @ofDecimal_eq_ofRatio negative _ _ nonzero least most
  rw [read]
  exact near_ofRatio_at level low positive ratio room

/-- A numeral of a positive value has no sign. -/
theorem negative_eq_false (positive : 0 < decimalValue negative significand exponent) :
    negative = false := by
  cases negative with
  | false => rfl
  | true =>
    have below : decimalValue true significand exponent ≤ 0 := by
      refine mul_nonpos_of_nonpos_of_nonneg ?_ (ten_zpow_pos exponent).le
      simp [signed]
    exact absurd positive (not_lt.mpr below)

/-- The numeral of a whole number is read as that number. -/
theorem ofDecimal_eq_ofNat {n : Nat} (positive : 0 < n) (small : n < 10 ^ 100)
    (value : decimalValue negative significand exponent = n) :
    ofDecimal negative significand exponent = ofNat n := by
  have least : (1 : ℚ) ≤ n := by exact_mod_cast positive
  have most : (n : ℚ) < 10 ^ (100 : Int) := by exact_mod_cast small
  have scale := unitsPerOne_rat_pos
  obtain rfl : negative = false := negative_eq_false (by rw [value]; linarith)
  have size : |decimalValue false significand exponent| = n := by
    rw [value, Nat.abs_cast]
  have nonzero : significand ≠ 0 := by
    rintro rfl
    rw [abs_decimalValue, Nat.cast_zero, zero_mul] at size
    linarith
  have above : ¬exponent + decimalLength significand < -330 := fun less => by
    have tiny : |decimalValue false significand exponent| < 10 ^ (0 : Int) :=
      abs_decimalValue_lt (by omega)
    rw [size, zpow_zero] at tiny
    linarith
  have below : ¬310 < exponent + decimalLength significand := fun more => by
    have huge : 10 ^ (100 : Int) ≤ |decimalValue false significand exponent| :=
      le_abs_decimalValue nonzero (by omega)
    rw [size] at huge
    linarith
  obtain ⟨num, den, positive', read, ratio⟩ := @ofDecimal_eq_ofRatio false _ _ nonzero above below
  have width : (0 : ℚ) < den := by exact_mod_cast positive'
  rw [value, div_eq_iff (mul_pos width scale).ne', signed, if_neg Bool.false_ne_true] at ratio
  have whole : num = n * (den * unitsPerOne) := by exact_mod_cast ratio
  have rounded : roundUnits num den = roundUnits (n * unitsPerOne) 1 :=
    roundUnits_congr positive' Nat.one_pos (by rw [whole]; ring)
  rw [read, ofNat, ofRatio, ofRatio, rounded]

end Numerals

end Swatch.Binary64
