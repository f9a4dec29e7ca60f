import Mathlib.Algebra.Order.Ring.Nat
import Mathlib.Tactic.Linarith
import Mathlib.Tactic.Ring
import Swatch.Binary64.Basic

/-!
# Rounding to 53 significant bits

`roundUnits` takes a ratio to a number with at most 53 significant bits (`exact_roundUnits`). It
never crosses such a number (`roundUnits_le`, `le_roundUnits`), it keeps the order of ratios
(`roundUnits_mono`), and it moves a ratio by at most half the distance between its neighbours
(`roundUnits_near`).
-/

namespace Swatch.Binary64

/-! ## Whole numbers -/

section RoundEven

variable {num den num' den' k : Nat}

theorem roundEven_cases (num den : Nat) :
    (roundEven num den = num / den ∧ 2 * (num % den) ≤ den) ∨
      (roundEven num den = num / den + 1 ∧ den ≤ 2 * (num % den)) := by
  unfold roundEven
  dsimp only
  split
  next less => exact .inl ⟨rfl, less.le⟩
  split
  next more => exact .inr ⟨rfl, more.le⟩
  next => rcases Nat.mod_two_eq_zero_or_one (num / den) with even | odd <;> omega

/-- The nearest whole number is at most half a unit away. -/
theorem roundEven_near (positive : 0 < den) (num : Nat) :
    2 * num ≤ 2 * (roundEven num den * den) + den ∧
      2 * (roundEven num den * den) ≤ 2 * num + den := by
  have whole := Nat.div_add_mod' num den
  have rest := Nat.mod_lt num positive
  rcases roundEven_cases num den with ⟨same, half⟩ | ⟨same, half⟩
  · rw [same]
    omega
  · rw [same, Nat.add_mul, Nat.one_mul]
    omega

theorem roundEven_le (positive : 0 < den) (below : num ≤ k * den) : roundEven num den ≤ k := by
  have whole := Nat.div_add_mod' num den
  rcases roundEven_cases num den with ⟨same, -⟩ | ⟨same, half⟩
  · rw [same]
    exact Nat.div_le_of_le_mul (by rwa [Nat.mul_comm])
  · rw [same]
    have more : num / den * den < k * den := by omega
    exact Nat.lt_of_mul_lt_mul_right more

theorem le_roundEven (positive : 0 < den) (above : k * den ≤ num) : k ≤ roundEven num den := by
  have below : k ≤ num / den := (Nat.le_div_iff_mul_le positive).mpr above
  rcases roundEven_cases num den with ⟨same, -⟩ | ⟨same, -⟩ <;> omega

/-- A greater ratio has no smaller nearest whole number. -/
theorem roundEven_mono (positive : 0 < den) (positive' : 0 < den')
    (le : num * den' ≤ num' * den) : roundEven num den ≤ roundEven num' den' := by
  have whole := Nat.div_add_mod' num den
  have whole' := Nat.div_add_mod' num' den'
  have rest := Nat.mod_lt num positive
  have rest' := Nat.mod_lt num' positive'
  unfold roundEven
  dsimp only
  generalize num / den = low at *
  generalize num' / den' = low' at *
  generalize num % den = part at *
  generalize num' % den' = part' at *
  subst whole whole'
  have order : low ≤ low' := by
    by_contra less
    have step : low' + 1 ≤ low := by omega
    have := Nat.mul_le_mul_right (den * den') step
    nlinarith
  rcases order.lt_or_eq with less | rfl
  · have upper : low + low % 2 ≤ low + 1 := by omega
    split <;> split <;> (try split) <;> (try split) <;> omega
  · have parts : part * den' ≤ part' * den := by nlinarith
    split
    next => split <;> (try split) <;> omega
    next most =>
      have most' : den' ≤ 2 * part' := by nlinarith
      split
      next more =>
        have more' : den' < 2 * part' := by nlinarith
        rw [if_neg (by omega), if_pos more']
      next =>
        rw [if_neg (by omega)]
        split <;> omega

end RoundEven

/-! ## Significant bits -/

/-- A number of units with at most 53 significant bits. -/
def Exact (units : Nat) : Prop :=
  ∃ digits shift, digits < 2 ^ 53 ∧ units = digits * 2 ^ shift

theorem exact_of_lt {units : Nat} (small : units < 2 ^ 53) : Exact units :=
  ⟨units, 0, small, by rw [Nat.pow_zero, Nat.mul_one]⟩

theorem exact_zero : Exact 0 :=
  exact_of_lt (by decide)

theorem Exact.shift {units : Nat} (exact : Exact units) (shift : Nat) :
    Exact (units * 2 ^ shift) := by
  obtain ⟨digits, own, small, rfl⟩ := exact
  exact ⟨digits, own + shift, small, by rw [Nat.pow_add, Nat.mul_assoc]⟩

theorem exact_pow (shift : Nat) : Exact (2 ^ shift) :=
  ⟨1, shift, by decide, (Nat.one_mul _).symm⟩

/-- From `2 ^ (52 + shift)` on, numbers with 53 significant bits are multiples of `2 ^ shift`. -/
theorem Exact.dvd {units shift : Nat} (exact : Exact units) (large : 2 ^ (52 + shift) ≤ units) :
    2 ^ shift ∣ units := by
  obtain ⟨digits, own, small, rfl⟩ := exact
  have le : shift ≤ own := by
    by_contra less
    have upper : digits * 2 ^ own < 2 ^ (53 + own) := by
      rw [Nat.pow_add]
      exact Nat.mul_lt_mul_of_pos_right small (Nat.two_pow_pos own)
    have lower : 2 ^ (53 + own) ≤ 2 ^ (52 + shift) :=
      Nat.pow_le_pow_right (by decide) (by omega)
    omega
  exact Dvd.dvd.mul_left (Nat.pow_dvd_pow 2 le) digits

/-! ## The grid of a ratio -/

section RoundUnits

variable {num den num' den' k : Nat}

/-- The power of two that the neighbours of a ratio are apart. -/
def gridShift (num den : Nat) : Nat :=
  Nat.log2 (num / den) - 52

theorem unitsPerOne_pow : unitsPerOne = 2 ^ 1074 := by
  unfold unitsPerOne
  exact Nat.pow_eq

/-- A power of two as a whole number is one as units. -/
theorem pow_mul_unitsPerOne (k : Nat) : 2 ^ k * unitsPerOne = 2 ^ (k + 1074) := by
  rw [unitsPerOne_pow, Nat.pow_add]

theorem spacing_eq (num den : Nat) : spacing num den = 2 ^ gridShift num den :=
  rfl

theorem spacing_pos (num den : Nat) : 0 < spacing num den :=
  Nat.two_pow_pos _

/-- A ratio is below the power of two where its grid ends. -/
theorem div_lt_grid (num den : Nat) : num / den < 2 ^ (53 + gridShift num den) := by
  refine Nat.lt_log2_self.trans_le (Nat.pow_le_pow_right (by decide) ?_)
  unfold gridShift
  omega

theorem lt_grid (positive : 0 < den) : num < 2 ^ (53 + gridShift num den) * den :=
  (Nat.div_lt_iff_lt_mul positive).mp (div_lt_grid num den)

/-- A ratio is not below the power of two where its grid starts, unless the grid is the finest. -/
theorem grid_le_div (coarse : gridShift num den ≠ 0) :
    2 ^ (52 + gridShift num den) ≤ num / den := by
  have nonzero : num / den ≠ 0 := by
    intro zero
    rw [gridShift, zero] at coarse
    exact coarse (by decide)
  have log : 52 + gridShift num den = Nat.log2 (num / den) := by
    unfold gridShift at coarse ⊢
    omega
  rw [log]
  exact Nat.log2_self_le nonzero

/-- A number with 53 significant bits is on the grid of a ratio, or below where the grid starts. -/
theorem Exact.dvd_or_lt (exact : Exact k) (num den : Nat) :
    spacing num den ∣ k ∨ (gridShift num den ≠ 0 ∧ k < 2 ^ (52 + gridShift num den)) := by
  rcases Nat.lt_or_ge k (2 ^ (52 + gridShift num den)) with less | large
  · by_cases finest : gridShift num den = 0
    · left
      rw [spacing_eq, finest]
      exact Nat.one_dvd k
    · exact .inr ⟨finest, less⟩
  · exact .inl (exact.dvd large)

theorem exact_roundUnits (positive : 0 < den) (num : Nat) : Exact (roundUnits num den) := by
  have most : roundEven num (den * spacing num den) ≤ 2 ^ 53 := by
    refine roundEven_le (Nat.mul_pos positive (spacing_pos num den)) ?_
    have less : num ≤ 2 ^ (53 + gridShift num den) * den := (lt_grid positive).le
    rw [Nat.pow_add, ← spacing_eq] at less
    linarith
  rw [roundUnits]
  rcases most.lt_or_eq with less | same
  · exact ⟨_, _, less, rfl⟩
  · rw [same]
    exact (exact_pow 53).shift _

/-- A ratio that is at most a number with 53 significant bits is not rounded past it. -/
theorem roundUnits_le (positive : 0 < den) (exact : Exact k) (below : num ≤ k * den) :
    roundUnits num den ≤ k := by
  rcases exact.dvd_or_lt num den with ⟨count, rfl⟩ | ⟨coarse, less⟩
  · rw [roundUnits, Nat.mul_comm (spacing num den)]
    refine Nat.mul_le_mul_right _ (roundEven_le (Nat.mul_pos positive (spacing_pos num den)) ?_)
    linarith
  · have start := (Nat.le_div_iff_mul_le positive).mp (grid_le_div coarse)
    have more := Nat.mul_lt_mul_of_pos_right less positive
    omega

/-- A ratio that is at least a number with 53 significant bits is not rounded past it. -/
theorem le_roundUnits (positive : 0 < den) (exact : Exact k) (above : k * den ≤ num) :
    k ≤ roundUnits num den := by
  have grid := Nat.mul_pos positive (spacing_pos num den)
  rcases exact.dvd_or_lt num den with ⟨count, rfl⟩ | ⟨coarse, less⟩
  · rw [roundUnits, Nat.mul_comm (spacing num den)]
    refine Nat.mul_le_mul_right _ (le_roundEven grid ?_)
    linarith
  · refine less.le.trans ?_
    have start := (Nat.le_div_iff_mul_le positive).mp (grid_le_div coarse)
    rw [Nat.pow_add, ← spacing_eq] at start ⊢
    refine Nat.mul_le_mul_right _ (le_roundEven grid ?_)
    linarith

theorem roundUnits_of_exact (exact : Exact k) : roundUnits k 1 = k :=
  Nat.le_antisymm (roundUnits_le Nat.one_pos exact (by omega))
    (le_roundUnits Nat.one_pos exact (by omega))

/-- A greater ratio is not rounded to a smaller number. -/
theorem roundUnits_mono (positive : 0 < den) (positive' : 0 < den')
    (le : num * den' ≤ num' * den) : roundUnits num den ≤ roundUnits num' den' := by
  have wholes : num / den ≤ num' / den' := by
    rw [Nat.le_div_iff_mul_le positive']
    have own := Nat.div_mul_le_self num den
    have scaled := Nat.mul_le_mul_right den' own
    have both : num / den * den' * den ≤ num' * den := by
      calc num / den * den' * den = num / den * den * den' := by ring
        _ ≤ num * den' := scaled
        _ ≤ num' * den := le
    exact Nat.le_of_mul_le_mul_right both positive
  have shifts : gridShift num den ≤ gridShift num' den' := by
    have logs : Nat.log2 (num / den) ≤ Nat.log2 (num' / den') := by
      by_cases below_one : num / den = 0
      · rw [below_one]
        exact Nat.zero_le _
      · have nonzero : num' / den' ≠ 0 := fun zero => below_one (Nat.le_zero.mp (zero ▸ wholes))
        exact (Nat.le_log2 nonzero).mpr ((Nat.log2_self_le below_one).trans wholes)
    unfold gridShift
    omega
  rcases shifts.lt_or_eq with finer | same
  · -- The greater ratio is beyond the power of two where the grid of the smaller one ends.
    have between : 2 ^ (53 + gridShift num den) ≤ 2 ^ (52 + gridShift num' den') :=
      Nat.pow_le_pow_right (by decide) (by omega)
    refine (roundUnits_le positive (exact_pow _) (lt_grid positive).le).trans ?_
    refine le_roundUnits positive' (exact_pow _) ?_
    have start := (Nat.le_div_iff_mul_le positive').mp
      (grid_le_div (by omega : gridShift num' den' ≠ 0))
    exact (Nat.mul_le_mul_right den' between).trans start
  · have spacings : spacing num den = spacing num' den' := by rw [spacing_eq, spacing_eq, same]
    rw [roundUnits, roundUnits, spacings]
    refine Nat.mul_le_mul_right _ (roundEven_mono ?_ ?_ ?_)
    · exact Nat.mul_pos positive (spacing_pos num' den')
    · exact Nat.mul_pos positive' (spacing_pos num' den')
    · calc num * (den' * spacing num' den') = num * den' * spacing num' den' := by ring
        _ ≤ num' * den * spacing num' den' := Nat.mul_le_mul_right _ le
        _ = num' * (den * spacing num' den') := by ring

/-- Rounding looks at the value of a ratio only. -/
theorem roundUnits_congr (positive : 0 < den) (positive' : 0 < den')
    (same : num * den' = num' * den) : roundUnits num den = roundUnits num' den' :=
  le_antisymm (roundUnits_mono positive positive' same.le)
    (roundUnits_mono positive' positive same.ge)

/-- Rounding moves a ratio by at most half the distance between the neighbours of a greater one. -/
theorem roundUnits_near (positive : 0 < den) (shift : Nat) (le : num ≤ 2 ^ (53 + shift) * den) :
    2 * num ≤ 2 * (roundUnits num den * den) + den * 2 ^ shift ∧
      2 * (roundUnits num den * den) ≤ 2 * num + den * 2 ^ shift := by
  rcases le.lt_or_eq with less | same
  · have finer : gridShift num den ≤ shift := by
      have upper := (Nat.div_lt_iff_lt_mul positive).mpr less
      by_contra more
      have lower := grid_le_div (by omega : gridShift num den ≠ 0)
      have between : 2 ^ (53 + shift) ≤ 2 ^ (52 + gridShift num den) :=
        Nat.pow_le_pow_right (by decide) (by omega)
      omega
    have step : den * spacing num den ≤ den * 2 ^ shift :=
      Nat.mul_le_mul_left den (Nat.pow_le_pow_right (by decide) finer)
    have near := roundEven_near (Nat.mul_pos positive (spacing_pos num den)) num
    have scaled : roundUnits num den * den =
        roundEven num (den * spacing num den) * (den * spacing num den) := by
      rw [roundUnits]
      ring
    rw [scaled]
    omega
  · have kept : roundUnits num den = 2 ^ (53 + shift) :=
      Nat.le_antisymm (roundUnits_le positive (exact_pow _) same.le)
        (le_roundUnits positive (exact_pow _) same.ge)
    rw [kept, ← same]
    omega

/-- A whole number of units that is not zero is not rounded to zero. -/
theorem roundUnits_eq_zero_iff : roundUnits num 1 = 0 ↔ num = 0 := by
  constructor
  · intro zero
    by_contra nonzero
    have one : Exact 1 := exact_pow 0
    have least : 1 ≤ roundUnits num 1 := le_roundUnits Nat.one_pos one (by omega)
    omega
  · rintro rfl
    exact roundUnits_of_exact exact_zero

end RoundUnits

end Swatch.Binary64
