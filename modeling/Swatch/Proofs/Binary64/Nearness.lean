import Mathlib.Algebra.Order.Field.Basic
import Mathlib.Algebra.Order.Field.Rat
import Mathlib.Algebra.Order.Group.MinMax
import Mathlib.Data.Rat.Cast.Order
import Mathlib.Tactic.FieldSimp
import Mathlib.Tactic.GCongr
import Mathlib.Tactic.Positivity
import Swatch.Color.Basic
import Swatch.Proofs.Binary64.Bounds

/-!
# Numbers next to rational values

How far the result of a computation is from the exact one. `Near x q e` says that `x` is finite and
at most `e` beside the rational value `q`. Among values up to a power of two one rounding adds at
most `grainAt` to what the operands bring along (`Near.add_at`, `Near.mul_at`, `Near.div_at`); up to
1024, where all of the color arithmetic takes place, that is `grain` (`Near.add`, `Near.mul`,
`Near.div`). A comparison of two numbers tells how the values lie up to their errors
(`Near.le_of_not_lt`, `Near.lt_of_lt`), and a number next to a whole one is rounded to it
(`Near.roundHalfUp`).
-/

namespace Swatch.Binary64

/-! ## Values -/

/-- The value of a count of units. -/
def valueOf (units : Int) : ℚ :=
  units / unitsPerOne

/-- The number is finite, and its value is at most `error` beside a given one. -/
def Near (x : Binary64) (value error : ℚ) : Prop :=
  ∃ units, Units x units ∧ |valueOf units - value| ≤ error

/-- What one rounding adds to an error: half the distance between neighbours below 1024. -/
def grain : ℚ :=
  1 / 2 ^ 44

theorem grain_pos : 0 < grain := by
  norm_num [grain]

theorem unitsPerOne_rat_pos : (0 : ℚ) < unitsPerOne := by
  exact_mod_cast unitsPerOne_pos

theorem valueOf_lt {u v : Int} : valueOf u < valueOf v ↔ u < v := by
  rw [valueOf, valueOf, div_lt_div_iff_of_pos_right unitsPerOne_rat_pos, Int.cast_lt]

theorem valueOf_le {u v : Int} : valueOf u ≤ valueOf v ↔ u ≤ v := by
  rw [valueOf, valueOf, div_le_div_iff_of_pos_right unitsPerOne_rat_pos, Int.cast_le]

theorem valueOf_ones (n : Int) : valueOf (n * unitsPerOne) = n := by
  rw [valueOf, Int.cast_mul, Int.cast_natCast, mul_div_assoc, div_self unitsPerOne_rat_pos.ne',
    mul_one]

theorem valueOf_add (u v : Int) : valueOf (u + v) = valueOf u + valueOf v := by
  rw [valueOf, Int.cast_add, add_div]
  rfl

/-! ## One rounding -/

/-- What one rounding adds to an error among values up to a power of two: half the distance between
neighbours there. -/
def grainAt (level : Nat) : ℚ :=
  2 ^ level / 2 ^ 54

theorem grainAt_ten : grainAt 10 = grain := by
  norm_num [grainAt, grain]

theorem grainAt_pos (level : Nat) : 0 < grainAt level := by
  unfold grainAt
  positivity

/-- Half the distance between the neighbours of numbers below a power of two, in units. -/
@[irreducible] def halfGrid (level : Nat) : Nat := 2 ^ (level + 1020)

theorem halfGrid_value (level : Nat) : (halfGrid level : ℚ) / unitsPerOne = grainAt level := by
  have whole : unitsPerOne * 2 ^ level = 2 ^ 54 * halfGrid level := by
    unfold halfGrid
    rw [unitsPerOne_pow, ← Nat.pow_add, ← Nat.pow_add,
      show 1074 + level = 54 + (level + 1020) by omega]
  have cast : (unitsPerOne : ℚ) * 2 ^ level = 2 ^ 54 * halfGrid level := by exact_mod_cast whole
  rw [grainAt, div_eq_div_iff unitsPerOne_rat_pos.ne' (by norm_num), mul_comm, ← cast, mul_comm]

theorem nearest_grid (level : Nat) {num : Int} {den : Nat} (positive : 0 < den) (nonneg : 0 ≤ num)
    (room : num ≤ (2 ^ level : Nat) * unitsPerOne * den) :
    num ≤ (nearest num den + halfGrid level) * den ∧
      (nearest num den - halfGrid level) * den ≤ num := by
  have grid : 2 ^ (level + 1021) = 2 * halfGrid level := by
    unfold halfGrid
    rw [← Nat.pow_succ']
  have limit : 2 ^ (53 + (level + 1021)) = 2 ^ level * unitsPerOne := by
    rw [pow_mul_unitsPerOne, show 53 + (level + 1021) = level + 1074 by omega]
  have near :=
    nearest_near positive (level + 1021) nonneg (by rw [limit]; push_cast at room ⊢; exact room)
  rw [grid] at near
  push_cast at near
  constructor <;> linarith

/-- A ratio of units up to a power of two is rounded to a value at most the grain beside it. -/
theorem value_nearest (level : Nat) {num : Int} {den : Nat} (positive : 0 < den)
    (room : |num| ≤ (2 ^ level : Nat) * unitsPerOne * den) :
    |valueOf (nearest num den) - num / (den * unitsPerOne)| ≤ grainAt level := by
  have scale := unitsPerOne_rat_pos
  have count : (0 : ℚ) < den := by exact_mod_cast positive
  have step {n : Int} (nonneg : 0 ≤ n) (room : |n| ≤ (2 ^ level : Nat) * unitsPerOne * den) :
      |valueOf (nearest n den) - n / (den * unitsPerOne)| ≤ grainAt level := by
    rw [abs_of_nonneg nonneg] at room
    obtain ⟨lower, upper⟩ := nearest_grid level positive nonneg room
    have lower : (n : ℚ) ≤ (nearest n den + halfGrid level) * den := by exact_mod_cast lower
    have upper : ((nearest n den : ℚ) - halfGrid level) * den ≤ n := by exact_mod_cast upper
    have apart : valueOf (nearest n den) - n / (den * unitsPerOne) =
        (nearest n den * den - n) / (den * unitsPerOne) := by
      rw [valueOf]
      field_simp
    have whole : grainAt level = halfGrid level * den / (den * unitsPerOne) := by
      rw [← halfGrid_value]
      field_simp
    rw [apart, whole, abs_div, abs_of_pos (mul_pos count scale)]
    gcongr
    rw [abs_le]
    constructor <;> linarith
  rcases le_or_gt 0 num with nonneg | negative
  · exact step nonneg room
  · have own := step (n := -num) (by omega) (by rwa [abs_neg])
    rw [nearest_neg, valueOf, Int.cast_neg, Int.cast_neg, neg_div, neg_div, ← neg_sub',
      abs_neg] at own
    exact own

/-- The rounded ratio is beside a value at most by what the exact one is, and by the grain. -/
theorem near_nearest_at (level : Nat) (small : level ≤ 100) {num : Int} {den : Nat}
    (positive : 0 < den)
    {q e : ℚ} (close : |num / (den * unitsPerOne) - q| ≤ e) (room : |q| + e ≤ 2 ^ level) :
    InRoom (nearest num den) ∧ |valueOf (nearest num den) - q| ≤ e + grainAt level := by
  have scale := unitsPerOne_rat_pos
  have count : (0 : ℚ) < den := by exact_mod_cast positive
  have size : |(num : ℚ) / (den * unitsPerOne)| ≤ 2 ^ level := by
    have triangle := abs_add_le (num / (den * unitsPerOne) - q) q
    rw [sub_add_cancel] at triangle
    linarith
  rw [abs_div, abs_of_pos (mul_pos count scale), div_le_iff₀ (mul_pos count scale)] at size
  have bound : |num| ≤ (2 ^ level : Nat) * unitsPerOne * den := by
    have cast : ((|num| : Int) : ℚ) ≤ (((2 ^ level : Nat) * unitsPerOne * den : Int) : ℚ) := by
      push_cast
      linarith
    exact_mod_cast cast
  refine ⟨inRoom_nearest positive ?_, ?_⟩
  · have own : num.natAbs ≤ 2 ^ level * unitsPerOne * den := by
      zify
      push_cast at bound
      exact bound
    exact own.trans (Nat.mul_le_mul_right den (pow_le_roomUnits (by omega)))
  · have triangle := abs_add_le (valueOf (nearest num den) - num / (den * unitsPerOne))
      (num / (den * unitsPerOne) - q)
    rw [sub_add_sub_cancel] at triangle
    have rounded := value_nearest level positive bound
    linarith

theorem near_nearest {num : Int} {den : Nat} (positive : 0 < den) {q e : ℚ}
    (close : |num / (den * unitsPerOne) - q| ≤ e) (room : |q| + e ≤ 1024) :
    InRoom (nearest num den) ∧ |valueOf (nearest num den) - q| ≤ e + grain := by
  rw [← grainAt_ten]
  exact near_nearest_at 10 (by decide) positive close (by norm_num; exact room)

/-! ## Numbers next to values -/

section Near

variable {x y : Binary64} {p q d e : ℚ}

theorem Near.widen (near : Near x p d) (more : d ≤ e) : Near x p e := by
  obtain ⟨u, own, close⟩ := near
  exact ⟨u, own, close.trans more⟩

theorem Near.of_eq (near : Near x p d) (same : p = q) : Near x q d :=
  same ▸ near

/-- A number next to a value is next to those that are next to the value. -/
theorem Near.move (near : Near x p d) (close : |p - q| ≤ e) : Near x q (d + e) := by
  obtain ⟨u, own, near⟩ := near
  refine ⟨u, own, ?_⟩
  have triangle := abs_add_le (valueOf u - p) (p - q)
  rw [sub_add_sub_cancel] at triangle
  linarith

theorem Near.nonneg (near : Near x p d) : 0 ≤ d := by
  obtain ⟨u, -, close⟩ := near
  exact (abs_nonneg _).trans close

/-- A finite number has a value. -/
theorem Units.near {u : Int} (own : Units x u) : Near x (valueOf u) 0 :=
  ⟨u, own, by rw [sub_self, abs_zero]⟩

theorem near_ofNat {n : Nat} (small : n < 2 ^ 53) : Near (ofNat n) n 0 := by
  have own := (units_ofNat small).near
  rwa [← Int.cast_natCast (R := ℚ), ← valueOf_ones]

/-- A numeral has its own value. -/
theorem near_numeral (n : Nat) [n.AtLeastTwo] (small : n < 2 ^ 53) :
    Near (OfNat.ofNat n) (OfNat.ofNat n) 0 :=
  (near_ofNat small).of_eq Nat.cast_ofNat

theorem valueOf_half : valueOf halfUnits = 1 / 2 := by
  have whole : (2 : ℚ) * halfUnits = unitsPerOne := by exact_mod_cast halfUnits_double
  have scale := unitsPerOne_rat_pos
  rw [valueOf, Int.cast_natCast, ← whole, ← div_div, div_eq_iff (by linarith)]
  ring

theorem near_half : Near (1 / 2) (1 / 2) 0 := by
  have own := units_half.near
  rwa [valueOf_half] at own

/-- A number between whole numbers has a value between them. -/
theorem exists_near_of_within {a b : Int} (within : Within x a b) :
    ∃ v : ℚ, Near x v 0 ∧ a ≤ v ∧ v ≤ b := by
  obtain ⟨u, own, lower, upper⟩ := within
  refine ⟨valueOf u, own.near, ?_, ?_⟩
  · rw [← valueOf_ones a]
    exact valueOf_le.mpr lower
  · rw [← valueOf_ones b]
    exact valueOf_le.mpr upper

/-! ## Operations -/

theorem Near.add_at (level : Nat) (low : level ≤ 100) (first : Near x p d) (second : Near y q e)
    (room : |p + q| + (d + e) ≤ 2 ^ level) : Near (x + y) (p + q) (d + e + grainAt level) := by
  obtain ⟨u, own, close⟩ := first
  obtain ⟨v, own', close'⟩ := second
  have sum : |((u + v : Int) : ℚ) / ((1 : Nat) * unitsPerOne) - (p + q)| ≤ d + e := by
    have split : ((u + v : Int) : ℚ) / ((1 : Nat) * unitsPerOne) - (p + q) =
        (valueOf u - p) + (valueOf v - q) := by
      rw [Nat.cast_one, one_mul, ← valueOf, valueOf_add]
      ring
    rw [split]
    exact (abs_add_le _ _).trans (add_le_add close close')
  obtain ⟨small, near⟩ := near_nearest_at level low Nat.one_pos sum room
  exact ⟨_, own.add own' small, near⟩

theorem Near.add (first : Near x p d) (second : Near y q e) (room : |p + q| + (d + e) ≤ 1024) :
    Near (x + y) (p + q) (d + e + grain) := by
  rw [← grainAt_ten]
  exact first.add_at 10 (by decide) second (by norm_num; exact room)

theorem Near.neg (near : Near x p d) : Near (-x) (-p) d := by
  obtain ⟨u, own, close⟩ := near
  refine ⟨-u, own.neg, ?_⟩
  rw [valueOf, Int.cast_neg, neg_div, ← neg_sub', abs_neg]
  exact close

theorem Near.sub (first : Near x p d) (second : Near y q e) (room : |p - q| + (d + e) ≤ 1024) :
    Near (x - y) (p - q) (d + e + grain) := by
  rw [sub_eq_add_neg] at room ⊢
  exact first.add second.neg room

/-- The error of a product, from bounds of the factors. -/
theorem Near.mul_at (level : Nat) (low : level ≤ 100) (first : Near x p d) (second : Near y q e)
    {k m : ℚ} (size : |p| ≤ k) (size' : |q| ≤ m)
    (room : k * m + (k * e + m * d + d * e) ≤ 2 ^ level) :
    Near (x * y) (p * q) (k * e + m * d + d * e + grainAt level) := by
  have positive := first.nonneg
  have positive' := second.nonneg
  obtain ⟨u, own, close⟩ := first
  obtain ⟨v, own', close'⟩ := second
  have product : |((u * v : Int) : ℚ) / (unitsPerOne * unitsPerOne) - p * q| ≤
      k * e + m * d + d * e := by
    have split : ((u * v : Int) : ℚ) / (unitsPerOne * unitsPerOne) - p * q =
        p * (valueOf v - q) + q * (valueOf u - p) + (valueOf u - p) * (valueOf v - q) := by
      rw [valueOf, valueOf]
      push_cast
      ring
    rw [split]
    refine (abs_add_le _ _).trans (add_le_add ((abs_add_le _ _).trans (add_le_add ?_ ?_)) ?_)
    · rw [abs_mul]
      exact mul_le_mul size close' (abs_nonneg _) ((abs_nonneg _).trans size)
    · rw [abs_mul]
      exact mul_le_mul size' close (abs_nonneg _) ((abs_nonneg _).trans size')
    · rw [abs_mul]
      exact mul_le_mul close close' (abs_nonneg _) positive
  have most : |p * q| ≤ k * m := by
    rw [abs_mul]
    exact mul_le_mul size size' (abs_nonneg _) ((abs_nonneg _).trans size)
  obtain ⟨small, near⟩ := near_nearest_at level low unitsPerOne_pos product (by linarith)
  exact ⟨_, own.mul own' small, near⟩

theorem Near.mul (first : Near x p d) (second : Near y q e) {k m : ℚ} (size : |p| ≤ k)
    (size' : |q| ≤ m) (room : k * m + (k * e + m * d + d * e) ≤ 1024) :
    Near (x * y) (p * q) (k * e + m * d + d * e + grain) := by
  rw [← grainAt_ten]
  exact first.mul_at 10 (by decide) second size size' (by norm_num; exact room)

/-- The error of a quotient, from a bound of the quotient and one that the divisor does not fall
below. -/
theorem Near.div_at (level : Nat) (low : level ≤ 100) (first : Near x p d) (second : Near y q e)
    {m k : ℚ} (positive : 0 < m) (above : m + e ≤ q) (size : |p / q| ≤ k)
    (room : k + (d + k * e) / m ≤ 2 ^ level) :
    Near (x / y) (p / q) ((d + k * e) / m + grainAt level) := by
  have scale := unitsPerOne_rat_pos
  have nonneg := first.nonneg
  have nonneg' := second.nonneg
  obtain ⟨u, own, close⟩ := first
  obtain ⟨v, own', close'⟩ := second
  have divisor : m ≤ valueOf v := by
    have lower := (abs_le.mp close').1
    linarith
  have units_pos : 0 < v := by
    have positive : valueOf 0 < valueOf v := by
      rw [valueOf, Int.cast_zero, zero_div]
      linarith
    exact valueOf_lt.mp positive
  have count : (v.natAbs : ℚ) = v := by
    rw [← Int.cast_natCast, Int.natAbs_of_nonneg units_pos.le]
  have ratio : ((u * unitsPerOne * v.sign : Int) : ℚ) / (v.natAbs * unitsPerOne) =
      valueOf u / valueOf v := by
    have cast : (0 : ℚ) < v := by exact_mod_cast units_pos
    rw [count, Int.sign_eq_one_of_pos units_pos, valueOf, valueOf]
    push_cast
    field_simp
  have quotient : |valueOf u / valueOf v - p / q| ≤ (d + k * e) / m := by
    have split : valueOf u / valueOf v - p / q =
        ((valueOf u - p) - p / q * (valueOf v - q)) / valueOf v := by
      have nonzero : q ≠ 0 := by linarith
      have nonzero' : valueOf v ≠ 0 := by linarith
      field_simp
      ring
    have top : |(valueOf u - p) - p / q * (valueOf v - q)| ≤ d + k * e := by
      refine (abs_sub _ _).trans (add_le_add close ?_)
      rw [abs_mul]
      exact mul_le_mul size close' (abs_nonneg _) ((abs_nonneg _).trans size)
    rw [split, abs_div, abs_of_pos (positive.trans_le divisor)]
    exact div_le_div₀ ((abs_nonneg _).trans top) top positive divisor
  rw [← ratio] at quotient
  obtain ⟨small, near⟩ :=
    near_nearest_at level low (Int.natAbs_pos.mpr units_pos.ne') quotient (by linarith)
  exact ⟨_, own.div own' units_pos.ne' small, near⟩

theorem Near.div (first : Near x p d) (second : Near y q e) {m k : ℚ} (positive : 0 < m)
    (above : m + e ≤ q) (size : |p / q| ≤ k) (room : k + (d + k * e) / m ≤ 1024) :
    Near (x / y) (p / q) ((d + k * e) / m + grain) := by
  rw [← grainAt_ten]
  exact first.div_at 10 (by decide) second positive above size (by norm_num; exact room)

/-! ## Comparisons -/

theorem Near.lt_of_lt (first : Near x p d) (second : Near y q e) (less : x.lt y = true) :
    p - d < q + e := by
  obtain ⟨u, own, close⟩ := first
  obtain ⟨v, own', close'⟩ := second
  have order := valueOf_lt.mpr ((own.lt_iff own').mp less)
  rw [abs_le] at close close'
  linarith

theorem Near.le_of_not_lt (first : Near x p d) (second : Near y q e) (more : x.lt y = false) :
    q - e ≤ p + d := by
  obtain ⟨u, own, close⟩ := first
  obtain ⟨v, own', close'⟩ := second
  have order := valueOf_le.mpr (not_lt.mp fun less => by
    rw [(own.lt_iff own').mpr less] at more
    cases more)
  rw [abs_le] at close close'
  linarith

theorem Near.le_of_le (first : Near x p d) (second : Near y q e) (less : x.le y = true) :
    p - d ≤ q + e := by
  obtain ⟨u, own, close⟩ := first
  obtain ⟨v, own', close'⟩ := second
  have order := valueOf_le.mpr ((own.le_iff own').mp less)
  rw [abs_le] at close close'
  linarith

theorem Near.lt_of_not_le (first : Near x p d) (second : Near y q e) (more : x.le y = false) :
    q - e < p + d := by
  obtain ⟨u, own, close⟩ := first
  obtain ⟨v, own', close'⟩ := second
  have order := valueOf_lt.mpr (not_le.mp fun less => by
    rw [(own.le_iff own').mpr less] at more
    cases more)
  rw [abs_le] at close close'
  linarith

theorem Near.close_of_same (first : Near x p d) (second : Near y q e) (same : x.same y = true) :
    |p - q| ≤ d + e := by
  obtain ⟨u, own, close⟩ := first
  obtain ⟨v, own', close'⟩ := second
  cases (own.same_iff own').mp same
  rw [abs_le] at close close' ⊢
  constructor <;> linarith

/-- Numbers whose values are further apart than their errors are not the same. -/
theorem Near.not_same (first : Near x p d) (second : Near y q e) (apart : d + e < |p - q|) :
    x.same y = false := by
  cases same : x.same y with
  | false => rfl
  | true => exact absurd (first.close_of_same second same) (not_le.mpr apart)

theorem Near.larger (first : Near x p e) (second : Near y q e) : Near (x.larger y) (max p q) e := by
  obtain ⟨u, own, close⟩ := first
  obtain ⟨v, own', close'⟩ := second
  refine ⟨max u v, own.larger own', ?_⟩
  have most : valueOf (max u v) = max (valueOf u) (valueOf v) :=
    Monotone.map_max fun _ _ => valueOf_le.mpr
  rw [most]
  exact (abs_max_sub_max_le_max _ _ _ _).trans (max_le close close')

theorem Near.smaller (first : Near x p e) (second : Near y q e) :
    Near (x.smaller y) (min p q) e := by
  obtain ⟨u, own, close⟩ := first
  obtain ⟨v, own', close'⟩ := second
  refine ⟨min u v, own.smaller own', ?_⟩
  have least : valueOf (min u v) = min (valueOf u) (valueOf v) :=
    Monotone.map_min fun _ _ => valueOf_le.mpr
  rw [least]
  exact (abs_min_sub_min_le_max _ _ _ _).trans (max_le close close')

/-! ## Whole parts and remainders -/

/-- The whole part of a finite number is at most its value, by less than one. -/
theorem Near.floor (near : Near x p d) :
    ∃ n : Int, x.floor = .ok n ∧ (n : ℚ) ≤ p + d ∧ p - d < n + 1 := by
  obtain ⟨u, ⟨negative, size, rfl, rfl⟩, close⟩ := near
  have scale := unitsPerOne_cast_pos
  refine ⟨signed negative size / unitsPerOne, rfl, ?_, ?_⟩
  · have lower := valueOf_le.mpr (Int.ediv_mul_le (signed negative size) scale.ne')
    rw [valueOf_ones] at lower
    rw [abs_le] at close
    linarith
  · have upper := valueOf_lt.mpr (Int.lt_ediv_add_one_mul_self (signed negative size) scale)
    rw [valueOf_ones] at upper
    push_cast at upper
    rw [abs_le] at close
    linarith

/-- A number is rounded to a whole one that is at most one half beside it, but for errors. -/
theorem Near.roundHalfUp (near : Near x p d) (room : |p| + d ≤ 1000) :
    ∃ n : Int, Color.roundHalfUp x = .ok n ∧ (n : ℚ) ≤ p + 1 / 2 + d + grain ∧
      p - 1 / 2 - d - grain < n := by
  have size : |p + 1 / 2| + (d + 0) ≤ 1024 := by
    have triangle := abs_add_le p (1 / 2)
    rw [abs_of_pos (by norm_num : (0 : ℚ) < 1 / 2)] at triangle
    linarith
  obtain ⟨n, whole, lower, upper⟩ := (near.add near_half size).floor
  exact ⟨n, whole, by linarith, by linarith⟩

/-- A number next to a whole one is rounded to it. -/
theorem Near.roundHalfUp_eq (near : Near x p d) {n : Int} (close : |p - n| + d + grain < 1 / 2)
    (room : |p| + d ≤ 1000) : Color.roundHalfUp x = .ok n := by
  obtain ⟨m, rounded, lower, upper⟩ := near.roundHalfUp room
  have bounds := abs_le.mp (le_refl |p - n|)
  have below : (m : ℚ) < n + 1 := by linarith
  have above : (n : ℚ) < m + 1 := by linarith
  have same : m = n := by
    have below : m < n + 1 := by exact_mod_cast below
    have above : n < m + 1 := by exact_mod_cast above
    omega
  rw [rounded, same]

/-- What a fraction leaves of one, rounded once. -/
theorem near_rest_of_one {rest : Nat} (less : rest < unitsPerOne) :
    ∃ v : ℚ, Near (ofRatio false (unitsPerOne - rest) 1) v 0 ∧ 0 ≤ v ∧ v ≤ 1 ∧
      |v - (1 - rest / unitsPerOne)| ≤ grain := by
  have scale := unitsPerOne_rat_pos
  have nonneg : 0 ≤ (rest : ℚ) / unitsPerOne := by positivity
  have le_one : (rest : ℚ) / unitsPerOne ≤ 1 := (div_le_one scale).mpr (by exact_mod_cast less.le)
  obtain ⟨small, near⟩ := @near_nearest (unitsPerOne - rest : Nat) 1 Nat.one_pos
    (1 - rest / unitsPerOne) 0
    (by
      rw [Int.cast_natCast, Nat.cast_sub less.le, Nat.cast_one, one_mul, sub_div,
        div_self scale.ne', sub_self, abs_zero])
    (by rw [abs_of_nonneg (by linarith)]; linarith)
  obtain ⟨least, most, -⟩ := nearest_between (unitsPerOne - rest : Nat) Nat.one_pos
    (bound_ones (k := 0) (by decide)) (bound_ones (k := 1) (by decide)) (by simp) (by simp)
  have own := units_ofRatio false (fun minus => absurd minus (by omega)) (fun _ => rfl) small
  rw [Int.natAbs_natCast] at own
  refine ⟨_, own.near, ?_, ?_, by rwa [zero_add] at near⟩
  · have lower := valueOf_le.mpr least
    rwa [valueOf_ones, Int.cast_zero] at lower
  · have upper := valueOf_le.mpr most
    rwa [valueOf_ones, Int.cast_one] at upper

/-- The remainder of a finite number modulo one is a whole number away from it, but for one
rounding. -/
theorem exists_wrap (negative : Bool) (size : Nat) :
    ∃ (v : ℚ) (k : Int), Near ((finite negative size).wrap 1) v 0 ∧ 0 ≤ v ∧ v ≤ 1 ∧
      |v - (valueOf (signed negative size) + k)| ≤ grain := by
  have scale := unitsPerOne_rat_pos
  have less := Nat.mod_lt size unitsPerOne_pos
  have parts : valueOf size =
      (size / unitsPerOne : Nat) + (size % unitsPerOne : Nat) / unitsPerOne := by
    have whole : (size : ℚ) =
        unitsPerOne * (size / unitsPerOne : Nat) + (size % unitsPerOne : Nat) := by
      exact_mod_cast (Nat.div_add_mod size unitsPerOne).symm
    rw [valueOf, Int.cast_natCast, div_eq_iff scale.ne', add_mul, div_mul_cancel₀ _ scale.ne']
    linarith
  have value : valueOf (signed negative size) =
      if negative then -valueOf size else valueOf size := by
    cases negative <;> simp [valueOf, signed, neg_div]
  unfold Binary64.wrap
  dsimp only
  rw [Nat.one_mul, value, parts]
  generalize size % unitsPerOne = rest at less
  generalize size / unitsPerOne = whole
  split
  next zero =>
    refine ⟨0, -signed negative whole,
      Near.of_eq (Units.near ⟨false, 0, rfl, rfl⟩) (by simp [valueOf, signed]), le_rfl, zero_le_one,
      ?_⟩
    cases negative <;> simp [zero, signed, grain_pos.le]
  split
  next nonzero minus =>
    obtain ⟨v, near, from_zero, to_one, close⟩ := near_rest_of_one less
    refine ⟨v, whole + 1, near, from_zero, to_one, ?_⟩
    have same : -((whole : ℚ) + rest / unitsPerOne) + (whole + 1 : Int) =
        1 - rest / unitsPerOne := by
      push_cast
      ring
    rwa [same]
  next nonzero plus =>
    refine ⟨rest / unitsPerOne, -whole, Near.of_eq (Units.near ⟨false, rest, rfl, rfl⟩)
      (by simp [valueOf, signed]), by positivity,
      (div_le_one scale).mpr (by exact_mod_cast less.le), ?_⟩
    have same : (whole : ℚ) + rest / unitsPerOne + (-whole : Int) = rest / unitsPerOne := by
      push_cast
      ring
    rw [same, sub_self, abs_zero]
    exact grain_pos.le

/-- A remainder modulo one is from zero to one, and but for errors a whole number away from the
number. -/
theorem Near.wrap (near : Near x p d) :
    ∃ (v : ℚ) (k : Int), Near (x.wrap 1) v 0 ∧ 0 ≤ v ∧ v ≤ 1 ∧ |v - (p + k)| ≤ d + grain := by
  obtain ⟨u, ⟨negative, size, rfl, rfl⟩, close⟩ := near
  obtain ⟨v, k, wrapped, from_zero, to_one, apart⟩ := exists_wrap negative size
  refine ⟨v, k, wrapped, from_zero, to_one, ?_⟩
  calc |v - (p + k)|
      = |v - (valueOf (signed negative size) + k) + (valueOf (signed negative size) - p)| := by
        congr 1
        ring
    _ ≤ |v - (valueOf (signed negative size) + k)| + |valueOf (signed negative size) - p| :=
        abs_add_le _ _
    _ ≤ d + grain := by linarith

end Near

end Swatch.Binary64
