import Swatch.Color.Achromatic
import Swatch.Proofs.Color.Channels

/-!
# Views of a color that was read

Whole channels, their number, the formats without a hue and the exact name are there for every color
that was read (`views_of_parse`). The views with a hue are there too, with one exception: next to
white the greatest and the least channel may differ and still add up to two, and then the divisor of
the saturation is zero (`nextToWhite`). Anywhere else all divisors are far enough from zero that the
hue, the saturation and the lightness are finite (`hslExact_of_ranged`, `short_of_two`), and so are
the whole numbers that are made of them.
-/

namespace Swatch.Color

open Binary64

/-! ## Rounding half up -/

section Rounding

variable {x : Binary64} {u low top : Int}

theorem roundHalfUp_of_units (high : Int) (own : Units x u) (least : Bound (low * unitsPerOne))
    (most : Bound top) (lower : low * unitsPerOne ≤ u) (upper : u + halfUnits ≤ top)
    (less : top < (high + 1) * unitsPerOne) :
    ∃ n, roundHalfUp x = .ok n ∧ low ≤ n ∧ n ≤ high := by
  have half := halfUnits_double
  have scale := unitsPerOne_cast_pos
  have sum := own.add_between units_half least most (by omega) upper
  obtain ⟨n, whole, above, below⟩ := sum.floor
  rw [Int.mul_ediv_cancel _ scale.ne'] at above
  have most : top / unitsPerOne < high + 1 := Int.ediv_lt_of_lt_mul scale less
  exact ⟨n, whole, above, by omega⟩

/-- Between two whole numbers the rounded number is between them too. -/
theorem roundHalfUp_of_within {high : Int} (within : Within x low high)
    (small : low.natAbs < 2 ^ 53)
    (room : (2 * high + 1).natAbs < 2 ^ 53) :
    ∃ n, roundHalfUp x = .ok n ∧ low ≤ n ∧ n ≤ high := by
  have half := halfUnits_double
  have scale := unitsPerOne_cast_pos
  obtain ⟨u, own, lower, upper⟩ := within
  have exact : Bound ((2 * high + 1) * halfUnits) := by
    refine ⟨?_, ?_⟩
    · rw [ExactInt, Int.natAbs_mul, Int.natAbs_natCast]
      exact ⟨_, 1073, room, rfl⟩
    · have less : 2 ^ 53 * halfUnits ≤ 2 ^ 53 * unitsPerOne :=
        Nat.mul_le_mul_left _ (by omega)
      rw [InRoom, Int.natAbs_mul, Int.natAbs_natCast]
      exact (Nat.mul_le_mul_right _ room.le).trans (less.trans (pow_le_roomUnits (by decide)))
  have step : 0 < (halfUnits : Int) := by omega
  refine roundHalfUp_of_units high own (bound_ones small) exact lower ?_ ?_
  · rw [← half] at upper
    linarith
  · rw [← half]
    linarith

end Rounding

/-! ## The greatest and the least channel -/

/-- The greatest and the least of three numbers differ, and their sum is rounded to two. -/
def nextToWhite (color : Color) : Bool :=
  let high := greatest (color.red / 255) (color.green / 255) (color.blue / 255)
  let low := least (color.red / 255) (color.green / 255) (color.blue / 255)
  !low.same high && (high + low).same 2

/-- Three numbers of so many units, of which `a` are the least and `b` the greatest. -/
structure Extremes (x y z : Binary64) (u v w a b : Int) : Prop where
  first : Units x u
  second : Units y v
  third : Units z w
  greatest : Units (greatest x y z) b
  least : Units (least x y z) a
  nonneg : 0 ≤ a
  bounded : b ≤ 0x4000 * unitsPerOne
  above : u ≤ b ∧ v ≤ b ∧ w ≤ b
  below : a ≤ u ∧ a ≤ v ∧ a ≤ w

theorem exists_extremes {x y z : Binary64} (first : Within x 0 0x4000)
    (second : Within y 0 0x4000) (third : Within z 0 0x4000) :
    ∃ u v w a b, Extremes x y z u v w a b := by
  obtain ⟨u, own, nonneg, le⟩ := first
  obtain ⟨v, own', nonneg', le'⟩ := second
  obtain ⟨w, own'', nonneg'', le''⟩ := third
  exact ⟨u, v, w, _, _, own, own', own'', (own.larger own').larger own'',
    (own.smaller own').smaller own'', by omega, by omega, by omega, by omega⟩

theorem quotient_eq_ok {x y : Binary64} {v : Int} (own : Units y v) (nonzero : v ≠ 0) :
    x.quotient y = .ok (x / y) := by
  have zero : Units zero 0 := ⟨false, 0, rfl, rfl⟩
  unfold quotient
  rw [if_neg (by rwa [own.same_iff zero])]

theorem quotient_zero {x y : Binary64} (own : Units y 0) :
    x.quotient y = .error .divisionByZero := by
  have zero : Units zero 0 := ⟨false, 0, rfl, rfl⟩
  unfold quotient
  rw [if_pos ((own.same_iff zero).mpr rfl)]

section Extremes

variable {x y z : Binary64} {u v w a b : Int}

/-- The range between the extremes is zero only if they are equal. -/
theorem Extremes.range (extremes : Extremes x y z u v w a b) :
    ∃ c, Units (Color.greatest x y z - Color.least x y z) c ∧ 0 ≤ c ∧ c ≤ 0x4000 * unitsPerOne ∧
      c = nearest (b - a) 1 ∧ (c = 0 ↔ a = b) := by
  have below := extremes.below
  have above := extremes.above
  have nonneg := extremes.nonneg
  have bounded := extremes.bounded
  obtain ⟨least, most, small⟩ := nearest_between (b - a) Nat.one_pos bound_zero
    (bound_ones (k := 0x4000) (by decide)) (by simp; omega) (by simp; omega)
  refine ⟨_, extremes.greatest.sub extremes.least small, least, most, rfl, ?_⟩
  rw [nearest_eq_zero_iff]
  omega

/-- The sum of the extremes is at least the range between them. -/
theorem Extremes.sum (extremes : Extremes x y z u v w a b) :
    ∃ t, Units (Color.greatest x y z + Color.least x y z) t ∧ 0 ≤ t ∧ t ≤ 0x8000 * unitsPerOne ∧
      nearest (b - a) 1 ≤ t ∧ (t = 0 ↔ a + b = 0) := by
  have below := extremes.below
  have above := extremes.above
  have nonneg := extremes.nonneg
  have bounded := extremes.bounded
  obtain ⟨least, most, small⟩ := nearest_between (b + a) Nat.one_pos bound_zero
    (bound_ones (k := 0x8000) (by decide)) (by simp; omega) (by simp; omega)
  refine ⟨_, extremes.greatest.add extremes.least small, least, most,
    nearest_mono Nat.one_pos (by omega), ?_⟩
  rw [nearest_eq_zero_iff]
  omega

/-- From the greatest number to any of the three it is at most the range. -/
theorem Extremes.toward (extremes : Extremes x y z u v w a b) {channel : Binary64} {k : Int}
    (own : Units channel k) (above : a ≤ k) (below : k ≤ b) (apart : a ≠ b) :
    ∃ part, (Color.greatest x y z - channel).quotient
      (Color.greatest x y z - Color.least x y z) = .ok part ∧ Within part 0 1 := by
  have nonneg := extremes.nonneg
  have bounded := extremes.bounded
  obtain ⟨c, range, from_zero, -, same, zero⟩ := extremes.range
  obtain ⟨least, -, small⟩ := nearest_between (b - k) Nat.one_pos bound_zero
    (bound_ones (k := 0x4000) (by decide)) (by simp; omega) (by simp; omega)
  have le : nearest (b - k) 1 ≤ c := same ▸ nearest_mono Nat.one_pos (by omega)
  have nonzero : c ≠ 0 := fun eq_zero => apart (zero.mp eq_zero)
  exact ⟨_, quotient_eq_ok range nonzero,
    within_div_of_le (extremes.greatest.sub own small) range least (by omega) le⟩

/-- With a range there is a place on the hue circle. -/
theorem Extremes.hueSixth_within (extremes : Extremes x y z u v w a b) (apart : a ≠ b) :
    ∃ sixth, hueSixth x y z (Color.greatest x y z) (Color.greatest x y z - Color.least x y z) =
      .ok sixth ∧ Within sixth (-1) 5 := by
  have above := extremes.above
  have below := extremes.below
  obtain ⟨toRed, red, redWithin⟩ := extremes.toward extremes.first below.1 above.1 apart
  obtain ⟨toGreen, green, greenWithin⟩ :=
    extremes.toward extremes.second below.2.1 above.2.1 apart
  obtain ⟨toBlue, blue, blueWithin⟩ := extremes.toward extremes.third below.2.2 above.2.2 apart
  have two : Within 2 2 2 := within_ofNat (n := 2) (by decide)
  have four : Within 4 4 4 := within_ofNat (n := 4) (by decide)
  unfold hueSixth
  rw [red, green, blue]
  refine ⟨_, rfl, ?_⟩
  split
  next => exact (blueWithin.sub greenWithin (by decide) (by decide)).widen (by decide) (by decide)
  split
  next =>
    have sum := two.add redWithin (by decide) (by decide)
    exact (sum.sub blueWithin (by decide) (by decide)).widen (by decide) (by decide)
  next =>
    have sum := four.add greenWithin (by decide) (by decide)
    exact (sum.sub redWithin (by decide) (by decide)).widen (by decide) (by decide)

end Extremes

/-! ## Lightness and saturation -/

section Saturation

variable {sum range : Binary64} {t c : Int}

/-- Half a sum is at most one half exactly if the sum is not greater than one. -/
theorem half_sum (own : Units sum t) (nonneg : 0 ≤ t) (bounded : t ≤ 0x8000 * unitsPerOne) :
    Within (sum / 2) 0 0x8000 ∧ ((sum / 2).le (1 / 2) = false → unitsPerOne < t) ∧
      (t = 2 * unitsPerOne → (sum / 2).le (1 / 2) = false) := by
  have half := halfUnits_double
  have scale := unitsPerOne_cast_pos
  have two : Units 2 ((2 : Nat) * unitsPerOne) := units_ofNat (n := 2) (by decide)
  have positive : (0 : Int) < (2 : Nat) * unitsPerOne := mul_pos (by decide) scale
  have within : Within sum 0 0x8000 := ⟨t, own, by omega, bounded⟩
  refine ⟨within.div_ofNat (n := 2) (by decide) (by decide) le_rfl (by decide) (by decide)
    (by decide), fun bright => ?_, fun white => ?_⟩
  · by_contra dark
    have exact : Bound halfUnits := by
      refine ⟨exact_pow 1073, ?_⟩
      have room := (bound_ones (k := 1) (by decide)).small
      rw [InRoom] at room ⊢
      omega
    have below : t * unitsPerOne ≤ halfUnits * ((2 : Nat) * unitsPerOne) := by
      rw [← mul_assoc]
      exact Int.mul_le_mul_of_nonneg_right (by push_cast; omega) scale.le
    obtain ⟨l, lightness, -, most⟩ := own.div_between two positive bound_zero exact
      (by rw [Int.zero_mul]; exact mul_nonneg nonneg scale.le) below
    have le := (lightness.le_iff units_half).mpr most
    rw [bright] at le
    cases le
  · have same : 1 * unitsPerOne * ((2 : Nat) * unitsPerOne) = t * (unitsPerOne : Int) := by
      rw [white]
      push_cast
      ring
    obtain ⟨l, lightness, least, -⟩ := own.div_between two positive
      (bound_ones (k := 1) (by decide)) (bound_ones (k := 1) (by decide)) same.le same.ge
    rw [Bool.eq_false_iff, Ne, lightness.le_iff units_half]
    omega

/-- A whole number of ones as a power of two, far beyond what is exact otherwise. -/
theorem bound_two_pow {k : Nat} (small : k ≤ 100) : Bound ((2 ^ k : Nat) * unitsPerOne) := by
  rw [← Nat.cast_mul]
  refine ⟨?_, ?_⟩
  · rw [pow_mul_unitsPerOne]
    exact exact_pow _
  · rw [InRoom, Int.natAbs_natCast]
    exact pow_le_roomUnits (by omega)

/-- What a bright sum is short of two, or beyond it, is at least two half steps unless it is
nothing. -/
theorem short_of_two (own : Units sum t) (exact : ExactInt t) (bright : unitsPerOne < t)
    (bounded : t ≤ 0x8000 * unitsPerOne) (apart : t ≠ 2 * unitsPerOne) :
    ∃ r, Units (2 - sum) r ∧ 2 * halfStep ≤ r.natAbs := by
  have scale := unitsPerOne_cast_pos
  have step := halfStep_pos
  have whole := unitsPerOne_eq
  have power : (2 : Nat) ^ 1022 = 2 * halfStep := by rw [halfStep_pow, ← Nat.pow_succ']
  have least : ExactInt (2 * halfStep : Nat) := by
    rw [ExactInt, Int.natAbs_natCast, ← power]
    exact exact_pow 1022
  have divisible : ((2 * halfStep : Nat) : Int) ∣ t := by
    rw [Int.natCast_dvd, ← power]
    exact Exact.dvd exact (by rw [← unitsPerOne_pow]; omega)
  have divisible' : ((2 * halfStep : Nat) : Int) ∣ 2 * unitsPerOne - t :=
    Int.dvd_sub ⟨9007199254740992, by push_cast; omega⟩ divisible
  obtain ⟨-, -, small⟩ := nearest_between (2 * unitsPerOne - t) Nat.one_pos
    (bound_ones (k := -0x8000) (by decide)) (bound_ones (k := 2) (by decide)) (by simp; omega)
    (by simp; omega)
  have two : Units 2 (2 * unitsPerOne) := units_ofNat (n := 2) (by decide)
  refine ⟨_, two.sub own small, ?_⟩
  rcases lt_or_gt_of_ne apart with less | more
  · have large := Int.le_of_dvd (by omega) divisible'
    have above := le_nearest Nat.one_pos least (by simpa using large)
    omega
  · have large := Int.le_of_dvd (by omega) (Int.dvd_neg.mpr divisible')
    have below : nearest (2 * unitsPerOne - t) 1 ≤ -(2 * halfStep : Nat) :=
      nearest_le Nat.one_pos least.neg (by simp; omega)
    omega

/-- The saturation of a bright color is finite. -/
theorem bright_saturation (range_units : Units range c) (nonneg : 0 ≤ c)
    (bounded : c ≤ 0x4000 * unitsPerOne) {short : Binary64} {r : Int} (own : Units short r)
    (large : 2 * halfStep ≤ r.natAbs) :
    Within (range / short) (-(2 ^ 66 : Nat)) (2 ^ 66 : Nat) := by
  have scale := unitsPerOne_cast_pos
  have step := halfStep_pos
  have nonzero : r ≠ 0 := by omega
  have most : c.natAbs * unitsPerOne ≤ 2 ^ 66 * unitsPerOne * r.natAbs := by
    have size : c.natAbs ≤ 0x4000 * unitsPerOne := by omega
    calc c.natAbs * unitsPerOne ≤ 0x4000 * unitsPerOne * unitsPerOne :=
          Nat.mul_le_mul_right _ size
      _ = 2 ^ 66 * unitsPerOne * (2 * halfStep) := by
          rw [← pow_mul_halfStep]
          ring
      _ ≤ 2 ^ 66 * unitsPerOne * r.natAbs := Nat.mul_le_mul_left _ large
  have sized : (c * unitsPerOne * r.sign).natAbs = c.natAbs * unitsPerOne := by
    rw [Int.natAbs_mul, Int.natAbs_mul, Int.natAbs_sign_of_ne_zero nonzero, Nat.mul_one,
      Int.natAbs_natCast]
  have bound := bound_two_pow (k := 66) (by decide)
  have near : (nearest (c * unitsPerOne * r.sign) r.natAbs).natAbs ≤ 2 ^ 66 * unitsPerOne := by
    rw [natAbs_nearest, sized]
    refine roundUnits_le (Int.natAbs_pos.mpr nonzero) ?_ most
    have exact := bound.exact
    rwa [ExactInt, ← Nat.cast_mul, Int.natAbs_natCast] at exact
  have fits : InRoom (nearest (c * unitsPerOne * r.sign) r.natAbs) := by
    have room := bound.small
    rw [InRoom, ← Nat.cast_mul, Int.natAbs_natCast] at room
    exact near.trans room
  refine ⟨_, range_units.div own nonzero fits, ?_, ?_⟩
  · rw [Int.neg_mul, ← Nat.cast_mul]
    omega
  · rw [← Nat.cast_mul]
    omega

variable {x y z : Binary64} {u v w a b : Int}

/-- A dark color has a saturation, and it is not next to white. -/
theorem Extremes.saturation_of_dark (extremes : Extremes x y z u v w a b) (apart : a ≠ b)
    (dark : ((Color.greatest x y z + Color.least x y z) / 2).le (1 / 2) = true) :
    (Color.greatest x y z + Color.least x y z).same 2 = false ∧
      ∃ saturation, (Color.greatest x y z - Color.least x y z).quotient
          (Color.greatest x y z + Color.least x y z) = .ok saturation ∧
        Within saturation (-(2 ^ 66 : Nat)) (2 ^ 66 : Nat) := by
  have two : Units 2 (2 * unitsPerOne) := units_ofNat (n := 2) (by decide)
  obtain ⟨c, range, from_zero, -, same, -⟩ := extremes.range
  obtain ⟨t, sum, nonneg, bounded, larger, nothing⟩ := extremes.sum
  obtain ⟨-, -, white⟩ := half_sum sum nonneg bounded
  have positive : t ≠ 0 := by
    have below := extremes.below
    have above := extremes.above
    have nonneg := extremes.nonneg
    omega
  refine ⟨?_, _, quotient_eq_ok sum positive, ?_⟩
  · rw [Bool.eq_false_iff, Ne, sum.same_iff two]
    intro full
    rw [white full] at dark
    cases dark
  · have within := within_div_of_le range sum from_zero (by omega) (same ▸ larger)
    exact within.widen (by decide) (by decide)

/-- A bright color has a saturation unless it is next to white: then the divisor is zero. -/
theorem Extremes.saturation_of_bright (extremes : Extremes x y z u v w a b)
    (bright : ((Color.greatest x y z + Color.least x y z) / 2).le (1 / 2) = false) :
    ((Color.greatest x y z + Color.least x y z).same 2 = true →
      (Color.greatest x y z - Color.least x y z).quotient
        (2 - (Color.greatest x y z + Color.least x y z)) = .error .divisionByZero) ∧
    ((Color.greatest x y z + Color.least x y z).same 2 = false →
      ∃ saturation, (Color.greatest x y z - Color.least x y z).quotient
          (2 - (Color.greatest x y z + Color.least x y z)) = .ok saturation ∧
        Within saturation (-(2 ^ 66 : Nat)) (2 ^ 66 : Nat)) := by
  have two : Units 2 (2 * unitsPerOne) := units_ofNat (n := 2) (by decide)
  obtain ⟨c, range, from_zero, to_most, -, -⟩ := extremes.range
  obtain ⟨t, sum, nonneg, bounded, -, -⟩ := extremes.sum
  obtain ⟨-, above, -⟩ := half_sum sum nonneg bounded
  constructor
  · intro white
    have full := (sum.same_iff two).mp white
    have small : InRoom (nearest (2 * unitsPerOne - t) 1) := by
      rw [full, sub_self, nearest_zero]
      exact bound_zero.small
    have short := two.sub sum small
    rw [full, sub_self, nearest_zero] at short
    exact quotient_zero short
  · intro other
    rw [Bool.eq_false_iff, Ne, sum.same_iff two] at other
    have exact : ExactInt t := (rounded_add _ _).exact sum
    obtain ⟨r, short, large⟩ := short_of_two sum exact (above bright) bounded other
    have step := halfStep_pos
    exact ⟨_, quotient_eq_ok short (by omega),
      bright_saturation range from_zero to_most short large⟩

end Saturation

/-! ## Hue, saturation and lightness -/

/-- A hue from 0 to 360 degrees, and a saturation and a lightness that are finite. -/
structure Hsl.Finite (exact : Hsl) : Prop where
  hue : Within exact.hue 0 360
  saturation : Within exact.saturation (-(2 ^ 66 : Nat)) (2 ^ 66 : Nat)
  lightness : Within exact.lightness 0 0x8000

theorem hue_within {sixth : Binary64} (within : Within sixth (-1) 5) :
    Within ((sixth / 6).wrap 1 * 360) 0 360 := by
  have turn :=
    (within.div_ofNat (n := 6) (by decide) (by decide) (by decide) (by decide) (by decide)
    (by decide)).wrap 1 (by decide) (by decide)
  have circle : Within 360 0 360 := (within_ofNat (n := 360) (by decide)).widen (by decide) le_rfl
  exact (turn.mul circle le_rfl (by decide) (by decide) (by decide)).widen (by decide) (by decide)

/-- Hue, saturation and lightness are there unless the color is next to white. -/
theorem hslExact_of_ranged {color : Color} (ranged : Ranged color) :
    (color.nextToWhite = true → color.hslExact = .error .divisionByZero) ∧
      (color.nextToWhite = false → ∃ exact, color.hslExact = .ok exact ∧ exact.Finite) := by
  have channel {x : Binary64} (within : Within x 0 0x4000) : Within (x / 255) 0 0x4000 :=
    within.div_ofNat (n := 255) (by decide) (by decide) le_rfl (by decide) (by decide) (by decide)
  obtain ⟨u, v, w, a, b, extremes⟩ :=
    exists_extremes (channel ranged.red) (channel ranged.green) (channel ranged.blue)
  unfold hslExact nextToWhite
  generalize color.red / 255 = x at *
  generalize color.green / 255 = y at *
  generalize color.blue / 255 = z at *
  obtain ⟨t, sum, nonneg, bounded, -, -⟩ := extremes.sum
  obtain ⟨lightness, -, -⟩ := half_sum sum nonneg bounded
  dsimp only
  by_cases apart : a = b
  · have zero : Within 0 0 360 := (within_ofNat (n := 0) (by decide)).widen (by decide) (by decide)
    have equal : (Color.least x y z).same (Color.greatest x y z) = true :=
      (extremes.least.same_iff extremes.greatest).mpr apart
    rw [equal]
    refine ⟨fun white => by simp at white, fun _ => ⟨_, rfl, ?_⟩⟩
    exact ⟨zero, zero.widen (by decide) (by decide), lightness⟩
  have differ : (Color.least x y z).same (Color.greatest x y z) = false := by
    rwa [Bool.eq_false_iff, Ne, extremes.least.same_iff extremes.greatest]
  obtain ⟨sixth, hue, place⟩ := extremes.hueSixth_within apart
  rw [differ, hue]
  simp only [Bool.not_false, Bool.true_and, Bool.false_eq_true, if_false]
  cases dark : ((Color.greatest x y z + Color.least x y z) / 2).le (1 / 2) with
  | true =>
    obtain ⟨other, saturation, found, finite⟩ := extremes.saturation_of_dark apart dark
    rw [other, found]
    refine ⟨fun white => ?_, fun _ => ⟨_, rfl, hue_within place, finite, lightness⟩⟩
    cases white
  | false =>
    obtain ⟨fault, saturated⟩ := extremes.saturation_of_bright dark
    constructor
    · intro white
      rw [fault white]
      rfl
    · intro other
      obtain ⟨saturation, found, finite⟩ := saturated other
      rw [found]
      exact ⟨_, rfl, hue_within place, finite, lightness⟩

/-! ## Whole numbers -/

/-- Whole channels that are not negative and not much too large. -/
structure Moderate (rgb : Rgb) : Prop where
  red : 0 ≤ rgb.red ∧ rgb.red ≤ 0x4000
  green : 0 ≤ rgb.green ∧ rgb.green ≤ 0x4000
  blue : 0 ≤ rgb.blue ∧ rgb.blue ≤ 0x4000

/-- A hue below 360 degrees and percentages of a moderate length. -/
structure Polar.Bounded (polar : Polar) : Prop where
  hue : 0 ≤ polar.hue ∧ polar.hue < 360
  first : polar.first.natAbs ≤ 2 ^ 74
  second : polar.second.natAbs ≤ 2 ^ 74

section Whole

variable {color : Color}

theorem rgb_of_ranged (ranged : Ranged color) : ∃ rgb, color.rgb = .ok rgb ∧ Moderate rgb := by
  obtain ⟨r, red, redBounds⟩ := roundHalfUp_of_within ranged.red (by decide) (by decide)
  obtain ⟨g, green, greenBounds⟩ := roundHalfUp_of_within ranged.green (by decide) (by decide)
  obtain ⟨b, blue, blueBounds⟩ := roundHalfUp_of_within ranged.blue (by decide) (by decide)
  refine ⟨⟨r, g, b⟩, ?_, redBounds, greenBounds, blueBounds⟩
  rw [Color.rgb, red, green, blue]
  rfl

theorem percent_within {x : Binary64} {n : Nat} (within : Within x 0 n) (small : n < 2 ^ 40) :
    ∃ k, roundHalfUp (x * 100) = .ok k ∧ 0 ≤ k ∧ k ≤ n * 100 := by
  have hundred : Within 100 0 100 := (within_ofNat (n := 100) (by decide)).widen (by decide) le_rfl
  have scaled := within.mul hundred le_rfl (Int.natCast_nonneg n) (by decide) (by omega)
  obtain ⟨k, rounded, bounds⟩ := roundHalfUp_of_within scaled (by decide) (by omega)
  exact ⟨k, rounded, by omega, by omega⟩

/-- The percentage of a saturation, however large. -/
theorem saturation_percent {x : Binary64} (within : Within x (-(2 ^ 66 : Nat)) (2 ^ 66 : Nat)) :
    ∃ k, roundHalfUp (x * 100) = .ok k ∧ k.natAbs ≤ 2 ^ 74 := by
  have scale := unitsPerOne_cast_pos
  have half := halfUnits_double
  obtain ⟨u, own, lower, upper⟩ := within
  have most := bound_two_pow (k := 73) (by decide)
  have least : Bound (-(2 ^ 73 : Nat) * unitsPerOne) := by
    rw [Int.neg_mul]
    exact most.neg
  obtain ⟨v, scaled, above, below⟩ :=
    own.mul_between (units_ofNat (n := 100) (by decide)) least most
    (by
      rw [← mul_assoc]
      exact Int.mul_le_mul_of_nonneg_right (by push_cast at lower ⊢; omega) scale.le)
    (by
      rw [← mul_assoc]
      exact Int.mul_le_mul_of_nonneg_right (by push_cast at upper ⊢; omega) scale.le)
  obtain ⟨k, rounded, bounds⟩ := roundHalfUp_of_units (2 ^ 74) scaled least
    (bound_two_pow (k := 74) (by decide)) above (by push_cast at below ⊢; omega)
    (by push_cast; omega)
  exact ⟨k, rounded, by push_cast at bounds; omega⟩

theorem hsl_of_finite {exact : Hsl} (own : color.hslExact = .ok exact) (finite : exact.Finite) :
    ∃ polar, color.hsl = .ok polar ∧ polar.Bounded := by
  obtain ⟨h, hue, -⟩ := roundHalfUp_of_within finite.hue (by decide) (by decide)
  obtain ⟨s, saturation, size⟩ := saturation_percent finite.saturation
  obtain ⟨l, lightness, bounds⟩ := percent_within (n := 0x8000) finite.lightness (by decide)
  refine ⟨⟨h % 360, s, l⟩, ?_, ?_, size, ?_⟩
  · rw [Color.hsl, own]
    simp only [Outcome.ok_bind, hue, saturation, lightness]
    rfl
  · dsimp only
    omega
  · dsimp only
    omega

theorem hwb_of_hsl {polar : Polar} (ranged : Ranged color) (own : color.hsl = .ok polar)
    (bounded : polar.Bounded) : ∃ found, color.hwb = .ok found ∧ found.Bounded := by
  have low : Within (least color.red color.green color.blue / 255) 0 0x4000 :=
    ((ranged.red.smaller ranged.green).smaller ranged.blue).div_ofNat (n := 255) (by decide)
      (by decide) le_rfl (by decide) (by decide) (by decide)
  have high : Within (greatest color.red color.green color.blue / 255) 0 0x4000 :=
    ((ranged.red.larger ranged.green).larger ranged.blue).div_ofNat (n := 255) (by decide)
      (by decide) le_rfl (by decide) (by decide) (by decide)
  have hundred : Within 100 0 100 := (within_ofNat (n := 100) (by decide)).widen (by decide) le_rfl
  have rest := ((within_ofNat (n := 1) (by decide)).sub high (by decide) (by decide)).mul hundred
    (by decide) (by decide) (by decide) (by decide)
  obtain ⟨w, whiteness, bounds⟩ := percent_within (n := 0x4000) low (by decide)
  obtain ⟨b, blackness, bounds'⟩ := roundHalfUp_of_within rest (by decide) (by decide)
  refine ⟨⟨polar.hue, w, b⟩, ?_, bounded.hue, ?_, ?_⟩
  · rw [Color.hwb, own]
    simp only [Outcome.ok_bind, whiteness]
    rw [show roundHalfUp ((1 - greatest color.red color.green color.blue / 255) * 100) = .ok b
      from blackness]
    rfl
  · dsimp only
    omega
  · dsimp only
    omega

theorem channelPercent_of_bounds {n : Int} (bounds : 0 ≤ n ∧ n ≤ 0x4000) :
    ∃ k, channelPercent n = .ok k ∧ 0 ≤ k ∧ k ≤ 0x190000 := by
  have own := (within_ofInt bounds.1 (by omega)).widen bounds.1 bounds.2
  exact percent_within (n := 0x4000) (own.div_ofNat (n := 255) (by decide) (by decide) le_rfl
    (by decide) (by decide) (by decide)) (by decide)

end Whole

/-! ## Views -/

/-- The view gives a value, or next to white the fault of a zero divisor. -/
def Answers {α : Type} (color : Color) (view : Except Fault α) : Prop :=
  if color.nextToWhite then view = .error .divisionByZero else ∃ value, view = .ok value

section Views

variable {α β : Type} {color : Color} {view : Except Fault α} {next : α → Except Fault β}

theorem Answers.bind (answers : Answers color view)
    (goes_on : ∀ value, view = .ok value → ∃ result, next value = .ok result) :
    Answers color (view >>= next) := by
  by_cases white : color.nextToWhite
  · rw [Answers, if_pos white] at answers
    rw [Answers, if_pos white, answers]
    rfl
  · rw [Answers, if_neg white] at answers
    rw [Answers, if_neg white]
    exact Outcome.exists_bind_eq_ok answers goes_on

theorem Answers.ok_bind {value : α} (own : view = .ok value)
    (answers : Answers color (next value)) :
    Answers color (view >>= next) := by
  rw [own]
  exact answers

theorem answers_hslExact (ranged : Ranged color) : Answers color color.hslExact := by
  obtain ⟨fault, result⟩ := hslExact_of_ranged ranged
  unfold Answers
  split
  next white => exact fault white
  next other =>
    obtain ⟨exact, own, -⟩ := result (by simpa using other)
    exact ⟨exact, own⟩

/-- The whole hue with its percentages, where there is one. -/
theorem hsl_of_ranged (ranged : Ranged color) (apart : color.nextToWhite = false) :
    ∃ polar, color.hsl = .ok polar ∧ polar.Bounded := by
  obtain ⟨exact, own, finite⟩ := (hslExact_of_ranged ranged).2 apart
  exact hsl_of_finite own finite

theorem answers_hsl (ranged : Ranged color) : Answers color color.hsl := by
  unfold Answers
  split
  next white =>
    rw [hsl, (hslExact_of_ranged ranged).1 white]
    rfl
  next other =>
    obtain ⟨polar, own, -⟩ := hsl_of_ranged ranged (by simpa using other)
    exact ⟨polar, own⟩

theorem answers_hwb (ranged : Ranged color) : Answers color color.hwb := by
  unfold Answers
  split
  next white =>
    rw [hwb, hsl, (hslExact_of_ranged ranged).1 white]
    rfl
  next other =>
    obtain ⟨polar, own, bounded⟩ := hsl_of_ranged ranged (by simpa using other)
    obtain ⟨found, written, -⟩ := hwb_of_hsl ranged own bounded
    exact ⟨found, written⟩

theorem answers_isMonochrome (ranged : Ranged color) : Answers color color.isMonochrome :=
  (answers_hslExact ranged).bind fun _ _ => ⟨_, rfl⟩

theorem answers_isGrey (ranged : Ranged color) : Answers color color.isGrey := by
  obtain ⟨rgb, own, -⟩ := rgb_of_ranged ranged
  exact .ok_bind own ((answers_isMonochrome ranged).bind fun _ _ => ⟨_, rfl⟩)

/-- The rounded alpha in 255 parts. -/
theorem alpha_of_ranged (ranged : Ranged color) :
    ∃ alpha, roundHalfUp (color.alpha * 255) = .ok alpha ∧ 0 ≤ alpha ∧ alpha ≤ 255 := by
  have full : Within 255 0 255 := (within_ofNat (n := 255) (by decide)).widen (by decide) le_rfl
  have scaled := ranged.alpha.mul full le_rfl (by decide) (by decide) (by decide)
  exact roundHalfUp_of_within scaled (by decide) (by decide)

/-- What depends on the whole channels only is there for every color. -/
theorem exists_of_rgb (ranged : Ranged color) {next : Rgb → Except Fault β}
    (goes_on : ∀ rgb, Moderate rgb → ∃ result, next rgb = .ok result) :
    ∃ result, (color.rgb >>= next) = .ok result := by
  obtain ⟨rgb, own, moderate⟩ := rgb_of_ranged ranged
  rw [own]
  exact goes_on rgb moderate

theorem exists_hexText (ranged : Ranged color) : ∃ text, color.hexText = .ok text :=
  exists_of_rgb ranged fun _ _ => ⟨_, rfl⟩

theorem exists_hexaText (ranged : Ranged color) : ∃ text, color.hexaText = .ok text := by
  obtain ⟨alpha, rounded, -⟩ := alpha_of_ranged ranged
  exact Outcome.exists_bind_eq_ok (exists_hexText ranged) fun _ _ =>
    Outcome.exists_bind_eq_ok ⟨alpha, rounded⟩ fun _ _ => ⟨_, rfl⟩

theorem exists_percentagesText (ranged : Ranged color) :
    ∃ text, color.percentagesText = .ok text := by
  refine exists_of_rgb ranged fun rgb moderate => ?_
  obtain ⟨r, red, -⟩ := channelPercent_of_bounds moderate.red
  obtain ⟨g, green, -⟩ := channelPercent_of_bounds moderate.green
  obtain ⟨b, blue, -⟩ := channelPercent_of_bounds moderate.blue
  exact Outcome.exists_bind_eq_ok ⟨r, red⟩ fun _ _ => Outcome.exists_bind_eq_ok ⟨g, green⟩
    fun _ _ => Outcome.exists_bind_eq_ok ⟨b, blue⟩ fun _ _ => ⟨_, rfl⟩

theorem exists_number (ranged : Ranged color) : ∃ n, color.number = .ok n := by
  obtain ⟨rgb, own, -⟩ := rgb_of_ranged ranged
  exact ⟨rgb.packed, by rw [number, own]; rfl⟩

theorem exists_keyword (ranged : Ranged color) : ∃ text, color.keyword = .ok text :=
  exists_of_rgb ranged fun _ _ => ⟨_, rfl⟩

theorem exists_hasExactName (ranged : Ranged color) : ∃ exact, color.hasExactName = .ok exact := by
  refine Outcome.exists_bind_eq_ok (exists_keyword ranged) fun name _ => ?_
  cases found : parse name with
  | error cause => exact ⟨false, by simp [parse?, found, Except.toOption]; rfl⟩
  | ok named =>
    rw [parse?, found]
    exact Outcome.exists_bind_eq_ok (exists_number (ranged_of_parse found)) fun _ _ =>
      Outcome.exists_bind_eq_ok (exists_number ranged) fun _ _ => ⟨_, rfl⟩

/-- Every color that was read has its whole channels, the formats without a hue and the answer
whether a name stands for it. Its hue and what is computed from it are there as well, unless the
color is next to white: there each of them ends with the fault of a zero divisor. -/
theorem views_of_parse {literal : String} (read : parse literal = .ok color) :
    ((∃ rgb, color.rgb = .ok rgb) ∧ (∃ number, color.number = .ok number) ∧
      (∀ format, format ≠ .hsl → format ≠ .hwb → ∃ text, color.write format = .ok text) ∧
      ∃ exact, color.hasExactName = .ok exact) ∧
    Answers color color.hslExact ∧ Answers color color.hsl ∧ Answers color color.hwb ∧
      Answers color (color.write .hsl) ∧ Answers color (color.write .hwb) ∧
      Answers color color.isMonochrome ∧ Answers color color.isGrey := by
  have ranged := ranged_of_parse read
  obtain ⟨rgb, own, -⟩ := rgb_of_ranged ranged
  refine ⟨⟨⟨rgb, own⟩, exists_number ranged, ?_, exists_hasExactName ranged⟩,
    answers_hslExact ranged, answers_hsl ranged, answers_hwb ranged,
    (answers_hsl ranged).bind fun _ _ => ⟨_, rfl⟩, (answers_hwb ranged).bind fun _ _ => ⟨_, rfl⟩,
    answers_isMonochrome ranged, answers_isGrey ranged⟩
  intro format other other'
  cases format with
  | hex => exact exists_hexText ranged
  | hexa => exact exists_hexaText ranged
  | rgb => exact exists_of_rgb ranged fun _ _ => ⟨_, rfl⟩
  | percent => exact exists_percentagesText ranged
  | hsl => exact (other rfl).elim
  | hwb => exact (other' rfl).elim
  | keyword => exact exists_keyword ranged

/-- A yellow that no eye tells from white: it has its whole channels, and no answer whether it is a
grey. -/
theorem views_of_palest_yellow :
    ∃ color, parse "rgb(255, 255, 254.99999999999997)" = .ok color ∧
      (∃ rgb, color.rgb = .ok rgb) ∧ color.isGrey = .error .divisionByZero := by
  have white : (parse? "rgb(255, 255, 254.99999999999997)").any nextToWhite = true := by
    decide +kernel
  cases read : parse "rgb(255, 255, 254.99999999999997)" with
  | error cause =>
    rw [parse?, read] at white
    cases white
  | ok color =>
    have white : color.nextToWhite = true := by simpa [parse?, read, Except.toOption] using white
    obtain ⟨⟨whole, -⟩, -, -, -, -, -, -, grey⟩ := views_of_parse read
    rw [Answers, if_pos white] at grey
    exact ⟨color, rfl, whole, grey⟩

end Views

end Swatch.Color
