import Swatch.Proofs.Color.HueRereading

/-!
# Hues at full lightness

At full lightness a hue is lost. The channels that are computed are one or the number next to it
(`channelsAt_white`), whatever hue and saturation are asked for. So either all of them are the same,
and the view shows a grey, or the extremes add up to two and the saturation would be a quotient by
zero: in no case does the view show a saturation (`hslColor_white`).
-/

namespace Swatch.Color

open Binary64

/-- The greatest number below one. -/
def nearOne : Binary64 :=
  finite false (unitsPerOne - halfStep)

/-- One or the number next to it. -/
def Whitish (x : Binary64) : Prop :=
  x = 1 ∨ x = nearOne

/-- What the two numbers give in the computations of channels and of the view. Half a step above one
is a tie, and one has the even digit. -/
theorem white_values :
    (1 - 1 : Binary64) = finite false 0 ∧ nearOne - 1 = finite true halfStep ∧
      (ofNat 100 / 100 : Binary64) = 1 ∧ nearest (unitsPerOne + halfStep) 1 = unitsPerOne ∧
      ∀ x ∈ [1, nearOne], (x * 255 / 255 = x ∧ 2 * 1 - x = 1) ∧
        ∀ y ∈ [1, nearOne], ∀ z ∈ [1, nearOne],
          (least x y z).same (greatest x y z) = true ∨
            (greatest x y z + least x y z).same 2 = true := by
  decide +kernel

section Whitish

variable {x y high part turn saturation : Binary64} {u v s : Int}

theorem whitish_iff : Whitish x ↔ x ∈ [1, nearOne] := by
  rw [Whitish, List.mem_cons, List.mem_singleton]

theorem whitish_of_units (own : Units x u) (near : u = unitsPerOne ∨ u = unitsPerOne - halfStep) :
    Whitish x := by
  have step := halfStep_pos
  have whole := unitsPerOne_eq
  obtain ⟨negative, size, rfl, same⟩ := own
  have sign : negative = false := by
    cases negative with
    | false => rfl
    | true =>
      rw [signed, if_pos rfl] at same
      omega
  subst sign
  rw [signed, if_neg Bool.false_ne_true] at same
  rcases near with one | next
  · left
    rw [show size = 1 * unitsPerOne by omega]
    exact (exists_ofNat (n := 1) (by decide)).symm
  · right
    rw [nearOne, show size = unitsPerOne - halfStep by omega]

/-- What is rounded next to one is one or the number next to it. -/
theorem nearest_white {n : Int} (lower : 2 * unitsPerOne - 3 * halfStep < 2 * n)
    (upper : n ≤ unitsPerOne + halfStep) :
    nearest n 1 = unitsPerOne ∨ nearest n 1 = unitsPerOne - halfStep := by
  have step := halfStep_pos
  have whole := unitsPerOne_eq
  have exact : ExactInt unitsPerOne := by
    have own := (bound_ones (k := 1) (by decide)).exact
    rwa [Int.one_mul] at own
  rcases le_or_gt (unitsPerOne : Int) n with above | below
  · obtain ⟨-, -, -, tie, -⟩ := white_values
    left
    refine le_antisymm ?_ (le_nearest Nat.one_pos exact (by rwa [Nat.cast_one, Int.mul_one]))
    rw [← tie]
    exact nearest_mono Nat.one_pos upper
  · have most := @nearest_le n _ _ Nat.one_pos exact (by
      rw [Nat.cast_one, Int.mul_one]
      exact below.le)
    obtain ⟨near, -⟩ := @nearest_near n _ Nat.one_pos 1021 (by omega) (by
      rw [← unitsPerOne_pow, Nat.cast_one, Int.mul_one]
      exact below.le)
    rw [← halfStep_pow, Nat.cast_one, Int.mul_one] at near
    obtain ⟨count, steps⟩ := exists_steps (exact_nearest Nat.one_pos n) (by omega)
    have above : (9007199254740990 : Int) < count := by
      by_contra less
      have few : (halfStep : Int) * count ≤ halfStep * 9007199254740990 :=
        Int.mul_le_mul_of_nonneg_left (by omega) step.le
      omega
    have below : count < (9007199254740993 : Int) := by
      by_contra more
      have many : (halfStep : Int) * 9007199254740993 ≤ halfStep * count :=
        Int.mul_le_mul_of_nonneg_left (by omega) step.le
      omega
    obtain rfl | rfl : count = 9007199254740991 ∨ count = 9007199254740992 := by omega
    · right
      omega
    · left
      omega

theorem whitish_add (first : Units x u) (second : Units y v)
    (lower : 2 * unitsPerOne - 3 * halfStep < 2 * (u + v))
    (upper : u + v ≤ unitsPerOne + halfStep) :
    Whitish (x + y) := by
  have near := nearest_white lower upper
  have room := (bound_ones (k := 1) (by decide)).small
  have step := halfStep_pos
  have whole := unitsPerOne_eq
  rw [InRoom] at room
  exact whitish_of_units (first.add second (by rw [InRoom]; omega)) near

/-! ## The channels -/

/-- The greatest channel at full lightness. -/
theorem whitish_high (full : Portion saturation s) : Whitish (1 + saturation - 1 * saturation) := by
  have step := halfStep_pos
  have whole := unitsPerOne_eq
  have nonneg := full.nonneg
  have le := full.le_one
  have room := (bound_ones (k := 1) (by decide)).small
  rw [InRoom] at room
  have bound : Bound s := ⟨full.rounded.exact full.own, by rw [InRoom]; omega⟩
  obtain ⟨t, total, -, -, near, near'⟩ := units_one.add_near full.own (by omega) (by omega)
  obtain ⟨p, product, above, below⟩ := units_one.mul_between full.own bound bound
    (Int.mul_comm _ _).le (Int.mul_comm _ _).le
  rw [le_antisymm below above] at product
  exact whitish_add total product.neg (by omega) (by omega)

/-- From one it is at most half a step down to a number that is nearly one. -/
theorem Whitish.fall (white : Whitish high) :
    ∃ d, Units (high - 1) d ∧ -(halfStep : Int) ≤ d ∧ d ≤ 0 := by
  have step := halfStep_pos
  rcases white with own | own <;> rw [own]
  · obtain ⟨atZero, -⟩ := white_values
    exact ⟨0, ⟨false, 0, atZero, rfl⟩, by omega, le_rfl⟩
  · obtain ⟨-, down, -⟩ := white_values
    exact ⟨-halfStep, ⟨true, halfStep, down, by rw [signed, if_pos rfl]⟩, le_rfl, by omega⟩

/-- A sixteenth of half a step, and some of its multiples that are numbers. -/
theorem exists_sixteenth :
    ∃ part : Int, (halfStep : Int) = 16 * part ∧ Bound (-(3 * part)) ∧ Bound (-(18 * part)) := by
  obtain ⟨part, size⟩ : ∃ part : Nat, part = 2 ^ 1017 := ⟨_, rfl⟩
  have own : halfStep = 16 * part := by
    rw [size, halfStep_pow, Nat.pow_add 2 4 1017]
  have step : (halfStep : Int) = 16 * part := by exact_mod_cast own
  have room := (bound_ones (k := 1) (by decide)).small
  have whole := unitsPerOne_eq
  have positive := halfStep_pos
  rw [InRoom] at room
  refine ⟨part, step, ⟨⟨3, 1017, by decide, by rw [Int.natAbs_neg, ← size]; rfl⟩, ?_⟩,
    ⟨⟨9, 1018, by decide, by rw [Int.natAbs_neg, Nat.pow_succ, ← size]; omega⟩, ?_⟩⟩
  · rw [InRoom]
    omega
  · rw [InRoom]
    omega

/-- A slope from one down to a number that is nearly one, over less than a fifth of the circle. -/
theorem whitish_slope (white : Whitish high) (own : Units part v) (nonneg : 0 ≤ v)
    (small : 16 * v ≤ 3 * unitsPerOne) : Whitish (1 + (high - 1) * part * 6) := by
  have step := halfStep_pos
  have scale := unitsPerOne_cast_pos
  obtain ⟨g, sixteenth, three, eighteen⟩ := exists_sixteenth
  obtain ⟨d, height, lower, upper⟩ := white.fall
  have positive : 0 < g := by omega
  have steep : -(halfStep : Int) * v ≤ d * v := Int.mul_le_mul_of_nonneg_right lower nonneg
  have short : g * (16 * v) ≤ g * (3 * unitsPerOne) :=
    Int.mul_le_mul_of_nonneg_left small positive.le
  obtain ⟨p, scaled, above, below⟩ := height.mul_between own three bound_zero
    (by rw [sixteenth] at steep; linarith)
    (by rw [Int.zero_mul]; exact mul_nonpos_of_nonpos_of_nonneg upper nonneg)
  obtain ⟨q, ramp, above', below'⟩ := scaled.mul_between (units_ofNat (n := 6) (by decide)) eighteen
    bound_zero
    (calc -(18 * g) * unitsPerOne = 6 * -(3 * g) * unitsPerOne := by ring
      _ ≤ 6 * p * unitsPerOne := Int.mul_le_mul_of_nonneg_right (by omega) scale.le
      _ = p * ((6 : Nat) * unitsPerOne) := by push_cast; ring)
    (by
      rw [Int.zero_mul]
      exact mul_nonpos_of_nonpos_of_nonneg below (mul_nonneg (by decide) scale.le))
  exact whitish_add units_one ramp (by omega) (by omega)

/-- A number that is not far above so many sixteenths. -/
theorem exists_units_le {q e : ℚ} (near : Near x q e) {n : Int} (le : 16 * (q + e) ≤ n) :
    ∃ u, Units x u ∧ 16 * u ≤ n * unitsPerOne := by
  have scale := unitsPerOne_rat_pos
  obtain ⟨u, own, close⟩ := near
  have most : valueOf u ≤ n / 16 := by
    rw [abs_le] at close
    linarith
  rw [valueOf, div_le_div_iff₀ scale (by norm_num)] at most
  refine ⟨u, own, ?_⟩
  have whole : (u : ℚ) * 16 ≤ n * unitsPerOne := most
  have whole : u * 16 ≤ n * unitsPerOne := by exact_mod_cast whole
  omega

/-- A channel at full lightness, at any place on the circle. -/
theorem channelAt_white (white : Whitish high) (turn : Binary64) :
    Whitish (channelAt 1 high turn) := by
  have halves := halfUnits_double
  have thirds : Near (2 / 3) (2 / 3) grain := near_thirds near_two (by norm_num) (by norm_num)
  unfold channelAt
  dsimp only
  rcases wrap_cases 1 (by decide) (by decide) turn with isNan | ⟨t, turned, from_zero, to_one⟩
  · rw [isNan, nan_lt, nan_lt, nan_lt]
    exact .inl rfl
  rw [Int.zero_mul] at from_zero
  rw [Nat.cast_one, Int.one_mul] at to_one
  split
  next before =>
    obtain ⟨k, sixth, small⟩ := exists_units_le near_sixth (n := 3) (by norm_num [grain])
    have less := (turned.lt_iff sixth).mp before
    exact whitish_slope white turned from_zero (by omega)
  split
  next => exact white
  split
  next behind before =>
    obtain ⟨k, third, most⟩ := exists_units_le thirds (n := 16) (by norm_num [grain])
    have less := (turned.lt_iff third).mp before
    have more : (halfUnits : Int) ≤ t := by
      by_contra few
      exact behind ((turned.lt_iff units_half).mpr (by omega))
    obtain ⟨v, rest, nonneg, -⟩ := third.sub_between turned bound_zero
      (bound_ones (k := 2) (by decide)) (by omega) (by omega)
    have half : (1 : ℚ) / 2 ≤ valueOf t := by
      have own := valueOf_le.mpr more
      rwa [valueOf_half] at own
    have le_one : valueOf t ≤ 1 := by
      have own := valueOf_le.mpr (to_one.trans_eq (Int.one_mul _).symm)
      rwa [valueOf_ones, Int.cast_one] at own
    have near := thirds.sub turned.near (by
      have size : |(2 : ℚ) / 3 - valueOf t| ≤ 1 := abs_le.mpr ⟨by linarith, by linarith⟩
      norm_num [grain]
      linarith)
    obtain ⟨v', rest', small⟩ := exists_units_le near (n := 3) (by norm_num [grain]; linarith)
    rw [← rest.eq rest'] at small
    exact whitish_slope white rest nonneg small
  next => exact .inl rfl

theorem channelsAt_white (full : Portion saturation s) (nonzero : saturation.same 0 = false)
    (turn : Binary64) :
    Whitish (channelsAt turn 1 saturation).1 ∧ Whitish (channelsAt turn 1 saturation).2.1 ∧
      Whitish (channelsAt turn 1 saturation).2.2 := by
  have bright : (1 : Binary64).le (1 / 2) = false := by
    have half := halfUnits_double
    have scale := unitsPerOne_cast_pos
    rw [Bool.eq_false_iff, Ne, units_one.le_iff units_half]
    omega
  have white := whitish_high full
  have least : 2 * 1 - (1 + saturation - 1 * saturation) = 1 := by
    obtain ⟨-, -, -, -, values⟩ := white_values
    exact (values _ (whitish_iff.mp white)).1.2
  unfold channelsAt
  rw [nonzero, bright]
  dsimp only
  simp only [Bool.false_eq_true, if_false, least]
  exact ⟨channelAt_white white _, channelAt_white white _, channelAt_white white _⟩

end Whitish

/-! ## The view -/

/-- At full lightness the view shows no saturation, if it shows anything. -/
theorem hsl_of_whitish {color : Color} (ranged : Ranged color) {x y z : Binary64}
    (red : color.red = x * 255) (green : color.green = y * 255) (blue : color.blue = z * 255)
    (first : Whitish x) (second : Whitish y) (third : Whitish z) {polar : Polar}
    (own : color.hsl = .ok polar) : polar.first = 0 := by
  obtain ⟨-, -, -, -, values⟩ := white_values
  have known {x : Binary64} (white : Whitish x) : x * 255 / 255 = x :=
    (values x (whitish_iff.mp white)).1.1
  have red : color.red / 255 = x := by rw [red, known first]
  have green : color.green / 255 = y := by rw [green, known second]
  have blue : color.blue / 255 = z := by rw [blue, known third]
  obtain ⟨exact, hue, found, -, -, saturation, -⟩ := exists_of_hsl own
  cases same : (least x y z).same (greatest x y z) with
  | true =>
    unfold hslExact at found
    rw [red, green, blue] at found
    dsimp only at found
    rw [if_pos same] at found
    rw [← Except.ok.inj found] at saturation
    dsimp only at saturation
    rw [zero_values.2.1] at saturation
    exact (Except.ok.inj saturation).symm
  | false =>
    have sum := ((values x (whitish_iff.mp first)).2 y (whitish_iff.mp second) z
      (whitish_iff.mp third)).resolve_left (by rw [same]; exact Bool.false_ne_true)
    have white : color.nextToWhite = true := by
      unfold nextToWhite
      dsimp only
      rw [red, green, blue, same, sum]
      rfl
    rw [(hslExact_of_ranged ranged).1 white] at found
    cases found

/-- A hue at full lightness shows no saturation. -/
theorem hslColor_white {h s : Nat} {alpha : Binary64} (ranged : Ranged (hslColor h s 100 alpha))
    (colorful : 1 ≤ s) (full : s ≤ 100) {polar : Polar}
    (own : (hslColor h s 100 alpha).hsl = .ok polar) :
    polar.first = 0 := by
  obtain ⟨-, -, light, -⟩ := white_values
  have scale := unitsPerOne_cast_pos
  have least : (1 : ℚ) ≤ s := by exact_mod_cast colorful
  obtain ⟨u, portion, nonneg, le⟩ : Between (ofNat s / 100) (0 * unitsPerOne) (1 * unitsPerOne) :=
    within_div_of_le (units_ofNat (by omega)) (units_ofNat (n := 100) (by decide))
      (by positivity) (mul_pos (by decide) scale) (ones_le_ones (by omega))
  rw [Int.zero_mul] at nonneg
  rw [Int.one_mul] at le
  have apart : (ofNat s / 100).same 0 = false := by
    refine (near_percentage full).not_same (near_ofNat (n := 0) (by decide)) ?_
    rw [Nat.cast_zero, sub_zero, abs_of_nonneg (by positivity)]
    norm_num [grain]
    linarith
  obtain ⟨red, green, blue⟩ :=
    channelsAt_white ⟨portion, rounded_div _ _, nonneg, le⟩ apart (ofNat h / 360)
  rw [← light] at red green blue
  exact hsl_of_whitish ranged rfl rfl rfl red green blue own

end Swatch.Color
