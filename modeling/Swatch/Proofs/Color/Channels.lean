import Swatch.Color.Literal
import Swatch.Proofs.Binary64.Bounds
import Swatch.Proofs.Outcome
import Swatch.Proofs.Text.Digits

/-!
# Channels of a color that was read

The channels of a color that was read are finite and not negative, and its alpha is from zero to one
(`Ranged`, `ranged_of_parse`). What needs care is the way from hue, saturation and lightness: with a
lightness above one half the greatest channel is computed with three roundings, yet it never passes
twice the lightness (`high_of_bright`), so that the least channel is not negative; and where the
greatest channel falls below the least one, it does so by no more than a few units of the last
place, so that a ramp between the two stays above zero (`span_of_bright`, `Span.channelAt_within`).
-/

namespace Swatch.Color

open Binary64

/-- The channels are finite and not negative, and the alpha is from zero to one. -/
structure Ranged (color : Color) : Prop where
  red : Within color.red 0 0x4000
  green : Within color.green 0 0x4000
  blue : Within color.blue 0 0x4000
  alpha : Within color.alpha 0 1

/-- Channels within range make a color that is. -/
theorem ranged_of_channels {red green blue alpha : Binary64} (first : Within red 0 0x4000)
    (second : Within green 0 0x4000) (third : Within blue 0 0x4000) (opacity : Within alpha 0 1) :
    Ranged ⟨red, green, blue, alpha⟩ :=
  ⟨first, second, third, opacity⟩

/-! ## Channels between the least and the greatest one -/

section Channels

variable {low high slope turn : Binary64} {a b c : Int}

/-- A falling slope takes away at most sixteen times its height. -/
theorem ramp_within (least : Units low a) (height : Units slope c) (nonneg : 0 ≤ a)
    (small : a ≤ 2 * unitsPerOne) (exact : ExactInt c) (upper : c ≤ 2 * unitsPerOne)
    (room : 0 ≤ a + 16 * c) (part : Within turn 0 2) :
    Within (low + slope * turn * 6) 0 32 := by
  have scale := unitsPerOne_cast_pos
  have start : Within low 0 2 := ⟨a, least, by omega, by omega⟩
  have six : Within 6 0 6 := (within_ofNat (n := 6) (by decide)).widen (by decide) le_rfl
  rcases lt_or_ge c 0 with falls | rises
  · obtain ⟨t, turned, from_zero, to_two⟩ := part
    rw [Int.zero_mul] at from_zero
    have two := (bound_ones (k := 2) (by decide)).small
    rw [InRoom] at two
    have double : Bound (2 * c) :=
      ⟨exact.times (k := 2) 1 rfl, by rw [InRoom]; omega⟩
    have sixteen : Bound (16 * c) :=
      ⟨exact.times (k := 16) 4 rfl, by rw [InRoom]; omega⟩
    obtain ⟨d, scaled, above, below⟩ := height.mul_between turned double bound_zero
      (calc 2 * c * unitsPerOne = c * (2 * unitsPerOne) := by ring
        _ ≤ c * t := Int.mul_le_mul_of_nonpos_left falls.le to_two)
      (by rw [Int.zero_mul]; exact mul_nonpos_of_nonpos_of_nonneg falls.le from_zero)
    obtain ⟨e, ramp, above, below⟩ := scaled.mul_between (units_ofNat (n := 6) (by decide)) sixteen
      bound_zero
      (calc 16 * c * unitsPerOne ≤ 6 * d * unitsPerOne :=
            Int.mul_le_mul_of_nonneg_right (by omega) scale.le
        _ = d * ((6 : Nat) * unitsPerOne) := by push_cast; ring)
      (by
        rw [Int.zero_mul]
        exact mul_nonpos_of_nonpos_of_nonneg below (mul_nonneg (by decide) scale.le))
    exact least.add_between ramp (bound_ones (by decide)) (bound_ones (by decide))
      (by omega) (by omega)
  · have height : Within slope 0 2 := ⟨c, height, by omega, upper⟩
    have product := (height.mul part le_rfl (by decide) (by decide) (by decide)).mul six le_rfl
      (by decide) (by decide) (by decide)
    exact (start.add product (by decide) (by decide)).widen (by decide) (by decide)

/-- A least and a greatest channel between which every ramp stays above zero. -/
structure Span (low high : Binary64) (a b c : Int) : Prop where
  least : Units low a
  greatest : Units high b
  height : Units (high - low) c
  nonneg : 0 ≤ a
  small : a ≤ 2 * unitsPerOne
  greatest_nonneg : 0 ≤ b
  greatest_small : b ≤ 2 * unitsPerOne
  height_small : c ≤ 2 * unitsPerOne
  room : 0 ≤ a + 16 * c

/-- Any place on the hue circle gives a channel that is finite and not negative. -/
theorem Span.channelAt_within (span : Span low high a b c) (turn : Binary64) :
    Within (channelAt low high turn) 0 32 := by
  have scale := unitsPerOne_cast_pos
  obtain ⟨least, greatest, height, nonneg, small, nonneg', small', upper, room⟩ := span
  have exact : ExactInt c := (rounded_sub high low).exact height
  have start : Within low 0 32 := ⟨a, least, by omega, by omega⟩
  have stop : Within high 0 32 := ⟨b, greatest, by omega, by omega⟩
  have third : Within (2 / 3) 0 2 := ((within_ofNat (n := 2) (by decide)).widen (by decide)
    le_rfl).div_ofNat (n := 3) (by decide) (by decide) le_rfl (by decide) (by decide) (by decide)
  unfold channelAt
  dsimp only
  rcases wrap_cases 1 (by decide) (by decide) turn with isNan | within
  · rw [isNan]
    exact start
  have whole : Within (turn.wrap 1) 0 2 := within.widen le_rfl (by decide)
  split
  next => exact ramp_within least height nonneg small exact upper room whole
  split
  next => exact stop
  split
  next before =>
    obtain ⟨t, turned, from_zero, to_one⟩ := within
    obtain ⟨k, end_units, -, to_two⟩ := third
    have less := (turned.lt_iff end_units).mp before
    refine ramp_within least height nonneg small exact upper room ?_
    exact end_units.sub_between turned (bound_ones (by decide)) (bound_ones (by decide))
      (by omega) (by omega)
  next => exact start

end Channels

/-! ## From lightness and saturation -/

/-- A number from zero to one that a computation gave. -/
structure Portion (x : Binary64) (units : Int) : Prop where
  own : Units x units
  rounded : Rounded x
  nonneg : 0 ≤ units
  le_one : units ≤ unitsPerOne

section Endpoints

variable {lightness saturation : Binary64} {l s : Int}

/-- Twice a number from zero to one is exact. -/
theorem Portion.double (portion : Portion lightness l) : Units (2 * lightness) (2 * l) := by
  have scale := unitsPerOne_cast_pos
  have bound : Bound (2 * l) := by
    refine ⟨(portion.rounded.exact portion.own).times (k := 2) 1 rfl, ?_⟩
    have room := (bound_ones (k := 2) (by decide)).small
    have nonneg := portion.nonneg
    have le := portion.le_one
    rw [InRoom] at room ⊢
    omega
  obtain ⟨w, own, above, below⟩ := (units_ofNat (n := 2) (by decide)).mul_between portion.own bound
    bound (by push_cast; linarith) (by push_cast; linarith)
  rwa [le_antisymm below above] at own

/-- The greatest channel of a dark color, and the least one. -/
theorem span_of_dark (light : Portion lightness l) (full : Portion saturation s)
    (dark : 2 * l ≤ unitsPerOne) :
    ∃ a b c, Span (2 * lightness - lightness * (1 + saturation)) (lightness * (1 + saturation))
      a b c := by
  have scale := unitsPerOne_cast_pos
  have nonneg := light.nonneg
  have full_nonneg := full.nonneg
  have full_le := full.le_one
  have exact : ExactInt l := light.rounded.exact light.own
  have room := (bound_ones (k := 1) (by decide)).small
  rw [InRoom] at room
  have bound : Bound l := ⟨exact, by rw [InRoom]; omega⟩
  have double : Bound (2 * l) :=
    ⟨exact.times (k := 2) 1 rfl, by rw [InRoom]; omega⟩
  obtain ⟨p, factor, from_one, to_two⟩ := (units_ofNat (n := 1) (by decide)).add_between full.own
    (bound_ones (k := 1) (by decide)) (bound_ones (k := 2) (by decide)) (by push_cast; omega)
    (by push_cast; omega)
  obtain ⟨b, greatest, above, below⟩ := light.own.mul_between factor bound double
    (Int.mul_le_mul_of_nonneg_left (by omega) nonneg)
    (calc l * p ≤ l * (2 * unitsPerOne) := Int.mul_le_mul_of_nonneg_left to_two nonneg
      _ = 2 * l * unitsPerOne := by ring)
  obtain ⟨a, least, low_above, low_below⟩ := light.double.sub_between greatest bound_zero bound
    (by omega) (by omega)
  obtain ⟨c, height, height_above, height_below⟩ := greatest.sub_between least bound_zero
    (bound_ones (k := 1) (by decide)) (by omega) (by omega)
  exact ⟨a, b, c, least, greatest, height, low_above, by omega, by omega, by omega, by omega,
    by omega⟩

/-- Above one half, a number is above it by at least a half step. -/
theorem half_lt (exact : ExactInt l) (bright : unitsPerOne < 2 * l) :
    unitsPerOne + 2 * halfStep ≤ 2 * l := by
  have scale := halfStep_pos
  have whole := unitsPerOne_eq
  obtain ⟨count, size⟩ := exists_steps exact bright.le
  have more : (4503599627370496 : Int) < count := by
    by_contra less
    have most : (halfStep : Int) * count ≤ halfStep * 4503599627370496 :=
      Int.mul_le_mul_of_nonneg_left (by omega) scale.le
    omega
  have least : (halfStep : Int) * 4503599627370497 ≤ halfStep * count :=
    Int.mul_le_mul_of_nonneg_left (by omega) scale.le
  omega

/-- Two products of numbers up to one, rounded, as the algebraic sum of them needs. -/
theorem product_near (light : Portion lightness l) (full : Portion saturation s) :
    ∃ p, Units (lightness * saturation) p ∧ 0 ≤ p ∧ p ≤ l ∧ 2 * p ≤ 2 * s + halfStep ∧
      2 * (l + s) ≤ 2 * p + halfStep + 2 * unitsPerOne := by
  have scale := unitsPerOne_cast_pos
  have nonneg := light.nonneg
  have nonneg' := full.nonneg
  have le := light.le_one
  have le' := full.le_one
  have room := (bound_ones (k := 1) (by decide)).small
  rw [InRoom] at room
  have bound : Bound l := ⟨light.rounded.exact light.own, by rw [InRoom]; omega⟩
  obtain ⟨p, product, from_zero, -, lower, upper⟩ := light.own.mul_near full.own
    (mul_nonneg nonneg nonneg') (mul_le_mul le le' nonneg' scale.le)
  obtain ⟨p', product', -, below⟩ := light.own.mul_between full.own bound_zero bound
    (by rw [Int.zero_mul]; exact mul_nonneg nonneg nonneg')
    (Int.mul_le_mul_of_nonneg_left le' nonneg)
  rw [← product.eq product'] at below
  refine ⟨p, product, from_zero, below, ?_, ?_⟩
  · have most : (2 * p - halfStep) * unitsPerOne ≤ 2 * s * unitsPerOne :=
      calc (2 * p - halfStep) * unitsPerOne ≤ 2 * (l * s) := upper
        _ ≤ 2 * (unitsPerOne * s) := by
          have := Int.mul_le_mul_of_nonneg_right le nonneg'
          omega
        _ = 2 * s * unitsPerOne := by ring
    have := le_of_mul_le_mul_right most scale
    omega
  · have rest : 0 ≤ (unitsPerOne - l) * (unitsPerOne - s) := mul_nonneg (by omega) (by omega)
    have most : 2 * (l + s) * unitsPerOne ≤
        (2 * p + halfStep + 2 * unitsPerOne) * unitsPerOne := by
      linarith
    exact le_of_mul_le_mul_right most scale

/-- The greatest channel of a bright color is at most twice its lightness, and hardly less than the
lightness. -/
theorem high_of_bright (light : Portion lightness l) (full : Portion saturation s)
    (bright : unitsPerOne < 2 * l) :
    ∃ b, Units (lightness + saturation - lightness * saturation) b ∧ 0 ≤ b ∧ b ≤ 2 * l ∧
      l ≤ b + 3 * halfStep := by
  have scale := unitsPerOne_cast_pos
  have step := halfStep_pos
  have whole := unitsPerOne_eq
  have nonneg := full.nonneg
  have le := light.le_one
  have le' := full.le_one
  have exact : ExactInt l := light.rounded.exact light.own
  have room := (bound_ones (k := 2) (by decide)).small
  rw [InRoom] at room
  have bound : Bound l := ⟨exact, by rw [InRoom]; omega⟩
  have next_one : Bound (unitsPerOne + 2 * halfStep) := by
    refine ⟨⟨2 ^ 52 + 1, 1022, by decide, ?_⟩, ?_⟩
    · rw [show (2 ^ 52 + 1) * 2 ^ 1022 = unitsPerOne + 2 * halfStep by
        rw [Nat.add_mul, ← Nat.pow_add, Nat.one_mul, unitsPerOne_pow, halfStep_pow,
          ← Nat.pow_succ']]
      omega
    rw [InRoom]
    omega
  obtain ⟨p, product, from_zero, below, product_le, product_ge⟩ := product_near light full
  obtain ⟨t, total, -, total_le, near, near'⟩ := light.own.add_near full.own (by omega) (by omega)
  obtain ⟨t', total', above, -⟩ := light.own.add_between full.own bound
    (bound_ones (k := 2) (by decide)) (by omega) (by omega)
  rw [← total.eq total'] at above
  obtain ⟨b, greatest, from_zero', -, -, near''⟩ := total.sub_near product (by omega) (by omega)
  obtain ⟨b', greatest', -, most⟩ := total.sub_between product bound_zero next_one (by omega)
    (by omega)
  rw [← greatest.eq greatest'] at most
  exact ⟨b, greatest, from_zero', most.trans (half_lt exact bright), by omega⟩

/-- The greatest channel of a bright color, and the least one. -/
theorem span_of_bright (light : Portion lightness l) (full : Portion saturation s)
    (bright : unitsPerOne < 2 * l) :
    ∃ a b c, Span (2 * lightness - (lightness + saturation - lightness * saturation))
      (lightness + saturation - lightness * saturation) a b c := by
  have step := halfStep_pos
  have whole := unitsPerOne_eq
  have le := light.le_one
  have few : Bound (-8 * halfStep) := by
    refine ⟨⟨1, 1024, by decide, ?_⟩, ?_⟩
    · rw [show 1 * 2 ^ 1024 = 8 * halfStep by rw [halfStep_pow, Nat.one_mul, Nat.pow_add 2 3 1021]]
      omega
    have room := (bound_ones (k := 1) (by decide)).small
    rw [InRoom] at room ⊢
    omega
  obtain ⟨b, greatest, from_zero, most, near⟩ := high_of_bright light full bright
  obtain ⟨a, least, nonneg, small, near', -⟩ := light.double.sub_near greatest (by omega) (by omega)
  rcases le_or_gt a b with rises | falls
  · obtain ⟨c, height, above, upper⟩ := greatest.sub_between least bound_zero
      (bound_ones (k := 2) (by decide)) (by omega) (by omega)
    exact ⟨a, b, c, least, greatest, height, nonneg, small, from_zero, by omega, upper, by omega⟩
  · obtain ⟨c, height, above, upper⟩ := greatest.sub_between least few
      (bound_ones (k := 2) (by decide)) (by omega) (by omega)
    exact ⟨a, b, c, least, greatest, height, nonneg, small, from_zero, by omega, upper, by omega⟩

end Endpoints

/-- The three channels at a place on the hue circle are finite and not negative. -/
theorem channelsAt_within {lightness saturation : Binary64} {l s : Int}
    (light : Portion lightness l) (full : Portion saturation s) (turn : Binary64) :
    Within (channelsAt turn lightness saturation).1 0 32 ∧
      Within (channelsAt turn lightness saturation).2.1 0 32 ∧
      Within (channelsAt turn lightness saturation).2.2 0 32 := by
  have scale := unitsPerOne_cast_pos
  have nonneg := light.nonneg
  have le := light.le_one
  have own : Within lightness 0 32 := ⟨l, light.own, by omega, by omega⟩
  have half := units_half
  have whole := halfUnits_double
  unfold channelsAt
  split
  next => exact ⟨own, own, own⟩
  dsimp only
  split
  next dark =>
    rw [light.own.le_iff half] at dark
    obtain ⟨a, b, c, span⟩ := span_of_dark light full (by omega)
    exact ⟨span.channelAt_within _, span.channelAt_within _, span.channelAt_within _⟩
  next bright =>
    rw [light.own.le_iff half] at bright
    obtain ⟨a, b, c, span⟩ := span_of_bright light full (by omega)
    exact ⟨span.channelAt_within _, span.channelAt_within _, span.channelAt_within _⟩

/-! ## The arguments of a function -/

theorem portion_one : Portion 1 unitsPerOne :=
  ⟨units_one, rounded_ofNat 1, unitsPerOne_cast_pos.le, le_rfl⟩

theorem portion_half : Portion (1 / 2) halfUnits := by
  have whole := halfUnits_double
  exact ⟨units_half, rounded_div _ _, by omega, by omega⟩

theorem alpha_within {arguments : List Argument} {alpha : Binary64}
    (read : readAlpha arguments = .ok alpha) : Within alpha 0 1 := by
  unfold readAlpha at read
  split at read
  next =>
    rw [← Except.ok.inj read]
    exact (within_ofNat (n := 1) (by decide)).widen (by decide) le_rfl
  split at read
  next => cases read
  all_goals
    rw [← Except.ok.inj read]
    exact clamp_within (n := 1) (by decide) _

theorem portion_of_readPercentage {argument : Argument} {portion : Binary64}
    (read : readPercentage argument = .ok portion) : ∃ units, Portion portion units := by
  unfold readPercentage at read
  split at read
  next => cases read
  rw [← Except.ok.inj read]
  obtain ⟨u, own, nonneg, le⟩ := clamp_within (n := 100) (by decide) argument.value
  have positive : (0 : Int) < (100 : Nat) * unitsPerOne := mul_pos (by decide) unitsPerOne_cast_pos
  obtain ⟨v, portion, from_zero, to_one⟩ := within_div_of_le own
    (units_ofNat (n := 100) (by decide)) (by omega) positive le
  exact ⟨v, portion, rounded_div _ _, by omega, by omega⟩

/-! ## Literals -/

theorem ranged_of_rgb {r g b : Argument} {arguments : List Argument} {color : Color}
    (read : ofRgbArguments r g b arguments = .ok color) : Ranged color := by
  have channel (x : Binary64) : Within (.clamp 0 255 x) 0 0x4000 :=
    (clamp_within (n := 255) (by decide) x).widen le_rfl (by decide)
  have build {red green blue : Binary64}
      (read : (do return ⟨.clamp 0 255 red, .clamp 0 255 green, .clamp 0 255 blue,
        ← readAlpha arguments⟩) = Except.ok color) : Ranged color := by
    obtain ⟨alpha, opacity, read⟩ := Outcome.exists_of_bind_eq_ok read
    rw [← Except.ok.inj read]
    exact ranged_of_channels (channel red) (channel green) (channel blue) (alpha_within opacity)
  unfold ofRgbArguments at read
  dsimp only at read
  split at read
  next => exact build read
  split at read
  next => exact build read
  next => cases read

theorem ranged_of_hsl {h s l : Argument} {arguments : List Argument} {color : Color}
    (read : ofHslArguments h s l arguments = .ok color) : Ranged color := by
  obtain ⟨hue, -, read⟩ := Outcome.exists_of_bind_eq_ok read
  obtain ⟨saturation, full, read⟩ := Outcome.exists_of_bind_eq_ok read
  obtain ⟨lightness, light, read⟩ := Outcome.exists_of_bind_eq_ok read
  obtain ⟨alpha, opacity, read⟩ := Outcome.exists_of_bind_eq_ok read
  cases read
  obtain ⟨s, full⟩ := portion_of_readPercentage full
  obtain ⟨l, light⟩ := portion_of_readPercentage light
  obtain ⟨red, green, blue⟩ := channelsAt_within light full (hue / 360)
  have channel {x : Binary64} (within : Within x 0 32) : Within (x * 255) 0 0x4000 :=
    (within.mul ((within_ofNat (n := 255) (by decide)).widen (by decide) le_rfl) le_rfl (by decide)
      (by decide) (by decide)).widen (by decide) (by decide)
  exact ranged_of_channels (channel red) (channel green) (channel blue) (alpha_within opacity)

/-- Whiteness and blackness whose rounded sum is below one are below one together. -/
theorem sum_lt_of_mixed {whiteness blackness : Binary64} {w b : Int} (white : Portion whiteness w)
    (black : Portion blackness b) (less : (1 : Binary64).le (whiteness + blackness) = false) :
    w + b < unitsPerOne := by
  have le := white.le_one
  have le' := black.le_one
  by_contra more
  obtain ⟨t, total, above, -⟩ := white.own.add_between black.own (bound_ones (k := 1) (by decide))
    (bound_ones (k := 2) (by decide)) (by omega) (by omega)
  have least := (portion_one.own.le_iff total).mpr (by omega)
  rw [least] at less
  cases less

/-- What whiteness and blackness leave over for the pure hue is not negative. -/
theorem rest_within {whiteness blackness : Binary64} {w b : Int} (white : Portion whiteness w)
    (black : Portion blackness b) (less : (1 : Binary64).le (whiteness + blackness) = false) :
    Within (1 - whiteness - blackness) 0 1 := by
  have scale := unitsPerOne_cast_pos
  have nonneg := white.nonneg
  have nonneg' := black.nonneg
  have le := white.le_one
  have le' := black.le_one
  have room := (bound_ones (k := 1) (by decide)).small
  rw [InRoom] at room
  have bound : Bound b := ⟨black.rounded.exact black.own, by rw [InRoom]; omega⟩
  have below := sum_lt_of_mixed white black less
  obtain ⟨r, rest, above, most⟩ := portion_one.own.sub_between white.own bound
    (bound_ones (k := 1) (by decide)) (by omega) (by omega)
  exact rest.sub_between black.own (bound_ones (by decide)) (bound_ones (by decide)) (by omega)
    (by omega)

theorem ranged_of_hwb {h w b : Argument} {arguments : List Argument} {color : Color}
    (read : ofHwbArguments h w b arguments = .ok color) : Ranged color := by
  obtain ⟨hue, -, read⟩ := Outcome.exists_of_bind_eq_ok read
  obtain ⟨whiteness, white, read⟩ := Outcome.exists_of_bind_eq_ok read
  obtain ⟨blackness, black, read⟩ := Outcome.exists_of_bind_eq_ok read
  obtain ⟨alpha, opacity, read⟩ := Outcome.exists_of_bind_eq_ok read
  obtain ⟨w, white⟩ := portion_of_readPercentage white
  obtain ⟨b, black⟩ := portion_of_readPercentage black
  have scale := unitsPerOne_cast_pos
  have nonneg := white.nonneg
  have le := white.le_one
  have own : Within whiteness 0 1 := ⟨w, white.own, by omega, by omega⟩
  have full : Within 255 0 255 := (within_ofNat (n := 255) (by decide)).widen (by decide) le_rfl
  split at read
  next grey =>
    rw [← Except.ok.inj read]
    have nonneg' := black.nonneg
    have le' := black.le_one
    obtain ⟨t, total, -, -⟩ := white.own.add_between black.own (bound_ones (k := 0) (by decide))
      (bound_ones (k := 2) (by decide)) (by omega) (by omega)
    have least := (portion_one.own.le_iff total).mp grey
    have portion := within_div_of_le white.own total nonneg (by omega) (by omega)
    have channel := (portion.mul full le_rfl (by decide) (by decide) (by decide)).widen
      (c := 0) (d := 0x4000) (by decide) (by decide)
    exact ranged_of_channels channel channel channel (alpha_within opacity)
  next pure =>
    have rest := rest_within white black (by simpa using pure)
    obtain ⟨red, green, blue⟩ := channelsAt_within portion_half portion_one (hue / 360)
    generalize channelsAt (hue / 360) (1 / 2) 1 = channels at read red green blue
    rw [← Except.ok.inj read]
    have channel {x : Binary64} (within : Within x 0 32) :
        Within ((x * (1 - whiteness - blackness) + whiteness) * 255) 0 0x4000 := by
      have mixed := (within.mul rest le_rfl (by decide) (by decide) (by decide)).add own (by decide)
        (by decide)
      exact (mixed.mul full (by decide) (by decide) (by decide) (by decide)).widen (by decide)
        (by decide)
    exact ranged_of_channels (channel red) (channel green) (channel blue) (alpha_within opacity)

theorem hexChannel_within (high low : Char) : Within (hexChannel high low) 0 255 := by
  have less : Text.hexNumeral [high, low] < 256 := Text.hexNumeral_lt_pow [high, low]
  exact (within_ofNat (less.trans (by decide))).widen (Int.natCast_nonneg _) (by omega)

theorem hexAlpha_within (high low : Char) : Within (hexAlpha high low) 0 1 := by
  obtain ⟨u, own, nonneg, le⟩ := hexChannel_within high low
  rw [Int.zero_mul] at nonneg
  have portion := within_div_of_le own (units_ofNat (n := 255) (by decide)) nonneg
    (mul_pos (by decide) unitsPerOne_cast_pos) le
  exact portion.roundedTo (n := 1) (by decide) 2

theorem ranged_of_hex {cs : List Char} {color : Color} (read : ofHex? cs = some color) :
    Ranged color := by
  have channel (high low : Char) : Within (hexChannel high low) 0 0x4000 :=
    (hexChannel_within high low).widen le_rfl (by decide)
  have opaque_one : Within 1 0 1 := (within_ofNat (n := 1) (by decide)).widen (by decide) le_rfl
  unfold ofHex? at read
  split at read
  next digits =>
    unfold ofHexDigits? at read
    split at read
    next =>
      split at read
      next =>
        rw [← Option.some.inj read]
        exact ranged_of_channels (channel _ _) (channel _ _) (channel _ _) opaque_one
      next =>
        rw [← Option.some.inj read]
        exact ranged_of_channels (channel _ _) (channel _ _) (channel _ _) (hexAlpha_within _ _)
      next =>
        rw [← Option.some.inj read]
        exact ranged_of_channels (channel _ _) (channel _ _) (channel _ _) opaque_one
      next =>
        rw [← Option.some.inj read]
        exact ranged_of_channels (channel _ _) (channel _ _) (channel _ _) (hexAlpha_within _ _)
      next => cases read
    next => cases read
  next => cases read

/-- The channels of every name are those of eight bits. -/
theorem table_channels : ColorName.table.all fun entry =>
    [entry.2.red, entry.2.green, entry.2.blue].all fun n => 0 ≤ n && n ≤ 255 := by
  decide

theorem ranged_of_word {word : String} {color : Color} (read : ofWord? word = some color) :
    Ranged color := by
  unfold ofWord? at read
  split at read
  next =>
    rw [← Option.some.inj read]
    have atZero : Within 0 0 0x4000 :=
      (within_ofNat (n := 0) (by decide)).widen (by decide) (by decide)
    exact ranged_of_channels atZero atZero atZero
      ((within_ofNat (n := 0) (by decide)).widen (by decide) (by decide))
  next =>
    obtain ⟨rgb, named, rfl⟩ := Option.map_eq_some_iff.mp read
    obtain ⟨before, after, whole, -⟩ := List.lookup_eq_some_iff.mp named
    have member : (Text.lowered (Text.trimmed word), rgb) ∈ ColorName.table := by
      rw [whole]
      exact List.mem_append_right _ List.mem_cons_self
    have entry := List.all_eq_true.mp table_channels _ member
    have channel {n : Int} (bounds : 0 ≤ n ∧ n ≤ 255) : Within (.ofInt n) 0 0x4000 :=
      (within_ofInt bounds.1 (by omega)).widen bounds.1 (by omega)
    simp only [List.all_cons, List.all_nil, Bool.and_true, Bool.and_eq_true, decide_eq_true_eq]
      at entry
    exact ranged_of_channels (channel entry.1) (channel entry.2.1) (channel entry.2.2)
      ((within_ofNat (n := 1) (by decide)).widen (by decide) le_rfl)

/-- A color that was read from a call is that of one of the three rules. -/
theorem exists_of_ofCall {call : Call} {color : Color} (read : ofCall call = .ok color) :
    ∃ x y z arguments, readArguments call.body = .ok arguments ∧
      (ofRgbArguments x y z arguments = .ok color ∨ ofHslArguments x y z arguments = .ok color ∨
        ofHwbArguments x y z arguments = .ok color) := by
  have ruled {x y z : Argument} {arguments : List Argument}
      (read : (if ['r', 'g', 'b'].isPrefixOf call.name then ofRgbArguments x y z arguments
        else if ['h', 's', 'l'].isPrefixOf call.name then ofHslArguments x y z arguments
        else ofHwbArguments x y z arguments) = .ok color) :
      ofRgbArguments x y z arguments = .ok color ∨ ofHslArguments x y z arguments = .ok color ∨
        ofHwbArguments x y z arguments = .ok color := by
    split at read
    next => exact .inl read
    split at read
    next => exact .inr (.inl read)
    next => exact .inr (.inr read)
  unfold ofCall at read
  obtain ⟨arguments, spelled, read⟩ := Outcome.exists_of_bind_eq_ok read
  split at read
  next x y z _ _ _ => exact ⟨x, y, z, arguments, spelled, ruled read⟩
  next x y z _ _ _ => exact ⟨x, y, z, arguments, spelled, ruled read⟩
  next => cases read

/-- A color that was read is that of one of the three forms. -/
theorem exists_of_parse {literal : String} {color : Color} (read : parse literal = .ok color) :
    ofHex? (Text.trim literal.toList) = some color ∨
      (isWord (Text.trim literal.toList) = true ∧
        ofWord? (String.ofList (Text.trim literal.toList)) = some color) ∨
      ∃ call, readCall? (Text.trim literal.toList) = some call ∧ ofCall call = .ok color := by
  unfold parse at read
  dsimp only at read
  split at read
  next own found =>
    rw [← Except.ok.inj read]
    exact .inl found
  split at read
  next word =>
    split at read
    next own found =>
      rw [← Except.ok.inj read]
      exact .inr (.inl ⟨word, found⟩)
    next => cases read
  split at read
  next call found => exact .inr (.inr ⟨call, found, read⟩)
  next => cases read

/-- The channels of a color that was read are finite and not negative, and its alpha is from zero
to one. -/
theorem ranged_of_parse {literal : String} {color : Color} (read : parse literal = .ok color) :
    Ranged color := by
  rcases exists_of_parse read with hex | ⟨-, word⟩ | ⟨call, -, called⟩
  · exact ranged_of_hex hex
  · exact ranged_of_word word
  · obtain ⟨x, y, z, arguments, -, rgb | hsl | hwb⟩ := exists_of_ofCall called
    · exact ranged_of_rgb rgb
    · exact ranged_of_hsl hsl
    · exact ranged_of_hwb hwb

end Swatch.Color
