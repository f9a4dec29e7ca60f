import Swatch.Proofs.Color.Grammar
import Swatch.Proofs.Color.HueCircle

/-!
# The gamut of a color that was read

The channels of a color that was read are next to values from 0 to 255 (`Gamut`, `gamut_of_parse`).
They may pass 255 by the error of the computation on the hue circle, but not so far that they would
be rounded to 256: whole channels are those of eight bits (`Gamut.rgb`).
-/

namespace Swatch.Color

open Binary64

/-! ## Numbers next to an interval -/

/-- The number is next to a value from zero to `top`. -/
def Beside (x : Binary64) (top error : ℚ) : Prop :=
  ∃ q, Near x q error ∧ 0 ≤ q ∧ q ≤ top

/-- How far a channel that was computed is from its value at most. -/
def slack : ℚ :=
  1 / 2 ^ 24

/-- The channels are next to values from 0 to 255, and the alpha is from zero to one. -/
structure Gamut (color : Color) : Prop where
  red : Beside color.red 255 slack
  green : Beside color.green 255 slack
  blue : Beside color.blue 255 slack
  alpha : Within color.alpha 0 1

/-- Whole channels of eight bits. -/
structure EightBit (rgb : Rgb) : Prop where
  red : 0 ≤ rgb.red ∧ rgb.red ≤ 255
  green : 0 ≤ rgb.green ∧ rgb.green ≤ 255
  blue : 0 ≤ rgb.blue ∧ rgb.blue ≤ 255

section Beside

variable {x : Binary64} {top e e' : ℚ}

theorem Beside.widen (beside : Beside x top e) (more : e ≤ e') : Beside x top e' := by
  obtain ⟨q, near, nonneg, le⟩ := beside
  exact ⟨q, near.widen more, nonneg, le⟩

theorem beside_of_within {n : Int} (within : Within x 0 n) : Beside x n 0 := by
  obtain ⟨q, near, nonneg, le⟩ := exists_near_of_within within
  exact ⟨q, near, by simpa using nonneg, le⟩

/-- The error of a number from 0 to 1 that is scaled to a channel. -/
theorem near_channel {q : ℚ} (near : Near x q e) (nonneg : 0 ≤ q) (le_one : q ≤ 1)
    (small : e ≤ 1) : Near (x * 255) (q * 255) (255 * e + grain) := by
  have full : Near 255 255 0 := near_numeral 255 (by decide)
  have scaled := near.mul full (k := 1) (m := 255) (by rwa [abs_of_nonneg nonneg])
    (by norm_num [abs_of_pos]) (by linarith)
  exact scaled.widen (by linarith)

theorem Beside.channel (beside : Beside x 1 e) (small : 255 * e + grain ≤ slack) :
    Beside (x * 255) 255 slack := by
  obtain ⟨q, near, nonneg, le⟩ := beside
  have positive := grain_pos
  have less : e ≤ 1 := by norm_num [slack] at small; linarith
  exact ⟨q * 255, (near_channel near nonneg le less).widen small, by positivity, by linarith⟩

/-- A channel next to one of eight bits is rounded to one. -/
theorem Beside.roundHalfUp (beside : Beside x 255 slack) :
    ∃ n, Color.roundHalfUp x = .ok n ∧ 0 ≤ n ∧ n ≤ 255 := by
  obtain ⟨q, near, nonneg, le⟩ := beside
  obtain ⟨n, rounded, below, above⟩ :=
    near.roundHalfUp (by rw [abs_of_nonneg nonneg]; norm_num [slack]; linarith)
  refine ⟨n, rounded, ?_, ?_⟩
  · have bound : (-1 : ℚ) < n := by norm_num [slack, grain] at above; linarith
    have whole : -1 < n := by exact_mod_cast bound
    omega
  · have bound : (n : ℚ) < 256 := by norm_num [slack, grain] at below; linarith
    have whole : n < 256 := by exact_mod_cast bound
    omega

end Beside

/-- The whole channels are of eight bits. -/
theorem Gamut.rgb {color : Color} (gamut : Gamut color) :
    ∃ rgb, color.rgb = .ok rgb ∧ EightBit rgb := by
  obtain ⟨r, red, redBounds⟩ := gamut.red.roundHalfUp
  obtain ⟨g, green, greenBounds⟩ := gamut.green.roundHalfUp
  obtain ⟨b, blue, blueBounds⟩ := gamut.blue.roundHalfUp
  refine ⟨⟨r, g, b⟩, ?_, redBounds, greenBounds, blueBounds⟩
  rw [Color.rgb, red, green, blue]
  rfl

/-- Channels from 0 to 255 are in the gamut. -/
theorem gamut_of_within {red green blue alpha : Binary64} (first : Within red 0 255)
    (second : Within green 0 255) (third : Within blue 0 255) (opacity : Within alpha 0 1) :
    Gamut ⟨red, green, blue, alpha⟩ := by
  have channel {x : Binary64} (within : Within x 0 255) : Beside x 255 slack :=
    (beside_of_within within).widen (by norm_num [slack])
  exact ⟨channel first, channel second, channel third, opacity⟩

/-! ## Places on the hue circle -/

section Hues

variable {lightness saturation hue : Binary64} {l s : Int}

theorem Portion.near {x : Binary64} {u : Int} (portion : Portion x u) :
    Near x (valueOf u) 0 ∧ 0 ≤ valueOf u ∧ valueOf u ≤ 1 := by
  refine ⟨portion.own.near, ?_, ?_⟩
  · have zero := valueOf_ones 0
    rw [← Int.cast_zero, ← zero, Int.zero_mul]
    exact valueOf_le.mpr portion.nonneg
  · have one := valueOf_ones 1
    rw [← Int.cast_one, ← one, Int.one_mul]
    exact valueOf_le.mpr portion.le_one

/-- The channels of a place on the circle are between the least and the greatest value. -/
theorem Hued.beside {red green blue : Binary64} {t low high e : ℚ}
    (hued : Hued red green blue t low high e) (nonneg : 0 ≤ low) (rises : low ≤ high)
    (le_one : high ≤ 1) (from_zero : 0 ≤ t) (to_one : t ≤ 1) :
    Beside red 1 e ∧ Beside green 1 e ∧ Beside blue 1 e := by
  have channel {x : Binary64} {place : ℚ} (near : Near x (low + (high - low) * share place) e)
      (lower : -(1 / 3) ≤ place) (upper : place ≤ 4 / 3) : Beside x 1 e := by
    obtain ⟨least, most⟩ := share_bounds lower upper
    have positive : 0 ≤ (high - low) * share place := mul_nonneg (by linarith) least
    have less : (high - low) * share place ≤ high - low :=
      mul_le_of_le_one_right (by linarith) most
    exact ⟨_, near, by linarith, by linarith⟩
  exact ⟨channel hued.red (by linarith) (by linarith),
    channel hued.green (by linarith) (by linarith), channel hued.blue (by linarith) (by linarith)⟩

/-- Where the place is no number, each channel is the least one. -/
theorem channelAt_nan (low high : Binary64) : channelAt low high nan = low := by
  have place : nan.wrap 1 = nan := rfl
  unfold channelAt
  simp only [place, nan_lt, Bool.false_eq_true, if_false]

theorem readHue_place {argument : Argument} (read : readHue argument = .ok hue) :
    hue / 360 = nan ∨ ∃ t, Near (hue / 360) t grain ∧ 0 ≤ t ∧ t ≤ 1 := by
  unfold readHue at read
  split at read
  next => cases read
  rw [← Except.ok.inj read]
  rcases wrap_cases 360 (by decide) (by decide) argument.value with isNan | within
  · rw [isNan]
    exact .inl rfl
  · obtain ⟨v, near, nonneg, le⟩ := beside_of_within within
    have full : Near 360 360 0 := near_numeral 360 (by decide)
    have le : v ≤ 360 := by simpa using le
    have turn := near.div full (m := 360) (k := 1) (by norm_num) (by norm_num)
      (by rw [abs_of_nonneg (by positivity)]; linarith) (by norm_num)
    exact .inr ⟨v / 360, turn.widen (by norm_num), by positivity, by linarith⟩

/-- The channels of a hue, a saturation and a lightness that were read. -/
theorem channelsAt_beside (light : Portion lightness l) (full : Portion saturation s)
    {turn : Binary64} (place : turn = nan ∨ ∃ t, Near turn t grain ∧ 0 ≤ t ∧ t ≤ 1) :
    Beside (channelsAt turn lightness saturation).1 1 (512 * grain) ∧
      Beside (channelsAt turn lightness saturation).2.1 1 (512 * grain) ∧
      Beside (channelsAt turn lightness saturation).2.2 1 (512 * grain) := by
  have positive := grain_pos
  obtain ⟨near, nonneg, le_one⟩ := light.near
  obtain ⟨near', nonneg', le_one'⟩ := full.near
  obtain ⟨reach, below, above⟩ := reach_bounds nonneg le_one nonneg' le_one'
  have bright := near.widen positive.le
  have strong := near'.widen positive.le
  rcases place with rfl | ⟨t, turned, from_zero, to_one⟩
  · have ahead : nan + 1 / 3 = nan := rfl
    have back : nan - 1 / 3 = nan := rfl
    unfold channelsAt
    split
    next =>
      have grey : Beside lightness 1 (512 * grain) :=
        ⟨_, near.widen (by linarith), nonneg, le_one⟩
      exact ⟨grey, grey, grey⟩
    next =>
      have least := low_near bright strong nonneg le_one nonneg' le_one'
      have channel := least.widen (e := 512 * grain) (by linarith)
      simp only [ahead, back, channelAt_nan]
      exact ⟨⟨_, channel, by linarith, by linarith⟩, ⟨_, channel, by linarith, by linarith⟩,
        ⟨_, channel, by linarith, by linarith⟩⟩
  · exact (channelsAt_near turned bright strong from_zero to_one nonneg le_one nonneg'
      le_one').beside
      (by linarith) (by linarith) (by linarith) from_zero to_one

end Hues

/-- A pure color that is mixed with white and black. -/
theorem mixed_near {pure whiteness blackness : Binary64} {p w b : ℚ}
    (own : Near pure p (512 * grain)) (white : Near whiteness w grain)
    (black : Near blackness b grain) (from_zero : 0 ≤ p) (to_one : p ≤ 1) (nonneg : 0 ≤ w)
    (nonneg' : 0 ≤ b) (less : w + b ≤ 1) :
    Near (pure * (1 - whiteness - blackness) + whiteness) (p * (1 - w - b) + w) (520 * grain) := by
  have light : Near (1 - whiteness) (1 - w) (2 * grain) :=
    (near_one.sub white (by rw [abs_of_nonneg] <;> norm_num [grain] <;> linarith)).widen
      (by linarith [grain_pos])
  have rest : Near (1 - whiteness - blackness) (1 - w - b) (4 * grain) :=
    (light.sub black (by rw [abs_of_nonneg] <;> norm_num [grain] <;> linarith)).widen
      (by linarith [grain_pos])
  have product := own.mul rest (k := 1) (m := 1) (by rwa [abs_of_nonneg from_zero])
    (by rw [abs_of_nonneg] <;> linarith) (by norm_num [grain])
  have positive : 0 ≤ p * (1 - w - b) := mul_nonneg from_zero (by linarith)
  have most : p * (1 - w - b) ≤ 1 - w - b := mul_le_of_le_one_left (by linarith) to_one
  have sum := product.add white (by rw [abs_of_nonneg] <;> norm_num [grain] <;> linarith)
  exact sum.widen (by norm_num [grain])

/-! ## Literals -/

theorem gamut_of_rgb {r g b : Argument} {arguments : List Argument} {color : Color}
    (read : ofRgbArguments r g b arguments = .ok color) : Gamut color := by
  have channel (x : Binary64) : Within (.clamp 0 255 x) 0 255 :=
    clamp_within (n := 255) (by decide) x
  have build {red green blue : Binary64}
      (read : (do return ⟨.clamp 0 255 red, .clamp 0 255 green, .clamp 0 255 blue,
        ← readAlpha arguments⟩) = Except.ok color) : Gamut color := by
    obtain ⟨alpha, opacity, read⟩ := Outcome.exists_of_bind_eq_ok read
    rw [← Except.ok.inj read]
    exact gamut_of_within (channel red) (channel green) (channel blue) (alpha_within opacity)
  unfold ofRgbArguments at read
  dsimp only at read
  split at read
  next => exact build read
  split at read
  next => exact build read
  next => cases read

theorem gamut_of_hsl {h s l : Argument} {arguments : List Argument} {color : Color}
    (read : ofHslArguments h s l arguments = .ok color) : Gamut color := by
  obtain ⟨hue, place, read⟩ := Outcome.exists_of_bind_eq_ok read
  obtain ⟨saturation, full, read⟩ := Outcome.exists_of_bind_eq_ok read
  obtain ⟨lightness, light, read⟩ := Outcome.exists_of_bind_eq_ok read
  obtain ⟨alpha, opacity, read⟩ := Outcome.exists_of_bind_eq_ok read
  cases read
  obtain ⟨s, full⟩ := portion_of_readPercentage full
  obtain ⟨l, light⟩ := portion_of_readPercentage light
  obtain ⟨red, green, blue⟩ := channelsAt_beside light full (readHue_place place)
  have small : 255 * (512 * grain) + grain ≤ slack := by norm_num [grain, slack]
  exact ⟨red.channel small, green.channel small, blue.channel small, alpha_within opacity⟩

theorem gamut_of_hwb {h w b : Argument} {arguments : List Argument} {color : Color}
    (read : ofHwbArguments h w b arguments = .ok color) : Gamut color := by
  obtain ⟨hue, place, read⟩ := Outcome.exists_of_bind_eq_ok read
  obtain ⟨whiteness, white, read⟩ := Outcome.exists_of_bind_eq_ok read
  obtain ⟨blackness, black, read⟩ := Outcome.exists_of_bind_eq_ok read
  obtain ⟨alpha, opacity, read⟩ := Outcome.exists_of_bind_eq_ok read
  obtain ⟨w, white⟩ := portion_of_readPercentage white
  obtain ⟨b, black⟩ := portion_of_readPercentage black
  split at read
  next grey =>
    rw [← Except.ok.inj read]
    have nonneg := white.nonneg
    have le := white.le_one
    have nonneg' := black.nonneg
    have le' := black.le_one
    have full : Within 255 0 255 := (within_ofNat (n := 255) (by decide)).widen (by decide) le_rfl
    obtain ⟨t, total, -, -⟩ := white.own.add_between black.own (bound_ones (k := 0) (by decide))
      (bound_ones (k := 2) (by decide)) (by omega) (by omega)
    have least := (portion_one.own.le_iff total).mp grey
    have scale := unitsPerOne_cast_pos
    have part := within_div_of_le white.own total nonneg (by omega) (by omega)
    have channel := part.mul full le_rfl (by decide) (by decide) (by decide)
    exact gamut_of_within channel channel channel (alpha_within opacity)
  next mixed =>
    have positive := grain_pos
    have less : valueOf w + valueOf b ≤ 1 := by
      have sum := sum_lt_of_mixed white black (by simpa using mixed)
      have whole := valueOf_le.mpr (by omega : w + b ≤ 1 * unitsPerOne)
      rwa [valueOf_ones, valueOf_add, Int.cast_one] at whole
    obtain ⟨near, nonneg, -⟩ := white.near
    obtain ⟨near', nonneg', -⟩ := black.near
    obtain ⟨red, green, blue⟩ := channelsAt_beside portion_half portion_one (readHue_place place)
    generalize channelsAt (hue / 360) (1 / 2) 1 = channels at read red green blue
    rw [← Except.ok.inj read]
    have channel {x : Binary64} (beside : Beside x 1 (512 * grain)) :
        Beside ((x * (1 - whiteness - blackness) + whiteness) * 255) 255 slack := by
      obtain ⟨p, own, from_zero, to_one⟩ := beside
      have mixed := mixed_near own (near.widen positive.le) (near'.widen positive.le) from_zero
        to_one nonneg nonneg' less
      have positive : 0 ≤ p * (1 - valueOf w - valueOf b) := mul_nonneg from_zero (by linarith)
      have most : p * (1 - valueOf w - valueOf b) ≤ 1 - valueOf w - valueOf b :=
        mul_le_of_le_one_left (by linarith) to_one
      exact Beside.channel ⟨_, mixed, by linarith, by linarith⟩ (by norm_num [grain, slack])
    exact ⟨channel red, channel green, channel blue, alpha_within opacity⟩

/-- A color that was read is in the gamut. -/
theorem gamut_of_parse {literal : String} {color : Color} (read : parse literal = .ok color) :
    Gamut color := by
  have zero : Within 0 0 255 := (within_ofNat (n := 0) (by decide)).widen le_rfl (by decide)
  have clear : Within 0 0 1 := (within_ofNat (n := 0) (by decide)).widen le_rfl (by decide)
  have solid : Within 1 0 1 := (within_ofNat (n := 1) (by decide)).widen (by decide) le_rfl
  have channel := hexChannel_within
  have denoted := parse_eq_ok_iff.mp read
  generalize Text.trim literal.toList = cs at denoted
  cases denoted with
  | transparent => exact gamut_of_within zero zero zero clear
  | name entry =>
    have own := List.all_eq_true.mp table_channels _ entry
    simp only [List.all_cons, List.all_nil, Bool.and_true, Bool.and_eq_true, decide_eq_true_eq]
      at own
    have channel {n : Int} (bounds : 0 ≤ n ∧ n ≤ 255) : Within (.ofInt n) 0 255 :=
      (within_ofInt bounds.1 (by omega)).widen bounds.1 bounds.2
    exact gamut_of_within (channel own.1) (channel own.2.1) (channel own.2.2) solid
  | hex => exact gamut_of_within (channel _ _) (channel _ _) (channel _ _) solid
  | hexAlpha =>
    exact gamut_of_within (channel _ _) (channel _ _) (channel _ _) (hexAlpha_within _ _)
  | hexPairs => exact gamut_of_within (channel _ _) (channel _ _) (channel _ _) solid
  | hexPairsAlpha =>
    exact gamut_of_within (channel _ _) (channel _ _) (channel _ _) (hexAlpha_within _ _)
  | @call _ _ rule _ _ _ _ _ _ _ _ computed =>
    cases rule with
    | rgb => exact gamut_of_rgb computed
    | hsl => exact gamut_of_hsl computed
    | hwb => exact gamut_of_hwb computed

/-- The whole channels of a color that was read are of eight bits. -/
theorem eightBit_of_parse {literal : String} {color : Color} {rgb : Rgb}
    (read : parse literal = .ok color) (own : color.rgb = .ok rgb) : EightBit rgb := by
  obtain ⟨whole, found, eight⟩ := (gamut_of_parse read).rgb
  rw [own] at found
  exact Except.ok.inj found ▸ eight

end Swatch.Color
