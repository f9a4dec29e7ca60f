import Swatch.Proofs.Color.Gamut
import Swatch.Proofs.Color.Views

/-!
# Views of a place on the hue circle

A color whose channels are those of a place on the hue circle, up to a small error, shows the place
as its hue, provided that its channels differ by enough (`hue_of_hued`). The error of the hue grows
with the inverse of the range between the channels, which therefore must not fall below `gap`: a
range of that size keeps the hue far within the half degree that is rounded away.
-/

namespace Swatch.Color

open Binary64

/-! ## What the views are computed from -/

section Inversion

variable {color : Color}

theorem eq_of_quotient {x y z : Binary64} (own : x.quotient y = .ok z) : z = x / y := by
  unfold quotient at own
  split at own
  next => cases own
  next => exact (Except.ok.inj own).symm

/-- The exact view of channels that differ. -/
theorem exists_of_hslExact {exact : Hsl} (own : color.hslExact = .ok exact)
    {red green blue : Binary64}
    (first : color.red / 255 = red) (second : color.green / 255 = green)
    (third : color.blue / 255 = blue)
    (apart : (least red green blue).same (greatest red green blue) = false) :
    ∃ sixth, hueSixth red green blue (greatest red green blue)
        (greatest red green blue - least red green blue) = .ok sixth ∧
      exact.hue = (sixth / 6).wrap 1 * 360 ∧
      exact.saturation = (if ((greatest red green blue + least red green blue) / 2).le (1 / 2) then
        (greatest red green blue - least red green blue) /
          (greatest red green blue + least red green blue)
        else (greatest red green blue - least red green blue) /
          (2 - (greatest red green blue + least red green blue))) ∧
      exact.lightness = (greatest red green blue + least red green blue) / 2 := by
  subst first second third
  unfold hslExact at own
  dsimp only at own
  rw [if_neg (by simp [apart])] at own
  split at own
  next dark =>
    obtain ⟨saturation, full, own⟩ := Outcome.exists_of_bind_eq_ok own
    obtain ⟨sixth, place, own⟩ := Outcome.exists_of_bind_eq_ok own
    cases own
    exact ⟨sixth, place, rfl, by rw [if_pos dark]; exact eq_of_quotient full, rfl⟩
  next bright =>
    obtain ⟨saturation, full, own⟩ := Outcome.exists_of_bind_eq_ok own
    obtain ⟨sixth, place, own⟩ := Outcome.exists_of_bind_eq_ok own
    cases own
    exact ⟨sixth, place, rfl, by rw [if_neg bright]; exact eq_of_quotient full, rfl⟩

/-- The whole hue and the percentages are rounded from the exact view. -/
theorem exists_of_hsl {polar : Polar} (own : color.hsl = .ok polar) :
    ∃ exact hue, color.hslExact = .ok exact ∧ roundHalfUp exact.hue = .ok hue ∧
      polar.hue = hue % 360 ∧ roundHalfUp (exact.saturation * 100) = .ok polar.first ∧
      roundHalfUp (exact.lightness * 100) = .ok polar.second := by
  obtain ⟨exact, found, own⟩ := Outcome.exists_of_bind_eq_ok own
  obtain ⟨hue, turned, own⟩ := Outcome.exists_of_bind_eq_ok own
  obtain ⟨saturation, full, own⟩ := Outcome.exists_of_bind_eq_ok own
  obtain ⟨lightness, bright, own⟩ := Outcome.exists_of_bind_eq_ok own
  cases own
  exact ⟨exact, hue, found, turned, rfl, full, bright⟩

theorem exists_of_hwb {polar : Polar} (own : color.hwb = .ok polar) :
    ∃ hsl, color.hsl = .ok hsl ∧ polar.hue = hsl.hue ∧
      roundHalfUp (least color.red color.green color.blue / 255 * 100) = .ok polar.first ∧
      roundHalfUp ((1 - greatest color.red color.green color.blue / 255) * 100) =
        .ok polar.second := by
  obtain ⟨hsl, found, own⟩ := Outcome.exists_of_bind_eq_ok own
  obtain ⟨whiteness, white, own⟩ := Outcome.exists_of_bind_eq_ok own
  obtain ⟨blackness, black, own⟩ := Outcome.exists_of_bind_eq_ok own
  cases own
  exact ⟨hsl, found, rfl, white, black⟩

end Inversion

/-! ## The greatest and the least channel -/

theorem Sector.extremes {turn red green blue : ℚ} (sector : Sector turn red green blue) :
    max (max red green) blue = 1 ∧ min (min red green) blue = 0 := by
  cases sector <;> constructor <;> simp [*]

section Hued

variable {red green blue : Binary64} {t low high e : ℚ}

/-- At a place on the circle the extremes of the channels are the least and the greatest value. -/
theorem Hued.extremes (hued : Hued red green blue t low high e) (rises : low ≤ high)
    (from_zero : 0 ≤ t) (to_one : t ≤ 1) :
    Near (greatest red green blue) high e ∧ Near (least red green blue) low e := by
  obtain ⟨most, fewest⟩ := (sector_of_turn from_zero to_one).extremes
  have grows : Monotone fun share : ℚ => low + (high - low) * share := fun _ _ less =>
    add_le_add_right (mul_le_mul_of_nonneg_left less (by linarith)) low
  constructor
  · refine ((hued.red.larger hued.green).larger hued.blue).of_eq ?_
    rw [← grows.map_max, ← grows.map_max, most]
    ring
  · refine ((hued.red.smaller hued.green).smaller hued.blue).of_eq ?_
    rw [← grows.map_min, ← grows.map_min, fewest]
    ring

end Hued

/-! ## The hue -/

/-- The least range between the channels at which the place is found again. -/
def gap : ℚ :=
  1 / 2 ^ 13

/-- How far a channel from 0 to 1 is from its value at most. -/
def blur : ℚ :=
  1 / 2 ^ 32

/-- The color has the channels of a place on the circle, up to a small error, and they differ by
enough that the place is found again. -/
structure Painted (color : Color) (turn low high : ℚ) : Prop where
  hued : Hued color.red color.green color.blue turn (255 * low) (255 * high) (2 ^ 18 * grain)
  nonneg : 0 ≤ low
  apart : low + gap ≤ high
  le_one : high ≤ 1
  from_zero : 0 ≤ turn
  to_one : turn ≤ 1

section Painted

variable {color : Color} {turn low high : ℚ} {exact : Hsl} {polar : Polar}

theorem Painted.rises (painted : Painted color turn low high) : low ≤ high := by
  have apart := painted.apart
  norm_num [gap] at apart
  linarith

/-- A channel on the scale from 0 to 1. -/
theorem portion_near {x : Binary64} {q : ℚ} (near : Near x (255 * q) (2 ^ 18 * grain))
    (nonneg : 0 ≤ q) (le_one : q ≤ 1) : Near (x / 255) q blur := by
  have full : Near 255 255 0 := near_numeral 255 (by decide)
  have value : 255 * q / 255 = q := by ring
  exact ((near.div full (m := 255) (k := 1) (by norm_num) (by norm_num)
    (by rwa [value, abs_of_nonneg nonneg]) (by norm_num [grain])).of_eq value).widen
      (by norm_num [grain, blur])

/-- The channels on the scale from 0 to 1. -/
theorem Painted.portions (painted : Painted color turn low high) :
    Hued (color.red / 255) (color.green / 255) (color.blue / 255) turn low high blur := by
  have rises := painted.rises
  have nonneg := painted.nonneg
  have le_one := painted.le_one
  have channel {x : Binary64} {place : ℚ}
      (near : Near x (255 * low + (255 * high - 255 * low) * share place) (2 ^ 18 * grain))
      (lower : -(1 / 3) ≤ place) (upper : place ≤ 4 / 3) :
      Near (x / 255) (low + (high - low) * share place) blur := by
    obtain ⟨least, most⟩ := share_bounds lower upper
    have positive : 0 ≤ (high - low) * share place := mul_nonneg (by linarith) least
    have less : (high - low) * share place ≤ high - low :=
      mul_le_of_le_one_right (by linarith) most
    exact portion_near (near.of_eq (by ring)) (by linarith) (by linarith)
  have from_zero := painted.from_zero
  have to_one := painted.to_one
  exact ⟨channel painted.hued.red (by linarith) (by linarith),
    channel painted.hued.green (by linarith) (by linarith),
    channel painted.hued.blue (by linarith) (by linarith)⟩

end Painted

section Place

variable {red green blue : Binary64} {t low high : ℚ}

/-- A quotient by a number away from zero is not refused. -/
theorem quotient_near {x y : Binary64} {p q d e : ℚ} (first : Near x p d) (second : Near y q e)
    {m k : ℚ} (positive : 0 < m) (above : m + e ≤ q) (size : |p / q| ≤ k)
    (room : k + (d + k * e) / m ≤ 1024) :
    ∃ z, x.quotient y = .ok z ∧ Near z (p / q) ((d + k * e) / m + grain) := by
  have zero : Near zero 0 0 := (Units.near ⟨false, 0, rfl, rfl⟩).of_eq (by simp [valueOf, signed])
  have nonzero : y.same Binary64.zero = false := by
    refine second.not_same zero ?_
    rw [sub_zero, abs_of_nonneg (by linarith [second.nonneg])]
    linarith
  exact ⟨x / y, by rw [quotient, nonzero, if_neg Bool.false_ne_true],
    first.div second positive above size room⟩

/-- How far a channel is from the greatest one, in parts of the range between the extremes. -/
theorem toward_near {channel greatest range : Binary64} {share : ℚ} (apart : low + gap ≤ high)
    (nonneg : 0 ≤ low) (le_one : high ≤ 1)
    (own : Near channel (low + (high - low) * share) blur) (most : Near greatest high blur)
    (height : Near range (high - low) (3 * blur)) (from_zero : 0 ≤ share) (to_one : share ≤ 1) :
    ∃ part, (greatest - channel).quotient range = .ok part ∧
      Near part (1 - share) (1 / 2 ^ 15) := by
  have positive : 0 < high - low := by norm_num [gap] at apart; linarith
  have product : 0 ≤ (high - low) * (1 - share) := mul_nonneg positive.le (by linarith)
  have less : (high - low) * (1 - share) ≤ high - low :=
    mul_le_of_le_one_right positive.le (by linarith)
  have value : high - (low + (high - low) * share) = (high - low) * (1 - share) := by ring
  have fall : Near (greatest - channel) ((high - low) * (1 - share)) (3 * blur) := by
    have own := most.sub own (by
      rw [value, abs_of_nonneg product]
      norm_num [blur]
      linarith)
    exact (own.of_eq value).widen (by norm_num [blur, grain])
  have ratio : (high - low) * (1 - share) / (high - low) = 1 - share := by
    field_simp
  obtain ⟨part, quotient, near⟩ := quotient_near fall height (m := 1 / 2 ^ 14) (k := 1)
    (by norm_num) (by norm_num [gap, blur] at apart ⊢; linarith)
    (by rw [ratio, abs_of_nonneg] <;> linarith) (by norm_num [blur])
  exact ⟨part, quotient, (near.of_eq ratio).widen (by norm_num [blur, grain])⟩

/-- The difference of two parts of the range. -/
theorem part_sub_part {x y : Binary64} {p q : ℚ} (first : Near x (1 - p) (1 / 2 ^ 15))
    (second : Near y (1 - q) (1 / 2 ^ 15)) (bounds : 0 ≤ p ∧ p ≤ 1) (bounds' : 0 ≤ q ∧ q ≤ 1) :
    Near (x - y) (q - p) (5 / 2 ^ 16) := by
  have size : |1 - p - (1 - q)| ≤ 1 := abs_le.mpr ⟨by linarith, by linarith⟩
  have own := first.sub second (by norm_num at size ⊢; linarith)
  exact (own.of_eq (by ring)).widen (by norm_num [grain])

/-- The difference of two parts of the range, counted from a small number. -/
theorem add_part_sub_part {base x y : Binary64} {b p q : ℚ} (start : Near base b 0) (nonneg : 0 ≤ b)
    (small : b ≤ 4) (first : Near x (1 - p) (1 / 2 ^ 15)) (second : Near y (1 - q) (1 / 2 ^ 15))
    (bounds : 0 ≤ p ∧ p ≤ 1) (bounds' : 0 ≤ q ∧ q ≤ 1) :
    Near (base + x - y) (b + q - p) (5 / 2 ^ 16) := by
  have size : |b + (1 - p)| ≤ 5 := abs_le.mpr ⟨by linarith, by linarith⟩
  have size' : |b + (1 - p) - (1 - q)| ≤ 5 := abs_le.mpr ⟨by linarith, by linarith⟩
  have sum := start.add first (by norm_num at size ⊢; linarith)
  have own := sum.sub second (by norm_num [grain] at size' ⊢; linarith)
  exact (own.of_eq (by ring)).widen (by norm_num [grain])

/-- A channel that is the greatest one has nearly all of the range. -/
theorem share_of_same {channel greatest : Binary64} {share : ℚ} (apart : low + gap ≤ high)
    (own : Near channel (low + (high - low) * share) blur) (most : Near greatest high blur)
    (to_one : share ≤ 1) (same : channel.same greatest = true) : 1 - share ≤ 1 / 2 ^ 18 := by
  have close := abs_le.mp (own.close_of_same most same)
  have value : low + (high - low) * share - high = -((high - low) * (1 - share)) := by ring
  rw [value] at close
  have least : gap * (1 - share) ≤ (high - low) * (1 - share) :=
    mul_le_mul_of_nonneg_right (by linarith) (by linarith)
  norm_num [gap, blur] at least close
  linarith

/-- One of three finite numbers is the greatest. -/
theorem exists_same_greatest {p q r d e f : ℚ} (first : Near red p d) (second : Near green q e)
    (third : Near blue r f) : red.same (greatest red green blue) = true ∨
      green.same (greatest red green blue) = true ∨ blue.same (greatest red green blue) = true := by
  obtain ⟨u, own, -⟩ := first
  obtain ⟨v, own', -⟩ := second
  obtain ⟨w, own'', -⟩ := third
  have most := (own.larger own').larger own''
  rw [greatest, own.same_iff most, own'.same_iff most, own''.same_iff most]
  omega

/-- The place in sixths, told from the shares when one of the channels is nearly the greatest. -/
theorem Sector.place {turn red green blue ε : ℚ} (sector : Sector turn red green blue)
    (small : ε < 1) :
    (1 - red ≤ ε → ∃ k : Int, |turn + k| ≤ 1 ∧ |green - blue - 6 * (turn + k)| ≤ ε) ∧
    (1 - green ≤ ε → ∃ k : Int, |turn + k| ≤ 1 ∧ |2 + blue - red - 6 * (turn + k)| ≤ ε) ∧
    (1 - blue ≤ ε → ∃ k : Int, |turn + k| ≤ 1 ∧ |4 + red - green - 6 * (turn + k)| ≤ ε) := by
  have here {x : ℚ} (close : |turn| ≤ 1 ∧ |x - 6 * turn| ≤ ε) :
      ∃ k : Int, |turn + k| ≤ 1 ∧ |x - 6 * (turn + k)| ≤ ε :=
    ⟨0, by rwa [Int.cast_zero, add_zero]⟩
  have before {x : ℚ} (close : |turn - 1| ≤ 1 ∧ |x - 6 * (turn - 1)| ≤ ε) :
      ∃ k : Int, |turn + k| ≤ 1 ∧ |x - 6 * (turn + k)| ≤ ε :=
    ⟨-1, by rwa [Int.cast_neg, Int.cast_one, ← sub_eq_add_neg]⟩
  cases sector with
  | redToYellow nonneg le_one =>
    refine ⟨fun near => here ?_, fun near => here ?_, fun far => absurd far (by linarith)⟩ <;>
      · simp only [abs_le]
        refine ⟨⟨?_, ?_⟩, ?_, ?_⟩ <;> linarith
  | yellowToGreen nonneg le_one =>
    refine ⟨fun near => here ?_, fun near => here ?_, fun far => absurd far (by linarith)⟩ <;>
      · simp only [abs_le]
        refine ⟨⟨?_, ?_⟩, ?_, ?_⟩ <;> linarith
  | greenToCyan nonneg le_one =>
    refine ⟨fun far => absurd far (by linarith), fun near => here ?_, fun near => here ?_⟩ <;>
      · simp only [abs_le]
        refine ⟨⟨?_, ?_⟩, ?_, ?_⟩ <;> linarith
  | cyanToBlue nonneg le_one =>
    refine ⟨fun far => absurd far (by linarith), fun near => here ?_, fun near => here ?_⟩ <;>
      · simp only [abs_le]
        refine ⟨⟨?_, ?_⟩, ?_, ?_⟩ <;> linarith
  | blueToMagenta nonneg le_one =>
    refine ⟨fun near => before ?_, fun far => absurd far (by linarith), fun near => here ?_⟩ <;>
      · simp only [abs_le]
        refine ⟨⟨?_, ?_⟩, ?_, ?_⟩ <;> linarith
  | magentaToRed nonneg le_one =>
    refine ⟨fun near => before ?_, fun far => absurd far (by linarith), fun near => here ?_⟩ <;>
      · simp only [abs_le]
        refine ⟨⟨?_, ?_⟩, ?_, ?_⟩ <;> linarith

end Place

section Painted

variable {color : Color} {turn low high : ℚ} {exact : Hsl} {polar : Polar}

/-- The extremes of the channels from 0 to 1 and the range between them. -/
theorem Painted.extremes (painted : Painted color turn low high) :
    Near (greatest (color.red / 255) (color.green / 255) (color.blue / 255)) high blur ∧
    Near (least (color.red / 255) (color.green / 255) (color.blue / 255)) low blur ∧
    Near (greatest (color.red / 255) (color.green / 255) (color.blue / 255) -
      least (color.red / 255) (color.green / 255) (color.blue / 255)) (high - low) (3 * blur) := by
  have rises := painted.rises
  have nonneg := painted.nonneg
  have le_one := painted.le_one
  obtain ⟨most, fewest⟩ := painted.portions.extremes rises painted.from_zero painted.to_one
  have height := most.sub fewest (by
    rw [abs_of_nonneg (by linarith)]
    norm_num [blur]
    linarith)
  exact ⟨most, fewest, height.widen (by norm_num [blur, grain])⟩

/-- The sixth of the circle that is computed is that of the place, but for whole turns. -/
theorem Painted.sixth (painted : Painted color turn low high) :
    ∃ (sixth : Binary64) (k : Int),
      hueSixth (color.red / 255) (color.green / 255) (color.blue / 255)
        (greatest (color.red / 255) (color.green / 255) (color.blue / 255))
        (greatest (color.red / 255) (color.green / 255) (color.blue / 255) -
          least (color.red / 255) (color.green / 255) (color.blue / 255)) = .ok sixth ∧
      |turn + k| ≤ 1 ∧ Near sixth (6 * (turn + k)) (1 / 2 ^ 13) := by
  obtain ⟨most, fewest, height⟩ := painted.extremes
  have apart := painted.apart
  have hued := painted.portions
  have from_zero := painted.from_zero
  have to_one := painted.to_one
  have red := share_bounds (t := turn + 1 / 3) (by linarith) (by linarith)
  have green := share_bounds (t := turn) (by linarith) (by linarith)
  have blue := share_bounds (t := turn - 1 / 3) (by linarith) (by linarith)
  obtain ⟨forRed, forGreen, forBlue⟩ :=
    (sector_of_turn from_zero to_one).place (ε := 1 / 2 ^ 18) (by norm_num)
  have found := exists_same_greatest hued.red hued.green hued.blue
  generalize greatest (color.red / 255) (color.green / 255) (color.blue / 255) -
    least (color.red / 255) (color.green / 255) (color.blue / 255) = range at height ⊢
  generalize greatest (color.red / 255) (color.green / 255) (color.blue / 255) = top at most found ⊢
  have toward {channel : Binary64} {share : ℚ}
      (own : Near channel (low + (high - low) * share) blur)
      (bounds : 0 ≤ share ∧ share ≤ 1) :=
    toward_near apart painted.nonneg painted.le_one own most height bounds.1 bounds.2
  obtain ⟨toRed, redPart, nearRed⟩ := toward hued.red red
  obtain ⟨toGreen, greenPart, nearGreen⟩ := toward hued.green green
  obtain ⟨toBlue, bluePart, nearBlue⟩ := toward hued.blue blue
  have settle {x : Binary64} {v : ℚ} (near : Near x v (5 / 2 ^ 16))
      (place : ∃ k : Int, |turn + k| ≤ 1 ∧ |v - 6 * (turn + k)| ≤ 1 / 2 ^ 18) :
      ∃ k : Int, |turn + k| ≤ 1 ∧ Near x (6 * (turn + k)) (1 / 2 ^ 13) := by
    obtain ⟨k, bounded, close⟩ := place
    exact ⟨k, bounded, (near.move close).widen (by norm_num)⟩
  unfold hueSixth
  simp only [redPart, greenPart, bluePart, Outcome.ok_bind]
  by_cases redMost : (color.red / 255).same top = true
  · obtain ⟨k, near⟩ := settle (part_sub_part nearBlue nearGreen blue green)
      (forRed (share_of_same apart hued.red most red.2 redMost))
    exact ⟨_, k, by rw [if_pos redMost]; rfl, near⟩
  by_cases greenMost : (color.green / 255).same top = true
  · obtain ⟨k, near⟩ := settle
      (add_part_sub_part near_two (by norm_num) (by norm_num) nearRed nearBlue red blue)
      (forGreen (share_of_same apart hued.green most green.2 greenMost))
    exact ⟨_, k, by rw [if_neg redMost, if_pos greenMost]; rfl, near⟩
  · have blueMost := (found.resolve_left redMost).resolve_left greenMost
    have four : Near 4 4 0 := near_numeral 4 (by decide)
    obtain ⟨k, near⟩ := settle
      (add_part_sub_part four (by norm_num) (by norm_num) nearGreen nearRed green red)
      (forBlue (share_of_same apart hued.blue most blue.2 blueMost))
    exact ⟨_, k, by rw [if_neg redMost, if_neg greenMost]; rfl, near⟩

/-- The extremes of the channels are not the same. -/
theorem Painted.differ (painted : Painted color turn low high) :
    (least (color.red / 255) (color.green / 255) (color.blue / 255)).same
      (greatest (color.red / 255) (color.green / 255) (color.blue / 255)) = false := by
  obtain ⟨most, fewest, -⟩ := painted.extremes
  have apart := painted.apart
  refine fewest.not_same most ?_
  rw [abs_sub_comm, abs_of_nonneg (by linarith [painted.rises])]
  norm_num [gap, blur] at apart ⊢
  linarith

/-- The sum of the extremes of the channels from 0 to 1. -/
theorem Painted.sum (painted : Painted color turn low high) :
    Near (greatest (color.red / 255) (color.green / 255) (color.blue / 255) +
      least (color.red / 255) (color.green / 255) (color.blue / 255)) (low + high) (3 * blur) := by
  obtain ⟨most, fewest, -⟩ := painted.extremes
  have rises := painted.rises
  have nonneg := painted.nonneg
  have le_one := painted.le_one
  have sum := most.add fewest (by
    rw [abs_of_nonneg (by linarith)]
    norm_num [blur]
    linarith)
  exact (sum.widen (by norm_num [blur, grain])).of_eq (by ring)

/-- The color is not next to white. -/
theorem Painted.not_nextToWhite (painted : Painted color turn low high) :
    color.nextToWhite = false := by
  have apart := painted.apart
  have le_one := painted.le_one
  have full := painted.sum.not_same near_two (by
    rw [abs_sub_comm, abs_of_nonneg] <;> norm_num [gap, blur] at apart ⊢ <;> linarith)
  unfold nextToWhite
  dsimp only
  rw [full, Bool.and_false]

/-- The hue that is computed is that of the place, but for whole turns. -/
theorem Painted.hue (painted : Painted color turn low high) (own : color.hslExact = .ok exact) :
    ∃ k : Int, |turn + k| ≤ 2 ∧ Near exact.hue (360 * (turn + k)) (1 / 64) := by
  obtain ⟨sixth, k, computed, bounded, near⟩ := painted.sixth
  obtain ⟨sixth', computed', hue, -⟩ := exists_of_hslExact own rfl rfl rfl painted.differ
  rw [computed] at computed'
  cases computed'
  have value : 6 * (turn + k) / 6 = turn + k := by ring
  have place := near.div near_six (m := 6) (k := 1) (by norm_num) (by norm_num)
    (by rwa [value]) (by norm_num)
  obtain ⟨v, j, wrapped, from_zero, to_one, close⟩ := (place.of_eq value).wrap
  have close := close.trans (c := 1 / 2 ^ 15) (by norm_num [grain])
  have sum : turn + (k + j : Int) = turn + k + j := by
    push_cast
    ring
  have bounded : |turn + (k + j : Int)| ≤ 2 := by
    rw [abs_le] at close
    rw [sum, abs_le]
    norm_num at close
    constructor <;> linarith
  have full : Near 360 360 0 := near_numeral 360 (by decide)
  rw [← sum] at close
  have turned := (wrapped.move close).mul full (k := 2) (m := 360) bounded
    (by norm_num [abs_of_pos]) (by norm_num)
  rw [hue]
  exact ⟨k + j, bounded, (turned.of_eq (by ring)).widen (by norm_num [grain])⟩

/-- The whole hue of a place in whole degrees. -/
theorem Painted.whole_hue (painted : Painted color turn low high) (own : color.hsl = .ok polar)
    {n : Int} (degrees : turn = n / 360) (nonneg : 0 ≤ n) (small : n < 360) : polar.hue = n := by
  obtain ⟨exact, whole, found, rounded, hue, -⟩ := exists_of_hsl own
  obtain ⟨k, bounded, near⟩ := painted.hue found
  have value : 360 * (turn + k) = (n + 360 * k : Int) := by
    rw [degrees]
    push_cast
    ring
  have rounded' := near.roundHalfUp_eq (n := n + 360 * k)
    (by rw [value, sub_self, abs_zero]; norm_num [grain])
    (by rw [abs_mul, abs_of_pos (by norm_num : (0 : ℚ) < 360)]; linarith)
  rw [rounded] at rounded'
  cases rounded'
  rw [hue]
  omega

/-- Half the sum of the extremes. -/
theorem Painted.lightness (painted : Painted color turn low high)
    (own : color.hslExact = .ok exact) :
    Near exact.lightness ((low + high) / 2) (2 * blur) := by
  obtain ⟨-, -, -, -, lightness⟩ := exists_of_hslExact own rfl rfl rfl painted.differ
  have rises := painted.rises
  have nonneg := painted.nonneg
  have le_one := painted.le_one
  rw [lightness]
  exact (painted.sum.div near_two (m := 2) (k := 1) (by norm_num) (by norm_num)
    (by rw [abs_of_nonneg] <;> linarith) (by norm_num [blur])).widen (by norm_num [blur, grain])

end Painted

/-! ## Percentages -/

section Percentages

variable {color : Color} {turn l s low high : ℚ} {exact : Hsl} {polar : Polar}

/-- A number next to a percentage is rounded to it. -/
theorem percent_near {x : Binary64} {n : Int} {q e : ℚ} (near : Near x q e)
    (percentage : q = n / 100)
    (nonneg : 0 ≤ n) (le : n ≤ 100) (small : e ≤ 1 / 2 ^ 10) : roundHalfUp (x * 100) = .ok n := by
  have hundred : Near 100 100 0 := near_numeral 100 (by decide)
  have least : (0 : ℚ) ≤ n := by exact_mod_cast nonneg
  have most : (n : ℚ) ≤ 100 := by exact_mod_cast le
  have scaled := near.mul hundred (k := 1) (m := 100)
    (by rw [percentage, abs_of_nonneg] <;> linarith) (by norm_num [abs_of_pos]) (by linarith)
  have whole : Near (x * 100) n (1 / 8) := (scaled.of_eq (by rw [percentage]; ring)).widen (by
    norm_num [grain] at small ⊢
    linarith)
  refine whole.roundHalfUp_eq ?_ ?_
  · rw [sub_self, abs_zero]
    norm_num [grain]
  · rw [abs_of_nonneg least]
    linarith

/-- The range between the channels is the saturation times twice the distance of the lightness from
the nearer end. -/
theorem Painted.range_div
    (painted : Painted color turn (l - s * min l (1 - l)) (l + s * min l (1 - l)))
    (nonneg : 0 ≤ s) (le_one : s ≤ 1) {m : ℚ} (close : |min l (1 - l) - m| ≤ 4 * blur)
    (large : 1 / 2 ^ 7 ≤ m) {divisor : Binary64} (own : Near divisor (2 * m) (4 * blur)) :
    Near ((greatest (color.red / 255) (color.green / 255) (color.blue / 255) -
        least (color.red / 255) (color.green / 255) (color.blue / 255)) / divisor) s
      (1 / 2 ^ 16) := by
  obtain ⟨-, -, height⟩ := painted.extremes
  have apart : l + s * min l (1 - l) - (l - s * min l (1 - l)) - 2 * s * m =
      2 * s * (min l (1 - l) - m) := by ring
  have part : |2 * s * (min l (1 - l) - m)| ≤ 8 * blur := by
    rw [abs_mul, abs_of_nonneg (by linarith : 0 ≤ 2 * s)]
    calc 2 * s * |min l (1 - l) - m| ≤ 2 * 1 * (4 * blur) :=
          mul_le_mul (by linarith) close (abs_nonneg _) (by norm_num)
      _ = 8 * blur := by ring
  have range := height.move (q := 2 * s * m) (e := 8 * blur) (by rwa [apart])
  have ratio : 2 * s * m / (2 * m) = s := by
    have positive : m ≠ 0 := by
      norm_num at large
      linarith
    field_simp
  have quotient := range.div own (m := 1 / 2 ^ 7) (k := 1) (by norm_num)
    (by norm_num [blur] at large ⊢; linarith) (by rwa [ratio, abs_of_nonneg nonneg])
    (by norm_num [blur])
  exact (quotient.of_eq ratio).widen (by norm_num [blur, grain])

/-- The saturation of a place, if the lightness is neither next to black nor next to white. -/
theorem Painted.saturation
    (painted : Painted color turn (l - s * min l (1 - l)) (l + s * min l (1 - l)))
    (own : color.hslExact = .ok exact) (dark : 1 / 2 ^ 7 ≤ l) (bright : l ≤ 1 - 1 / 2 ^ 7)
    (nonneg : 0 ≤ s) (le_one : s ≤ 1) : Near exact.saturation s (1 / 2 ^ 16) := by
  obtain ⟨-, -, -, saturation, lightness⟩ := exists_of_hslExact own rfl rfl rfl painted.differ
  have middle := painted.lightness own
  have sum := painted.sum
  have double : l - s * min l (1 - l) + (l + s * min l (1 - l)) = 2 * l := by ring
  have half : (l - s * min l (1 - l) + (l + s * min l (1 - l))) / 2 = l := by ring
  rw [double] at sum
  rw [half, lightness] at middle
  rw [saturation]
  -- Next to one half both divisors are nearly the same.
  split
  next below =>
    have less := middle.le_of_le near_half below
    refine painted.range_div nonneg le_one (m := l) ?_ dark (sum.widen (by norm_num [blur]))
    rcases le_total l (1 - l) with low | high
    · rw [min_eq_left low, sub_self, abs_zero]
      norm_num [blur]
    · rw [min_eq_right high, abs_sub_comm, abs_of_nonneg (by linarith)]
      linarith
  next above =>
    have more := middle.lt_of_not_le near_half (by simpa using above)
    have rest : Near (2 - (greatest (color.red / 255) (color.green / 255) (color.blue / 255) +
        least (color.red / 255) (color.green / 255) (color.blue / 255))) (2 * (1 - l)) (4 * blur) :=
      ((near_two.sub sum (by
        rw [abs_of_nonneg] <;> norm_num [blur] at bright ⊢ <;> linarith)).of_eq (by ring)).widen
        (by norm_num [blur, grain])
    refine painted.range_div nonneg le_one (m := 1 - l) ?_ (by linarith) rest
    rcases le_total l (1 - l) with low | high
    · rw [min_eq_left low, abs_sub_comm, abs_of_nonneg (by linarith)]
      linarith
    · rw [min_eq_right high, sub_self, abs_zero]
      norm_num [blur]

/-- The whole hue and percentages of a place are those that it was made of. -/
theorem Painted.hsl (painted : Painted color turn (l - s * min l (1 - l)) (l + s * min l (1 - l)))
    (own : color.hsl = .ok polar) {h k m : Int} (degrees : turn = h / 360) (nonneg : 0 ≤ h)
    (small : h < 360) (full : s = k / 100) (light : l = m / 100) (from_zero : 0 ≤ k)
    (to_most : k ≤ 100) (dark : 1 ≤ m) (bright : m ≤ 99) : polar = ⟨h, k, m⟩ := by
  obtain ⟨exact, -, found, -, -, first, second⟩ := exists_of_hsl own
  have least : (1 : ℚ) ≤ m := by exact_mod_cast dark
  have most : (m : ℚ) ≤ 99 := by exact_mod_cast bright
  have least' : (0 : ℚ) ≤ k := by exact_mod_cast from_zero
  have most' : (k : ℚ) ≤ 100 := by exact_mod_cast to_most
  have saturation := percent_near (painted.saturation found
    (by rw [light]; norm_num; linarith) (by rw [light]; norm_num; linarith)
    (by rw [full]; linarith) (by rw [full]; linarith)) full from_zero to_most (by norm_num)
  have lightness := percent_near ((painted.lightness found).of_eq (by ring)) light (by omega)
    (by omega) (by norm_num [blur])
  rw [saturation] at first
  rw [lightness] at second
  have hue := painted.whole_hue own degrees nonneg small
  cases polar
  cases first
  cases second
  cases hue
  rfl

/-- The whole hue and the parts of white and black of a place are those that it was made of. -/
theorem Painted.hwb (painted : Painted color turn low high) (own : color.hwb = .ok polar)
    {h w b : Int} (degrees : turn = h / 360) (nonneg : 0 ≤ h) (small : h < 360)
    (white : low = w / 100)
    (black : 1 - high = b / 100) (from_zero : 0 ≤ w) (to_most : w ≤ 100) (from_zero' : 0 ≤ b)
    (to_most' : b ≤ 100) : polar = ⟨h, w, b⟩ := by
  obtain ⟨hsl, found, turned, first, second⟩ := exists_of_hwb own
  have rises := painted.rises
  have low_nonneg := painted.nonneg
  have high_le := painted.le_one
  obtain ⟨most, fewest⟩ := painted.hued.extremes (by linarith) painted.from_zero painted.to_one
  have whiteness :=
    percent_near (portion_near fewest (by linarith) (by linarith)) white from_zero to_most
    (by norm_num [blur])
  have rest := near_one.sub (portion_near most (by linarith) (by linarith))
    (by rw [abs_of_nonneg] <;> norm_num [blur] <;> linarith)
  have blackness := percent_near rest black from_zero' to_most' (by norm_num [blur, grain])
  rw [whiteness] at first
  rw [blackness] at second
  have hue := painted.whole_hue found degrees nonneg small
  rw [← turned] at hue
  cases polar
  cases first
  cases second
  cases hue
  rfl

end Percentages

end Swatch.Color
