import Swatch.Proofs.Color.CallTexts
import Swatch.Proofs.Color.HueViews

/-!
# Hues that are written and read again

A written hue is read as a place on the hue circle, and the percentages behind it as themselves,
brought into range first (`exists_percentage`). The views of the color that is read show the place
and the percentages again if there is enough of a range between the channels (`hslColor_hsl`,
`hwbColor_hwb`); a grey has no hue to show (`hsl_of_equal`, `hwb_of_equal`).
-/

namespace Swatch.Color

open Text Binary64

/-! ## Percentages that are read -/

/-- A percentage brought into range. -/
def percentage (n : Int) : Nat :=
  min n.toNat 100

theorem percentage_le (n : Int) : percentage n ≤ 100 :=
  min_le_right _ _

/-- A whole number past the upper limit is brought down to it. -/
theorem clamp_ofNat_of_ge {n top : Nat} (le : top ≤ n) (small : top ≤ 1000) :
    clamp 0 (ofNat top) (ofNat n) = ofNat top := by
  have own := exists_ofNat small
  have more : (ofNat n).lt (ofNat top) = false := by
    rw [own, ofNat, ofRatio]
    split
    next =>
      have large : top * unitsPerOne ≤ roundUnits (n * unitsPerOne) 1 := by
        refine le_roundUnits Nat.one_pos (exact_of_lt (by omega)).ones ?_
        rw [Nat.mul_one]
        exact Nat.mul_le_mul_right _ le
      rw [lt, signed, signed, if_neg Bool.false_ne_true, if_neg Bool.false_ne_true,
        decide_eq_false_iff_not, not_lt]
      exact_mod_cast large
    next => rfl
  have above : smaller (ofNat top) (ofNat n) = smaller (ofNat top) (ofNat top) := by
    rw [smaller, more, if_neg Bool.false_ne_true, smaller, ite_self]
  unfold clamp
  rw [above]
  exact clamp_ofNat le_rfl (by omega)

/-- What has a minus sign is brought up to zero. -/
theorem clamp_ofDecimal_negative (significand : Nat) (exponent : Int) :
    clamp 0 100 (ofDecimal true significand exponent) = ofNat 0 := by
  have zero : (0 : Binary64) = finite false 0 := ofNat_zero
  have hundred : (100 : Binary64) = finite false (100 * unitsPerOne) :=
    exists_ofNat (n := 100) (by decide)
  have positive : 0 < 100 * unitsPerOne := Nat.mul_pos (by decide) unitsPerOne_pos
  have sign : (∃ units, ofDecimal true significand exponent = finite true units) ∨
      ofDecimal true significand exponent = infinite true := by
    have ratio (num den : Nat) : (∃ units, ofRatio true num den = finite true units) ∨
        ofRatio true num den = infinite true := by
      unfold ofRatio
      dsimp only
      split
      next => exact .inl ⟨_, rfl⟩
      next => exact .inr rfl
    unfold ofDecimal
    dsimp only
    split
    next => exact .inl ⟨0, rfl⟩
    split
    next => exact .inr rfl
    split <;> exact ratio _ _
  rw [ofNat_zero, Binary64.zero, ← zero]
  rcases sign with ⟨units, own⟩ | own
  · have below : (finite true units).lt 100 = true := by
      rw [hundred]
      simp only [lt, signed, decide_eq_true_eq]
      simp
      omega
    have above : Binary64.lt 0 (finite true units) = false := by
      rw [zero]
      simp [lt, signed]
    rw [own, clamp, smaller, if_pos below, larger, above, if_neg Bool.false_ne_true]
  · have below : (infinite true).lt 100 = true := by
      rw [hundred]
      rfl
    have above : Binary64.lt 0 (infinite true) = false := by
      rw [zero]
      rfl
    rw [own, clamp, smaller, if_pos below, larger, above, if_neg Bool.false_ne_true]

/-- A written percentage is read as itself, brought into range. -/
theorem exists_percentage {n : Int} (small : n.natAbs < 10 ^ 100) :
    ∃ value, WrittenNumeral (decimal n) value ∧ clamp 0 100 value = ofNat (percentage n) := by
  rcases lt_or_ge n 0 with negative | nonneg
  · have short : (Nat.toDigits 10 n.natAbs).length ≤ 100 :=
      (Nat.length_toDigits_le_iff (by decide) (by decide)).mpr small
    have numeral := @WrittenNumeral.numeral true _ [] Nat.toDigits_ne_nil short (toDigits_all _) rfl
    have text : decimal n = ['-'] ++ (Nat.toDigits 10 n.natAbs ++ Css.pointed []) := by
      rw [Css.pointed, List.append_nil, decimal, if_pos negative]
    have zero : percentage n = 0 := by
      unfold percentage
      omega
    rw [text, zero]
    exact ⟨_, numeral, clamp_ofDecimal_negative _ _⟩
  · obtain ⟨k, rfl⟩ := Int.eq_ofNat_of_zero_le nonneg
    refine ⟨_, written_whole small, ?_⟩
    rcases le_total k 100 with le | ge
    · rw [show percentage k = k by unfold percentage; omega]
      exact clamp_ofNat le (by decide)
    · rw [show percentage k = 100 by unfold percentage; omega]
      exact clamp_ofNat_of_ge ge (by decide)

theorem wrap_ofNat {n period : Nat} (less : n < period) (small : period ≤ 1000) :
    (ofNat n).wrap period = ofNat n := by
  have own := exists_ofNat (n := n) (by omega)
  have positive := unitsPerOne_pos
  have inside : n * unitsPerOne % (period * unitsPerOne) = n * unitsPerOne :=
    Nat.mod_eq_of_lt (Nat.mul_lt_mul_of_pos_right less positive)
  rw [own, wrap, inside]
  split
  next zero => rw [zero]; rfl
  next => rfl

/-! ## The colors that are read -/

/-- The color of a whole hue with whole percentages of saturation and lightness. -/
def hslColor (h s l : Nat) (alpha : Binary64) : Color :=
  let channels := channelsAt (ofNat h / 360) (ofNat l / 100) (ofNat s / 100)
  ⟨channels.1 * 255, channels.2.1 * 255, channels.2.2 * 255, alpha⟩

/-- The color of a whole hue with whole percentages of white and black. -/
def hwbColor (h w b : Nat) (alpha : Binary64) : Color :=
  let channels := channelsAt (ofNat h / 360) (1 / 2) 1
  let channel (pure : Binary64) : Binary64 :=
    (pure * (1 - ofNat w / 100 - ofNat b / 100) + ofNat w / 100) * 255
  ⟨channel channels.1, channel channels.2.1, channel channels.2.2, alpha⟩

/-- The grey of white and black that leave nothing over for a hue. -/
def mixedGrey (w b : Nat) (alpha : Binary64) : Color :=
  let grey := ofNat w / 100 / (ofNat w / 100 + ofNat b / 100) * 255
  ⟨grey, grey, grey, alpha⟩

section Arguments

variable {h s l w b : Nat} {x y alpha : Binary64} {arguments : List Argument}

/-- The color of `hsl` arguments that are all admissible. -/
theorem ofHslArguments_eq {first second third : Argument} {hue saturation lightness : Binary64}
    (place : readHue first = .ok hue) (full : readPercentage second = .ok saturation)
    (light : readPercentage third = .ok lightness) (read : readAlpha arguments = .ok alpha) :
    ofHslArguments first second third arguments =
      .ok ⟨(channelsAt (hue / 360) lightness saturation).1 * 255,
        (channelsAt (hue / 360) lightness saturation).2.1 * 255,
        (channelsAt (hue / 360) lightness saturation).2.2 * 255, alpha⟩ := by
  unfold ofHslArguments
  rw [place, full, light, read]
  simp only [Outcome.ok_bind]
  generalize channelsAt (hue / 360) lightness saturation = channels
  obtain ⟨red, green, blue⟩ := channels
  rfl

/-- The color of `hwb` arguments that are all admissible. -/
theorem ofHwbArguments_eq {first second third : Argument} {hue whiteness blackness : Binary64}
    (place : readHue first = .ok hue) (white : readPercentage second = .ok whiteness)
    (black : readPercentage third = .ok blackness) (read : readAlpha arguments = .ok alpha) :
    ofHwbArguments first second third arguments =
      .ok (if (1 : Binary64).le (whiteness + blackness) then
        ⟨whiteness / (whiteness + blackness) * 255, whiteness / (whiteness + blackness) * 255,
          whiteness / (whiteness + blackness) * 255, alpha⟩
        else
          ⟨((channelsAt (hue / 360) (1 / 2) 1).1 * (1 - whiteness - blackness) + whiteness) * 255,
            ((channelsAt (hue / 360) (1 / 2) 1).2.1 * (1 - whiteness - blackness) + whiteness) *
              255,
            ((channelsAt (hue / 360) (1 / 2) 1).2.2 * (1 - whiteness - blackness) + whiteness) *
              255,
            alpha⟩) := by
  unfold ofHwbArguments
  rw [place, white, black, read]
  simp only [Outcome.ok_bind]
  generalize channelsAt (hue / 360) (1 / 2) 1 = channels
  obtain ⟨red, green, blue⟩ := channels
  cases (1 : Binary64).le (whiteness + blackness) <;> rfl

theorem readHue_ofNat (turn : h < 360) : readHue ⟨ofNat h, none⟩ = .ok (ofNat h) := by
  have read (x : Binary64) : readHue ⟨x, none⟩ = .ok (x.wrap 360) := rfl
  rw [read, wrap_ofNat turn (by decide)]

theorem readPercentage_whole {n : Nat} (own : clamp 0 100 x = ofNat n) :
    readPercentage ⟨x, some .percent⟩ = .ok (ofNat n / 100) := by
  have read (x : Binary64) : readPercentage ⟨x, some .percent⟩ = .ok (clamp 0 100 x / 100) := rfl
  rw [read, own]

theorem ofHslArguments_whole (turn : h < 360) (first : clamp 0 100 x = ofNat s)
    (second : clamp 0 100 y = ofNat l) (read : readAlpha arguments = .ok alpha) :
    ofHslArguments ⟨ofNat h, none⟩ ⟨x, some .percent⟩ ⟨y, some .percent⟩ arguments =
      .ok (hslColor h s l alpha) :=
  ofHslArguments_eq (readHue_ofNat turn) (readPercentage_whole first) (readPercentage_whole second)
    read

theorem ofHwbArguments_whole (turn : h < 360) (first : clamp 0 100 x = ofNat w)
    (second : clamp 0 100 y = ofNat b) (read : readAlpha arguments = .ok alpha) :
    ofHwbArguments ⟨ofNat h, none⟩ ⟨x, some .percent⟩ ⟨y, some .percent⟩ arguments =
      .ok (if (1 : Binary64).le (ofNat w / 100 + ofNat b / 100) then mixedGrey w b alpha
        else hwbColor h w b alpha) :=
  ofHwbArguments_eq (readHue_ofNat turn) (readPercentage_whole first) (readPercentage_whole second)
    read

end Arguments

/-! ## Their views -/

section Views

variable {h s l w b : Nat} {alpha x : Binary64} {polar : Polar}

theorem near_percentage {n : Nat} (le : n ≤ 100) : Near (ofNat n / 100) (n / 100) grain := by
  have most : (n : ℚ) ≤ 100 := by exact_mod_cast le
  have hundred : Near 100 100 0 := near_numeral 100 (by decide)
  exact ((near_ofNat (n := n) (by omega)).div hundred (m := 100) (k := 1) (by norm_num)
    (by norm_num) (by rw [abs_of_nonneg (by positivity)]; linarith) (by norm_num)).widen
    (by norm_num)

theorem near_turn (turn : h < 360) : Near (ofNat h / 360) (h / 360) grain := by
  have most : (h : ℚ) ≤ 360 := by exact_mod_cast turn.le
  have full : Near 360 360 0 := near_numeral 360 (by decide)
  exact ((near_ofNat (n := h) (by omega)).div full (m := 360) (k := 1) (by norm_num)
    (by norm_num) (by rw [abs_of_nonneg (by positivity)]; linarith) (by norm_num)).widen
    (by norm_num)

/-- Channels that are computed from those of a place on the circle, all in the same way. -/
theorem Hued.map {red green blue : Binary64} {t low high low' high' e e' : ℚ}
    (hued : Hued red green blue t low high e) (from_zero : 0 ≤ t) (to_one : t ≤ 1)
    {f : Binary64 → Binary64} (moved : ∀ {x : Binary64} {share : ℚ}, 0 ≤ share → share ≤ 1 →
      Near x (low + (high - low) * share) e → Near (f x) (low' + (high' - low') * share) e') :
    Hued (f red) (f green) (f blue) t low' high' e' := by
  have red := share_bounds (t := t + 1 / 3) (by linarith) (by linarith)
  have green := share_bounds (t := t) (by linarith) (by linarith)
  have blue := share_bounds (t := t - 1 / 3) (by linarith) (by linarith)
  exact ⟨moved red.1 red.2 hued.red, moved green.1 green.2 hued.green,
    moved blue.1 blue.2 hued.blue⟩

theorem hslColor_painted (alpha : Binary64) (turn : h < 360) (colorful : 1 ≤ s) (full : s ≤ 100)
    (dark : 1 ≤ l)
    (bright : l ≤ 99) :
    Painted (hslColor h s l alpha) (h / 360)
      (l / 100 - s / 100 * min ((l : ℚ) / 100) (1 - (l : ℚ) / 100))
      (l / 100 + s / 100 * min ((l : ℚ) / 100) (1 - (l : ℚ) / 100)) := by
  have to_most : (h : ℚ) ≤ 360 := by exact_mod_cast turn.le
  have least : (1 : ℚ) ≤ s := by exact_mod_cast colorful
  have most : (s : ℚ) ≤ 100 := by exact_mod_cast full
  have least' : (1 : ℚ) ≤ l := by exact_mod_cast dark
  have most' : (l : ℚ) ≤ 99 := by exact_mod_cast bright
  have from_zero : (0 : ℚ) ≤ h / 360 := by positivity
  have to_one : (h : ℚ) / 360 ≤ 1 := by linarith
  have hued := channelsAt_near (near_turn turn) (near_percentage (n := l) (by omega))
    (near_percentage full)
    from_zero to_one (by positivity) (by linarith) (by positivity) (by linarith)
  obtain ⟨reach, below, above⟩ := reach_bounds (l := l / 100) (s := s / 100) (by positivity)
    (by linarith) (by positivity) (by linarith)
  have room : (1 : ℚ) / 100 ≤ min ((l : ℚ) / 100) (1 - (l : ℚ) / 100) :=
    le_min (by linarith) (by linarith)
  have wide : (1 : ℚ) / 100 * (1 / 100) ≤ s / 100 * min ((l : ℚ) / 100) (1 - (l : ℚ) / 100) :=
    mul_le_mul (by linarith) room (by norm_num) (by positivity)
  generalize (s : ℚ) / 100 * min ((l : ℚ) / 100) (1 - (l : ℚ) / 100) = width at *
  refine ⟨hued.map from_zero to_one (f := (· * 255)) fun {x share} nonneg le_one near => ?_,
    by linarith, ?_, by linarith, from_zero, to_one⟩
  · have inside : 0 ≤ (l / 100 + width - (l / 100 - width)) * share :=
      mul_nonneg (by linarith) nonneg
    have less : (l / 100 + width - (l / 100 - width)) * share ≤
        l / 100 + width - (l / 100 - width) :=
      mul_le_of_le_one_right (by linarith) le_one
    exact ((near_channel near (by linarith) (by linarith) (by norm_num [grain])).of_eq
      (by ring)).widen (by norm_num [grain])
  · norm_num [gap] at wide ⊢
    linarith

/-- With some saturation, neither black nor white, a hue shows itself and its percentages. -/
theorem hslColor_hsl (ranged : Ranged (hslColor h s l alpha)) (turn : h < 360) (colorful : 1 ≤ s)
    (full : s ≤ 100) (dark : 1 ≤ l) (bright : l ≤ 99) :
    (hslColor h s l alpha).hsl = .ok ⟨h, s, l⟩ := by
  have painted := hslColor_painted alpha turn colorful full dark bright
  obtain ⟨polar, own, -⟩ := hsl_of_ranged ranged painted.not_nextToWhite
  have same := painted.hsl own (h := h) (k := s) (m := l) (by rw [Int.cast_natCast])
    (Int.natCast_nonneg h) (by omega) (by rw [Int.cast_natCast]) (by rw [Int.cast_natCast])
    (Int.natCast_nonneg s) (by omega) (by omega) (by omega)
  rw [own, same]

theorem hwbColor_painted (alpha : Binary64) (turn : h < 360) (room : w + b < 100) :
    Painted (hwbColor h w b alpha) (h / 360) (w / 100) (1 - b / 100) := by
  have positive := grain_pos
  have to_most : (h : ℚ) ≤ 360 := by exact_mod_cast turn.le
  have total : (w : ℚ) + b ≤ 99 := by
    have whole : w + b ≤ 99 := by omega
    exact_mod_cast whole
  have nonneg : (0 : ℚ) ≤ w := by positivity
  have nonneg' : (0 : ℚ) ≤ b := by positivity
  have from_zero : (0 : ℚ) ≤ h / 360 := by positivity
  have to_one : (h : ℚ) / 360 ≤ 1 := by linarith
  have hued := channelsAt_near (near_turn turn) (near_half.widen positive.le)
    (near_one.widen positive.le) from_zero to_one (by norm_num) (by norm_num) (by norm_num)
    (by norm_num)
  have white := near_percentage (n := w) (by omega)
  have black := near_percentage (n := b) (by omega)
  refine ⟨hued.map from_zero to_one
    (f := fun pure => (pure * (1 - ofNat w / 100 - ofNat b / 100) + ofNat w / 100) * 255)
    fun {x share} least le_one near => ?_, by positivity, ?_, by linarith, from_zero, to_one⟩
  · have pure : Near x share (512 * grain) := near.of_eq (by norm_num)
    have mixed := mixed_near pure white black least le_one (by positivity) (by positivity)
      (by linarith)
    have inside : 0 ≤ share * (1 - (w : ℚ) / 100 - (b : ℚ) / 100) :=
      mul_nonneg least (by linarith)
    have less : share * (1 - (w : ℚ) / 100 - (b : ℚ) / 100) ≤ 1 - (w : ℚ) / 100 - (b : ℚ) / 100 :=
      mul_le_of_le_one_left (by linarith) le_one
    exact ((near_channel mixed (by linarith) (by linarith) (by norm_num [grain])).of_eq
      (by ring)).widen (by norm_num [grain])
  · norm_num [gap]
    linarith

/-- A hue that white and black leave room for shows itself and their percentages. -/
theorem hwbColor_hwb (ranged : Ranged (hwbColor h w b alpha)) (turn : h < 360)
    (room : w + b < 100) :
    (hwbColor h w b alpha).hwb = .ok ⟨h, w, b⟩ := by
  have painted := hwbColor_painted alpha turn room
  obtain ⟨hsl, found, bounded⟩ := hsl_of_ranged ranged painted.not_nextToWhite
  obtain ⟨polar, own, -⟩ := hwb_of_hsl ranged found bounded
  have same := painted.hwb own (h := h) (w := w) (b := b) (by rw [Int.cast_natCast])
    (Int.natCast_nonneg h) (by omega) (by rw [Int.cast_natCast]) (by rw [Int.cast_natCast]; ring)
    (Int.natCast_nonneg w) (by omega) (Int.natCast_nonneg b) (by omega)
  rw [own, same]

/-! ## Greys -/

/-- The percentage of a number next to one from zero to one. -/
theorem percent_beside {q e : ℚ} (near : Near x q e) (nonneg : 0 ≤ q) (le_one : q ≤ 1)
    (small : e ≤ 1 / 2 ^ 18) :
    ∃ n : Int, roundHalfUp (x * 100) = .ok n ∧ |n - 100 * q| ≤ 1 / 2 + 1 / 2 ^ 10 := by
  have hundred : Near 100 100 0 := near_numeral 100 (by decide)
  have scaled := near.mul hundred (k := 1) (m := 100) (by rwa [abs_of_nonneg nonneg])
    (by norm_num [abs_of_pos]) (by norm_num at small ⊢; linarith)
  obtain ⟨n, rounded, below, above⟩ := scaled.roundHalfUp (by
    rw [abs_of_nonneg (by positivity)]
    norm_num [grain] at small ⊢
    linarith)
  refine ⟨n, rounded, ?_⟩
  norm_num [grain] at small below above
  rw [abs_le]
  constructor <;> norm_num <;> linarith

/-- A whole number close to a percentage is the percentage. -/
theorem eq_of_percent {n : Int} {m : Nat} {q : ℚ} (close : |n - 100 * q| ≤ 1 / 2 + 1 / 2 ^ 10)
    (own : q = m / 100) : n = m := by
  rw [own, abs_le] at close
  norm_num at close
  have below : (n : ℚ) < m + 1 := by linarith
  have above : (m : ℚ) < n + 1 := by linarith
  have below : n < m + 1 := by exact_mod_cast below
  have above : (m : Int) < n + 1 := by exact_mod_cast above
  omega

/-- Nothing stays nothing: as a hue, as a percentage that is shown and as one that is read. -/
theorem zero_values :
    roundHalfUp 0 = .ok 0 ∧ roundHalfUp (0 * 100) = .ok 0 ∧
      (ofNat 0 / 100 : Binary64).same 0 = true := by
  decide +kernel

/-- Without a range between the channels there is neither a hue nor a saturation. -/
theorem hsl_of_same (color : Color) {red green blue : Binary64} (first : color.red / 255 = red)
    (second : color.green / 255 = green) (third : color.blue / 255 = blue)
    (same : (least red green blue).same (greatest red green blue) = true) {q e : ℚ}
    (near : Near ((greatest red green blue + least red green blue) / 2) q e) (nonneg : 0 ≤ q)
    (le_one : q ≤ 1) (small : e ≤ 1 / 2 ^ 18) :
    ∃ n : Int, color.hsl = .ok ⟨0, 0, n⟩ ∧ |n - 100 * q| ≤ 1 / 2 + 1 / 2 ^ 10 := by
  obtain ⟨hue, saturation, -⟩ := zero_values
  obtain ⟨n, rounded, close⟩ := percent_beside near nonneg le_one small
  have exact : color.hslExact =
      .ok ⟨0, 0, (greatest red green blue + least red green blue) / 2⟩ := by
    unfold hslExact
    rw [first, second, third]
    dsimp only
    rw [if_pos same]
    rfl
  refine ⟨n, ?_, close⟩
  unfold hsl
  rw [exact]
  simp only [Outcome.ok_bind, hue, saturation, rounded]
  rfl

theorem greatest_self (x : Binary64) : greatest x x x = x := by
  have own : x.larger x = x := by rw [larger, ite_self]
  rw [greatest, own, own]

theorem least_self (x : Binary64) : least x x x = x := by
  have own : x.smaller x = x := by rw [smaller, ite_self]
  rw [least, own, own]

theorem hsl_of_equal (alpha : Binary64) {q : ℚ} (near : Near (x / 255) q blur) (nonneg : 0 ≤ q)
    (le_one : q ≤ 1) :
    ∃ n : Int, hsl ⟨x, x, x, alpha⟩ = .ok ⟨0, 0, n⟩ ∧ |n - 100 * q| ≤ 1 / 2 + 1 / 2 ^ 10 := by
  have same : (least (x / 255) (x / 255) (x / 255)).same
      (greatest (x / 255) (x / 255) (x / 255)) = true := by
    obtain ⟨u, own, -⟩ := near
    rw [greatest_self, least_self, own.same_iff own]
  have sum := near.add near (by rw [abs_of_nonneg] <;> norm_num [blur] <;> linarith)
  have value : (q + q) / 2 = q := by ring
  have half := (sum.div near_two (m := 2) (k := 1) (by norm_num) (by norm_num)
    (by rwa [value, abs_of_nonneg nonneg]) (by norm_num [blur, grain])).of_eq value
  refine hsl_of_same _ rfl rfl rfl same ?_ nonneg le_one le_rfl
  rw [greatest_self, least_self]
  exact half.widen (by norm_num [blur, grain])

theorem hwb_of_equal (alpha : Binary64) {q : ℚ} (near : Near (x / 255) q blur) (nonneg : 0 ≤ q)
    (le_one : q ≤ 1) :
    ∃ w b : Int, hwb ⟨x, x, x, alpha⟩ = .ok ⟨0, w, b⟩ ∧ |w - 100 * q| ≤ 1 / 2 + 1 / 2 ^ 10 ∧
      |b - 100 * (1 - q)| ≤ 1 / 2 + 1 / 2 ^ 10 := by
  obtain ⟨n, hue, -⟩ := hsl_of_equal alpha near nonneg le_one
  have rest := near_one.sub near (by rw [abs_of_nonneg] <;> norm_num [blur] <;> linarith)
  obtain ⟨w, white, close⟩ := percent_beside near nonneg le_one (by norm_num [blur])
  obtain ⟨b, black, close'⟩ := percent_beside rest (by linarith) (by linarith)
    (by norm_num [blur, grain])
  refine ⟨w, b, ?_, close, close'⟩
  unfold hwb
  rw [hue]
  simp only [Outcome.ok_bind, greatest_self, least_self, white, black]
  rfl

/-- Without saturation all channels are the lightness. -/
theorem hslColor_grey (light : l ≤ 100) : (hslColor h 0 l alpha).hsl = .ok ⟨0, 0, l⟩ := by
  obtain ⟨-, -, zero⟩ := zero_values
  have most : (l : ℚ) ≤ 100 := by exact_mod_cast light
  have equal : hslColor h 0 l alpha =
      ⟨ofNat l / 100 * 255, ofNat l / 100 * 255, ofNat l / 100 * 255, alpha⟩ := by
    unfold hslColor channelsAt
    rw [if_pos zero]
  have channel :=
    near_channel (near_percentage light) (by positivity) (by linarith) (by norm_num [grain])
  have part := portion_near (q := l / 100) ((channel.of_eq (by ring)).widen (by norm_num [grain]))
    (by positivity) (by linarith)
  obtain ⟨n, own, close⟩ := hsl_of_equal alpha part (by positivity) (by linarith)
  rw [equal, own, eq_of_percent close rfl]

/-- The grey of white and black in percent. -/
theorem mixedGrey_hwb (alpha : Binary64) (total : 100 ≤ w + b) (white : w ≤ 100) (black : b ≤ 100) :
    ∃ w' b' : Int, (mixedGrey w b alpha).hwb = .ok ⟨0, w', b'⟩ ∧
      |w' - 100 * (w / (w + b) : ℚ)| ≤ 1 / 2 + 1 / 2 ^ 10 ∧
      |b' - 100 * (b / (w + b) : ℚ)| ≤ 1 / 2 + 1 / 2 ^ 10 := by
  have most : (w : ℚ) ≤ 100 := by exact_mod_cast white
  have most' : (b : ℚ) ≤ 100 := by exact_mod_cast black
  have least : (100 : ℚ) ≤ w + b := by exact_mod_cast total
  have nonneg : (0 : ℚ) ≤ w := by positivity
  have nonneg' : (0 : ℚ) ≤ b := by positivity
  have sum := (near_percentage white).add (near_percentage black)
    (by rw [abs_of_nonneg] <;> norm_num [grain] <;> linarith)
  have ratio : (w : ℚ) / 100 / (w / 100 + b / 100) = w / (w + b) := by
    field_simp
  have le_one : (w : ℚ) / (w + b) ≤ 1 := by
    rw [div_le_one (by linarith)]
    linarith
  have part := ((near_percentage white).div sum (m := 1 / 2) (k := 1) (by norm_num)
    (by norm_num [grain]; linarith) (by rw [ratio, abs_of_nonneg (by positivity)]; exact le_one)
    (by norm_num [grain])).of_eq ratio
  have channel := near_channel part (by positivity) le_one (by norm_num [grain])
  have near :=
    portion_near ((channel.of_eq (by ring)).widen (by norm_num [grain])) (by positivity) le_one
  obtain ⟨w', b', own, close, close'⟩ := hwb_of_equal alpha near (by positivity) le_one
  have rest : 1 - (w : ℚ) / (w + b) = b / (w + b) := by
    rw [sub_eq_iff_eq_add, ← add_div, add_comm, div_self (by linarith)]
  rw [rest] at close'
  exact ⟨w', b', own, close, close'⟩

/-! ## Black -/

section Black

variable {low high : Binary64}

/-- Between zero and zero there is only zero, at any place on the circle. -/
theorem channelAt_zero (least : Units low 0) (greatest : Units high 0) (turn : Binary64) :
    Units (channelAt low high turn) 0 := by
  have six := units_ofNat (n := 6) (by decide)
  have ramp {part : Binary64} {v : Int} (own : Units part v) :
      Units (low + (high - low) * part * 6) 0 :=
    least.zero_add (((greatest.zero_sub least).zero_mul own).zero_mul six)
  have third : Within (2 / 3) 0 1 :=
    within_div_of_le (units_ofNat (n := 2) (by decide)) (units_ofNat (n := 3) (by decide))
      (by positivity) (mul_pos (by decide) unitsPerOne_cast_pos) (ones_le_ones (by decide))
  unfold channelAt
  dsimp only
  rcases wrap_cases 1 (by decide) (by decide) turn with isNan | within
  · simpa only [isNan, nan_lt, Bool.false_eq_true, if_false] using least
  obtain ⟨part, rest, -⟩ := third.sub within (by decide) (by decide)
  obtain ⟨t, turned, -⟩ := within
  split
  next => exact ramp turned
  split
  next => exact greatest
  split
  next => exact ramp rest
  next => exact least

/-- Without lightness all channels are zero. -/
theorem channelsAt_zero {lightness saturation : Binary64} (dark : Units lightness 0)
    (full : Within saturation 0 1) (turn : Binary64) :
    Units (channelsAt turn lightness saturation).1 0 ∧
      Units (channelsAt turn lightness saturation).2.1 0 ∧
      Units (channelsAt turn lightness saturation).2.2 0 := by
  have half : lightness.le (1 / 2) = true := (dark.le_iff units_half).mpr (Int.natCast_nonneg _)
  have one : Within 1 1 1 := within_ofNat (n := 1) (by decide)
  obtain ⟨v, factor, -⟩ := one.add full (by decide) (by decide)
  have greatest := dark.zero_mul factor
  have least := ((units_ofNat (n := 2) (by decide)).mul_zero dark).zero_sub greatest
  unfold channelsAt
  split
  next => exact ⟨dark, dark, dark⟩
  dsimp only
  exact ⟨channelAt_zero least greatest _, channelAt_zero least greatest _,
    channelAt_zero least greatest _⟩

/-- Black has neither a hue nor a saturation. -/
theorem hslColor_black (full : s ≤ 100) : (hslColor h s 0 alpha).hsl = .ok ⟨0, 0, 0⟩ := by
  have dark : Units (ofNat 0 / 100) 0 :=
    units_zero.zero_div_ofNat (n := 100) (by decide) (by decide)
  have part : Within (ofNat s / 100) 0 1 :=
    within_div_of_le (units_ofNat (by omega)) (units_ofNat (n := 100) (by decide))
      (by positivity) (mul_pos (by decide) unitsPerOne_cast_pos) (ones_le_ones (by omega))
  have portion {x : Binary64} (own : Units x 0) : Units (x * 255 / 255) 0 :=
    (own.zero_mul (units_ofNat (n := 255) (by decide))).zero_div_ofNat (n := 255) (by decide)
      (by decide)
  obtain ⟨red, green, blue⟩ := channelsAt_zero dark part (ofNat h / 360)
  have most := ((portion red).larger (portion green)).larger (portion blue)
  have fewest := ((portion red).smaller (portion green)).smaller (portion blue)
  rw [max_self, max_self] at most
  rw [min_self, min_self] at fewest
  have middle := ((most.zero_add fewest).zero_div_ofNat (n := 2) (by decide) (by decide)).near
  obtain ⟨n, own, close⟩ := hsl_of_same (hslColor h s 0 alpha) rfl rfl rfl
    ((fewest.same_iff most).mpr rfl) (middle.of_eq (q := 0) (by simp [valueOf])) le_rfl zero_le_one
    (by norm_num)
  rw [own, eq_of_percent (m := 0) close (by norm_num)]
  rfl

end Black

end Views

end Swatch.Color
