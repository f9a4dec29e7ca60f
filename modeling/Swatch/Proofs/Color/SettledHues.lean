import Swatch.Proofs.Color.FullLightness
import Swatch.Proofs.Color.Settled

/-!
# Texts with a hue that a format leaves as they are

Whole degrees and percentages lose what a color needs to keep its hue when they come to an extreme.
The text of a hue with a saturation is settled if its lightness is neither 0% nor 100%
(`settled_hsl_iff`), and that of a hue between white and black if these leave something over
(`settled_hwb_iff`); a grey is settled only with the hue that a grey is written with.
-/

namespace Swatch.Color

open Text Binary64

variable {color : Color} {polar polar' : Polar} {literal text : String}

/-! ## Views of a color that was read -/

/-- A channel on the scale from 0 to 1. -/
theorem Beside.portion {x : Binary64} (beside : Beside x 255 slack) : Beside (x / 255) 1 slack := by
  obtain ⟨q, near, nonneg, le⟩ := beside
  have full : Near 255 255 0 := near_numeral 255 (by decide)
  have part := near.div full (m := 255) (k := 1) (by norm_num) (by norm_num)
    (by rw [abs_of_nonneg (by positivity)]; linarith) (by norm_num [slack])
  exact ⟨q / 255, part.widen (by norm_num [slack, grain]), by positivity, by linarith⟩

theorem Beside.larger {x y : Binary64} {top e : ℚ} (first : Beside x top e)
    (second : Beside y top e) :
    Beside (x.larger y) top e := by
  obtain ⟨p, near, nonneg, le⟩ := first
  obtain ⟨q, near', -, le'⟩ := second
  exact ⟨max p q, near.larger near', le_max_of_le_left nonneg, max_le le le'⟩

theorem Beside.smaller {x y : Binary64} {top e : ℚ} (first : Beside x top e)
    (second : Beside y top e) : Beside (x.smaller y) top e := by
  obtain ⟨p, near, nonneg, le⟩ := first
  obtain ⟨q, near', nonneg', -⟩ := second
  exact ⟨min p q, near.smaller near', le_min nonneg nonneg', min_le_of_left_le le⟩

/-- The percentage of a number next to one from zero to one. -/
theorem Beside.percent {x : Binary64} {n : Int} (beside : Beside x 1 (1 / 2 ^ 18))
    (rounded : Color.roundHalfUp (x * 100) = .ok n) : 0 ≤ n ∧ n ≤ 100 := by
  obtain ⟨q, near, nonneg, le_one⟩ := beside
  obtain ⟨m, own, close⟩ := percent_beside near nonneg le_one le_rfl
  rw [rounded] at own
  cases own
  rw [abs_le] at close
  norm_num at close
  have below : (n : ℚ) < 101 := by linarith
  have above : (-1 : ℚ) < n := by linarith
  have below : n < 101 := by exact_mod_cast below
  have above : -1 < n := by exact_mod_cast above
  omega

/-- The greatest and the least channel of a color that was read. -/
theorem Gamut.extremes (gamut : Gamut color) :
    Beside (greatest (color.red / 255) (color.green / 255) (color.blue / 255)) 1 slack ∧
      Beside (least (color.red / 255) (color.green / 255) (color.blue / 255)) 1 slack :=
  ⟨(gamut.red.portion.larger gamut.green.portion).larger gamut.blue.portion,
    (gamut.red.portion.smaller gamut.green.portion).smaller gamut.blue.portion⟩

/-- The lightness of the exact view is half the sum of the extremes. -/
theorem lightness_of_hslExact {exact : Hsl} (own : color.hslExact = .ok exact) :
    exact.lightness = (greatest (color.red / 255) (color.green / 255) (color.blue / 255) +
      least (color.red / 255) (color.green / 255) (color.blue / 255)) / 2 := by
  cases same : (least (color.red / 255) (color.green / 255) (color.blue / 255)).same
      (greatest (color.red / 255) (color.green / 255) (color.blue / 255)) with
  | true =>
    unfold hslExact at own
    dsimp only at own
    rw [if_pos same] at own
    rw [← Except.ok.inj own]
  | false =>
    obtain ⟨-, -, -, -, lightness⟩ := exists_of_hslExact own rfl rfl rfl same
    exact lightness

/-- The lightness of a color that was read is a percentage. -/
theorem Gamut.lightness (gamut : Gamut color) (own : color.hsl = .ok polar) :
    0 ≤ polar.second ∧ polar.second ≤ 100 := by
  obtain ⟨exact, -, found, -, -, -, rounded⟩ := exists_of_hsl own
  rw [lightness_of_hslExact found] at rounded
  obtain ⟨⟨p, most, nonneg, le⟩, q, fewest, nonneg', le'⟩ := gamut.extremes
  have sum := most.add fewest (by rw [abs_of_nonneg] <;> norm_num [slack] <;> linarith)
  have half := sum.div near_two (m := 2) (k := 1) (by norm_num) (by norm_num)
    (by rw [abs_of_nonneg (by positivity)]; linarith) (by norm_num [slack, grain])
  exact Beside.percent ⟨(p + q) / 2, half.widen (by norm_num [slack, grain]), by positivity,
    by linarith⟩
    rounded

/-- The parts of white and black of a color that was read are percentages. -/
theorem Gamut.parts (gamut : Gamut color) (own : color.hwb = .ok polar) :
    (0 ≤ polar.first ∧ polar.first ≤ 100) ∧ 0 ≤ polar.second ∧ polar.second ≤ 100 := by
  obtain ⟨hsl, -, -, white, black⟩ := exists_of_hwb own
  have small : slack + grain ≤ 1 / 2 ^ 18 := by norm_num [slack, grain]
  have most := ((gamut.red.larger gamut.green).larger gamut.blue).portion
  have fewest := ((gamut.red.smaller gamut.green).smaller gamut.blue).portion
  obtain ⟨p, near, nonneg, le_one⟩ := most
  have rest := near_one.sub near (by rw [abs_of_nonneg] <;> norm_num [slack] <;> linarith)
  refine ⟨(fewest.widen (by linarith [grain_pos])).percent white, Beside.percent
    ⟨1 - p, rest.widen (by linarith), by linarith, by linarith⟩ black⟩

/-! ## What tells a view -/

/-- Numerals of different numbers are different. -/
theorem decimal_inj {n m : Int} (same : decimal n = decimal m) : n = m := by
  have hyphen (k : Nat) : '-' ∉ Nat.toDigits 10 k := by
    have digits := toDigits_all k
    exact fun member => absurd (List.all_eq_true.mp digits _ member) (by decide)
  have value {a b : Nat} (same : Nat.toDigits 10 a = Nat.toDigits 10 b) : a = b := by
    rw [← decimalNumeral_toDigits a, same, decimalNumeral_toDigits]
  unfold decimal at same
  split at same <;> split at same
  · have sizes := value (List.append_cancel_left same)
    omega
  · rw [List.nil_append, List.singleton_append] at same
    exact absurd (same ▸ List.mem_cons_self) (hyphen m.natAbs)
  · rw [List.nil_append, List.singleton_append] at same
    exact absurd (same ▸ List.mem_cons_self) (hyphen n.natAbs)
  · have sizes := value (List.append_cancel_left same)
    omega

/-- The fields that a hue and two percentages are written in. -/
def polarFields (polar : Polar) : List (List Char) :=
  [decimal polar.hue, percentText polar.first, percentText polar.second]

theorem polarFields_inj : polarFields polar = polarFields polar' ↔ polar = polar' := by
  refine ⟨fun same => ?_, fun same => same ▸ rfl⟩
  have percent {n m : Int} (same : percentText n = percentText m) : n = m :=
    decimal_inj (List.append_cancel_right same)
  obtain ⟨hue, same⟩ := List.cons.inj same
  obtain ⟨first, same⟩ := List.cons.inj same
  obtain ⟨second, -⟩ := List.cons.inj same
  rw [Polar.mk.injEq]
  exact ⟨decimal_inj hue, percent first, percent second⟩

theorem bare_polarFields (polar : Polar) : ∀ field ∈ polarFields polar, ',' ∉ field := by
  simp [polarFields, bare_decimal, bare_percentText]

/-- A written hue with its percentages is read from them, and its text is that of another view
exactly if the views are the same and the alpha is kept. -/
theorem exists_rereadPolar (rule : Rule) (plain transparent : String)
    (called : ascii.calls plain.toList rule) (called' : ascii.calls transparent.toList rule)
    (stopless : '(' ∉ plain.toList) (stopless' : '(' ∉ transparent.toList) (bounded : polar.Bounded)
    {alpha : Binary64} (unsigned : Unsigned alpha) :
    ∃ x y arguments again, clamp 0 100 x = ofNat (percentage polar.first) ∧
      clamp 0 100 y = ofNat (percentage polar.second) ∧ readAlpha arguments = .ok again ∧
      (∀ {color : Color}, rule.color ⟨ofNat polar.hue.toNat, none⟩ ⟨x, some .percent⟩
          ⟨y, some .percent⟩ arguments = .ok color →
        parse (callText plain transparent (polarFields polar) alpha) = .ok color) ∧
      ∀ polar', callText plain transparent (polarFields polar') again =
          callText plain transparent (polarFields polar) alpha ↔
          polar' = polar ∧ KeepsAlpha alpha := by
  obtain ⟨turn, first, second⟩ := bounded
  have number : WrittenArgument (decimal polar.hue) ⟨ofNat polar.hue.toNat, none⟩ := by
    have numeral := written_whole (n := polar.hue.toNat) (by omega)
    rw [Int.toNat_of_nonneg turn.1] at numeral
    exact .number numeral
  obtain ⟨x, numeral, own⟩ := exists_percentage (n := polar.first) (by omega)
  obtain ⟨y, numeral', own'⟩ := exists_percentage (n := polar.second) (by omega)
  obtain ⟨arguments, again, opacity, parsed, same⟩ :=
    exists_reread rule plain transparent called called' stopless stopless' number (.percent numeral)
      (.percent numeral') (bare_polarFields polar) unsigned
  refine ⟨x, y, arguments, again, own, own', opacity, parsed, fun polar' => ?_⟩
  rw [← @polarFields_inj polar' polar]
  exact same (bare_polarFields polar')

/-- A view is written as a text that tells it exactly if it is the one that is told. -/
theorem written_iff {view : Except Fault Polar} {write : Polar → String} {kept : Prop}
    (told : ∀ polar', write polar' = text ↔ polar' = polar ∧ kept) :
    (view >>= fun polar => .ok (write polar)) = .ok text ↔ kept ∧ view = .ok polar := by
  cases view with
  | error fault => exact iff_of_false (fun same => by cases same) fun both => by cases both.2
  | ok own => rw [Outcome.ok_bind, Except.ok.injEq, Except.ok.injEq, told, and_comm]

/-! ## Hue, saturation and lightness -/

/-- A hue keeps its saturation if it is neither black nor white, and a grey has no hue to keep. -/
def Polar.SteadyHsl (polar : Polar) : Prop :=
  ((1 ≤ polar.first ∧ polar.first ≤ 100) ∧ 1 ≤ polar.second ∧ polar.second ≤ 99) ∨
    polar.hue = 0 ∧ polar.first = 0

theorem hslText_eq (own : color.hsl = .ok polar) :
    color.hslText = .ok (callText "hsl" "hsla" (polarFields polar) color.alpha) := by
  rw [hslText, own]
  rfl

/-- The view of the color that is read is the one that was written exactly if that is steady. -/
theorem hslColor_hsl_iff {alpha : Binary64} (turn : 0 ≤ polar.hue ∧ polar.hue < 360)
    (light : 0 ≤ polar.second ∧ polar.second ≤ 100)
    (ranged : Ranged
      (hslColor polar.hue.toNat (percentage polar.first) (percentage polar.second) alpha)) :
    (hslColor polar.hue.toNat (percentage polar.first) (percentage polar.second) alpha).hsl =
        .ok polar ↔
      polar.SteadyHsl := by
  obtain ⟨hue, s, l⟩ := polar
  dsimp only at turn light
  obtain ⟨h, rfl⟩ := Int.eq_ofNat_of_zero_le turn.1
  obtain ⟨l, rfl⟩ := Int.eq_ofNat_of_zero_le light.1
  have own : percentage (l : Int) = l := by
    unfold percentage
    omega
  have most := percentage_le s
  have bright : l ≤ 100 := by omega
  have small : h < 360 := by omega
  unfold Polar.SteadyHsl
  dsimp only at ranged ⊢
  rw [own, Int.toNat_natCast] at ranged ⊢
  rcases Nat.eq_zero_or_pos (percentage s) with zero | positive
  · have few : s ≤ 0 := by
      unfold percentage at zero
      omega
    rw [zero, hslColor_grey bright, Except.ok.injEq, Polar.mk.injEq]
    omega
  have least : 1 ≤ s := by
    unfold percentage at positive
    omega
  rcases Nat.eq_zero_or_pos l with rfl | dark
  · rw [hslColor_black most, Except.ok.injEq, Polar.mk.injEq]
    omega
  rcases eq_or_lt_of_le bright with rfl | below
  · refine iff_of_false (fun view => ?_) (by omega)
    have lost := hslColor_white ranged positive most view
    dsimp only at lost
    omega
  · rw [hslColor_hsl ranged small positive most dark (by omega), Except.ok.injEq, Polar.mk.injEq]
    unfold percentage
    omega

/-- The text of a hue, a saturation and a lightness is left as it is exactly if these are steady and
the alpha is kept. -/
theorem settled_hsl_iff (read : parse literal = .ok color) (own : color.hsl = .ok polar)
    (written : color.hslText = .ok text) :
    Settled .hsl text ↔ KeepsAlpha color.alpha ∧ polar.SteadyHsl := by
  have ranged := ranged_of_parse read
  obtain ⟨polar', own', bounded⟩ :=
    hsl_of_ranged ranged (apart_of_answers (answers_hsl ranged) own)
  rw [own] at own'
  cases own'
  have turn := bounded.hue
  have light := (gamut_of_parse read).lightness own
  rw [hslText_eq own] at written
  cases written
  obtain ⟨x, y, arguments, again, saturation, lightness, opacity, parsed, told⟩ :=
    exists_rereadPolar .hsl "hsl" "hsla" (.inl rfl) (.inr rfl) (by decide)
      (by decide) bounded (unsigned_of_parse read)
  have parsed := parsed (ofHslArguments_whole (by omega) saturation lightness opacity)
  rw [settled_iff_of_parse parsed, ← hslColor_hsl_iff turn light (ranged_of_parse parsed)]
  exact written_iff told

/-! ## Hue, white and black -/

/-- Something is left over for a hue, or nothing at all for a grey that has none. -/
def Polar.SteadyHwb (polar : Polar) : Prop :=
  polar.first + polar.second < 100 ∨ polar.first + polar.second = 100 ∧ polar.hue = 0

theorem hwbText_eq (own : color.hwb = .ok polar) :
    color.hwbText = .ok (callText "hwb" "hwb" (polarFields polar) color.alpha) := by
  rw [hwbText, own]
  rfl

section Parts

variable {w b : Nat}

/-- A whole percentage as a number from 0 to 1 is rounded once. -/
theorem ofNat_div_hundred {k : Nat} (small : k ≤ 1000) : ofNat k / 100 = hundredthsAlpha k := by
  have positive := unitsPerOne_pos
  have hundred : (100 : Binary64) = finite false (100 * unitsPerOne) :=
    exists_ofNat (n := 100) (by decide)
  have scaled : roundUnits (k * unitsPerOne * unitsPerOne) (100 * unitsPerOne) =
      roundUnits (k * unitsPerOne) (Nat.pow 10 2) := by
    refine roundUnits_congr (Nat.mul_pos (by decide) positive) (by decide) ?_
    change k * unitsPerOne * unitsPerOne * 100 = _
    ring
  rw [hundred, exists_ofNat small, div_finite false false _ (by omega), hundredthsAlpha, ofRatio,
    ofRatio, scaled]
  rfl

/-- White and black leave nothing over exactly if they are 100 percent together. -/
theorem full_iff (white : w ≤ 100) (black : b ≤ 100) :
    (1 : Binary64).le (ofNat w / 100 + ofNat b / 100) = true ↔ 100 ≤ w + b := by
  have known : ∀ w < 51, (1 : Binary64).le (hundredthsAlpha w + hundredthsAlpha (100 - w)) =
      true := by
    decide +kernel
  have sum := (near_percentage white).add (near_percentage black) (by
    have most : (w : ℚ) ≤ 100 := by exact_mod_cast white
    have most' : (b : ℚ) ≤ 100 := by exact_mod_cast black
    rw [abs_of_nonneg (by positivity)]
    norm_num [grain]
    linarith)
  rcases lt_trichotomy (w + b) 100 with less | same | more
  · refine iff_of_false (fun above => ?_) (by omega)
    have near := near_one.le_of_le sum above
    have below : (w : ℚ) + b ≤ 99 := by
      have whole : w + b ≤ 99 := by omega
      exact_mod_cast whole
    norm_num [grain] at near
    linarith
  · refine iff_of_true ?_ same.ge
    rw [ofNat_div_hundred (by omega), ofNat_div_hundred (by omega)]
    rcases le_total w 50 with first | second
    · rw [show b = 100 - w by omega]
      exact known w (by omega)
    · rw [sum_comm, show w = 100 - b by omega]
      exact known b (by omega)
  · refine iff_of_true ?_ more.le
    by_contra below
    have near := near_one.lt_of_not_le sum (by simpa using below)
    have above : (101 : ℚ) ≤ w + b := by
      have whole : 101 ≤ w + b := by omega
      exact_mod_cast whole
    norm_num [grain] at near
    linarith

/-- Rounded percentages of white and black are kept if they are 100 together, and not if more. -/
theorem mixedGrey_hwb_iff {h : Nat} {alpha : Binary64} (white : w ≤ 100) (black : b ≤ 100)
    (full : 100 ≤ w + b) :
    (mixedGrey w b alpha).hwb = .ok ⟨h, w, b⟩ ↔ w + b = 100 ∧ h = 0 := by
  obtain ⟨w', b', own, close, close'⟩ := mixedGrey_hwb alpha full white black
  have least : (100 : ℚ) ≤ w + b := by exact_mod_cast full
  rw [own, Except.ok.injEq, Polar.mk.injEq]
  rcases eq_or_lt_of_le full with same | more
  · have whole : (w : ℚ) + b = 100 := by exact_mod_cast same.symm
    rw [whole] at close close'
    rw [eq_of_percent close rfl, eq_of_percent close' rfl]
    omega
  · refine iff_of_false ?_ (by omega)
    rintro ⟨-, rfl, rfl⟩
    have above : (101 : ℚ) ≤ w + b := by exact_mod_cast more
    have parts : 100 * ((w : ℚ) / (w + b)) + 100 * (b / (w + b)) = 100 := by
      field_simp
    rw [abs_le, Int.cast_natCast] at close close'
    norm_num at close close'
    have few : w + b < 102 := by
      have below : (w : ℚ) + b < 102 := by linarith
      exact_mod_cast below
    have total : w + b = 101 := by omega
    have whole : (w : ℚ) + b = 101 := by exact_mod_cast total
    rw [whole] at close close'
    have half : w < 51 := by
      have below : (w : ℚ) < 51 := by linarith
      exact_mod_cast below
    have half' : b < 51 := by
      have below : (b : ℚ) < 51 := by linarith
      exact_mod_cast below
    omega

end Parts

/-- The color that white and black with a hue are read as. -/
def partsColor (h w b : Nat) (alpha : Binary64) : Color :=
  if (1 : Binary64).le (ofNat w / 100 + ofNat b / 100) then mixedGrey w b alpha
  else hwbColor h w b alpha

theorem alpha_partsColor (h w b : Nat) (alpha : Binary64) :
    (partsColor h w b alpha).alpha = alpha := by
  unfold partsColor
  split <;> rfl

/-- The view of the color that is read is the one that was written exactly if that is steady. -/
theorem partsColor_hwb_iff {alpha : Binary64} (turn : 0 ≤ polar.hue ∧ polar.hue < 360)
    (white : 0 ≤ polar.first ∧ polar.first ≤ 100) (black : 0 ≤ polar.second ∧ polar.second ≤ 100)
    (ranged : Ranged
      (partsColor polar.hue.toNat (percentage polar.first) (percentage polar.second) alpha)) :
    (partsColor polar.hue.toNat (percentage polar.first) (percentage polar.second) alpha).hwb =
        .ok polar ↔
      polar.SteadyHwb := by
  obtain ⟨hue, first, second⟩ := polar
  dsimp only at turn white black
  obtain ⟨h, rfl⟩ := Int.eq_ofNat_of_zero_le turn.1
  obtain ⟨w, rfl⟩ := Int.eq_ofNat_of_zero_le white.1
  obtain ⟨b, rfl⟩ := Int.eq_ofNat_of_zero_le black.1
  have own : percentage (w : Int) = w := by
    unfold percentage
    omega
  have own' : percentage (b : Int) = b := by
    unfold percentage
    omega
  unfold Polar.SteadyHwb
  dsimp only at ranged ⊢
  rw [own, own', Int.toNat_natCast] at ranged ⊢
  unfold partsColor at ranged ⊢
  split at ranged
  next full =>
    rw [if_pos full]
    have total := (full_iff (by omega) (by omega)).mp full
    rw [mixedGrey_hwb_iff (by omega) (by omega) total]
    omega
  next rest =>
    rw [if_neg rest]
    have total : w + b < 100 := by
      by_contra more
      exact rest ((full_iff (by omega) (by omega)).mpr (by omega))
    rw [hwbColor_hwb ranged (by omega) total]
    exact iff_of_true rfl (by omega)

/-- The text of a hue, white and black is left as it is exactly if these are steady and the alpha is
kept. -/
theorem settled_hwb_iff (read : parse literal = .ok color) (own : color.hwb = .ok polar)
    (written : color.hwbText = .ok text) :
    Settled .hwb text ↔ KeepsAlpha color.alpha ∧ polar.SteadyHwb := by
  have ranged := ranged_of_parse read
  obtain ⟨hsl, found, bounded⟩ :=
    hsl_of_ranged ranged (apart_of_answers (answers_hwb ranged) own)
  obtain ⟨polar', own', bounded'⟩ := hwb_of_hsl ranged found bounded
  rw [own] at own'
  cases own'
  have turn := bounded'.hue
  obtain ⟨white, black⟩ := (gamut_of_parse read).parts own
  rw [hwbText_eq own] at written
  cases written
  obtain ⟨x, y, arguments, again, whiteness, blackness, opacity, parsed, told⟩ :=
    exists_rereadPolar .hwb "hwb" "hwb" (.inl rfl) (.inl rfl) (by decide)
      (by decide) bounded' (unsigned_of_parse read)
  have parsed : parse _ = .ok (partsColor _ _ _ again) :=
    parsed (ofHwbArguments_whole (by omega) whiteness blackness opacity)
  rw [settled_iff_of_parse parsed, ← partsColor_hwb_iff turn white black (ranged_of_parse parsed)]
  have text :=
    alpha_partsColor polar.hue.toNat (percentage polar.first) (percentage polar.second) again
  rw [← text] at told
  exact written_iff told

end Swatch.Color
