import Swatch.Proofs.Color.HueRereading
import Swatch.Proofs.Color.Settled
import Swatch.Proofs.Extraction.Formats
import Swatch.Proofs.Palette.Distinct

/-!
# Formats that keep whole channels

Digits after a number sign and the numbers of a call are whole channels, so these formats lose none
of them: what is read from such a text has the channels that it was written for (`hexText_reread`,
`hexaText_reread`, `rgbText_reread`). Since the text of six digits also follows from the channels
alone, a list without repeats in that format holds each triple of channels once
(`whole_channels_kept`).
-/

namespace Swatch

open Binary64 Outcome

namespace Binary64

/-- A number that is neither below zero nor above one is finite. -/
theorem within_of_le {x : Binary64} (least : (0 : Binary64).le x = true) (most : x.le 1 = true) :
    Within x 0 1 := by
  have zero := units_zero
  have one := units_one
  have finite : ∃ u, Units x u := by
    obtain ⟨s, m, zeroFinite, -⟩ := zero
    obtain ⟨t, n, oneFinite, -⟩ := one
    rw [zeroFinite] at least
    rw [oneFinite] at most
    cases x with
    | finite negative size => exact ⟨_, negative, size, rfl, rfl⟩
    | infinite negative => cases negative <;> simp [le, lt, same] at least most
    | nan => simp [le, lt, same] at least
  obtain ⟨u, own⟩ := finite
  refine ⟨u, own, ?_, ?_⟩
  · rw [Int.zero_mul]
    exact (zero.le_iff own).mp least
  · rw [Int.one_mul]
    exact (own.le_iff one).mp most

end Binary64

namespace Color

variable {color : Color} {rgb rgb' : Rgb}

/-! ## Channels that are read back -/

/-- Six digits for whole channels. -/
def digitsText (rgb : Rgb) : String :=
  String.ofList ('#' :: channelDigits rgb.red ++ channelDigits rgb.green ++ channelDigits rgb.blue)

theorem hexText_reread (own : color.rgb = .ok rgb) (eight : EightBit rgb) :
    ∃ text again, color.hexText = .ok text ∧ parse text = .ok again ∧ again.rgb = .ok rgb :=
  ⟨_, _, hexText_eq own, eight.parse_hexDigits, eight.rgb_ofRgb 1⟩

theorem hexaText_reread (own : color.rgb = .ok rgb) (eight : EightBit rgb)
    (opacity : Within color.alpha 0 1) :
    ∃ text again, color.hexaText = .ok text ∧ parse text = .ok again ∧ again.rgb = .ok rgb := by
  have share : Beside color.alpha 1 0 := by simpa using beside_of_within opacity
  obtain ⟨n, rounded, nonneg, le⟩ := (share.channel (by norm_num [grain, slack])).roundHalfUp
  obtain ⟨n, rfl⟩ := Int.eq_ofNat_of_zero_le nonneg
  exact ⟨_, _, hexaText_eq own rounded, eight.parse_hexaDigits (Int.ofNat_le.mp le),
    eight.rgb_ofRgb _⟩

theorem rgbText_reread (own : color.rgb = .ok rgb) (eight : EightBit rgb)
    (opacity : Within color.alpha 0 1) :
    ∃ text again, color.rgbText = .ok text ∧ parse text = .ok again ∧ again.rgb = .ok rgb := by
  obtain ⟨red, green, blue, rfl, first, second, third⟩ := eight.exists_nat
  obtain ⟨value, numeral⟩ := written_alphaText opacity
  have channel {n : Nat} (le : n ≤ 255) : WrittenArgument (decimal n) ⟨ofNat n, none⟩ :=
    .number (written_whole (by omega))
  have few : (if color.alpha.lt 1 then [(⟨value, none⟩ : Argument)] else []).length ≤ 1 := by
    split <;> simp
  obtain ⟨alpha, read⟩ := (exists_alpha_iff ⟨ofNat red, none⟩ ⟨ofNat green, none⟩ ⟨ofNat blue, none⟩
    few).mpr (by split <;> simp)
  have computed := ofRgbArguments_numbers (ofNat red) (ofNat green) (ofNat blue) read
  have clamped {n : Nat} (le : n ≤ 255) : clamp 0 255 (ofNat n) = ofNat n :=
    clamp_ofNat le (by decide)
  rw [clamped first, clamped second, clamped third, ← ofInt_natCast, ← ofInt_natCast,
    ← ofInt_natCast] at computed
  exact ⟨_, _, rgbText_eq own, parse_callText .rgb (.inl rfl) (.inr rfl) (channel first)
    (channel second) (channel third) (fun _ => numeral) computed, eight.rgb_ofRgb alpha⟩

/-- Channels that have the same digits are the same, since they are read back from them. -/
theorem digitsText_inj (eight : EightBit rgb) (eight' : EightBit rgb') :
    digitsText rgb = digitsText rgb' ↔ rgb = rgb' := by
  refine ⟨fun same => ?_, fun same => same ▸ rfl⟩
  have read : parse (digitsText rgb) = .ok (ofRgb rgb) := eight.parse_hexDigits
  have read' : parse (digitsText rgb') = .ok (ofRgb rgb') := eight'.parse_hexDigits
  rw [same, read'] at read
  have whole := eight'.rgb_ofRgb 1
  rw [Except.ok.inj read, eight.rgb_ofRgb 1] at whole
  exact Except.ok.inj whole

/-! ## Whole channels are not next to white -/

/-- A whole channel on the scale from 0 to 1. -/
theorem near_wholePortion {n : Nat} (le : n ≤ 255) : Near (ofInt n / 255) (n / 255) grain := by
  have full : Near 255 255 0 := near_numeral 255 (by decide)
  have most : (n : ℚ) ≤ 255 := by exact_mod_cast le
  rw [ofInt_natCast]
  exact ((near_ofNat (n := n) (by omega)).div full (m := 255) (k := 1) (by norm_num)
    (by norm_num) (by rw [abs_of_nonneg (by positivity)]; linarith) (by norm_num)).widen
      (by norm_num)

/-- Unless all channels are full, the least of them is at most 254. -/
theorem least_of_not_white {red green blue : Nat} (first : red ≤ 255) (second : green ≤ 255)
    (third : blue ≤ 255) (other : ¬(red = 255 ∧ green = 255 ∧ blue = 255)) :
    min (min ((red : ℚ) / 255) (green / 255)) (blue / 255) ≤ 254 / 255 := by
  have below {n : Nat} (less : n ≤ 254) : (n : ℚ) / 255 ≤ 254 / 255 := by
    have most : (n : ℚ) ≤ 254 := by exact_mod_cast less
    linarith
  rw [min_le_iff, min_le_iff]
  obtain less | less | less : red ≤ 254 ∨ green ≤ 254 ∨ blue ≤ 254 := by omega
  · exact .inl (.inl (below less))
  · exact .inl (.inr (below less))
  · exact .inr (below less)

/-- If the greatest and the least of three whole channels add up to the most, all are white. -/
theorem not_nextToWhite_ofRgb (eight : EightBit rgb) (alpha : Binary64) :
    (ofRgb rgb alpha).nextToWhite = false := by
  obtain ⟨red, green, blue, rfl, first, second, third⟩ := eight.exists_nat
  have red_near := near_wholePortion first
  have green_near := near_wholePortion second
  have blue_near := near_wholePortion third
  unfold nextToWhite ofRgb
  dsimp only
  rw [Bool.and_eq_false_iff, Bool.not_eq_false']
  by_cases white : red = 255 ∧ green = 255 ∧ blue = 255
  · obtain ⟨rfl, rfl, rfl⟩ := white
    left
    obtain ⟨u, own, -⟩ := red_near
    rw [greatest_self, least_self, own.same_iff own]
  · right
    have inside {n : Nat} (le : n ≤ 255) : (0 : ℚ) ≤ n / 255 ∧ (n : ℚ) / 255 ≤ 1 := by
      have most : (n : ℚ) ≤ 255 := by exact_mod_cast le
      exact ⟨by positivity, by linarith⟩
    have top := max_le (max_le (inside first).2 (inside second).2) (inside third).2
    have nonneg := le_min (le_min (inside first).1 (inside second).1) (inside third).1
    have rises := (min_le_right (min ((red : ℚ) / 255) (green / 255)) (blue / 255)).trans
      (le_max_right (max ((red : ℚ) / 255) (green / 255)) (blue / 255))
    have apart := least_of_not_white first second third white
    have high := (red_near.larger green_near).larger blue_near
    have low := (red_near.smaller green_near).smaller blue_near
    generalize min (min ((red : ℚ) / 255) (green / 255)) (blue / 255) = fewest at *
    generalize max (max ((red : ℚ) / 255) (green / 255)) (blue / 255) = most at *
    have sum := high.add low (by rw [abs_of_nonneg] <;> norm_num [grain] <;> linarith)
    refine sum.not_same near_two ?_
    rw [abs_sub_comm, abs_of_nonneg (by linarith)]
    norm_num [grain]
    linarith

end Color

/-! ## Lists without repeats -/

namespace Palette

variable {options : Options} {literal : String} {literals : List String} {color : Color} {rgb : Rgb}

/-- A color that is not next to white has a hue. -/
theorem exists_hue {text : String} (read : Color.parse text = .ok color)
    (apart : color.nextToWhite = false) : ∃ degrees, hue text = .ok degrees := by
  obtain ⟨exact, own, -⟩ := (Color.hslExact_of_ranged (Color.ranged_of_parse read)).2 apart
  refine ⟨exact.hue, ?_⟩
  unfold hue
  rw [read]
  dsimp only
  rw [own]
  rfl

/-- Literals that are written as colors not next to white are given out in any order. -/
theorem exists_arrange (written : ∀ literal ∈ literals, ∃ text color,
      format options literal = .ok text ∧ Color.parse text = .ok color ∧
      color.nextToWhite = false) :
    ∃ found, arrange options literals = .ok found := by
  have texts : ∃ colors, literals.mapM (format options) = .ok colors := by
    refine exists_mapM fun literal member => ?_
    obtain ⟨text, -, formatted, -⟩ := written literal member
    exact ⟨text, formatted⟩
  refine exists_bind_eq_ok texts fun colors done => exists_bind_eq_ok ?_ fun ordered _ => ⟨_, rfl⟩
  have hues (text : String) (member : text ∈ colors) : ∃ degrees, hue text = .ok degrees := by
    obtain ⟨literal, before, own⟩ := exists_of_mem_mapM done member
    obtain ⟨text', color, formatted, read, apart⟩ := written literal before
    rw [own] at formatted
    cases formatted
    exact exists_hue read apart
  cases options.order with
  | asFound => exact ⟨_, rfl⟩
  | byFrequency => exact ⟨_, rfl⟩
  | byHue =>
    refine exists_bind_eq_ok (exists_mapM fun text member => ?_) fun _ _ => ⟨_, rfl⟩
    exact exists_bind_eq_ok (hues text member) fun _ _ => ⟨_, rfl⟩

theorem format_hex (digits : options.format? = some .hex) (read : Color.parse literal = .ok color)
    (own : color.rgb = .ok rgb) : format options literal = .ok (Color.digitsText rgb) := by
  unfold format
  rw [digits, read]
  exact congrArg Extracted.ofComputed (Color.hexText_eq own)

/-- The formats of digits and numbers keep the whole channels of every color that has channels of
eight bits and an alpha from zero to one. In six digits literals are written alike exactly if their
whole channels are the same, a text stays as it is, and a list without repeats holds each text
once. -/
theorem whole_channels_kept :
    (∀ (color : Color) (rgb : Rgb), color.rgb = .ok rgb → Color.EightBit rgb →
      (0 : Binary64).le color.alpha = true → color.alpha.le 1 = true →
      ∀ format ∈ [ColorFormat.hex, .hexa, .rgb], ∃ text again, color.write format = .ok text ∧
        Color.parse text = .ok again ∧ again.rgb = .ok rgb) ∧
    ∀ options : Options, options.format? = some .hex →
      (∀ literal color, Color.parse literal = .ok color → ∃ text,
        format options literal = .ok text ∧ format options text = .ok text) ∧
      (∀ literal literal' color color' rgb rgb', Color.parse literal = .ok color →
        Color.parse literal' = .ok color' → color.rgb = .ok rgb → color'.rgb = .ok rgb' →
        (format options literal = format options literal' ↔ rgb = rgb')) ∧
      ∀ literals, options.allColors = false → (∀ literal ∈ literals, Color.IsNamedBy literal) →
        ∃ found, arrange options literals = .ok found ∧ found.Nodup ∧
          ∀ text, text ∈ found ↔ ∃ literal ∈ literals, format options literal = .ok text := by
  refine ⟨fun color rgb own eight least most written member => ?_, fun options digits =>
    ⟨fun literal color read => ?_,
      fun literal literal' color color' rgb rgb' read read' own own' => ?_,
      fun literals repeats named => ?_⟩⟩
  · have opacity := within_of_le least most
    simp only [List.mem_cons, List.not_mem_nil, or_false] at member
    rcases member with rfl | rfl | rfl
    · exact Color.hexText_reread own eight
    · exact Color.hexaText_reread own eight opacity
    · exact Color.rgbText_reread own eight opacity
  · obtain ⟨rgb, own, eight⟩ := (Color.gamut_of_parse read).rgb
    exact ⟨_, format_hex digits read own,
      format_hex digits eight.parse_hexDigits (eight.rgb_ofRgb 1)⟩
  · rw [format_hex digits read own, format_hex digits read' own', Except.ok.injEq]
    exact Color.digitsText_inj (Color.eightBit_of_parse read own)
      (Color.eightBit_of_parse read' own')
  · have written (literal : String) (member : literal ∈ literals) : ∃ text color,
        format options literal = .ok text ∧ Color.parse text = .ok color ∧
          color.nextToWhite = false := by
      obtain ⟨color, read⟩ := named literal member
      obtain ⟨rgb, own, eight⟩ := (Color.gamut_of_parse read).rgb
      exact ⟨_, _, format_hex digits read own, eight.parse_hexDigits,
        Color.not_nextToWhite_ofRgb eight 1⟩
    obtain ⟨found, done⟩ := exists_arrange written
    exact ⟨found, done, arrange_distinct repeats done⟩

/-- Spellings of red share their digits, and an orange has others. -/
theorem whole_channels_kept_red :
    ∃ found, arrange { colorFormat := .string "hex" } ["red", "#F00", "rgb(255, 165, 0)"] =
      .ok found ∧ found.Nodup ∧ "#FF0000" ∈ found := by
  have named : ∀ literal ∈ ["red", "#F00", "rgb(255, 165, 0)"], Color.IsNamedBy literal := by
    intro literal member
    rw [Color.isNamedBy_iff]
    revert literal
    decide
  obtain ⟨-, kept⟩ := whole_channels_kept
  obtain ⟨-, -, distinct⟩ := kept { colorFormat := .string "hex" } (by decide)
  obtain ⟨found, done, once, holds⟩ := distinct _ rfl named
  exact ⟨found, done, once, (holds _).mpr ⟨"red", List.mem_cons_self,
    eq_ok_of_toOption (by decide +kernel)⟩⟩

end Palette

end Swatch
