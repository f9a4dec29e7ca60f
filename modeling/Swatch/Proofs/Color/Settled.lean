import Swatch.Proofs.Color.CallTexts

/-!
# Texts that a format leaves as they are

A text is settled in a format if what is read from it is written as the same text again. The formats
without a hue keep their channels: digits and numbers give the whole channels back (`settled_hex`,
`settled_rgb_iff`), and a percentage is that of the channel it is read as
(`settled_percentages_iff`). What may change is the alpha. A byte of it is read as hundredths, and
is kept exactly if it is the byte of its hundredths (`settled_hexa_iff`); in the calls it is kept
unless it is so close to one that it is written as `1`.
-/

namespace Swatch.Color

open Text Binary64

/-- What is read from the text is written as the same text again in this format. -/
def Settled (format : ColorFormat) (text : String) : Prop :=
  ∃ color, parse text = .ok color ∧ color.write format = .ok text

theorem settled_iff_of_parse {format : ColorFormat} {text : String} {color : Color}
    (read : parse text = .ok color) : Settled format text ↔ color.write format = .ok text := by
  refine ⟨?_, fun written => ⟨color, read, written⟩⟩
  rintro ⟨other, found, written⟩
  rw [read] at found
  cases found
  exact written

theorem alpha_ofRgb (rgb : Rgb) (alpha : Binary64) : (ofRgb rgb alpha).alpha = alpha :=
  rfl

variable {color : Color} {rgb : Rgb} {text : String}

/-! ## Digits after a number sign -/

theorem hexText_eq (own : color.rgb = .ok rgb) :
    color.hexText = .ok (String.ofList
      ('#' :: channelDigits rgb.red ++ channelDigits rgb.green ++ channelDigits rgb.blue)) := by
  rw [hexText, own]
  rfl

theorem settled_hex (own : color.rgb = .ok rgb) (eight : EightBit rgb)
    (written : color.hexText = .ok text) : Settled .hex text := by
  rw [hexText_eq own] at written
  cases written
  exact ⟨ofRgb rgb, eight.parse_hexDigits, hexText_eq (eight.rgb_ofRgb 1)⟩

/-- The byte nearest to so many hundredths, the greater one of two. -/
def byteOf (hundredths : Nat) : Nat :=
  (51 * hundredths + 10) / 20

/-- So many hundredths in 255 parts. -/
theorem roundHalfUp_hundredthsAlpha {k : Nat} (small : k ≤ 100) :
    roundHalfUp (hundredthsAlpha k * 255) = .ok (byteOf k : Int) := by
  -- Ties are decided by the rounded hundredths themselves.
  have ties : ∀ k ∈ [10, 30, 50, 70, 90],
      (roundHalfUp (hundredthsAlpha k * 255)).toOption = some (byteOf k : Int) := by
    decide +kernel
  by_cases tie : k ∈ [10, 30, 50, 70, 90]
  · exact Outcome.eq_ok_of_toOption (ties k tie)
  obtain ⟨units, own, near⟩ := exists_hundredthsAlpha (small.trans (by decide))
  have bounded : (k : ℚ) ≤ 100 := by exact_mod_cast small
  have scaled := near_channel near (by positivity) (by linarith) (by norm_num [grain])
  have lower : 20 * byteOf k ≤ 51 * k + 9 := by
    unfold byteOf
    simp only [List.mem_cons, List.not_mem_nil, or_false] at tie
    omega
  have upper : 51 * k + 1 ≤ 20 * byteOf k + 10 := by
    unfold byteOf
    omega
  have lower : (20 * byteOf k : ℚ) ≤ 51 * k + 9 := by exact_mod_cast lower
  have upper : (51 * k + 1 : ℚ) ≤ 20 * byteOf k + 10 := by exact_mod_cast upper
  rw [own]
  refine scaled.roundHalfUp_eq ?_ ?_
  · have close : |(k / 100 * 255 - (byteOf k : Int) : ℚ)| ≤ 9 / 20 := by
      rw [Int.cast_natCast, abs_le]
      constructor <;> linarith
    norm_num [grain] at close ⊢
    linarith
  · rw [abs_of_nonneg (by positivity)]
    norm_num [grain]
    linarith

/-- The alpha that a byte is read as, in 255 parts. -/
theorem roundHalfUp_byteAlpha {n : Nat} (small : n ≤ 255) :
    roundHalfUp (byteAlpha n * 255) = .ok (byteOf (hundredths n) : Int) := by
  rw [byteAlpha_eq small]
  exact roundHalfUp_hundredthsAlpha (hundredths_le small)

theorem hexaText_eq (own : color.rgb = .ok rgb) {n : Int}
    (rounded : roundHalfUp (color.alpha * 255) = .ok n) :
    color.hexaText = .ok (String.ofList
      ('#' :: channelDigits rgb.red ++ channelDigits rgb.green ++ channelDigits rgb.blue) ++
        String.ofList (twoDigits n)) := by
  rw [hexaText, hexText_eq own, Outcome.ok_bind, rounded]
  rfl

/-- Whole channels and the alpha of a byte are written with the byte of its hundredths. -/
theorem hexaText_ofRgb (eight : EightBit rgb) {n : Nat} (small : n ≤ 255) :
    (ofRgb rgb (byteAlpha n)).hexaText = .ok (String.ofList
      ('#' :: channelDigits rgb.red ++ channelDigits rgb.green ++ channelDigits rgb.blue) ++
        String.ofList (twoDigits (byteOf (hundredths n)))) :=
  hexaText_eq (eight.rgb_ofRgb (byteAlpha n))
    (by rw [alpha_ofRgb]; exact roundHalfUp_byteAlpha small)

/-- Eight digits are left as they are exactly if the last two are those of their hundredths. -/
theorem settled_hexa_iff (own : color.rgb = .ok rgb) (eight : EightBit rgb) {n : Nat}
    (small : n ≤ 255) (rounded : roundHalfUp (color.alpha * 255) = .ok (n : Int))
    (written : color.hexaText = .ok text) : Settled .hexa text ↔ byteOf (hundredths n) = n := by
  rw [hexaText_eq own rounded] at written
  cases written
  have again := hexaText_ofRgb eight small
  have less : byteOf (hundredths n) ≤ 255 := by
    unfold byteOf hundredths
    omega
  constructor
  · rintro ⟨other, read, same⟩
    rw [eight.parse_hexaDigits small] at read
    have found := Except.ok.inj read
    subst found
    have texts := congrArg String.toList (Except.ok.inj (again.symm.trans same))
    rw [String.toList_append, String.toList_append] at texts
    have digits := List.append_cancel_left texts
    rw [String.toList_ofList, String.toList_ofList] at digits
    rw [← hexNumeral_twoDigits less, digits, hexNumeral_twoDigits small]
  · intro same
    rw [same] at again
    exact ⟨_, eight.parse_hexaDigits small, again⟩

/-! ## Numbers and percentages -/

/-- The color of three numbers. -/
theorem ofRgbArguments_numbers (red green blue : Binary64) {alpha : Binary64}
    {arguments : List Argument}
    (read : readAlpha arguments = .ok alpha) :
    ofRgbArguments ⟨red, none⟩ ⟨green, none⟩ ⟨blue, none⟩ arguments =
      .ok ⟨clamp 0 255 red, clamp 0 255 green, clamp 0 255 blue, alpha⟩ := by
  unfold ofRgbArguments
  rw [read]
  rfl

/-- The channel of a percentage of channels. -/
def percentChannel (x : Binary64) : Binary64 :=
  clamp 0 255 (x * ofDecimal false 255 (-2))

/-- The color of three percentages. -/
theorem ofRgbArguments_percentages {red green blue alpha : Binary64} {arguments : List Argument}
    (read : readAlpha arguments = .ok alpha) :
    ofRgbArguments ⟨red, some .percent⟩ ⟨green, some .percent⟩ ⟨blue, some .percent⟩ arguments =
      .ok ⟨percentChannel red, percentChannel green, percentChannel blue, alpha⟩ := by
  unfold ofRgbArguments
  rw [read]
  rfl

theorem rgbText_eq (own : color.rgb = .ok rgb) :
    color.rgbText =
      .ok (callText "rgb" "rgba" [decimal rgb.red, decimal rgb.green, decimal rgb.blue]
      color.alpha) := by
  rw [rgbText, own]
  rfl

/-- Numbers are left as they are exactly if the alpha is. -/
theorem settled_rgb_iff (own : color.rgb = .ok rgb) (eight : EightBit rgb)
    (unsigned : Unsigned color.alpha) (written : color.rgbText = .ok text) :
    Settled .rgb text ↔ KeepsAlpha color.alpha := by
  obtain ⟨red, green, blue, rfl, first, second, third⟩ := eight.exists_nat
  rw [rgbText_eq own] at written
  cases written
  have channel {n : Nat} (le : n ≤ 255) : WrittenArgument (decimal n) ⟨ofNat n, none⟩ :=
    .number (written_whole (by omega))
  have bare : ∀ field ∈ [decimal red, decimal green, decimal blue], ',' ∉ field := by
    simp [bare_decimal]
  obtain ⟨arguments, again, opacity, parsed, same⟩ := exists_reread .rgb "rgb" "rgba"
    (.inl rfl) (.inr rfl) (by decide) (by decide) (channel first)
    (channel second) (channel third) bare unsigned
  have clamped {n : Nat} (le : n ≤ 255) : clamp 0 255 (ofNat n) = ofNat n :=
    clamp_ofNat le (by decide)
  have computed := ofRgbArguments_numbers (ofNat red) (ofNat green) (ofNat blue) opacity
  rw [clamped first, clamped second, clamped third, ← ofInt_natCast, ← ofInt_natCast,
    ← ofInt_natCast] at computed
  have texts := rgbText_eq (eight.rgb_ofRgb again)
  rw [settled_iff_of_parse (parsed computed), write]
  rw [alpha_ofRgb] at texts
  refine (Eq.congr_left texts).trans ?_
  rw [Except.ok.injEq, same bare]
  exact and_iff_right rfl

/-! ## Percentages of channels -/

/-- A number between the limits stays next to its value. -/
theorem near_clamp (top : Nat) {x : Binary64} {q e : ℚ} (near : Near x q e) (small : top < 2 ^ 53)
    (nonneg : 0 ≤ q) (le : q ≤ top) : Near (clamp 0 (ofNat top) x) q e := by
  have zero : Near 0 0 e :=
    (near_ofNat (n := 0) (by decide)).of_eq Nat.cast_zero |>.widen near.nonneg
  have own := zero.larger (((near_ofNat small).widen near.nonneg).smaller near)
  rwa [min_eq_right le, max_eq_right nonneg] at own

/-- The percentage of a channel is one. -/
theorem exists_channelPercent {n : Nat} (le : n ≤ 255) :
    ∃ p : Nat, channelPercent n = .ok (p : Int) ∧ p ≤ 100 := by
  have scale := unitsPerOne_cast_pos
  have part : Within (ofNat n / 255) 0 1 :=
    within_div_of_le (units_ofNat (n := n) (by omega)) (units_ofNat (n := 255) (by decide))
      (by positivity) (by positivity) (Int.mul_le_mul_of_nonneg_right (by omega) scale.le)
  obtain ⟨k, rounded, nonneg, most⟩ := percent_within (n := 1) part (by decide)
  obtain ⟨p, rfl⟩ := Int.eq_ofNat_of_zero_le nonneg
  refine ⟨p, ?_, by omega⟩
  rw [channelPercent, ofInt_natCast, rounded]

/-- The channel of a percentage is next to the exact one. -/
theorem near_percentChannel {x : Binary64} {q : ℚ} (near : Near x q (grainAt 7)) (nonneg : 0 ≤ q)
    (le : q ≤ 100) : Near (percentChannel x) (255 * q / 100) (3 * grain) := by
  have value : decimalValue false 255 (-2) = 51 / 20 := by
    rw [show (-2 : Int) = 0 - (2 : Nat) by decide, decimalValue_places]
    norm_num
  obtain ⟨units, read, factor⟩ := @near_ofDecimal_at false 255 (-2) 2 (by decide)
    (by rw [value]; norm_num [abs_of_pos])
  rw [← read, value] at factor
  have product := near.mul_at 8 (by decide) factor (k := 100) (m := 51 / 20)
    (by rw [abs_of_nonneg nonneg]; exact le) (by norm_num [abs_of_pos]) (by norm_num [grainAt])
  exact ((near_clamp 255 product (by decide) (by positivity) (by norm_num; linarith)).of_eq
    (by ring)).widen (by norm_num [grainAt, grain])

/-- The channel that a percentage is read as has the same percentage. -/
theorem exists_percentChannel {p : Nat} (le : p ≤ 100) :
    ∃ n : Nat, n ≤ 255 ∧
      roundHalfUp (percentChannel (ofNat p)) = .ok (n : Int) ∧
      channelPercent n = .ok (p : Int) := by
  have most : (p : ℚ) ≤ 100 := by exact_mod_cast le
  have own := (near_ofNat (n := p) (by omega)).widen (grainAt_pos 7).le
  have channel := near_percentChannel own (by positivity) most
  obtain ⟨n, rounded, below, above⟩ := channel.roundHalfUp (by
    rw [abs_of_nonneg (by positivity)]
    norm_num [grain]
    linarith)
  norm_num [grain] at below above
  have lower : (-1 : ℚ) < n := by linarith [(Nat.cast_nonneg p : (0 : ℚ) ≤ p)]
  have upper : (n : ℚ) < 256 := by linarith
  have lower : -1 < n := by exact_mod_cast lower
  have upper : n < 256 := by exact_mod_cast upper
  obtain ⟨n, rfl⟩ := Int.eq_ofNat_of_zero_le (by omega : 0 ≤ n)
  refine ⟨n, by omega, rounded, ?_⟩
  rw [Int.cast_natCast] at below above
  have full : Near 255 255 0 := near_numeral 255 (by decide)
  have bounded : (n : ℚ) ≤ 255 := by
    have whole : n ≤ 255 := by omega
    exact_mod_cast whole
  have part := (near_ofNat (n := n) (by omega)).div full (m := 255) (k := 1) (by norm_num)
    (by norm_num) (by rw [abs_of_nonneg (by positivity)]; linarith) (by norm_num)
  have hundred : Near 100 100 0 := near_numeral 100 (by decide)
  have scaled := part.mul hundred (k := 1) (m := 100)
    (by rw [abs_of_nonneg (by positivity)]; linarith) (by norm_num [abs_of_pos])
    (by norm_num [grain])
  rw [channelPercent, ofInt_natCast]
  refine scaled.roundHalfUp_eq ?_ ?_
  · have close : |(n / 255 * 100 - (p : Int) : ℚ)| ≤ 1 / 4 := by
      rw [Int.cast_natCast, abs_le]
      constructor <;> linarith
    norm_num [grain] at close ⊢
    linarith
  · rw [abs_of_nonneg (by positivity)]
    norm_num [grain]
    linarith

theorem percentagesText_eq (own : color.rgb = .ok rgb) {r g b : Int}
    (red : channelPercent rgb.red = .ok r) (green : channelPercent rgb.green = .ok g)
    (blue : channelPercent rgb.blue = .ok b) :
    color.percentagesText =
      .ok (callText "rgb" "rgba" [percentText r, percentText g, percentText b] color.alpha) := by
  rw [percentagesText, own, Outcome.ok_bind, red, Outcome.ok_bind, green, Outcome.ok_bind, blue]
  rfl

/-- Percentages are left as they are exactly if the alpha is. -/
theorem settled_percentages_iff (own : color.rgb = .ok rgb) (eight : EightBit rgb)
    (unsigned : Unsigned color.alpha) (written : color.percentagesText = .ok text) :
    Settled .percent text ↔ KeepsAlpha color.alpha := by
  obtain ⟨red, green, blue, rfl, first, second, third⟩ := eight.exists_nat
  obtain ⟨r, redPercent, redMost⟩ := exists_channelPercent first
  obtain ⟨g, greenPercent, greenMost⟩ := exists_channelPercent second
  obtain ⟨b, bluePercent, blueMost⟩ := exists_channelPercent third
  rw [percentagesText_eq own redPercent greenPercent bluePercent] at written
  cases written
  have percent {p : Nat} (le : p ≤ 100) :
      WrittenArgument (percentText p) ⟨ofNat p, some .percent⟩ :=
    .percent (written_whole (by omega))
  have bare : ∀ field ∈ [percentText r, percentText g, percentText b], ',' ∉ field := by
    simp [bare_percentText]
  obtain ⟨arguments, again, opacity, parsed, same⟩ := exists_reread .rgb "rgb" "rgba"
    (.inl rfl) (.inr rfl) (by decide) (by decide) (percent redMost)
    (percent greenMost) (percent blueMost) bare unsigned
  obtain ⟨red', redLe, redRounded, redAgain⟩ := exists_percentChannel redMost
  obtain ⟨green', greenLe, greenRounded, greenAgain⟩ := exists_percentChannel greenMost
  obtain ⟨blue', blueLe, blueRounded, blueAgain⟩ := exists_percentChannel blueMost
  have whole : Color.rgb ⟨percentChannel (ofNat r), percentChannel (ofNat g),
      percentChannel (ofNat b), again⟩ = .ok ⟨red', green', blue'⟩ := by
    unfold Color.rgb
    dsimp only
    rw [redRounded, greenRounded, blueRounded]
    rfl
  rw [settled_iff_of_parse (parsed (ofRgbArguments_percentages opacity)), write]
  refine (Eq.congr_left (percentagesText_eq whole redAgain greenAgain blueAgain)).trans ?_
  rw [Except.ok.injEq, same bare]
  exact and_iff_right rfl

end Swatch.Color
