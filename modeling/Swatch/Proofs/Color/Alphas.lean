import Swatch.Proofs.Binary64.Numerals
import Swatch.Proofs.Color.Rereading

/-!
# Alphas that are written and read again

An alpha is written in ten-thousandths in the calls (`placesText`) and as a byte in the digits after
a number sign. The places that are written are read as an alpha next to so many ten-thousandths, and
it is written with the same places again (`exists_alpha`): rounding errors are far smaller than the
half ten-thousandth that would change them. A byte is read as the hundredths nearest to it
(`byteAlpha_eq`).
-/

namespace Swatch.Color

open Text Binary64

/-! ## Alphas -/

section Alphas

theorem decimalNumeral_concat (digits : List Char) (last : Char) :
    decimalNumeral (digits ++ [last]) = decimalNumeral digits * 10 + (digitValue? last).getD 0 := by
  rw [decimalNumeral, List.map_append, List.map_singleton, numeralValue_append, ← decimalNumeral]

/-- Zeros behind a numeral multiply it. -/
theorem decimalNumeral_zeros (digits : List Char) (count : Nat) :
    decimalNumeral (digits ++ List.replicate count '0') = decimalNumeral digits * 10 ^ count := by
  have zero : (digitValue? '0').getD 0 = 0 := by decide
  induction count with
  | zero => simp
  | succ count ih =>
    rw [List.replicate_succ', ← List.append_assoc, decimalNumeral_concat, ih, zero, Nat.add_zero,
      Nat.pow_succ, Nat.mul_assoc]

/-- Zeros before a numeral do not change it. -/
theorem zeros_decimalNumeral (count : Nat) (digits : List Char) :
    decimalNumeral (List.replicate count '0' ++ digits) = decimalNumeral digits := by
  induction digits using List.reverseRecOn with
  | nil =>
    have own := decimalNumeral_zeros [] count
    rw [List.nil_append] at own
    rw [List.append_nil, own]
    exact Nat.zero_mul _
  | append_singleton digits last ih =>
    rw [← List.append_assoc, decimalNumeral_concat, ih, decimalNumeral_concat]

/-- The digits that are left without the zeros at their end. -/
def significant (places : List Char) : List Char :=
  (places.reverse.dropWhile (· == '0')).reverse

theorem significant_append (places : List Char) :
    ∃ count, places = significant places ++ List.replicate count '0' := by
  have zeros : places.reverse.takeWhile (· == '0') =
      List.replicate (places.reverse.takeWhile (· == '0')).length '0' := by
    refine List.eq_replicate_iff.mpr ⟨rfl, fun c member => ?_⟩
    simpa using List.mem_takeWhile_imp member
  refine ⟨(places.reverse.takeWhile (· == '0')).length, ?_⟩
  rw [significant, ← List.reverse_replicate, ← zeros, ← List.reverse_append,
    List.takeWhile_append_dropWhile, List.reverse_reverse]

/-- The ten-thousandths that an alpha is written with. -/
def tenThousandths (units : Nat) : Nat :=
  roundEven (units * 10 ^ 4) unitsPerOne

/-- The text of so many ten-thousandths. -/
def placesText (k : Nat) : List Char :=
  Nat.toDigits 10 (k / 10 ^ 4) ++ Css.pointed (significant (paddedDigits 4 (k % 10 ^ 4)))

theorem alphaText_eq (units : Nat) :
    alphaText (finite false units) = placesText (tenThousandths units) :=
  @alphaText_of_fixed _ [] _ _ Nat.toDigits_ne_nil (toDigits_all _) (paddedDigits_all 4 _) rfl

/-- A ratio close to a whole number is rounded to it. -/
theorem roundEven_eq {num den k : Nat} (positive : 0 < den) (below : 2 * num < (2 * k + 1) * den)
    (above : 2 * k * den < 2 * num + den) : roundEven num den = k := by
  obtain ⟨near, near'⟩ := roundEven_near positive num
  have less : roundEven num den < k + 1 := by
    refine Nat.lt_of_mul_lt_mul_right (a := den) ?_
    linarith
  have more : k < roundEven num den + 1 := by
    refine Nat.lt_of_mul_lt_mul_right (a := den) ?_
    linarith
  omega

/-- A number whose multiple is next to a whole number is rounded to it at that many parts. -/
theorem roundEven_of_near {units k scale : Nat} {q e : ℚ} (near : Near (finite false units) q e)
    (close : |scale * q - k| + scale * e < 1 / 2) : roundEven (units * scale) unitsPerOne = k := by
  have one := unitsPerOne_rat_pos
  obtain ⟨u, ⟨negative, size, same, rfl⟩, apart⟩ := near
  cases same
  rw [valueOf, signed, if_neg Bool.false_ne_true, Int.cast_natCast] at apart
  have scaled : |(units * scale : ℚ) / unitsPerOne - k| < 1 / 2 := by
    have whole : (units * scale : ℚ) / unitsPerOne - k =
        scale * (units / unitsPerOne - q) + (scale * q - k) := by ring
    have part : |scale * (units / unitsPerOne - q)| ≤ scale * e := by
      rw [abs_mul, Nat.abs_cast]
      exact mul_le_mul_of_nonneg_left apart (Nat.cast_nonneg _)
    rw [whole]
    exact (abs_add_le _ _).trans_lt (by linarith)
  rw [abs_lt, sub_lt_iff_lt_add, div_lt_iff₀ one, lt_sub_iff_add_lt, lt_div_iff₀ one] at scaled
  have below : 2 * ((units : ℚ) * scale) < (2 * k + 1) * unitsPerOne := by linarith
  have above : 2 * (k : ℚ) * unitsPerOne < 2 * (units * scale) + unitsPerOne := by linarith
  exact roundEven_eq unitsPerOne_pos (by exact_mod_cast below) (by exact_mod_cast above)

/-- A number next to so many ten-thousandths is written with them. -/
theorem tenThousandths_of_near {units k : Nat}
    (near : Near (finite false units) (k / 10 ^ 4) grain) :
    tenThousandths units = k := by
  refine roundEven_of_near near ?_
  have whole : ((10 ^ 4 : Nat) : ℚ) * (k / 10 ^ 4) - k = 0 := by
    push_cast
    ring
  rw [whole, abs_zero]
  norm_num [grain]

/-- A ratio that is not negative is rounded to a number that is not. -/
theorem exists_ofRatio {num den : Nat} (positive : 0 < den) {q : ℚ}
    (value : num / (den * unitsPerOne) = q) (room : q ≤ 1000) :
    ∃ units, ofRatio false num den = finite false units ∧ Near (finite false units) q grain := by
  have nonneg : 0 ≤ q := by
    rw [← value]
    positivity
  rw [← grainAt_ten]
  refine near_ofRatio_at 10 (by decide) positive value ?_
  rw [abs_of_nonneg nonneg]
  linarith

/-- A numeral with places is next to its value. -/
theorem near_ofDecimal {m count : Nat} (room : (m : ℚ) / 10 ^ count ≤ 1000) :
    ∃ units, ofDecimal false m (0 - count) = finite false units ∧
      Near (finite false units) (m / 10 ^ count) grain := by
  rw [← decimalValue_places] at room ⊢
  rw [← grainAt_ten]
  refine near_ofDecimal_at 10 (by decide) ?_
  rw [decimalValue_places] at room ⊢
  rw [abs_of_nonneg (by positivity)]
  linarith

theorem length_paddedDigits {length n : Nat} (small : n < 10 ^ length) (positive : 0 < length) :
    (paddedDigits length n).length = length := by
  have short : (Nat.toDigits 10 n).length ≤ length :=
    (Nat.length_toDigits_le_iff (by decide) positive).mpr small
  unfold paddedDigits
  dsimp only
  rw [List.length_append, List.length_replicate]
  omega

theorem decimalNumeral_paddedDigits (length n : Nat) :
    decimalNumeral (paddedDigits length n) = n := by
  unfold paddedDigits
  dsimp only
  rw [zeros_decimalNumeral, decimalNumeral_toDigits]

/-- A number from zero to below one is not changed by these limits. -/
theorem clamp_of_lt {units : Nat} (less : (finite false units).lt 1 = true) :
    clamp 0 1 (finite false units) = finite false units := by
  have zero : (0 : Binary64) = finite false 0 := ofNat_zero
  unfold clamp
  rw [smaller, if_pos less, larger]
  split
  next => rfl
  next least =>
    have nothing : units = 0 := by
      rw [zero] at least
      simpa [lt, signed] using least
    rw [nothing, zero]

/-- The significant places of a proper fraction are digits, and they have its value. -/
theorem significant_places {k : Nat} (small : k < 10 ^ 4) :
    (significant (paddedDigits 4 k)).all isAsciiDigit = true ∧
      (decimalNumeral (significant (paddedDigits 4 k)) : ℚ) /
        10 ^ (significant (paddedDigits 4 k)).length = k / 10 ^ 4 := by
  obtain ⟨zeros, padded⟩ := significant_append (paddedDigits 4 k)
  have length := congrArg List.length padded
  rw [length_paddedDigits small (by decide), List.length_append, List.length_replicate] at length
  have value := congrArg decimalNumeral padded
  rw [decimalNumeral_paddedDigits, decimalNumeral_zeros] at value
  have all := paddedDigits_all 4 k
  rw [padded, List.all_append, Bool.and_eq_true] at all
  refine ⟨all.1, ?_⟩
  generalize significant (paddedDigits 4 k) = places at length value ⊢
  rw [length, value, pow_add]
  push_cast
  field_simp

/-- The text of a proper fraction is that of its significant places. -/
theorem placesText_of_lt {k : Nat} (small : k < 10 ^ 4) :
    placesText k = ['0'] ++ Css.pointed (significant (paddedDigits 4 k)) := by
  rw [placesText, Nat.div_eq_of_lt small, Nat.mod_eq_of_lt small]
  rfl

/-- A number next to less than ten thousand ten-thousandths is below one. -/
theorem lt_one_of_near {x : Binary64} {k : Nat} (small : k < 10 ^ 4)
    (near : Near x (k / 10 ^ 4) grain) : x.lt 1 = true := by
  cases less : x.lt 1 with
  | true => rfl
  | false =>
    have more := near.le_of_not_lt near_one less
    have most : (k : ℚ) ≤ 9999 := by exact_mod_cast Nat.le_of_lt_succ small
    norm_num [grain] at more
    linarith

/-- The places that are written of an alpha below one are read as an alpha that is below one too and
is written in the same way. -/
theorem exists_alpha {units : Nat} (le : units ≤ unitsPerOne)
    (below : alphaText (finite false units) ≠ ['1']) :
    ∃ again, WrittenNumeral (alphaText (finite false units)) (finite false again) ∧
      (finite false again).lt 1 = true ∧
      alphaText (finite false again) = alphaText (finite false units) := by
  have most : tenThousandths units ≤ 10 ^ 4 :=
    roundEven_le unitsPerOne_pos (by rw [Nat.mul_comm]; exact Nat.mul_le_mul_left _ le)
  simp only [alphaText_eq] at below ⊢
  generalize tenThousandths units = k at *
  have small : k < 10 ^ 4 := by
    refine lt_of_le_of_ne most ?_
    rintro rfl
    exact below (by decide)
  obtain ⟨digits, ratio⟩ := significant_places small
  have numeral :=
    @WrittenNumeral.numeral false ['0'] _ (List.cons_ne_nil _ _) (by decide) rfl digits
  have leading : decimalNumeral (['0'] ++ significant (paddedDigits 4 k)) =
      decimalNumeral (significant (paddedDigits 4 k)) := zeros_decimalNumeral 1 _
  have part : (k : ℚ) / 10 ^ 4 < 1 := by
    rw [div_lt_one (by norm_num)]
    exact_mod_cast small
  obtain ⟨again, read, near⟩ := near_ofDecimal (by rw [ratio]; linarith)
  rw [ratio] at near
  rw [leading, read] at numeral
  refine ⟨again, ?_, lt_one_of_near small near, ?_⟩
  · rw [placesText_of_lt small]
    exact numeral
  · rw [tenThousandths_of_near near]

end Alphas

/-! ## The alpha of a color that was read -/

/-- The alpha is at most one and has no minus sign, not even that of a zero. -/
def Unsigned (alpha : Binary64) : Prop :=
  ∃ units, alpha = finite false units ∧ units ≤ unitsPerOne

theorem Unsigned.of_within {x : Binary64} {units : Nat} (own : x = finite false units)
    (within : Within x 0 1) : Unsigned x := by
  obtain ⟨u, ⟨negative, units', written, rfl⟩, -, upper⟩ := within
  rw [own] at written
  cases written
  rw [Int.one_mul] at upper
  exact ⟨units, own, Int.ofNat_le.mp upper⟩

theorem unsigned_clamp (x : Binary64) : Unsigned (clamp 0 1 x) := by
  have zero : (0 : Binary64) = finite false 0 := ofNat_zero
  have bounded : Within (clamp 0 1 x) 0 1 := clamp_within (n := 1) (by decide) x
  have whole : clamp 0 1 x = larger 0 (smaller 1 x) := rfl
  have within := bounded
  obtain ⟨u, ⟨negative, units, written, -⟩, -⟩ := bounded
  cases negative with
  | false => exact .of_within written within
  | true =>
    -- A greater number than zero has no minus sign, so zero itself was taken.
    refine @Unsigned.of_within _ 0 ?_ within
    rw [whole, larger] at written ⊢
    split at written
    next more =>
      rw [written, zero] at more
      simp [lt, signed] at more
      omega
    next less => rw [if_neg less, zero]

/-- The hundredths nearest to so many parts of 255. -/
def hundredths (n : Nat) : Nat :=
  (100 * n + 127) / 255

theorem exists_ofNat {n : Nat} (small : n ≤ 1000) : ofNat n = finite false (n * unitsPerOne) := by
  have bounded : (n : ℚ) ≤ 1000 := by exact_mod_cast small
  have scale := unitsPerOne_rat_pos
  obtain ⟨units, own, -⟩ := @exists_ofRatio (n * unitsPerOne) 1 Nat.one_pos n
    (by push_cast; field_simp) bounded
  obtain ⟨negative, units', written, same⟩ := units_ofNat (n := n) (by omega)
  rw [ofNat, own] at written ⊢
  cases written
  rw [signed, if_neg Bool.false_ne_true] at same
  have count : n * unitsPerOne = units := by exact_mod_cast same.symm
  rw [count]

/-- The number nearest to so many hundredths. -/
def hundredthsAlpha (k : Nat) : Binary64 :=
  ofRatio false (k * unitsPerOne) (Nat.pow 10 2)

theorem exists_hundredthsAlpha {k : Nat} (small : k ≤ 1000) :
    ∃ units, hundredthsAlpha k = finite false units ∧
      Near (finite false units) (k / 100) grain := by
  have scale := unitsPerOne_rat_pos
  have bounded : (k : ℚ) ≤ 1000 := by exact_mod_cast small
  exact exists_ofRatio (Nat.pow_pos (by decide)) (by push_cast; field_simp) (by linarith)

/-- The alpha of a byte is that of its hundredths. -/
theorem byteAlpha_eq {n : Nat} (small : n ≤ 255) :
    byteAlpha n = hundredthsAlpha (hundredths n) := by
  have scale := unitsPerOne_rat_pos
  have positive := unitsPerOne_pos
  have bounded : (n : ℚ) ≤ 255 := by exact_mod_cast small
  have lower : (255 * hundredths n : ℚ) ≤ 100 * n + 127 := by
    have own : 255 * hundredths n ≤ 100 * n + 127 := Nat.mul_div_le _ _
    exact_mod_cast own
  have upper : (100 * n : ℚ) ≤ 255 * hundredths n + 127 := by
    have own : 100 * n ≤ 255 * hundredths n + 127 := by
      unfold hundredths
      omega
    exact_mod_cast own
  have full : (255 : Binary64) = finite false (255 * unitsPerOne) :=
    exists_ofNat (n := 255) (by decide)
  obtain ⟨units, own, near⟩ := @exists_ofRatio (n * unitsPerOne * unitsPerOne)
    (255 * unitsPerOne) (by omega) (n / 255) (by push_cast; field_simp) (by linarith)
  have part : ofNat n / 255 = finite false units := by
    rw [full, exists_ofNat (by omega), div_finite false false _ (by omega), ← own]
    rfl
  have rounded : roundEven (units * Nat.pow 10 2) unitsPerOne = hundredths n := by
    refine @roundEven_of_near _ _ (Nat.pow 10 2) _ _ near ?_
    have close : |100 * (n / 255) - (hundredths n : ℚ)| ≤ 127 / 255 := by
      rw [abs_le]
      constructor <;> linarith
    norm_num [grain] at close ⊢
    linarith
  rw [byteAlpha, part]
  unfold roundedTo
  dsimp only
  rw [rounded, hundredthsAlpha]

theorem hundredths_le {n : Nat} (small : n ≤ 255) : hundredths n ≤ 100 := by
  unfold hundredths
  omega

/-- The alpha of a call is read from its arguments. -/
theorem readAlpha_of_color {rule : Rule} {x y z : Argument} {arguments : List Argument}
    {color : Color}
    (computed : rule.color x y z arguments = .ok color) :
    readAlpha arguments = .ok color.alpha := by
  have build {red green blue : Binary64}
      (read : (do return ⟨red, green, blue, ← readAlpha arguments⟩) = Except.ok color) :
      readAlpha arguments = .ok color.alpha := by
    obtain ⟨alpha, opacity, read⟩ := Outcome.exists_of_bind_eq_ok read
    rw [← Except.ok.inj read]
    exact opacity
  cases rule with
  | rgb =>
    unfold Rule.color ofRgbArguments at computed
    dsimp only at computed
    split at computed
    next => exact build computed
    split at computed
    next => exact build computed
    next => cases computed
  | hsl =>
    obtain ⟨hue, -, computed⟩ := Outcome.exists_of_bind_eq_ok computed
    obtain ⟨saturation, -, computed⟩ := Outcome.exists_of_bind_eq_ok computed
    obtain ⟨lightness, -, computed⟩ := Outcome.exists_of_bind_eq_ok computed
    exact build computed
  | hwb =>
    obtain ⟨hue, -, computed⟩ := Outcome.exists_of_bind_eq_ok computed
    obtain ⟨whiteness, -, computed⟩ := Outcome.exists_of_bind_eq_ok computed
    obtain ⟨blackness, -, computed⟩ := Outcome.exists_of_bind_eq_ok computed
    obtain ⟨alpha, opacity, computed⟩ := Outcome.exists_of_bind_eq_ok computed
    rw [opacity]
    split at computed
    next =>
      rw [← Except.ok.inj computed]
    next =>
      generalize channelsAt (hue / 360) (1 / 2) 1 = channels at computed
      rw [← Except.ok.inj computed]

theorem unsigned_readAlpha {arguments : List Argument} {alpha : Binary64}
    (read : readAlpha arguments = .ok alpha) : Unsigned alpha := by
  have one : (1 : Binary64) = finite false (1 * unitsPerOne) := exists_ofNat (n := 1) (by decide)
  unfold readAlpha at read
  split at read
  next =>
    rw [← Except.ok.inj read]
    exact ⟨_, one, by omega⟩
  split at read
  next => cases read
  all_goals
    rw [← Except.ok.inj read]
    exact unsigned_clamp _

/-- The alpha of a color that was read is at most one and has no minus sign. -/
theorem unsigned_of_parse {literal : String} {color : Color} (read : parse literal = .ok color) :
    Unsigned color.alpha := by
  have zero : (0 : Binary64) = finite false 0 := ofNat_zero
  have one : (1 : Binary64) = finite false (1 * unitsPerOne) := exists_ofNat (n := 1) (by decide)
  have clear : Unsigned 0 := ⟨0, zero, Nat.zero_le _⟩
  have solid : Unsigned 1 := ⟨_, one, by omega⟩
  have pair (a a' : Char) : Unsigned (hexAlpha a a') := by
    have less : hexNumeral [a, a'] < 256 := hexNumeral_lt_pow [a, a']
    have own : hexAlpha a a' = hundredthsAlpha (hundredths (hexNumeral [a, a'])) :=
      byteAlpha_eq (by omega)
    obtain ⟨units, finite, -⟩ :=
      exists_hundredthsAlpha
        ((hundredths_le (n := hexNumeral [a, a']) (by omega)).trans (by decide))
    exact .of_within (own.trans finite) (hexAlpha_within a a')
  have denoted := parse_eq_ok_iff.mp read
  generalize Text.trim literal.toList = cs at denoted
  cases denoted
  case call computed => exact unsigned_readAlpha (readAlpha_of_color computed)
  all_goals dsimp only [ofRgb]
  case transparent => exact clear
  case name => exact solid
  case hex => exact solid
  case hexAlpha => exact pair _ _
  case hexPairs => exact solid
  case hexPairsAlpha => exact pair _ _

/-! ## Calls with an alpha -/

/-- The alpha that a call is written with is read as one that the same call is written with, unless
an alpha below one is written as `1`. -/
theorem exists_rereadAlpha {alpha : Binary64} (unsigned : Unsigned alpha)
    (below : alpha.lt 1 = true → alphaText alpha ≠ ['1']) :
    ∃ value again, (alpha.lt 1 = true → WrittenNumeral (alphaText alpha) value) ∧
      (∀ x y z, readAlpha (x :: y :: z :: if alpha.lt 1 then [⟨value, none⟩] else []) = .ok again) ∧
      ∀ plain transparent fields,
        callText plain transparent fields again = callText plain transparent fields alpha := by
  obtain ⟨units, rfl, le⟩ := unsigned
  cases less : (finite false units).lt 1 with
  | true =>
    obtain ⟨again, numeral, less', text⟩ := exists_alpha le (below less)
    refine ⟨finite false again, finite false again, fun _ => numeral, fun x y z => ?_, ?_⟩
    · rw [if_pos rfl]
      exact congrArg Except.ok (clamp_of_lt less')
    · intro plain transparent fields
      unfold callText
      rw [less, less', text]
  | false =>
    refine ⟨1, 1, fun other => absurd other (by decide), fun x y z => rfl,
      fun plain transparent fields => ?_⟩
    unfold callText
    simp only [less, units_one.not_lt_self, Bool.false_eq_true, if_false]

end Swatch.Color
