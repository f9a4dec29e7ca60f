import Swatch.Proofs.Color.Gamut
import Swatch.Proofs.Color.Written

/-!
# What is read from a text that was written

The numerals of a written color are read as the whole numbers that they were written for
(`written_whole`), and so are the digits after a number sign (`EightBit.parse_hexDigits`). A written
call is read by its rule, from the arguments that its fields are (`parse_callText`).
-/

namespace Swatch.Color

open Text Binary64

/-! ## Whole numbers -/

theorem ofNat_zero : ofNat 0 = Binary64.zero := by
  have positive : 0 < unitsLimit := Nat.two_pow_pos 2098
  rw [ofNat, Nat.zero_mul, ofRatio, roundUnits_zero, if_pos positive]
  rfl

/-- A whole number in decimal notation is read as itself. -/
theorem ofDecimal_whole {n : Nat} (small : n < 10 ^ 100) :
    ofDecimal false (decimalNumeral (Nat.toDigits 10 n ++ [])) (0 - ([] : List Char).length) =
      ofNat n := by
  have length : (Nat.toDigits 10 n).length ≤ 100 :=
    (Nat.length_toDigits_le_iff (by decide) (by decide)).mpr small
  rw [List.append_nil, decimalNumeral_toDigits, ofDecimal]
  dsimp only [List.length_nil]
  rcases Nat.eq_zero_or_pos n with rfl | positive
  · rw [if_pos (.inl rfl), ofNat_zero]
    rfl
  rw [if_neg, if_neg, if_pos (by decide)]
  · rw [ofNat]
    simp
  · rw [decimalLength]
    omega
  · rw [decimalLength]
    omega

theorem written_whole {n : Nat} (small : n < 10 ^ 100) : WrittenNumeral (decimal n) (ofNat n) := by
  have short : (Nat.toDigits 10 n).length ≤ 100 :=
    (Nat.length_toDigits_le_iff (by decide) (by decide)).mpr small
  have own := @WrittenNumeral.numeral false _ [] Nat.toDigits_ne_nil short (toDigits_all _) rfl
  rw [ofDecimal_whole small] at own
  have text : decimal n = [] ++ (Nat.toDigits 10 n ++ Css.pointed []) := by
    rw [Css.pointed, List.append_nil, decimal, if_neg (by omega), Int.natAbs_natCast]
  rw [text]
  exact own

/-! ## Calls -/

/-- A call with arguments between commas is read by its rule. -/
theorem parse_call {name : List Char} {rule : Rule} {fields : List (List Char)} {x y z : Argument}
    {more : List Argument} {color : Color} (called : ascii.calls name rule)
    (each : List.Forall₂ (ArgumentText isDecimalDigit) fields (x :: y :: z :: more))
    (few : more.length ≤ 1) (computed : rule.color x y z (x :: y :: z :: more) = .ok color) :
    parse (String.ofList (name ++ '(' :: ([',', ' '].intercalate fields ++ [')']))) =
      .ok color := by
  rw [parse_eq_ok_iff, String.toList_ofList, trim_solid (solid_call called)]
  exact .call (anyScript_calls_of_ascii called) (argumentsText_intercalate each) few computed

/-- A written call is read by its rule. -/
theorem parse_callText (rule : Rule) {plain transparent : String}
    (called : ascii.calls plain.toList rule) (called' : ascii.calls transparent.toList rule)
    {first second third : List Char} {x y z : Argument} (own : WrittenArgument first x)
    (own' : WrittenArgument second y) (own'' : WrittenArgument third z) {alpha value : Binary64}
    (numeral : alpha.lt 1 = true → WrittenNumeral (alphaText alpha) value) {color : Color}
    (computed : rule.color x y z (x :: y :: z :: if alpha.lt 1 then [⟨value, none⟩] else []) =
      .ok color) :
    parse (callText plain transparent [first, second, third] alpha) = .ok color := by
  have read {name : String} {fields : List (List Char)} {more : List Argument}
      (called : ascii.calls name.toList rule)
      (each : List.Forall₂ WrittenArgument fields (x :: y :: z :: more)) (few : more.length ≤ 1)
      (computed : rule.color x y z (x :: y :: z :: more) = .ok color) :
      parse (String.ofList (name.toList ++ '(' :: [',', ' '].intercalate fields ++ [')'])) =
        .ok color := by
    rw [List.append_assoc, List.cons_append]
    exact parse_call called (each.imp fun _ _ own =>
      own.argumentText.mono fun _ _ digit => isDecimalDigit_of_isAsciiDigit digit) few computed
  unfold callText
  dsimp only
  cases transparency : alpha.lt 1 with
  | true =>
    rw [transparency] at computed
    simp only [if_true] at computed ⊢
    exact read called'
      (.cons own (.cons own' (.cons own'' (.cons (.number (numeral transparency)) .nil))))
      le_rfl computed
  | false =>
    rw [transparency] at computed
    simp only [Bool.false_eq_true, if_false] at computed ⊢
    exact read called (.cons own (.cons own' (.cons own'' .nil))) (by decide) computed

/-! ## Whole channels -/

section Channels

variable {rgb : Rgb}

/-- A whole number within the limits is not changed by them. -/
theorem clamp_ofNat {n top : Nat} (le : n ≤ top) (small : top < 2 ^ 53) :
    clamp 0 (ofNat top) (ofNat n) = ofNat n := by
  have scale := unitsPerOne_cast_pos
  have own := units_ofNat (le.trans_lt small)
  have zero : Units 0 ((0 : Nat) * unitsPerOne) := units_ofNat (n := 0) (by decide)
  have less {a b : Nat} {x y : Binary64} (first : Units x (a * unitsPerOne))
      (second : Units y (b * unitsPerOne)) : x.lt y = true ↔ a < b := by
    rw [first.lt_iff second, mul_lt_mul_iff_left₀ scale, Nat.cast_lt]
  unfold clamp
  have below : smaller (ofNat top) (ofNat n) = ofNat n := by
    unfold smaller
    split
    next => rfl
    next more =>
      rw [less own (units_ofNat small)] at more
      rw [show n = top by omega]
  rw [below, larger]
  split
  next => rfl
  next more =>
    rw [less zero own] at more
    rw [show n = 0 by omega]
    rfl

theorem roundHalfUp_ofNat {n : Nat} (small : n < 2 ^ 40) :
    roundHalfUp (ofNat n) = .ok (n : Int) := by
  obtain ⟨k, rounded, lower, upper⟩ :=
    roundHalfUp_of_within (within_ofNat (n := n) (by omega)) (by omega) (by omega)
  rw [rounded, show k = n by omega]

/-- Channels of eight bits as natural numbers. -/
theorem EightBit.exists_nat (eight : EightBit rgb) :
    ∃ red green blue : Nat, rgb = ⟨red, green, blue⟩ ∧ red ≤ 255 ∧ green ≤ 255 ∧ blue ≤ 255 := by
  obtain ⟨red, green, blue⟩ := rgb
  obtain ⟨first, second, third⟩ := eight
  obtain ⟨r, rfl⟩ := Int.eq_ofNat_of_zero_le first.1
  obtain ⟨g, rfl⟩ := Int.eq_ofNat_of_zero_le second.1
  obtain ⟨b, rfl⟩ := Int.eq_ofNat_of_zero_le third.1
  exact ⟨r, g, b, rfl, Int.ofNat_le.mp first.2, Int.ofNat_le.mp second.2, Int.ofNat_le.mp third.2⟩

/-- Whole channels are not changed by rounding. -/
theorem EightBit.rgb_ofRgb (eight : EightBit rgb) (alpha : Binary64) :
    (ofRgb rgb alpha).rgb = .ok rgb := by
  obtain ⟨red, green, blue, rfl, first, second, third⟩ := eight.exists_nat
  unfold ofRgb Color.rgb
  dsimp only
  rw [ofInt_natCast, ofInt_natCast, ofInt_natCast, roundHalfUp_ofNat (by omega),
    roundHalfUp_ofNat (by omega), roundHalfUp_ofNat (by omega)]
  rfl

/-! ## Digits after a number sign -/

/-- The two digits of a channel spell it. -/
theorem hexNumeral_channelDigits {n : Nat} (small : n ≤ 255) :
    hexNumeral (channelDigits n) = n := by
  have known : ∀ digit < 16, (hexValue? (capitalDigit digit)).getD 0 = digit := by decide
  have own : Rgb.clampChannel n = n := by
    unfold Rgb.clampChannel
    omega
  unfold channelDigits hexNumeral numeralValue
  simp only [own, List.map_cons, List.map_nil, List.foldl_cons, List.foldl_nil]
  rw [known _ (by omega), known _ (by omega)]
  omega

theorem exists_channelDigits {n : Nat} (small : n ≤ 255) :
    ∃ c c', channelDigits n = [c, c'] ∧ (isHexDigit c && isHexDigit c') = true ∧
      hexChannel c c' = ofNat n := by
  have value : ∀ c c', channelDigits n = [c, c'] → hexChannel c c' = ofNat n := by
    rintro c c' digits
    rw [hexChannel, ← digits, hexNumeral_channelDigits small]
  have all := (channelDigits_all n).1
  refine ⟨_, _, rfl, ?_, value _ _ rfl⟩
  simpa only [channelDigits, List.all_cons, List.all_nil, Bool.and_true] using all

theorem hexNumeral_twoDigits {n : Nat} (small : n ≤ 255) : hexNumeral (twoDigits n) = n := by
  rw [twoDigits_eq small, hexNumeral_channelDigits small]

/-- The alpha of two digits of the sixteen-based notation. -/
def byteAlpha (n : Nat) : Binary64 :=
  (ofNat n / 255).roundedTo 2

/-- Six digits after a number sign are read as the channels that they were written for. -/
theorem EightBit.parse_hexDigits (eight : EightBit rgb) :
    parse (String.ofList
      ('#' :: channelDigits rgb.red ++ channelDigits rgb.green ++ channelDigits rgb.blue)) =
        .ok (ofRgb rgb) := by
  obtain ⟨red, green, blue, rfl, first, second, third⟩ := eight.exists_nat
  obtain ⟨r, r', redDigits, both, redValue⟩ := exists_channelDigits first
  obtain ⟨g, g', greenDigits, both', greenValue⟩ := exists_channelDigits second
  obtain ⟨b, b', blueDigits, both'', blueValue⟩ := exists_channelDigits third
  have all : [r, r', g, g', b, b'].all isHexDigit = true := by
    simp only [List.all_cons, List.all_nil, Bool.and_true, ← Bool.and_assoc]
    simp_all
  dsimp only
  rw [redDigits, greenDigits, blueDigits, ofRgb, ofInt_natCast, ofInt_natCast, ofInt_natCast,
    ← redValue, ← greenValue, ← blueValue, parse_eq_ok_iff, String.toList_ofList]
  exact (trim_solid (solid_hex all)).symm ▸ Denotes.hexPairs all

/-- Eight digits after a number sign are read as the channels and the alpha of the last two. -/
theorem EightBit.parse_hexaDigits (eight : EightBit rgb) {n : Nat} (small : n ≤ 255) :
    parse (String.ofList
      ('#' :: channelDigits rgb.red ++ channelDigits rgb.green ++ channelDigits rgb.blue) ++
        String.ofList (twoDigits n)) = .ok (ofRgb rgb (byteAlpha n)) := by
  obtain ⟨red, green, blue, rfl, first, second, third⟩ := eight.exists_nat
  obtain ⟨r, r', redDigits, both, redValue⟩ := exists_channelDigits first
  obtain ⟨g, g', greenDigits, both', greenValue⟩ := exists_channelDigits second
  obtain ⟨b, b', blueDigits, both'', blueValue⟩ := exists_channelDigits third
  obtain ⟨a, a', alphaDigits, last, alphaValue⟩ := exists_channelDigits small
  have all : [r, r', g, g', b, b', a, a'].all isHexDigit = true := by
    simp only [List.all_cons, List.all_nil, Bool.and_true, ← Bool.and_assoc]
    simp_all
  dsimp only
  rw [twoDigits_eq small, redDigits, greenDigits, blueDigits, alphaDigits, ← String.ofList_append,
    ofRgb, ofInt_natCast, ofInt_natCast, ofInt_natCast, byteAlpha, ← redValue, ← greenValue,
    ← blueValue, ← alphaValue, parse_eq_ok_iff, String.toList_ofList]
  exact (trim_solid (solid_hex all)).symm ▸ Denotes.hexPairsAlpha all

end Channels

end Swatch.Color
