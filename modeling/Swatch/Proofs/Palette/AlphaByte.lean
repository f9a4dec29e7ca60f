import Swatch.Proofs.Palette.Idempotence
import Swatch.Proofs.Palette.WholeChannels

/-!
# Alphas of eight digits

The alpha of a literal with eight digits is a byte, but it is kept to two decimals when the literal
is read. So the same format writes the byte of the hundredths nearest to it: of the 256 bytes the
101 that are bytes of hundredths are kept, and any other one comes to a neighbour
(`byteOf_hundredths`). The channels are kept, whatever the case of their digits
(`eight_digits_settle`).
-/

namespace Swatch

open Text Binary64 Outcome

namespace Color

/-! ## Bytes and hundredths -/

theorem hundredths_byteOf (k : Nat) : hundredths (byteOf k) = k := by
  unfold hundredths byteOf
  omega

/-- A byte is that of its hundredths exactly if it is one of hundredths. -/
theorem byteOf_hundredths_iff {n : Nat} (small : n ≤ 255) :
    byteOf (hundredths n) = n ↔ ∃ k ≤ 100, byteOf k = n := by
  refine ⟨fun same => ⟨_, hundredths_le small, same⟩, ?_⟩
  rintro ⟨k, -, rfl⟩
  rw [hundredths_byteOf]

/-- The byte of its hundredths is next to a byte. -/
theorem byteOf_hundredths (n : Nat) :
    byteOf (hundredths n) ≤ n + 1 ∧ n ≤ byteOf (hundredths n) + 1 := by
  unfold byteOf hundredths
  omega

theorem byteOf_le {k : Nat} (small : k ≤ 100) : byteOf k ≤ 255 := by
  unfold byteOf
  omega

/-! ## Digits -/

/-- The capital of a digit is the one that its value is written with. -/
theorem capitalDigit_of_isHexDigit {c : Char} (digit : isHexDigit c = true) :
    ∃ v < 16, hexValue? c = some v ∧ capitalDigit v = asciiUpper c := by
  have known : ∀ n < 128, isHexDigit (Char.ofNat n) = true → ∃ v < 16,
      hexValue? (Char.ofNat n) = some v ∧ capitalDigit v = asciiUpper (Char.ofNat n) := by
    decide
  have small : c.toNat < 128 := by
    have bound (d : Char) (least : d.toNat < 128) (less : c ≤ d) : c.toNat < 128 :=
      lt_of_le_of_lt (UInt32.le_iff_toNat_le.mp less) least
    unfold isHexDigit hexValue? at digit
    split at digit
    next within => exact bound '9' (by decide) within.2
    split at digit
    next within => exact bound 'f' (by decide) within.2
    split at digit
    next within => exact bound 'F' (by decide) within.2
    next => cases digit
  have own := known c.toNat small
  rw [Char.ofNat_toNat] at own
  exact own digit

/-- The digits that are written for the number of two digits are their capitals. -/
theorem channelDigits_hexNumeral {c c' : Char} (digit : isHexDigit c = true)
    (digit' : isHexDigit c' = true) :
    channelDigits (hexNumeral [c, c'] : Nat) = [asciiUpper c, asciiUpper c'] := by
  obtain ⟨v, small, value, capital⟩ := capitalDigit_of_isHexDigit digit
  obtain ⟨v', small', value', capital'⟩ := capitalDigit_of_isHexDigit digit'
  have number : hexNumeral [c, c'] = v * 16 + v' := by
    simp [hexNumeral, numeralValue, value, value']
  have own : Rgb.clampChannel (v * 16 + v' : Nat) = v * 16 + v' := by
    unfold Rgb.clampChannel
    omega
  unfold channelDigits
  dsimp only
  rw [number, own, show (v * 16 + v') / 16 = v by omega, show (v * 16 + v') % 16 = v' by omega,
    capital, capital']

/-- Eight digits of the sixteen-based notation. -/
def EightDigits (digits : List Char) : Prop :=
  digits.length = 8 ∧ digits.all isHexDigit = true

/-- The byte of the last two of eight digits. -/
def lastByte (digits : List Char) : Nat :=
  hexNumeral (digits.drop 6)

/-- A number sign with the first six digits as capitals and the byte of so many hundredths. -/
def withHundredths (digits : List Char) (k : Nat) : String :=
  String.ofList ('#' :: (digits.take 6).map asciiUpper ++ channelDigits (byteOf k))

theorem lastByte_le {digits : List Char} (eight : EightDigits digits) : lastByte digits ≤ 255 := by
  have less := hexNumeral_lt_pow (digits.drop 6)
  rw [List.length_drop, eight.1] at less
  exact Nat.le_of_lt_succ less

/-- Eight digits are read as the channels and the alpha byte that they spell. -/
theorem exists_parse_eightDigits {digits : List Char} (eight : EightDigits digits) :
    ∃ rgb, EightBit rgb ∧
      channelDigits rgb.red ++ channelDigits rgb.green ++ channelDigits rgb.blue =
        (digits.take 6).map asciiUpper ∧
      parse (String.ofList ('#' :: digits)) = .ok (ofRgb rgb (byteAlpha (lastByte digits))) := by
  obtain ⟨length, all⟩ := eight
  match digits, length with
  | [r, r', g, g', b, b', a, a'], _ =>
    have byte (c c' : Char) : hexNumeral [c, c'] ≤ 255 :=
      Nat.le_of_lt_succ (hexNumeral_lt_pow [c, c'])
    have digits := all
    simp only [List.all_cons, List.all_nil, Bool.and_true, Bool.and_eq_true] at digits
    obtain ⟨first, first', second, second', third, third', -⟩ := digits
    refine ⟨⟨hexNumeral [r, r'], hexNumeral [g, g'], hexNumeral [b, b']⟩, ⟨?_, ?_, ?_⟩, ?_, ?_⟩
    · exact ⟨Int.natCast_nonneg _, Int.ofNat_le.mpr (byte r r')⟩
    · exact ⟨Int.natCast_nonneg _, Int.ofNat_le.mpr (byte g g')⟩
    · exact ⟨Int.natCast_nonneg _, Int.ofNat_le.mpr (byte b b')⟩
    · dsimp only
      rw [channelDigits_hexNumeral first first', channelDigits_hexNumeral second second',
        channelDigits_hexNumeral third third']
      rfl
    · rw [parse_eq_ok_iff, String.toList_ofList, trim_solid (solid_hex all), ofRgb, ofInt_natCast,
        ofInt_natCast, ofInt_natCast]
      exact Denotes.hexPairsAlpha all

theorem channelDigits_inj {n m : Nat} (small : n ≤ 255) (small' : m ≤ 255) :
    channelDigits n = channelDigits m ↔ n = m := by
  refine ⟨fun same => ?_, fun same => same ▸ rfl⟩
  rw [← hexNumeral_twoDigits small, twoDigits_eq small, same, ← twoDigits_eq small',
    hexNumeral_twoDigits small']

/-- The digits with another alpha are the capitals of the digits if its byte is that of the last
two. -/
theorem withHundredths_eq_iff {digits : List Char} (eight : EightDigits digits) {k : Nat}
    (small : k ≤ 100) :
    withHundredths digits k = String.ofList ('#' :: digits.map asciiUpper) ↔
      byteOf k = lastByte digits := by
  have less := lastByte_le eight
  have split : digits.map asciiUpper =
      (digits.take 6).map asciiUpper ++ channelDigits (lastByte digits) := by
    obtain ⟨length, all⟩ := eight
    match digits, length with
    | [r, r', g, g', b, b', a, a'], _ =>
      simp only [List.all_cons, List.all_nil, Bool.and_true, Bool.and_eq_true] at all
      obtain ⟨-, -, -, -, -, -, last, last'⟩ := all
      rw [lastByte, show [r, r', g, g', b, b', a, a'].drop 6 = [a, a'] from rfl,
        channelDigits_hexNumeral last last']
      rfl
  rw [withHundredths, String.ofList_inj, List.cons_append, List.cons.injEq, split,
    List.append_cancel_left_eq, channelDigits_inj (byteOf_le small) less]
  exact and_iff_right rfl

theorem withHundredths_inj {digits digits' : List Char} (eight : EightDigits digits)
    (eight' : EightDigits digits') {k k' : Nat} (small : k ≤ 100) (small' : k' ≤ 100) :
    withHundredths digits k = withHundredths digits' k' ↔
      (digits.take 6).map asciiUpper = (digits'.take 6).map asciiUpper ∧ k = k' := by
  have length : ((digits.take 6).map asciiUpper).length =
      ((digits'.take 6).map asciiUpper).length := by
    rw [List.length_map, List.length_map, List.length_take, List.length_take, eight.1, eight'.1]
  have bytes : byteOf k = byteOf k' ↔ k = k' := by
    refine ⟨fun same => ?_, fun same => same ▸ rfl⟩
    rw [← hundredths_byteOf k, same, hundredths_byteOf]
  rw [withHundredths, withHundredths, String.ofList_inj, List.cons_append, List.cons_append,
    List.cons.injEq, ← bytes, ← channelDigits_inj (byteOf_le small) (byteOf_le small')]
  constructor
  · rintro ⟨-, same⟩
    exact List.append_inj same length
  · rintro ⟨front, back⟩
    exact ⟨rfl, by rw [front, back]⟩

end Color

namespace Palette

variable {options : Options} {digits digits' : List Char}

open Color

/-- Eight digits are written with the byte of their hundredths, which is kept from then on. -/
theorem format_eightDigits (known : options.format? = some .hexa) (eight : EightDigits digits) :
    format options (String.ofList ('#' :: digits)) =
        .ok (withHundredths digits (hundredths (lastByte digits))) ∧
      format options (withHundredths digits (hundredths (lastByte digits))) =
        .ok (withHundredths digits (hundredths (lastByte digits))) ∧
      ∃ color, Color.parse (withHundredths digits (hundredths (lastByte digits))) = .ok color ∧
        color.nextToWhite = false := by
  have small := lastByte_le eight
  have less := byteOf_le (hundredths_le small)
  obtain ⟨rgb, channels, spelled, read⟩ := exists_parse_eightDigits eight
  have text := hexaText_ofRgb channels small
  have again := channels.parse_hexaDigits less
  rw [twoDigits_eq less, ← String.ofList_append, List.cons_append, List.cons_append,
    spelled] at text again
  refine ⟨?_, ?_, _, again, not_nextToWhite_ofRgb channels _⟩
  · unfold format
    rw [known, read]
    exact congrArg Extracted.ofComputed text
  · rw [format_self_iff known]
    refine (settled_hexa_iff (channels.rgb_ofRgb _) channels less ?_ text).mpr ?_
    · rw [alpha_ofRgb]
      exact roundHalfUp_byteAlpha small
    · rw [hundredths_byteOf]

/-- A literal of eight digits is written in capitals, with the byte of the hundredths nearest to its
alpha. That is the literal itself in capitals exactly if its last byte is one of hundredths, and a
neighbour of the byte otherwise; written once more, the text stays. Literals are written alike, and
so merged in a list without repeats, exactly if they spell the same channels and their alphas have
the same hundredths. -/
theorem eight_digits_settle (known : options.format? = some .hexa) :
    (∀ digits, EightDigits digits → ∃ text,
      format options (String.ofList ('#' :: digits)) = .ok text ∧
      text = String.ofList ('#' :: (digits.take 6).map asciiUpper ++
        channelDigits (byteOf (hundredths (lastByte digits)))) ∧
      (text = String.ofList ('#' :: digits.map asciiUpper) ↔
        ∃ k ≤ 100, byteOf k = lastByte digits) ∧
      byteOf (hundredths (lastByte digits)) ≤ lastByte digits + 1 ∧
      lastByte digits ≤ byteOf (hundredths (lastByte digits)) + 1 ∧
      format options text = .ok text) ∧
    (∀ digits digits', EightDigits digits → EightDigits digits' →
      (format options (String.ofList ('#' :: digits)) =
          format options (String.ofList ('#' :: digits')) ↔
        (digits.take 6).map asciiUpper = (digits'.take 6).map asciiUpper ∧
          hundredths (lastByte digits) = hundredths (lastByte digits'))) ∧
    ∀ literals, options.allColors = false →
      (∀ literal ∈ literals,
        ∃ digits, EightDigits digits ∧ literal = String.ofList ('#' :: digits)) →
      ∃ found, arrange options literals = .ok found ∧ found.Nodup ∧
        ∀ text, text ∈ found ↔ ∃ literal ∈ literals, format options literal = .ok text := by
  refine ⟨fun digits eight => ?_, fun digits digits' eight eight' => ?_,
    fun literals repeats spelled => ?_⟩
  · obtain ⟨formatted, again, -⟩ := format_eightDigits known eight
    have small := lastByte_le eight
    obtain ⟨above, below⟩ := byteOf_hundredths (lastByte digits)
    refine ⟨_, formatted, rfl, ?_, above, below, again⟩
    rw [withHundredths_eq_iff eight (hundredths_le small), byteOf_hundredths_iff small]
  · rw [(format_eightDigits known eight).1, (format_eightDigits known eight').1, Except.ok.injEq]
    exact withHundredths_inj eight eight' (hundredths_le (lastByte_le eight))
      (hundredths_le (lastByte_le eight'))
  · have written (literal : String) (member : literal ∈ literals) : ∃ text color,
        format options literal = .ok text ∧ Color.parse text = .ok color ∧
          color.nextToWhite = false := by
      obtain ⟨digits, eight, rfl⟩ := spelled literal member
      obtain ⟨formatted, -, color, read, apart⟩ := format_eightDigits known eight
      exact ⟨_, color, formatted, read, apart⟩
    obtain ⟨found, done⟩ := exists_arrange written
    exact ⟨found, done, arrange_distinct repeats done⟩

/-- The byte 128 is that of fifty hundredths. -/
theorem eight_digits_settle_half :
    format { colorFormat := .string "hexa" } "#ff000080" = .ok "#FF000080" := by
  obtain ⟨each, -⟩ := @eight_digits_settle { colorFormat := .string "hexa" } (by decide)
  obtain ⟨text, formatted, -, capitals, -⟩ := each "ff000080".toList ⟨by decide, by decide⟩
  have kept := capitals.mpr ⟨50, by decide, by decide⟩
  rw [kept] at formatted
  exact formatted

/-- The byte 1 is read as no hundredths at all. -/
theorem not_format_faintest :
    ¬∀ (options : Options) (digits : List Char), options.format? = some .hexa →
      EightDigits digits → format options (String.ofList ('#' :: digits)) =
        .ok (String.ofList ('#' :: digits.map asciiUpper)) := by
  intro kept
  have lost : format { colorFormat := .string "hexaString" } "#00000001" = .ok "#00000000" :=
    eq_ok_of_toOption (by decide +kernel)
  have same := kept { colorFormat := .string "hexaString" } "00000001".toList (by decide)
    ⟨by decide, by decide⟩
  exact absurd (Except.ok.inj (same.symm.trans lost)) (by decide)

end Palette

end Swatch
