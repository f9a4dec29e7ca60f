import Mathlib.Data.Rat.Floor
import Swatch.Proofs.Binary64.Numerals
import Swatch.Proofs.Palette.WholeChannels

/-!
# Greys in percent

A grey is written as three equal percentages or as a lightness without saturation. Its channel is
computed in another way from each notation, and both ways end less than `slip` beside the channel
that is meant, rounding included (`exists_greys`). So the channel is rounded half up, unless the one
that is meant lies that close to the middle of two whole channels. Percentages with at most eleven
places are either in the middle or clearly beside it (`middle_or_apart`). Five of them are in the
middle, and there the factor 2.55 matters, since the nearest number is below it: three equal
percentages of 50 or of 90 lose one, and the notations part (`middle_channels`,
`greys_of_percentages`).
-/

namespace Swatch

open Text Binary64

namespace Color

/-! ## Numerals -/

/-- A decimal numeral and its value. -/
inductive NumeralText : List Char → ℚ → Prop
  | numeral {sign decimal exponent whole places : List Char} {negative : Bool} {power : Int}
      (signed : SignText sign negative) (digits : DecimalText isDecimalDigit decimal whole places)
      (scaled : PowerText isDecimalDigit exponent power) :
      NumeralText (sign ++ (decimal ++ exponent))
        (decimalValue negative (decimalNumeral (whole ++ places)) (power - places.length))

variable {cs : List Char} {p : String} {q v : ℚ} {x channel : Binary64} {n k : Int}

/-- A numeral with a percent sign is an argument. -/
theorem NumeralText.exists_argument (numeral : NumeralText cs q) :
    ∃ negative significand exponent, decimalValue negative significand exponent = q ∧
      ArgumentText isDecimalDigit (cs ++ ['%'])
        ⟨ofDecimal negative significand exponent, some .percent⟩ := by
  obtain ⟨signed, digits, scaled⟩ := numeral
  refine ⟨_, _, _, rfl, ?_⟩
  rw [List.append_assoc, List.append_assoc]
  exact .number signed digits scaled .percent

/-! ## The two notations -/

/-- Three equal percentages of channels. -/
def rgbGrey (p : String) : String :=
  "rgb(" ++ p ++ "%, " ++ p ++ "%, " ++ p ++ "%)"

/-- A percentage of lightness, without saturation. -/
def hslGrey (p : String) : String :=
  "hsl(0, 0%, " ++ p ++ "%)"

/-- An opaque color with three equal channels. -/
def grey (channel : Binary64) : Color :=
  ⟨channel, channel, channel, 1⟩

/-- The channel of a percentage of lightness. -/
def lightnessChannel (x : Binary64) : Binary64 :=
  clamp 0 100 x / 100 * 255

theorem parse_rgbGrey (own : ArgumentText isDecimalDigit (p.toList ++ ['%']) ⟨x, some .percent⟩) :
    parse (rgbGrey p) = .ok (grey (percentChannel x)) := by
  have text : rgbGrey p = String.ofList (['r', 'g', 'b'] ++ '(' :: ([',', ' '].intercalate
      [p.toList ++ ['%'], p.toList ++ ['%'], p.toList ++ ['%']] ++ [')'])) := by
    rw [← String.toList_inj]
    simp [rgbGrey, List.intercalate]
  have called : ascii.calls ['r', 'g', 'b'] .rgb := .inl rfl
  rw [text]
  exact parse_call called (.cons own (.cons own (.cons own .nil))) (Nat.zero_le 1)
    (ofRgbArguments_percentages rfl)

theorem parse_hslGrey (own : ArgumentText isDecimalDigit (p.toList ++ ['%']) ⟨x, some .percent⟩) :
    parse (hslGrey p) = .ok (grey (lightnessChannel x)) := by
  have text : hslGrey p = String.ofList (['h', 's', 'l'] ++ '(' :: ([',', ' '].intercalate
      [decimal (0 : Nat), decimal (0 : Nat) ++ ['%'], p.toList ++ ['%']] ++ [')'])) := by
    rw [← String.toList_inj]
    simp [hslGrey, List.intercalate, decimal]
  have zero : WrittenNumeral (decimal (0 : Nat)) (ofNat 0) := written_whole (by decide)
  have spelled {cs : List Char} {argument : Argument} (written : WrittenArgument cs argument) :
      ArgumentText isDecimalDigit cs argument :=
    written.argumentText.mono fun _ _ digit => isDecimalDigit_of_isAsciiDigit digit
  have called : ascii.calls ['h', 's', 'l'] .hsl := .inl rfl
  obtain ⟨-, -, grey⟩ := zero_values
  have full : readPercentage ⟨ofNat 0, some .percent⟩ = .ok (ofNat 0 / 100) :=
    readPercentage_whole (clamp_ofNat (Nat.zero_le 100) (by decide))
  have light : readPercentage ⟨x, some .percent⟩ = .ok (clamp 0 100 x / 100) := rfl
  have opacity : readAlpha [⟨ofNat 0, none⟩, ⟨ofNat 0, some .percent⟩, ⟨x, some .percent⟩] =
      .ok 1 := rfl
  have computed := ofHslArguments_eq (readHue_ofNat (h := 0) (by decide)) full light opacity
  rw [channelsAt, if_pos grey] at computed
  rw [text]
  exact parse_call called
    (.cons (spelled (.number zero)) (.cons (spelled (.percent zero)) (.cons own .nil)))
    (Nat.zero_le 1)
    computed

theorem rgb_grey (rounded : roundHalfUp channel = .ok n) : (grey channel).rgb = .ok ⟨n, n, n⟩ := by
  unfold rgb grey
  dsimp only
  rw [rounded]
  rfl

/-- The channel of a lightness is next to the exact one. -/
theorem near_lightnessChannel (near : Near x q (grainAt 7)) (nonneg : 0 ≤ q) (le : q ≤ 100) :
    Near (lightnessChannel x) (255 * q / 100) (3 * grain) := by
  have hundred : Near 100 100 0 := near_numeral 100 (by decide)
  have full : Near 255 255 0 := near_numeral 255 (by decide)
  have part : |q / 100| ≤ 1 := by
    rw [abs_of_nonneg (by positivity)]
    linarith
  have lightness := (near_clamp 100 near (by decide) nonneg (by norm_num; exact le)).div_at 1
    (by decide) hundred (m := 100) (k := 1) (by norm_num) (by norm_num) part (by norm_num [grainAt])
  have product := lightness.mul_at 8 (by decide) full (k := 1) (m := 255) part
    (by norm_num [abs_of_pos]) (by norm_num [grainAt])
  exact (product.of_eq (by ring)).widen (by norm_num [grainAt, grain])

/-! ## Rounding close to the middle -/

/-- The channel of a grey in percent, exactly computed and rounded half up. -/
def exactChannel (q : ℚ) : Int :=
  ⌊255 * q / 100 + 1 / 2⌋

/-- How far a channel of a grey is from the exact one at most, with the error that rounding half up
makes. -/
def slip : ℚ :=
  1 / 2 ^ 42

theorem slip_eq : slip = 3 * grain + grain := by
  norm_num [slip, grain]

/-- A number next to a value is rounded to a whole one that is hardly more than one half away. -/
theorem exists_rounded (near : Near x v (3 * grain)) (nonneg : 0 ≤ v) (le : v ≤ 255) :
    ∃ n : Int, roundHalfUp x = .ok n ∧ |n - v| ≤ 1 / 2 + slip := by
  obtain ⟨n, rounded, below, above⟩ := near.roundHalfUp (by
    rw [abs_of_nonneg nonneg]
    norm_num [grain]
    linarith)
  refine ⟨n, rounded, ?_⟩
  rw [slip_eq, abs_le]
  constructor <;> linarith

/-- Apart from the middles of whole numbers the nearest one is told in spite of the error. -/
theorem eq_floor_of_apart (close : |n - v| ≤ 1 / 2 + slip)
    (apart : ∀ k : Int, slip < |v - (k + 1 / 2)|) : n = ⌊v + 1 / 2⌋ := by
  obtain ⟨lower, upper⟩ := abs_le.mp close
  have low := apart (n - 1)
  have high := apart n
  push_cast at low
  refine (Int.floor_eq_iff.mpr ⟨?_, ?_⟩).symm
  · by_contra less
    rw [abs_of_neg (by linarith)] at low
    linarith
  · by_contra more
    rw [abs_of_nonneg (by linarith)] at high
    linarith

/-- Close to the middle of two whole numbers it is one of them. -/
theorem eq_or_eq_of_middle (close : |n - v| ≤ 1 / 2 + slip) (middle : |v - (k + 1 / 2)| ≤ slip) :
    n = k ∨ n = k + 1 := by
  have small : slip < 1 / 2 := by norm_num [slip]
  obtain ⟨lower, upper⟩ := abs_le.mp close
  obtain ⟨lower', upper'⟩ := abs_le.mp middle
  have above : (k : ℚ) < n + 1 := by linarith
  have below : (n : ℚ) < k + 2 := by linarith
  have above : k < n + 1 := by exact_mod_cast above
  have below : n < k + 2 := by exact_mod_cast below
  omega

/-! ## Middles -/

/-- A percentage with at most eleven places whose channel is in the middle of two whole ones is an
odd multiple of ten. -/
theorem eq_of_middle {i : Int} (places : q * 10 ^ 11 = i) (nonneg : 0 ≤ q) (le : q ≤ 100)
    (same : 51 * i = (20 * k + 10) * 10 ^ 11) : ∃ p ∈ [10, 30, 50, 70, 90], q = (p : Nat) := by
  have least : 0 ≤ i := by
    have bound : (0 : ℚ) ≤ i := by
      rw [← places]
      positivity
    exact_mod_cast bound
  have most : i ≤ 100 * 10 ^ 11 := by
    have bound : (i : ℚ) ≤ 100 * 10 ^ 11 := by
      rw [← places]
      linarith
    exact_mod_cast bound
  have value : q = i / 10 ^ 11 := by
    rw [← places]
    field_simp
  -- Both 51 and a power of ten divide the product, and they have no common factor.
  obtain ⟨j, rfl⟩ : ∃ j, i = 10 ^ 12 * j := ⟨i / 10 ^ 12, by omega⟩
  have odd : j = 1 ∨ j = 3 ∨ j = 5 ∨ j = 7 ∨ j = 9 := by omega
  refine ⟨10 * j.toNat, ?_, ?_⟩
  · rcases odd with rfl | rfl | rfl | rfl | rfl <;> decide
  · have count : (j.toNat : ℚ) = j := by
      exact_mod_cast Int.toNat_of_nonneg (by omega : 0 ≤ j)
    rw [value]
    push_cast
    rw [count]
    ring

/-- Otherwise the distance from the middle is a whole number over a denominator that the slip is
small against. -/
theorem apart_of_ne_middle {i : Int} (places : q * 10 ^ 11 = i)
    (other : 51 * i ≠ (20 * k + 10) * 10 ^ 11) : slip < |255 * q / 100 - (k + 1 / 2)| := by
  have nonzero : 51 * i - (20 * k + 10) * 10 ^ 11 ≠ 0 := sub_ne_zero.mpr other
  have least : (1 : ℚ) ≤ |((51 * i - (20 * k + 10) * 10 ^ 11 : Int) : ℚ)| := by
    exact_mod_cast Int.one_le_abs nonzero
  have scaled : 255 * q / 100 - (k + 1 / 2) =
      ((51 * i - (20 * k + 10) * 10 ^ 11 : Int) : ℚ) / (20 * 10 ^ 11) := by
    push_cast
    rw [← places]
    ring
  rw [scaled, abs_div, abs_of_pos (by norm_num : (0 : ℚ) < 20 * 10 ^ 11),
    lt_div_iff₀ (by norm_num)]
  refine lt_of_lt_of_le ?_ least
  norm_num [slip]

/-- With at most eleven places, the channel is either apart from all middles of whole channels or in
the middle of two, and then the percentage is an odd multiple of ten. -/
theorem middle_or_apart {i : Int} (places : q * 10 ^ 11 = i) (nonneg : 0 ≤ q) (le : q ≤ 100) :
    (∃ p ∈ [10, 30, 50, 70, 90], q = (p : Nat)) ∨
      ∀ k : Int, slip < |255 * q / 100 - (k + 1 / 2)| := by
  by_cases middle : ∃ k : Int, 51 * i = (20 * k + 10) * 10 ^ 11
  · obtain ⟨k, same⟩ := middle
    exact .inl (eq_of_middle places nonneg le same)
  · exact .inr fun k => apart_of_ne_middle places fun same => middle ⟨k, same⟩

theorem exactChannel_natCast (p : Nat) : exactChannel p = (255 * p + 50) / 100 := by
  have whole : 255 * (p : ℚ) / 100 + 1 / 2 = ((255 * p + 50 : Int) : ℚ) / (100 : Nat) := by
    push_cast
    ring
  rw [exactChannel, whole, Rat.floor_intCast_div_natCast]
  rfl

/-- The channels at the percentages in the middle. The nearest number to 2.55 is below it, and for
50 and 90 percent so is the product. -/
theorem middle_channels : ∀ p ∈ ([10, 30, 50, 70, 90] : List Nat),
    (roundHalfUp (percentChannel (ofNat p))).toOption =
        some ((255 * p + 50 : Int) / 100 - if p = 50 ∨ p = 90 then 1 else 0) ∧
      (roundHalfUp (lightnessChannel (ofNat p))).toOption = some ((255 * p + 50 : Int) / 100) := by
  decide +kernel

/-! ## What the literals are read as -/

/-- Both notations of a percentage are read as opaque greys. Their whole channels are next to the
exact one, and with at most eleven places they are the exact one rounded half up, less one for three
equal percentages of 50 or of 90. -/
theorem exists_greys (numeral : NumeralText p.toList q) (nonneg : 0 ≤ q) (le : q ≤ 100) :
    ∃ x n m, parse (rgbGrey p) = .ok (grey (percentChannel x)) ∧
      parse (hslGrey p) = .ok (grey (lightnessChannel x)) ∧
      roundHalfUp (percentChannel x) = .ok n ∧ roundHalfUp (lightnessChannel x) = .ok m ∧
      |n - 255 * q / 100| ≤ 1 / 2 + slip ∧ |m - 255 * q / 100| ≤ 1 / 2 + slip ∧
      ((∃ i : Int, q * 10 ^ 11 = i) → m = exactChannel q ∧
        n = exactChannel q - if q = 50 ∨ q = 90 then 1 else 0) := by
  obtain ⟨negative, significand, exponent, value, own⟩ := numeral.exists_argument
  obtain ⟨units, read, near⟩ := @near_ofDecimal_at negative significand exponent 7 (by decide) (by
    rw [value, abs_of_nonneg nonneg]
    exact le.trans (by norm_num))
  rw [← read, value] at near
  have exact : 0 ≤ 255 * q / 100 ∧ 255 * q / 100 ≤ 255 := ⟨by positivity, by linarith⟩
  obtain ⟨n, first, close⟩ := exists_rounded (near_percentChannel near nonneg le) exact.1 exact.2
  obtain ⟨m, second, close'⟩ :=
    exists_rounded (near_lightnessChannel near nonneg le) exact.1 exact.2
  refine ⟨_, n, m, parse_rgbGrey own, parse_hslGrey own, first, second, close, close', ?_⟩
  rintro ⟨i, places⟩
  rcases middle_or_apart places nonneg le with ⟨p, member, rfl⟩ | apart
  · have moderate : ∀ p ∈ [10, 30, 50, 70, 90], 0 < p ∧ p < 10 ^ 100 := by decide
    obtain ⟨positive, small⟩ := moderate p member
    rw [ofDecimal_eq_ofNat positive small value] at first second
    obtain ⟨known, known'⟩ := middle_channels p member
    rw [first] at known
    rw [second] at known'
    have fifty : (p : ℚ) = 50 ↔ p = 50 := Nat.cast_inj (n := 50)
    have ninety : (p : ℚ) = 90 ↔ p = 90 := Nat.cast_inj (n := 90)
    rw [exactChannel_natCast]
    simp only [fifty, ninety]
    exact ⟨Option.some.inj known', Option.some.inj known⟩
  · have other : ¬(q = 50 ∨ q = 90) := by
      rintro (rfl | rfl)
      · have middle := apart 127
        norm_num [slip] at middle
      · have middle := apart 229
        norm_num [slip] at middle
    rw [if_neg other, sub_zero]
    exact ⟨eq_floor_of_apart close' apart, eq_floor_of_apart close apart⟩

end Color

/-! ## Formats of both notations -/

namespace Palette

variable {options : Options} {literal literal' : String} {color color' : Color} {rgb rgb' : Rgb}

/-- Two literals share an entry of a list of digits without repeats exactly if their whole channels
are the same. -/
theorem arrange_pair (digits : options.format? = some .hex) (repeats : options.allColors = false)
    (read : Color.parse literal = .ok color) (read' : Color.parse literal' = .ok color')
    (own : color.rgb = .ok rgb) (own' : color'.rgb = .ok rgb') (eight : Color.EightBit rgb)
    (eight' : Color.EightBit rgb') :
    ∃ found, arrange options [literal, literal'] = .ok found ∧ (found.length = 1 ↔ rgb = rgb') := by
  have first := format_hex digits read own
  have second := format_hex digits read' own'
  have written : ∀ text ∈ [literal, literal'], ∃ digits color, format options text = .ok digits ∧
      Color.parse digits = .ok color ∧ color.nextToWhite = false := by
    intro text member
    rcases List.mem_pair.mp member with rfl | rfl
    · exact ⟨_, _, first, eight.parse_hexDigits, Color.not_nextToWhite_ofRgb eight 1⟩
    · exact ⟨_, _, second, eight'.parse_hexDigits, Color.not_nextToWhite_ofRgb eight' 1⟩
  obtain ⟨found, done⟩ := exists_arrange written
  refine ⟨found, done, ?_⟩
  obtain ⟨once, holds⟩ := arrange_distinct repeats done
  have entries (text : String) :
      text ∈ found ↔ text = Color.digitsText rgb ∨ text = Color.digitsText rgb' := by
    rw [holds]
    simp [first, second, eq_comm]
  by_cases same : rgb = rgb'
  · subst same
    have alone : found.Perm [Color.digitsText rgb] :=
      (List.perm_ext_iff_of_nodup once (List.nodup_singleton _)).mpr fun text => by
        rw [entries, or_self, List.mem_singleton]
    exact iff_of_true alone.length_eq rfl
  · have other : Color.digitsText rgb ≠ Color.digitsText rgb' :=
      mt (Color.digitsText_inj eight eight').mp same
    have both : found.Perm [Color.digitsText rgb, Color.digitsText rgb'] :=
      (List.perm_ext_iff_of_nodup once (by simpa using other)).mpr fun text => by
        rw [entries, List.mem_pair]
    refine iff_of_false (fun one => ?_) same
    have two := both.length_eq
    rw [one] at two
    cases two

/-- Whatever numeral from 0 to 100 stands before the percent sign, the grey of three equal
percentages and the grey of that lightness have whole channels. Apart from the middle of two whole
channels both are the exact channel rounded half up, and close to it each is one of the two. If the
percentage has at most eleven places, the lightness gives the exact channel rounded half up, and so
do three percentages, except for 50 and for 90 percent, where they give one less. The two notations
have the same six digits, and share an entry of a list without repeats, exactly where these channels
agree. -/
theorem greys_of_percentages {p : String} {q : ℚ} (numeral : Color.NumeralText p.toList q)
    (nonneg : 0 ≤ q) (le : q ≤ 100) :
    ∃ (color color' : Color) (n m : Int),
      Color.parse (Color.rgbGrey p) = .ok color ∧ color.rgb = .ok ⟨n, n, n⟩ ∧
      Color.parse (Color.hslGrey p) = .ok color' ∧ color'.rgb = .ok ⟨m, m, m⟩ ∧
      ((∀ k : Int, Color.slip < |255 * q / 100 - (k + 1 / 2)|) →
        n = Color.exactChannel q ∧ m = Color.exactChannel q) ∧
      (∀ k : Int, |255 * q / 100 - (k + 1 / 2)| ≤ Color.slip →
        (n = k ∨ n = k + 1) ∧ (m = k ∨ m = k + 1)) ∧
      ((∃ i : Int, q * 10 ^ 11 = i) → m = Color.exactChannel q ∧
        n = Color.exactChannel q - if q = 50 ∨ q = 90 then 1 else 0) ∧
      ∀ options : Options, options.format? = some .hex →
        format options (Color.rgbGrey p) = .ok (Color.digitsText ⟨n, n, n⟩) ∧
        format options (Color.hslGrey p) = .ok (Color.digitsText ⟨m, m, m⟩) ∧
        (Color.digitsText ⟨n, n, n⟩ = Color.digitsText ⟨m, m, m⟩ ↔ n = m) ∧
        (options.allColors = false → ∃ found,
          arrange options [Color.rgbGrey p, Color.hslGrey p] = .ok found ∧
          (found.length = 1 ↔ n = m)) := by
  obtain ⟨x, n, m, read, read', rounded, rounded', close, close', exact⟩ :=
    Color.exists_greys numeral nonneg le
  have own := Color.rgb_grey rounded
  have own' := Color.rgb_grey rounded'
  have eight := Color.eightBit_of_parse read own
  have eight' := Color.eightBit_of_parse read' own'
  have same : (⟨n, n, n⟩ : Rgb) = ⟨m, m, m⟩ ↔ n = m := by
    rw [Rgb.mk.injEq, and_self, and_self]
  refine ⟨_, _, n, m, read, own, read', own', fun apart => ?_, fun k middle => ?_, exact,
    fun options digits => ⟨format_hex digits read own, format_hex digits read' own', ?_,
      fun repeats => ?_⟩⟩
  · exact ⟨Color.eq_floor_of_apart close apart, Color.eq_floor_of_apart close' apart⟩
  · exact ⟨Color.eq_or_eq_of_middle close middle, Color.eq_or_eq_of_middle close' middle⟩
  · rw [← same]
    exact Color.digitsText_inj eight eight'
  · rw [← same]
    exact arrange_pair digits repeats read read' own own' eight eight'

/-- The grey of 50 percent has one less from three percentages than it should, so it is listed
twice. -/
theorem greys_of_fifty :
    ∃ color color' found, Color.parse "rgb(50%, 50%, 50%)" = .ok color ∧
      color.rgb = .ok ⟨127, 127, 127⟩ ∧ Color.parse "hsl(0, 0%, 50%)" = .ok color' ∧
      color'.rgb = .ok ⟨128, 128, 128⟩ ∧ Color.exactChannel 50 = 128 ∧
      arrange { colorFormat := .string "hexString" } ["rgb(50%, 50%, 50%)", "hsl(0, 0%, 50%)"] =
        .ok found ∧ found.length ≠ 1 := by
  have numeral : Color.NumeralText "50".toList 50 := by
    have digits : Color.DecimalText isDecimalDigit ['5', '0'] ['5', '0'] [] :=
      .whole (List.cons_ne_nil _ _) (by decide)
    have own := Color.NumeralText.numeral .none digits .none
    have value :
        decimalValue false (decimalNumeral (['5', '0'] ++ [])) (0 - ([] : List Char).length) =
          50 := by
      have digits : decimalNumeral (['5', '0'] ++ []) = 50 := by decide
      rw [digits, List.length_nil, decimalValue_places]
      norm_num
    rwa [value] at own
  have half : Color.exactChannel 50 = 128 := Color.exactChannel_natCast 50
  obtain ⟨color, color', n, m, read, own, read', own', -, -, exact, formats⟩ :=
    greys_of_percentages numeral (by norm_num) (by norm_num)
  obtain ⟨whole, less⟩ := exact ⟨50 * 10 ^ 11, by norm_num⟩
  rw [half] at whole less
  rw [if_pos (.inl rfl)] at less
  subst whole less
  obtain ⟨-, -, -, merged⟩ := formats { colorFormat := .string "hexString" } (by decide)
  obtain ⟨found, done, one⟩ := merged rfl
  exact ⟨color, color', found, read, own, read', own', half, done, by simp [one]⟩

end Palette

end Swatch
