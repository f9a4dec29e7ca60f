import Mathlib.Data.List.Forall2
import Swatch.Proofs.Color.Grammar
import Swatch.Proofs.Color.Views
import Swatch.Proofs.Css.Numerals

/-!
# Colors that are written can be read again

What the formats write has one of three shapes (`Written`): digits after a number sign, a name of
the table, or a call with short numerals and percentages between commas (`written_of_write`). Every
text of such a shape is a color literal (`exists_parse_of_written`), whatever color it was written
for.
-/

namespace Swatch.Color

open Text Binary64

/-! ## Shapes -/

/-- A numeral as the formats write it, and the argument that it is: a few digits, perhaps with a
hyphen before them and places behind them. -/
inductive WrittenNumeral : List Char → Binary64 → Prop
  | numeral {negative : Bool} {whole places : List Char} (nonempty : whole ≠ [])
      (short : whole.length ≤ 100) (all : whole.all isAsciiDigit) (all' : places.all isAsciiDigit) :
      WrittenNumeral ((if negative then ['-'] else []) ++ (whole ++ Css.pointed places))
        (.ofDecimal negative (decimalNumeral (whole ++ places)) (0 - places.length))

/-- An argument as the formats write it. -/
inductive WrittenArgument : List Char → Argument → Prop
  | number {cs : List Char} {value : Binary64} (numeral : WrittenNumeral cs value) :
      WrittenArgument cs ⟨value, none⟩
  | percent {cs : List Char} {value : Binary64} (numeral : WrittenNumeral cs value) :
      WrittenArgument (cs ++ ['%']) ⟨value, some .percent⟩

/-- A color as the formats write it. -/
inductive Written : List Char → Prop
  | hex {digits : List Char} (all : digits.all isHexDigit)
      (count : digits.length = 6 ∨ digits.length = 8) : Written ('#' :: digits)
  | name {name : String} (named : name ∈ ColorName.names) : Written name.toList
  | call {name : List Char} {rule : Rule} {fields : List (List Char)} {x y z : Argument}
      {more : List Argument} (called : ascii.calls name rule)
      (each : List.Forall₂ WrittenArgument fields (x :: y :: z :: more)) (few : more.length ≤ 1)
      (admitted : rule.Admits x y z) (plain : ∀ argument ∈ more, argument.measure ≠ some .degree) :
      Written (name ++ '(' :: ([',', ' '].intercalate fields ++ [')']))

/-! ## Written texts are literals -/

theorem WrittenNumeral.argumentText {cs unit : List Char} {value : Binary64}
    {measure : Option Measure}
    (written : WrittenNumeral cs value) (measured : UnitText unit measure) :
    ArgumentText isAsciiDigit (cs ++ unit) ⟨value, measure⟩ := by
  obtain ⟨nonempty, short, all, all'⟩ := written
  rename_i negative whole places
  have signed : SignText (if negative then ['-'] else []) negative := by
    cases negative with
    | true => exact .minus
    | false => exact .none
  have numeral : DecimalText isAsciiDigit (whole ++ Css.pointed places) whole places := by
    cases places with
    | nil =>
      rw [Css.pointed, List.append_nil]
      exact .whole nonempty all
    | cons d places => exact .point (.inl nonempty) all all'
  have own := ArgumentText.number signed numeral .none measured
  rwa [List.nil_append, ← List.append_assoc] at own

theorem WrittenArgument.argumentText {cs : List Char} {argument : Argument}
    (written : WrittenArgument cs argument) : ArgumentText isAsciiDigit cs argument := by
  cases written with
  | number numeral =>
    have own := numeral.argumentText .none
    rwa [List.append_nil] at own
  | percent numeral => exact numeral.argumentText .percent

theorem ArgumentsText.gap {digit : Char → Bool} {gap cs : List Char} {arguments : List Argument}
    (all : gap.all isArgumentSeparator) (spelled : ArgumentsText digit cs arguments) :
    ArgumentsText digit (gap ++ cs) arguments := by
  have both {gap' : List Char} (all' : gap'.all isArgumentSeparator) :
      (gap ++ gap').all isArgumentSeparator := by
    rw [List.all_append, all, all']
    rfl
  cases spelled with
  | none all' => exact .none (both all')
  | next all' number stops others =>
    rw [← List.append_assoc]
    exact .next (both all') number stops others

/-- Arguments between commas. -/
theorem argumentsText_intercalate {digit : Char → Bool} {fields : List (List Char)}
    {arguments : List Argument} (each : List.Forall₂ (ArgumentText digit) fields arguments) :
    ArgumentsText digit ([',', ' '].intercalate fields) arguments := by
  induction each with
  | nil => exact .none rfl
  | @cons field argument fields arguments own others ih =>
    cases others with
    | nil =>
      have last : ArgumentsText digit ([] ++ (field ++ [])) [argument] :=
        .next rfl own rfl (.none rfl)
      rwa [List.nil_append] at last
    | cons second others =>
      have commas : [',', ' '].all isArgumentSeparator := by decide
      have next : ArgumentsText digit
          ([] ++ (field ++ ([',', ' '] ++ [',', ' '].intercalate (_ :: _)))) (argument :: _) :=
        .next rfl own rfl (ih.gap commas)
      exact next

theorem solid_hex {digits : List Char} (all : digits.all isHexDigit) : Solid ('#' :: digits) := by
  refine ⟨rfl, ?_⟩
  cases found : ('#' :: digits).getLast? with
  | none => rfl
  | some c =>
    rcases List.mem_cons.mp (List.mem_of_getLast? found) with rfl | member
    · decide
    · have digit := (isHexDigit_iff c).mp (List.all_eq_true.mp all c member)
      rw [Option.any_some, isBlank]
      simp
      omega

/-- The name of a function is spelled in ASCII letters. -/
theorem letters_of_calls {name : List Char} {rule : Rule} (called : ascii.calls name rule) :
    name ≠ [] ∧ ∀ c ∈ name, isAsciiLetter c = true := by
  have known : functionNames.all fun name =>
      !name.isEmpty && name.all fun c => 97 ≤ c.toNat && c.toNat ≤ 122 := by
    decide
  have named : name.map asciiLower ∈ functionNames := by
    rcases called with same | same <;> rw [same] <;> cases rule <;> decide
  have own := List.all_eq_true.mp known _ named
  rw [Bool.and_eq_true, List.all_eq_true] at own
  refine ⟨by simpa using own.1, fun c member => ?_⟩
  have small : 97 ≤ (asciiLower c).toNat ∧ (asciiLower c).toNat ≤ 122 := by
    simpa using own.2 _ (List.mem_map_of_mem member)
  rw [toNat_asciiLower] at small
  rw [isAsciiLetter_iff]
  split at small <;> omega

theorem not_isBlank_of_isAsciiLetter {c : Char} (letter : isAsciiLetter c) : isBlank c = false :=
  not_isBlank_of_isNameLetter (by rw [isNameLetter, letter, Bool.true_or])

/-- A call neither starts nor ends with a blank. -/
theorem solid_call {name body : List Char} {rule : Rule} (called : ascii.calls name rule) :
    Solid (name ++ '(' :: (body ++ [')'])) := by
  constructor
  · cases name with
    | nil => rfl
    | cons c name =>
      exact not_isBlank_of_isAsciiLetter ((letters_of_calls called).2 c List.mem_cons_self)
  · rw [← List.cons_append, ← List.append_assoc, List.getLast?_concat]
    decide

theorem exists_entry {name : String} (named : name ∈ ColorName.names) :
    ∃ rgb, (name, rgb) ∈ ColorName.table := by
  obtain ⟨⟨own, rgb⟩, member, rfl⟩ := List.mem_map.mp named
  exact ⟨rgb, member⟩

/-- Names are spelled as they are. -/
theorem ascii_spells_name {name : String} (named : name ∈ ColorName.names) :
    ascii.spells name.toList name := by
  have letters := (names_letters (.inr named)).2
  refine (List.map_congr_left fun c member => ?_).trans (List.map_id _)
  have small := letters c member
  rw [id, char_eq_iff, toNat_asciiLower, if_neg (by omega)]

/-- Whatever has one of the written shapes denotes a color. -/
theorem Written.denotes {cs : List Char} (written : Written cs) :
    ∃ color, Denotes ascii cs color := by
  cases written with
  | @hex digits all count =>
    rcases count with six | eight
    · match digits, six with
      | [r, r', g, g', b, b'], _ => exact ⟨_, .hexPairs all⟩
    · match digits, eight with
      | [r, r', g, g', b, b', a, a'], _ => exact ⟨_, .hexPairsAlpha all⟩
  | name named =>
    obtain ⟨rgb, entry⟩ := exists_entry named
    exact ⟨_, .name entry (ascii_spells_name named)⟩
  | @call name rule fields x y z more called each few admitted plain =>
    obtain ⟨color, computed⟩ := (rule.exists_color_iff x y z few).mpr ⟨admitted, plain⟩
    have spelled := argumentsText_intercalate (each.imp fun _ _ own => own.argumentText)
    exact ⟨color, .call called spelled few computed⟩

theorem Written.solid {cs : List Char} (written : Written cs) : Solid cs := by
  cases written with
  | hex all => exact solid_hex all
  | name named =>
    exact solid_of_isWord (isWord_of_name (.inr named)
      (anyScript_spells_of_ascii (.inr named) (ascii_spells_name named)))
  | call called => exact solid_call called

/-- Whatever has one of the written shapes is a color literal. -/
theorem exists_parse_of_written {cs : List Char} (written : Written cs) :
    ∃ color, parse (String.ofList cs) = .ok color := by
  obtain ⟨color, denotes⟩ := written.denotes
  refine ⟨color, parse_eq_ok_iff.mpr ?_⟩
  rw [String.toList_ofList, trim_solid written.solid]
  exact denotes.anyScript

/-! ## Numerals of the formats -/

theorem isAsciiDigit_digitChar : ∀ digit < 10, isAsciiDigit digit.digitChar = true := by
  decide

theorem toDigits_all (n : Nat) : (Nat.toDigits 10 n).all isAsciiDigit = true :=
  all_toDigits (by decide) isAsciiDigit_digitChar n

theorem paddedDigits_all (length n : Nat) : (paddedDigits length n).all isAsciiDigit = true := by
  unfold paddedDigits
  dsimp only
  rw [List.all_append, toDigits_all, List.all_replicate]
  simp [isAsciiDigit]

/-- A whole number of moderate size. -/
theorem written_decimal {n : Int} (small : n.natAbs < 10 ^ 100) :
    ∃ value, WrittenNumeral (decimal n) value := by
  have short : (Nat.toDigits 10 n.natAbs).length ≤ 100 :=
    (Nat.length_toDigits_le_iff (by decide) (by decide)).mpr small
  have text : decimal n =
      (if decide (n < 0) then ['-'] else []) ++ (Nat.toDigits 10 n.natAbs ++ Css.pointed []) := by
    rw [Css.pointed, List.append_nil, decimal]
    simp only [decide_eq_true_eq]
  rw [text]
  exact ⟨_, .numeral Nat.toDigits_ne_nil short (toDigits_all _) rfl⟩

/-- A fraction without the zeros at its end stands behind the point, or there is no point. -/
theorem alphaText_of_fixed {alpha : Binary64} {sign whole places : List Char}
    (nonempty : whole ≠ [])
    (all : whole.all isAsciiDigit) (all' : places.all isAsciiDigit)
    (fixed : alpha.fixed 4 = sign ++ whole ++ '.' :: places) :
    alphaText alpha =
      sign ++ (whole ++ Css.pointed (places.reverse.dropWhile (· == '0')).reverse) := by
  have zeros : (places.reverse ++ '.' :: (sign ++ whole).reverse).dropWhile (· == '0') =
      places.reverse.dropWhile (· == '0') ++ '.' :: (sign ++ whole).reverse :=
    dropWhile_append_stop rfl
  have point {c : Char} (digit : isAsciiDigit c) : (c == '.') = false := by
    rw [beq_eq_false_iff_ne]
    rintro rfl
    exact absurd digit (by decide)
  unfold alphaText
  dsimp only
  rw [fixed, List.reverse_append, List.reverse_cons, List.append_assoc, List.singleton_append,
    zeros]
  cases rest : places.reverse.dropWhile (· == '0') with
  | nil =>
    have last : ((sign ++ whole).reverse).dropWhile (· == '.') = (sign ++ whole).reverse := by
      rcases List.eq_nil_or_concat whole with empty | ⟨front, c, rfl⟩
      · exact absurd empty nonempty
      · rw [List.concat_eq_append, List.all_append, Bool.and_eq_true, List.all_cons,
          Bool.and_eq_true] at all
        rw [List.concat_eq_append, ← List.append_assoc, List.reverse_append, List.reverse_singleton,
          List.singleton_append, List.dropWhile_cons, point all.2.1, if_neg Bool.false_ne_true]
    rw [List.nil_append, List.dropWhile_cons, if_pos (by rfl), last, List.reverse_reverse,
      List.reverse_nil, Css.pointed, List.append_nil]
  | cons c others =>
    have digit : isAsciiDigit c = true := by
      have member : c ∈ places.reverse.dropWhile (· == '0') := by
        rw [rest]
        exact List.mem_cons_self
      have own := List.mem_reverse.mp ((List.dropWhile_suffix _).mem member)
      exact List.all_eq_true.mp all' c own
    have more : (c :: others).reverse ≠ [] := by simp
    have pointed : Css.pointed (c :: others).reverse = '.' :: (c :: others).reverse := by
      cases reversed : (c :: others).reverse with
      | nil => exact absurd reversed more
      | cons => rfl
    rw [List.cons_append, List.dropWhile_cons, point digit, if_neg Bool.false_ne_true, pointed,
      ← List.cons_append, List.reverse_append, List.reverse_cons, List.reverse_reverse]
    simp

/-- An alpha from zero to one is written as a numeral. -/
theorem written_alphaText {alpha : Binary64} (within : Within alpha 0 1) :
    ∃ value, WrittenNumeral (alphaText alpha) value := by
  obtain ⟨u, ⟨negative, size, rfl, rfl⟩, lower, upper⟩ := within
  have most : size ≤ 1 * unitsPerOne := by
    have own := natAbs_signed negative size
    omega
  have scaled : roundEven (size * Nat.pow 10 4) unitsPerOne ≤ Nat.pow 10 4 := by
    refine roundEven_le unitsPerOne_pos ?_
    rw [Nat.one_mul] at most
    rw [Nat.mul_comm]
    exact Nat.mul_le_mul_left _ most
  have small : roundEven (size * Nat.pow 10 4) unitsPerOne / Nat.pow 10 4 < 10 ^ 100 :=
    (Nat.div_le_self _ _).trans_lt (scaled.trans_lt (by decide))
  have written : alphaText (finite negative size) = _ := alphaText_of_fixed Nat.toDigits_ne_nil
    (toDigits_all (roundEven (size * Nat.pow 10 4) unitsPerOne / Nat.pow 10 4))
    (paddedDigits_all 4 (roundEven (size * Nat.pow 10 4) unitsPerOne % Nat.pow 10 4)) rfl
  rw [written]
  refine ⟨_, .numeral Nat.toDigits_ne_nil
    ((Nat.length_toDigits_le_iff (by decide) (by decide)).mpr small) (toDigits_all _) ?_⟩
  refine List.all_eq_true.mpr fun c member => ?_
  have own := List.mem_reverse.mp ((List.dropWhile_suffix _).mem (List.mem_reverse.mp member))
  exact List.all_eq_true.mp (paddedDigits_all 4 _) c own

/-! ## The formats -/

section Formats

variable {color : Color} {text : String}

/-- The argument that a numeral is, with a unit or without. -/
theorem exists_decimalArgument {n : Int} (small : n.natAbs < 10 ^ 100) :
    ∃ argument, WrittenArgument (decimal n) argument ∧ argument.measure = none := by
  obtain ⟨value, numeral⟩ := written_decimal small
  exact ⟨_, .number numeral, rfl⟩

theorem exists_percentArgument {n : Int} (small : n.natAbs < 10 ^ 100) :
    ∃ argument, WrittenArgument (percentText n) argument ∧ argument.measure = some .percent := by
  obtain ⟨value, numeral⟩ := written_decimal small
  exact ⟨_, .percent numeral, rfl⟩

/-- A call with three arguments, and with an alpha below one. -/
theorem written_callText (rule : Rule) {plain transparent : String}
    (called : ascii.calls plain.toList rule) (called' : ascii.calls transparent.toList rule)
    {first second third : List Char} {x y z : Argument} (own : WrittenArgument first x)
    (own' : WrittenArgument second y) (own'' : WrittenArgument third z)
    (admitted : rule.Admits x y z)
    {alpha : Binary64} (within : Within alpha 0 1) :
    Written (callText plain transparent [first, second, third] alpha).toList := by
  unfold callText
  dsimp only
  rw [String.toList_ofList]
  split
  next =>
    obtain ⟨value, numeral⟩ := written_alphaText within
    have each : List.Forall₂ WrittenArgument ([first, second, third] ++ [alphaText alpha])
        [x, y, z, ⟨value, none⟩] :=
      .cons own (.cons own' (.cons own'' (.cons (.number numeral) .nil)))
    have written := Written.call called' each le_rfl admitted (by simp)
    rwa [← List.cons_append, ← List.append_assoc] at written
  next =>
    have each : List.Forall₂ WrittenArgument [first, second, third] [x, y, z] :=
      .cons own (.cons own' (.cons own'' .nil))
    have written := Written.call called each (by decide) admitted (by simp)
    rwa [← List.cons_append, ← List.append_assoc] at written

theorem isHexDigit_capitalDigit {digit : Nat} (small : digit < 16) :
    isHexDigit (capitalDigit digit) = true := by
  have known : ∀ digit < 16, isHexDigit (capitalDigit digit) = true := by decide
  exact known digit small

theorem channelDigits_all (n : Int) :
    (channelDigits n).all isHexDigit ∧ (channelDigits n).length = 2 := by
  have small : Rgb.clampChannel n < 256 := by
    unfold Rgb.clampChannel
    omega
  refine ⟨?_, rfl⟩
  unfold channelDigits
  dsimp only
  rw [List.all_cons, List.all_cons, isHexDigit_capitalDigit (by omega),
    isHexDigit_capitalDigit (by omega)]
  rfl

/-- A byte is written as a channel is. -/
theorem twoDigits_eq {n : Nat} (small : n ≤ 255) : twoDigits n = channelDigits n := by
  have known : ∀ n < 256, twoDigits (n : Nat) = channelDigits (n : Nat) := by decide +kernel
  exact known n (by omega)

theorem hexText_digits (written : color.hexText = .ok text) :
    ∃ digits, text.toList = '#' :: digits ∧ digits.all isHexDigit ∧ digits.length = 6 := by
  obtain ⟨rgb, -, written⟩ := Outcome.exists_of_bind_eq_ok written
  obtain ⟨red, two⟩ := channelDigits_all rgb.red
  obtain ⟨green, two'⟩ := channelDigits_all rgb.green
  obtain ⟨blue, two''⟩ := channelDigits_all rgb.blue
  refine ⟨channelDigits rgb.red ++ channelDigits rgb.green ++ channelDigits rgb.blue, ?_, ?_, ?_⟩
  · rw [← Except.ok.inj written, String.toList_ofList]
    rfl
  · rw [List.all_append, List.all_append, red, green, blue]
    rfl
  · rw [List.length_append, List.length_append, two, two', two'']

theorem hexaText_digits (ranged : Ranged color) (written : color.hexaText = .ok text) :
    ∃ digits, text.toList = '#' :: digits ∧ digits.all isHexDigit ∧ digits.length = 8 := by
  obtain ⟨plain, own, written⟩ := Outcome.exists_of_bind_eq_ok written
  obtain ⟨alpha, rounded, written⟩ := Outcome.exists_of_bind_eq_ok written
  obtain ⟨alpha', rounded', nonneg, le⟩ := alpha_of_ranged ranged
  rw [rounded] at rounded'
  cases rounded'
  obtain ⟨n, rfl⟩ := Int.eq_ofNat_of_zero_le nonneg
  obtain ⟨digits, text, all, six⟩ := hexText_digits own
  obtain ⟨all', two⟩ := channelDigits_all n
  refine ⟨digits ++ channelDigits n, ?_, ?_, ?_⟩
  · rw [← twoDigits_eq (by omega), ← Except.ok.inj written, String.toList_append, text,
      String.toList_ofList]
    rfl
  · rw [List.all_append, all, all']
    rfl
  · rw [List.length_append, six, two]

theorem nameOf?_mem {rgb : Rgb} {name : String} (found : ColorName.nameOf? rgb = some name) :
    name ∈ ColorName.names := by
  obtain ⟨entry, own, rfl⟩ := Option.map_eq_some_iff.mp found
  exact List.mem_map_of_mem (List.mem_of_find?_eq_some own)

/-- The name that a color is written as is one of the table. -/
theorem keyword_mem (written : color.keyword = .ok text) : text ∈ ColorName.names := by
  obtain ⟨rgb, -, written⟩ := Outcome.exists_of_bind_eq_ok written
  rw [← Except.ok.inj written]
  cases found : ColorName.nameOf? rgb with
  | none => exact ColorName.nearest_mem rgb
  | some name => exact nameOf?_mem found

/-- The arguments of the formats with a hue: degrees without a unit, and two percentages. -/
theorem written_polarText (rule : Rule) {plain transparent : String}
    (called : ascii.calls plain.toList rule) (called' : ascii.calls transparent.toList rule)
    (polar : rule ≠ .rgb) {found : Polar} (bounded : found.Bounded) {alpha : Binary64}
    (within : Within alpha 0 1) :
    Written (callText plain transparent
      [decimal found.hue, percentText found.first, percentText found.second] alpha).toList := by
  obtain ⟨h, s, l⟩ := found
  obtain ⟨hue, first, second⟩ := bounded
  dsimp only at hue first second ⊢
  obtain ⟨x, own, bare⟩ := exists_decimalArgument (n := h) (by omega)
  obtain ⟨y, own', percent⟩ := exists_percentArgument (n := s) (by omega)
  obtain ⟨z, own'', percent'⟩ := exists_percentArgument (n := l) (by omega)
  refine written_callText rule called called' own own' own'' ?_ within
  cases rule with
  | rgb => exact (polar rfl).elim
  | hsl => simp [Rule.Admits, bare, percent, percent']
  | hwb => simp [Rule.Admits, bare, percent, percent']

/-- A view that gives a value is one of a color that is not next to white. -/
theorem apart_of_answers {α : Type} {view : Except Fault α} {value : α}
    (answers : Answers color view) (own : view = .ok value) : color.nextToWhite = false := by
  rw [Answers, own] at answers
  split at answers
  · cases answers
  next other => simpa using other

theorem written_rgbText (ranged : Ranged color) (written : color.rgbText = .ok text) :
    Written text.toList := by
  obtain ⟨rgb, own, written⟩ := Outcome.exists_of_bind_eq_ok written
  obtain ⟨rgb', own', moderate⟩ := rgb_of_ranged ranged
  rw [own] at own'
  cases own'
  have bounds := moderate.red
  have bounds' := moderate.green
  have bounds'' := moderate.blue
  obtain ⟨x, red, bare⟩ := exists_decimalArgument (n := rgb.red) (by omega)
  obtain ⟨y, green, bare'⟩ := exists_decimalArgument (n := rgb.green) (by omega)
  obtain ⟨z, blue, bare''⟩ := exists_decimalArgument (n := rgb.blue) (by omega)
  rw [← Except.ok.inj written]
  simp only [List.map_cons, List.map_nil]
  exact written_callText .rgb (.inl rfl) (.inr rfl) red green blue
    (Or.inl (by simp [bare, bare', bare''])) ranged.alpha

/-- The percentage of a channel of moderate size is one. -/
theorem exists_channelArgument {n k : Int} (bounds : 0 ≤ n ∧ n ≤ 0x4000)
    (computed : channelPercent n = .ok k) :
    ∃ argument, WrittenArgument (percentText k) argument ∧ argument.measure = some .percent := by
  obtain ⟨k', own, bounds'⟩ := channelPercent_of_bounds bounds
  rw [own] at computed
  cases computed
  exact exists_percentArgument (by omega)

theorem written_percentagesText (ranged : Ranged color)
    (written : color.percentagesText = .ok text) :
    Written text.toList := by
  obtain ⟨rgb, own, written⟩ := Outcome.exists_of_bind_eq_ok written
  obtain ⟨rgb', own', moderate⟩ := rgb_of_ranged ranged
  rw [own] at own'
  cases own'
  obtain ⟨r, computed, written⟩ := Outcome.exists_of_bind_eq_ok written
  obtain ⟨g, computed', written⟩ := Outcome.exists_of_bind_eq_ok written
  obtain ⟨b, computed'', written⟩ := Outcome.exists_of_bind_eq_ok written
  obtain ⟨x, red, percent⟩ := exists_channelArgument moderate.red computed
  obtain ⟨y, green, percent'⟩ := exists_channelArgument moderate.green computed'
  obtain ⟨z, blue, percent''⟩ := exists_channelArgument moderate.blue computed''
  rw [← Except.ok.inj written]
  simp only [List.map_cons, List.map_nil]
  exact written_callText .rgb (.inl rfl) (.inr rfl) red green blue
    (Or.inr (by simp [percent, percent', percent''])) ranged.alpha

theorem written_hslText (ranged : Ranged color) (written : color.hslText = .ok text) :
    Written text.toList := by
  obtain ⟨polar, own, written⟩ := Outcome.exists_of_bind_eq_ok written
  obtain ⟨polar', own', bounded⟩ :=
    hsl_of_ranged ranged (apart_of_answers (answers_hsl ranged) own)
  rw [own] at own'
  cases own'
  rw [← Except.ok.inj written]
  exact written_polarText .hsl (.inl rfl) (.inr rfl) (by decide) bounded ranged.alpha

theorem written_hwbText (ranged : Ranged color) (written : color.hwbText = .ok text) :
    Written text.toList := by
  obtain ⟨hwb, own, written⟩ := Outcome.exists_of_bind_eq_ok written
  obtain ⟨polar, own', bounded⟩ := hsl_of_ranged ranged (apart_of_answers (answers_hwb ranged) own)
  obtain ⟨hwb', own', bounded'⟩ := hwb_of_hsl ranged own' bounded
  rw [own] at own'
  cases own'
  rw [← Except.ok.inj written]
  exact written_polarText .hwb (.inl rfl) (.inl rfl) (by decide) bounded' ranged.alpha

/-- What a format writes has one of the written shapes. -/
theorem written_of_write (ranged : Ranged color) {format : ColorFormat}
    (written : color.write format = .ok text) : Written text.toList := by
  cases format with
  | hex =>
    obtain ⟨digits, text, all, six⟩ := hexText_digits written
    rw [text]
    exact .hex all (.inl six)
  | hexa =>
    obtain ⟨digits, text, all, eight⟩ := hexaText_digits ranged written
    rw [text]
    exact .hex all (.inr eight)
  | keyword => exact .name (keyword_mem written)
  | rgb => exact written_rgbText ranged written
  | percent => exact written_percentagesText ranged written
  | hsl => exact written_hslText ranged written
  | hwb => exact written_hwbText ranged written

end Formats

end Swatch.Color
