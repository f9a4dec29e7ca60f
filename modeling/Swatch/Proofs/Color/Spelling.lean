import Swatch.Color.Literal
import Swatch.Proofs.Outcome
import Swatch.Proofs.Text.Digits

/-!
# How arguments are spelled

The arguments of a color function as a grammar (`ArgumentsText`): an argument is a decimal numeral
with an optional sign, fraction and exponent and perhaps a unit (`ArgumentText`), and separators
stand between arguments and may stand around them. The readers accept exactly the texts of the
grammar (`readArgument?_eq_some_iff`, `readArguments_eq_ok_iff`). The grammar leaves open which
characters are digits; the readers take those of every script.
-/

namespace Swatch

open Text

namespace Text

/-! ## Fields one after the other -/

section Fields

variable {isSeparator : Char → Bool}

/-- The field that a text starts with, which may be empty, and the fields after it. -/
def splitFields (isSeparator : Char → Bool) : List Char → List Char × List (List Char)
  | [] => ([], [])
  | c :: cs =>
    let (current, done) := splitFields isSeparator cs
    if isSeparator c then ([], if current.isEmpty then done else current :: done)
    else (c :: current, done)

theorem fields_eq (cs : List Char) :
    fields isSeparator cs =
      if (splitFields isSeparator cs).1.isEmpty then (splitFields isSeparator cs).2
      else (splitFields isSeparator cs).1 :: (splitFields isSeparator cs).2 := by
  have same : cs.foldr
      (fun c (current, done) =>
        if isSeparator c then ([], if current.isEmpty then done else current :: done)
        else (c :: current, done))
      ([], []) = splitFields isSeparator cs := by
    induction cs with
    | nil => rfl
    | cons c cs ih =>
      rw [List.foldr_cons, ih]
      rfl
  unfold fields
  rw [same]

theorem splitFields_separator {c : Char} (separator : isSeparator c) (cs : List Char) :
    splitFields isSeparator (c :: cs) = ([], fields isSeparator cs) := by
  rw [splitFields, fields_eq]
  exact if_pos separator

/-- Separators in front do not count. -/
theorem fields_gap {gap : List Char} (all : gap.all isSeparator) (rest : List Char) :
    fields isSeparator (gap ++ rest) = fields isSeparator rest := by
  induction gap with
  | nil => rfl
  | cons c gap ih =>
    rw [List.all_cons, Bool.and_eq_true] at all
    rw [List.cons_append, fields_eq, splitFields_separator all.1, ih all.2]
    rfl

/-- A field ends at a separator or with the text. -/
theorem fields_text {text rest : List Char} (nonempty : text ≠ [])
    (all : text.all (!isSeparator ·)) (stops : rest.head?.all isSeparator) :
    fields isSeparator (text ++ rest) = text :: fields isSeparator rest := by
  have split : splitFields isSeparator (text ++ rest) = (text, fields isSeparator rest) := by
    clear nonempty
    induction text with
    | nil =>
      cases rest with
      | nil => rfl
      | cons c rest =>
        have separator : isSeparator c = true := by simpa using stops
        have skip : fields isSeparator ([c] ++ rest) = fields isSeparator rest :=
          fields_gap (by simpa using separator) rest
        rw [List.nil_append, splitFields_separator separator]
        exact congrArg _ skip.symm
    | cons c text ih =>
      rw [List.all_cons, Bool.and_eq_true] at all
      have other : isSeparator c = false := by simpa using all.1
      rw [List.cons_append, splitFields, ih all.2]
      simp [other]
  rw [fields_eq, split]
  exact if_neg (by simpa using nonempty)

/-- A text is a gap, a field and the rest, or nothing but a gap. -/
theorem exists_field (isSeparator : Char → Bool) (cs : List Char) :
    ∃ gap text rest, cs = gap ++ (text ++ rest) ∧ gap.all isSeparator ∧
      text.all (!isSeparator ·) ∧ rest.head?.all isSeparator ∧ (text = [] → rest = []) := by
  refine ⟨cs.takeWhile isSeparator, (cs.dropWhile isSeparator).takeWhile (!isSeparator ·),
    (cs.dropWhile isSeparator).dropWhile (!isSeparator ·), ?_, List.all_takeWhile,
    List.all_takeWhile, ?_, ?_⟩
  · rw [List.takeWhile_append_dropWhile, List.takeWhile_append_dropWhile]
  · have stops := head?_dropWhile (!isSeparator ·) (cs.dropWhile isSeparator)
    cases found : (cs.dropWhile isSeparator).dropWhile (!isSeparator ·) with
    | nil => rfl
    | cons c rest =>
      rw [found] at stops
      simpa using stops
  · have stops := head?_dropWhile isSeparator cs
    cases found : cs.dropWhile isSeparator with
    | nil => exact fun _ => rfl
    | cons c rest =>
      rw [found] at stops
      have other : isSeparator c = false := by simpa using stops
      simp [other]

end Fields

end Text

namespace Color

/-! ## The grammar of arguments -/

/-- A sign, or none. -/
inductive SignText : List Char → Bool → Prop
  | none : SignText [] false
  | plus : SignText ['+'] false
  | minus : SignText ['-'] true

/-- Digits with perhaps a point among them: those before the point and those after it. -/
inductive DecimalText (digit : Char → Bool) : List Char → List Char → List Char → Prop
  | whole {whole : List Char} (nonempty : whole ≠ []) (all : whole.all digit) :
      DecimalText digit whole whole []
  | point {whole places : List Char} (nonempty : whole ≠ [] ∨ places ≠ []) (all : whole.all digit)
      (all' : places.all digit) : DecimalText digit (whole ++ '.' :: places) whole places

/-- An exponent, or none. -/
inductive PowerText (digit : Char → Bool) : List Char → Int → Prop
  | none : PowerText digit [] 0
  | power {marker : Char} {sign digits : List Char} {negative : Bool}
      (letter : asciiLower marker = 'e') (signed : SignText sign negative) (nonempty : digits ≠ [])
      (all : digits.all digit) :
      PowerText digit (marker :: (sign ++ digits))
        (if negative then -(decimalNumeral digits : Int) else decimalNumeral digits)

/-- A unit, or none. -/
inductive UnitText : List Char → Option Measure → Prop
  | none : UnitText [] none
  | percent : UnitText ['%'] (some .percent)
  | degree {cs : List Char} (letters : cs.map asciiLower = ['d', 'e', 'g']) :
      UnitText cs (some .degree)

/-- An argument: a decimal numeral and perhaps a unit. -/
inductive ArgumentText (digit : Char → Bool) : List Char → Argument → Prop
  | number {sign decimal exponent unit whole places : List Char} {negative : Bool} {power : Int}
      {measure : Option Measure} (signed : SignText sign negative)
      (numeral : DecimalText digit decimal whole places) (scaled : PowerText digit exponent power)
      (measured : UnitText unit measure) :
      ArgumentText digit (sign ++ (decimal ++ (exponent ++ unit)))
        ⟨.ofDecimal negative (decimalNumeral (whole ++ places)) (power - places.length), measure⟩

/-- Arguments with separators between them, and perhaps around them. -/
inductive ArgumentsText (digit : Char → Bool) : List Char → List Argument → Prop
  | none {gap : List Char} (all : gap.all isArgumentSeparator) : ArgumentsText digit gap []
  | next {gap text rest : List Char} {argument : Argument} {arguments : List Argument}
      (all : gap.all isArgumentSeparator) (number : ArgumentText digit text argument)
      (stops : rest.head?.all isArgumentSeparator) (others : ArgumentsText digit rest arguments) :
      ArgumentsText digit (gap ++ (text ++ rest)) (argument :: arguments)

section Digits

variable {digit digit' : Char → Bool} {cs : List Char}

theorem all_mono {run : List Char} (all : run.all digit)
    (more : ∀ c ∈ run, digit c = true → digit' c = true) : run.all digit' :=
  List.all_eq_true.mpr fun c member => more c member (List.all_eq_true.mp all c member)

theorem DecimalText.mono {whole places : List Char} (numeral : DecimalText digit cs whole places)
    (more : ∀ c ∈ cs, digit c = true → digit' c = true) : DecimalText digit' cs whole places := by
  cases numeral with
  | whole nonempty all => exact .whole nonempty (all_mono all more)
  | point nonempty all all' =>
    exact .point nonempty (all_mono all fun c member => more c (List.mem_append_left _ member))
      (all_mono all' fun c member =>
        more c (List.mem_append_right _ (List.mem_cons_of_mem _ member)))

theorem PowerText.mono {power : Int} (scaled : PowerText digit cs power)
    (more : ∀ c ∈ cs, digit c = true → digit' c = true) : PowerText digit' cs power := by
  cases scaled with
  | none => exact .none
  | power letter signed nonempty all =>
    exact .power letter signed nonempty (all_mono all fun c member =>
      more c (List.mem_cons_of_mem _ (List.mem_append_right _ member)))

theorem ArgumentText.mono {argument : Argument} (number : ArgumentText digit cs argument)
    (more : ∀ c ∈ cs, digit c = true → digit' c = true) : ArgumentText digit' cs argument := by
  obtain ⟨signed, numeral, scaled, measured⟩ := number
  refine .number signed (numeral.mono fun c member => more c ?_)
    (scaled.mono fun c member => more c ?_) measured
  · exact List.mem_append_right _ (List.mem_append_left _ member)
  · exact List.mem_append_right _ (List.mem_append_right _ (List.mem_append_left _ member))

/-- With more digits there are more arguments. -/
theorem ArgumentsText.mono {arguments : List Argument} (spelled : ArgumentsText digit cs arguments)
    (more : ∀ c ∈ cs, digit c = true → digit' c = true) : ArgumentsText digit' cs arguments := by
  induction spelled with
  | none all => exact .none all
  | next all number stops others ih =>
    refine .next all (number.mono fun c member => more c ?_) stops
      (ih fun c member => more c ?_)
    · exact List.mem_append_right _ (List.mem_append_left _ member)
    · exact List.mem_append_right _ (List.mem_append_right _ member)

end Digits

/-! ## Readers of the parts -/

theorem readSign_eq {cs rest : List Char} {negative : Bool}
    (read : readSign cs = (negative, rest)) :
    ∃ sign, cs = sign ++ rest ∧ SignText sign negative := by
  unfold readSign at read
  split at read
  next => cases read; exact ⟨['-'], rfl, .minus⟩
  next => cases read; exact ⟨['+'], rfl, .plus⟩
  next => cases read; exact ⟨[], rfl, .none⟩

theorem readSign_append {sign rest : List Char} {negative : Bool} (signed : SignText sign negative)
    (unsigned : rest.head?.any (fun c => c == '+' || c == '-') = false) :
    readSign (sign ++ rest) = (negative, rest) := by
  cases signed with
  | none =>
    cases rest with
    | nil => rfl
    | cons c rest =>
      have other : c ≠ '+' ∧ c ≠ '-' := by simpa using unsigned
      unfold readSign
      split
      next same => exact absurd (List.cons.inj same).1 other.2
      next same => exact absurd (List.cons.inj same).1 other.1
      next => rfl
  | plus => rfl
  | minus => rfl

theorem readDigits?_eq {cs whole places rest : List Char}
    (read : readDigits? cs = some (whole, places, rest)) :
    ∃ decimal, cs = decimal ++ rest ∧ DecimalText isDecimalDigit decimal whole places := by
  have all : (cs.takeWhile isDecimalDigit).all isDecimalDigit := List.all_takeWhile
  have text := List.takeWhile_append_dropWhile (p := isDecimalDigit) (l := cs)
  unfold readDigits? at read
  dsimp only at read
  split at read
  next after point =>
    split at read
    next => cases read
    next nonempty =>
      cases read
      have more := List.takeWhile_append_dropWhile (p := isDecimalDigit) (l := after)
      refine ⟨_, ?_, .point ?_ all List.all_takeWhile⟩
      · rw [List.append_assoc, List.cons_append, more, ← point, text]
      · simpa [Classical.or_iff_not_imp_left] using nonempty
  next other =>
    split at read
    next => cases read
    next nonempty =>
      cases read
      exact ⟨_, text.symm, .whole (by simpa using nonempty) all⟩

theorem not_isDecimalDigit_point : isDecimalDigit '.' = false := by
  decide

theorem readDigits?_append {decimal whole places rest : List Char}
    (numeral : DecimalText isDecimalDigit decimal whole places)
    (stops : rest.head?.any (fun c => isDecimalDigit c || c == '.') = false) :
    readDigits? (decimal ++ rest) = some (whole, places, rest) := by
  have ends : rest.head?.any isDecimalDigit = false := by
    cases rest with
    | nil => rfl
    | cons c rest => simp_all
  unfold readDigits?
  dsimp only
  cases numeral with
  | whole nonempty all =>
    rw [takeWhile_run all ends, dropWhile_run all ends]
    split
    next => simp at stops
    next => rw [if_neg (by simpa using nonempty)]
  | point nonempty all all' =>
    have point : ('.' :: (places ++ rest)).head?.any isDecimalDigit = false := by
      simp [not_isDecimalDigit_point]
    rw [List.append_assoc, List.cons_append, takeWhile_run all point, dropWhile_run all point]
    split
    next after same =>
      rw [← (List.cons.inj same).2, takeWhile_run all' ends, dropWhile_run all' ends,
        if_neg (by simpa [Classical.or_iff_not_imp_left] using nonempty)]
    next other => exact absurd rfl (other _)

theorem readPower_eq {cs rest : List Char} {power : Int} (read : readPower cs = (power, rest)) :
    ∃ exponent, cs = exponent ++ rest ∧ PowerText isDecimalDigit exponent power := by
  cases cs with
  | nil =>
    cases read
    exact ⟨[], rfl, .none⟩
  | cons marker cs =>
    unfold readPower at read
    dsimp only at read
    split at read
    next letter =>
      have unsigned : readSign cs = ((readSign cs).1, (readSign cs).2) := rfl
      obtain ⟨sign, whole, signed⟩ := readSign_eq unsigned
      have digits := List.takeWhile_append_dropWhile (p := isDecimalDigit) (l := (readSign cs).2)
      cases read
      refine ⟨_, ?_, .power letter.1 signed letter.2 List.all_takeWhile⟩
      rw [List.cons_append, List.append_assoc, digits, ← whole]
    next =>
      cases read
      exact ⟨[], rfl, .none⟩

theorem not_isDecimalDigit_sign {c : Char} (digit : isDecimalDigit c) : c ≠ '+' ∧ c ≠ '-' := by
  constructor <;> rintro rfl <;> exact absurd digit (by decide)

theorem readPower_append {exponent rest : List Char} {power : Int}
    (scaled : PowerText isDecimalDigit exponent power)
    (stops : rest.head?.any (fun c => isDecimalDigit c || asciiLower c == 'e') = false) :
    readPower (exponent ++ rest) = (power, rest) := by
  have ends : rest.head?.any isDecimalDigit = false := by
    cases rest with
    | nil => rfl
    | cons c rest => simp_all
  cases scaled with
  | none =>
    cases rest with
    | nil => rfl
    | cons c rest =>
      have other : asciiLower c ≠ 'e' := by simp_all
      rw [List.nil_append]
      unfold readPower
      exact if_neg fun letter => other letter.1
  | power letter signed nonempty all =>
    rename_i marker sign digits negative
    have unsigned : (digits ++ rest).head?.any (fun c => c == '+' || c == '-') = false := by
      cases digits with
      | nil => exact (nonempty rfl).elim
      | cons d digits =>
        rw [List.all_cons, Bool.and_eq_true] at all
        simpa using not_isDecimalDigit_sign all.1
    rw [List.cons_append, List.append_assoc]
    unfold readPower
    dsimp only
    rw [readSign_append signed unsigned, takeWhile_run all ends, dropWhile_run all ends]
    exact if_pos ⟨letter, nonempty⟩

theorem asciiLower_percent {c : Char} (same : asciiLower c = '%') : c = '%' := by
  rw [char_eq_iff, toNat_asciiLower] at same
  change _ = 37 at same
  rw [char_eq_iff]
  change _ = 37
  split at same <;> omega

theorem readMeasure?_eq_some_iff {cs : List Char} {measure : Option Measure} :
    readMeasure? cs = some measure ↔ UnitText cs measure := by
  constructor
  · intro read
    unfold readMeasure? at read
    split at read
    next empty =>
      cases read
      rw [List.map_eq_nil_iff.mp empty]
      exact .none
    next percent =>
      cases read
      obtain ⟨c, rfl, same⟩ := List.map_eq_singleton_iff.mp percent
      rw [asciiLower_percent same]
      exact .percent
    next letters =>
      cases read
      exact .degree letters
    next => cases read
  · rintro (_ | _ | letters)
    · rfl
    · rfl
    · unfold readMeasure?
      rw [letters]
      rfl

/-- A unit starts with neither a digit nor a point nor the letter of an exponent. -/
theorem UnitText.stops {unit : List Char} {measure : Option Measure}
    (measured : UnitText unit measure) :
    unit.head?.any (fun c => isDecimalDigit c || c == '.' || asciiLower c == 'e') = false := by
  cases measured with
  | none => rfl
  | percent => decide
  | degree letters =>
    obtain ⟨d, ds, rfl, first, -⟩ := List.map_eq_cons_iff.mp letters
    rcases eq_of_asciiLower 'D' first rfl (by decide) with rfl | rfl
    · have known : (isDecimalDigit 'd' || 'd' == '.' || asciiLower 'd' == 'e') = false := by decide
      exact known
    · have known : (isDecimalDigit 'D' || 'D' == '.' || asciiLower 'D' == 'e') = false := by decide
      exact known

/-! ## Arguments -/

/-- An exponent and a unit start with neither a digit nor a point. -/
theorem stops_of_power {exponent unit : List Char} {power : Int} {measure : Option Measure}
    (scaled : PowerText isDecimalDigit exponent power) (measured : UnitText unit measure) :
    (exponent ++ unit).head?.any (fun c => isDecimalDigit c || c == '.') = false := by
  cases scaled with
  | none =>
    have stops := measured.stops
    cases unit with
    | nil => rfl
    | cons c unit => simp_all
  | power letter =>
    rcases eq_of_asciiLower 'E' letter rfl (by decide) with rfl | rfl
    · have known : (isDecimalDigit 'e' || 'e' == '.') = false := by decide
      exact known
    · have known : (isDecimalDigit 'E' || 'E' == '.') = false := by decide
      exact known

/-- A numeral does not start with a sign of its own. -/
theorem DecimalText.unsigned {decimal whole places : List Char}
    (numeral : DecimalText isDecimalDigit decimal whole places) (rest : List Char) :
    (decimal ++ rest).head?.any (fun c => c == '+' || c == '-') = false := by
  have digits {run : List Char} (nonempty : run ≠ []) (all : run.all isDecimalDigit)
      (after : List Char) : (run ++ after).head?.any (fun c => c == '+' || c == '-') = false := by
    cases run with
    | nil => exact (nonempty rfl).elim
    | cons c run =>
      rw [List.all_cons, Bool.and_eq_true] at all
      simpa using not_isDecimalDigit_sign all.1
  cases numeral with
  | whole nonempty all => exact digits nonempty all rest
  | point nonempty all all' =>
    by_cases empty : whole = []
    · rw [empty]
      rfl
    · rw [List.append_assoc]
      exact digits empty all _

/-- The reader of an argument accepts the texts of the grammar, with the digits of every script. -/
theorem readArgument?_eq_some_iff {cs : List Char} {argument : Argument} :
    readArgument? cs = some argument ↔ ArgumentText isDecimalDigit cs argument := by
  constructor
  · intro read
    unfold readArgument? at read
    cases unsigned : readSign cs with
    | mk negative body =>
      rw [unsigned] at read
      obtain ⟨⟨whole, places, rest⟩, digits, read⟩ := Option.bind_eq_some_iff.mp read
      cases powered : readPower rest with
      | mk power last =>
        dsimp only at read
        rw [powered] at read
        obtain ⟨measure, unit, built⟩ := Option.bind_eq_some_iff.mp read
        obtain ⟨sign, rfl, signed⟩ := readSign_eq unsigned
        obtain ⟨decimal, rfl, numeral⟩ := readDigits?_eq digits
        obtain ⟨exponent, rfl, scaled⟩ := readPower_eq powered
        rw [← Option.some.inj built]
        exact .number signed numeral scaled (readMeasure?_eq_some_iff.mp unit)
  · rintro ⟨signed, numeral, scaled, measured⟩
    have stops := measured.stops
    rename_i sign decimal exponent unit whole places negative power measure
    have ends : unit.head?.any (fun c => isDecimalDigit c || asciiLower c == 'e') = false := by
      cases unit with
      | nil => rfl
      | cons c unit => simp_all
    unfold readArgument?
    rw [readSign_append signed (numeral.unsigned _)]
    dsimp only
    rw [readDigits?_append numeral (stops_of_power scaled measured)]
    dsimp only [Option.bind_eq_bind, Option.bind_some]
    rw [readPower_append scaled ends]
    dsimp only
    rw [readMeasure?_eq_some_iff.mpr measured]
    rfl

theorem not_separator_of_digit {c : Char} (digit : isDecimalDigit c) :
    isArgumentSeparator c = false := by
  have all : (!isArgumentSeparator c) = true :=
    of_isDecimalDigit (p := fun c => !isArgumentSeparator c) (by decide) digit
  exact Bool.not_eq_true' _ ▸ all

section Characters

variable {digit p : Char → Bool} {cs : List Char} {argument : Argument}

/-- What holds of digits, of the signs and marks and of the letters of exponents and units holds of
every character of an argument. -/
theorem ArgumentText.all (number : ArgumentText digit cs argument)
    (digits : ∀ c, digit c = true → p c = true) (marks : ['+', '-', '.', '%'].all p)
    (letters : ∀ c, asciiLower c ∈ ['d', 'e', 'g'] → p c = true) : cs.all p := by
  have run {run : List Char} (all : run.all digit) : run.all p :=
    List.all_eq_true.mpr fun c member => digits c (List.all_eq_true.mp all c member)
  have mark {c : Char} (member : c ∈ ['+', '-', '.', '%']) : p c = true :=
    List.all_eq_true.mp marks c member
  have signs {sign : List Char} {negative : Bool} (signed : SignText sign negative) :
      sign.all p := by
    cases signed with
    | none => rfl
    | plus => simp [mark]
    | minus => simp [mark]
  obtain ⟨signed, numeral, scaled, measured⟩ := number
  rename_i sign decimal exponent unit _ _ _ _ _
  rw [List.all_append, List.all_append, List.all_append, signs signed]
  have numeral : decimal.all p := by
    cases numeral with
    | whole nonempty all => exact run all
    | point nonempty all all' =>
      rw [List.all_append, List.all_cons, run all, run all', mark (by decide)]
      rfl
  have scaled : exponent.all p := by
    cases scaled with
    | none => exact List.all_nil
    | power letter signed nonempty all =>
      rw [List.all_cons, List.all_append, run all, signs signed, letters _ (by simp [letter])]
      rfl
  have measured : unit.all p := by
    cases measured with
    | none => exact List.all_nil
    | percent => simp [mark]
    | degree same =>
      refine List.all_eq_true.mpr fun c member => letters c ?_
      rw [← same]
      exact List.mem_map_of_mem member
  rw [numeral, scaled, measured]
  rfl

theorem ArgumentText.ne_nil (number : ArgumentText digit cs argument) : cs ≠ [] := by
  obtain ⟨signed, numeral, scaled, measured⟩ := number
  have nonempty : ∀ decimal whole places, DecimalText digit decimal whole places →
      decimal ≠ [] := by
    intro decimal whole places numeral
    cases numeral with
    | whole nonempty => exact nonempty
    | point => simp
  simp [nonempty _ _ _ numeral]

end Characters

/-- An argument holds no separator. -/
theorem ArgumentText.field {cs : List Char} {argument : Argument}
    (number : ArgumentText isDecimalDigit cs argument) : cs.all (!isArgumentSeparator ·) := by
  have letter {c small : Char} (capital : Char) (same : asciiLower c = small)
      (code : capital.toNat + 32 = small.toNat) (bounds : 97 ≤ small.toNat ∧ small.toNat ≤ 122)
      (known : (!isArgumentSeparator small) = true ∧ (!isArgumentSeparator capital) = true) :
      (!isArgumentSeparator c) = true := by
    rcases eq_of_asciiLower capital same code bounds with rfl | rfl
    · exact known.1
    · exact known.2
  refine number.all (fun c digit => ?_) (by decide) (fun c member => ?_)
  · rw [not_separator_of_digit digit]
    rfl
  · simp only [List.mem_cons, List.not_mem_nil, or_false] at member
    rcases member with d | e | g
    · exact letter 'D' d rfl (by decide) (by decide)
    · exact letter 'E' e rfl (by decide) (by decide)
    · exact letter 'G' g rfl (by decide) (by decide)

/-- The reader of arguments accepts the texts of the grammar, with the digits of every script. -/
theorem readArguments_eq_ok_iff {body : List Char} {arguments : List Argument} :
    readArguments body = .ok arguments ↔ ArgumentsText isDecimalDigit body arguments := by
  constructor
  · intro read
    induction size : body.length using Nat.strongRecOn generalizing body arguments with
    | ind n ih =>
      obtain ⟨gap, text, rest, rfl, all, own, stops, last⟩ := exists_field isArgumentSeparator body
      unfold readArguments at read
      rw [fields_gap all] at read
      by_cases absent : text = []
      · rw [absent, last absent] at read ⊢
        cases read
        rw [List.append_nil, List.append_nil]
        exact .none all
      · rw [fields_text absent own stops, List.mapM_cons] at read
        obtain ⟨argument, first, read⟩ := Outcome.exists_of_bind_eq_ok read
        obtain ⟨others, later, read⟩ := Outcome.exists_of_bind_eq_ok read
        cases read
        have positive : 0 < text.length := List.length_pos_iff.mpr absent
        rw [List.length_append, List.length_append] at size
        have number : readArgument? text = some argument := by
          split at first
          next own found => rw [found, Except.ok.inj first]
          next => cases first
        exact .next all (readArgument?_eq_some_iff.mp number) stops
          (ih rest.length (by omega) later rfl)
  · intro spelled
    induction spelled with
    | none all =>
      have empty := fields_gap all []
      rw [List.append_nil] at empty
      unfold readArguments
      rw [empty]
      rfl
    | next all number stops others ih =>
      unfold readArguments at ih ⊢
      rw [fields_gap all, fields_text number.ne_nil number.field stops, List.mapM_cons, ih,
        readArgument?_eq_some_iff.mpr number]
      rfl

end Color

end Swatch
