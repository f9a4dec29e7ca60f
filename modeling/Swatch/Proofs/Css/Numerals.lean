import Swatch.Proofs.Text.Classes
import Swatch.Css.Lexeme

/-!
# Numerals at the start of a text

The numeral that is read at the start of a text is a sign, digits with perhaps a point among them
and an exponent, and it is the longest one: the text after it does not go on with it
(`readNumeral?_eq_some_iff`). There is none exactly when the text starts with neither a digit nor a
point before one, whatever its sign (`readNumeral?_eq_none_iff`).
-/

namespace Swatch.Css

open Text

/-! ## Parts of a numeral -/

/-- The text starts with a digit, or with a point before one. -/
def startsDecimal : List Char → Bool
  | [] => false
  | c :: cs => isAsciiDigit c || (c == '.' && cs.head?.any isAsciiDigit)

/-- The text starts with a numeral. -/
def startsNumeral (cs : List Char) : Bool :=
  startsDecimal (splitSign cs).2

/-! ## Decimals -/

/-- A point with digits behind it; nothing where there are no digits. -/
def pointed : List Char → List Char
  | [] => []
  | places => '.' :: places

/-- Digits, perhaps with a point and more digits, are read as long as no more follow. -/
theorem splitDecimal_parts {whole places : List Char} (rest : List Char)
    (digits : whole.all isAsciiDigit)
    (more : places.all isAsciiDigit) (stops : rest.head?.any isAsciiDigit = false)
    (point : places = [] → startsDecimal rest = false) :
    splitDecimal (whole ++ (pointed places ++ rest)) = (whole ++ pointed places, rest) := by
  cases places with
  | nil =>
    have free := point rfl
    simp only [pointed, List.nil_append, List.append_nil, splitDecimal, takeWhile_run digits stops,
      dropWhile_run digits stops]
    split
    next d ds => simp_all [startsDecimal]
    next => rfl
  | cons d ds =>
    have dot : isAsciiDigit '.' = false := by decide
    have around : ('.' :: d :: (ds ++ rest)).head?.any isAsciiDigit = false := by simp [dot]
    rw [List.all_cons, Bool.and_eq_true] at more
    simp only [pointed, List.cons_append, splitDecimal, takeWhile_run digits around,
      dropWhile_run digits around, more.1, if_true, takeWhile_run more.2 stops,
      dropWhile_run more.2 stops]

/-- What is read is digits, perhaps with a point and more digits, and no more follow. -/
theorem splitDecimal_eq (cs : List Char) :
    ∃ whole places, whole.all isAsciiDigit ∧ places.all isAsciiDigit ∧
      (splitDecimal cs).1 = whole ++ pointed places ∧
      (splitDecimal cs).2.head?.any isAsciiDigit = false ∧
      (places = [] → startsDecimal (splitDecimal cs).2 = false) := by
  have dot : isAsciiDigit '.' = false := by decide
  have digits : (cs.takeWhile isAsciiDigit).all isAsciiDigit := List.all_takeWhile
  have stops := head?_dropWhile isAsciiDigit cs
  rw [splitDecimal]
  split
  next d ds found =>
    rw [found] at stops
    split
    next digit =>
      exact ⟨_, d :: ds.takeWhile isAsciiDigit, digits,
        by rw [List.all_cons, digit, List.all_takeWhile, Bool.true_and], rfl,
        head?_dropWhile isAsciiDigit ds, fun empty => by cases empty⟩
    next other =>
      exact ⟨_, [], digits, rfl, by simp [pointed], stops,
        fun _ => by simp [startsDecimal, dot, other]⟩
  next unpointed =>
    refine ⟨_, [], digits, rfl, by simp [pointed], stops, fun _ => ?_⟩
    cases rest : cs.dropWhile isAsciiDigit with
    | nil => rfl
    | cons c after =>
      rw [rest] at stops unpointed
      cases after with
      | nil => simp_all [startsDecimal]
      | cons d ds =>
        have : c ≠ '.' := fun same => unpointed d ds (by rw [same])
        simp_all [startsDecimal]

/-! ## Signs and exponents -/

/-- A sign, or nothing. -/
def isSign (sign : List Char) : Prop :=
  splitSign sign = (sign, [])

theorem isSign_splitSign (cs : List Char) : isSign (splitSign cs).1 := by
  cases cs with
  | nil => rfl
  | cons c cs =>
    rw [splitSign]
    split
    next sign => simp [isSign, splitSign, sign]
    next => rfl

theorem splitSign_parts {sign rest : List Char} (whole : isSign sign)
    (unsigned : splitSign rest = ([], rest)) : splitSign (sign ++ rest) = (sign, rest) := by
  cases sign with
  | nil => exact unsigned
  | cons c cs =>
    rw [isSign, splitSign] at whole
    rw [List.cons_append, splitSign]
    split at whole
    next sign =>
      have empty : cs = [] := congrArg Prod.snd whole
      rw [if_pos sign, empty, List.nil_append]
    next => cases whole

theorem splitSign_of_startsDecimal {cs : List Char} (start : startsDecimal cs) :
    splitSign cs = ([], cs) := by
  cases cs with
  | nil => rfl
  | cons c cs =>
    rw [splitSign, if_neg]
    rintro (rfl | rfl) <;> simp [startsDecimal, show isAsciiDigit '+' = false by decide,
      show isAsciiDigit '-' = false by decide] at start

/-- An exponent is read as long as no more digits follow. -/
theorem splitExponent_parts {marker : Char} {sign digits : List Char} (rest : List Char)
    (letter : marker = 'e' ∨ marker = 'E') (whole : isSign sign) (all : digits.all isAsciiDigit)
    (nonempty : digits ≠ []) (stops : rest.head?.any isAsciiDigit = false) :
    splitExponent (marker :: (sign ++ (digits ++ rest))) = (marker :: (sign ++ digits), rest) := by
  have unsigned : splitSign (digits ++ rest) = ([], digits ++ rest) := by
    apply splitSign_of_startsDecimal
    cases digits with
    | nil => exact (nonempty rfl).elim
    | cons d ds =>
      rw [List.all_cons, Bool.and_eq_true] at all
      simp [startsDecimal, all.1]
  simp only [splitExponent, if_pos letter, splitSign_parts whole unsigned, takeWhile_run all stops,
    dropWhile_run all stops]
  simp [nonempty]

/-- What is read is nothing or an exponent, and no more digits follow an exponent. -/
theorem splitExponent_eq (cs : List Char) :
    splitExponent cs = ([], cs) ∨
      ∃ marker sign digits, (marker = 'e' ∨ marker = 'E') ∧ isSign sign ∧
        digits.all isAsciiDigit ∧ digits ≠ [] ∧
        (splitExponent cs).1 = marker :: (sign ++ digits) ∧
        (splitExponent cs).2.head?.any isAsciiDigit = false := by
  cases cs with
  | nil => exact .inl rfl
  | cons c cs =>
    rw [splitExponent]
    split
    next letter =>
      dsimp only
      split
      next => exact .inl rfl
      next nonempty =>
        refine .inr ⟨c, _, _, letter, isSign_splitSign cs, List.all_takeWhile, ?_, rfl,
          head?_dropWhile isAsciiDigit _⟩
        rwa [List.isEmpty_iff] at nonempty
    next => exact .inl rfl

/-! ## Parts on their own -/

/-- A decimal that is read is one on its own. -/
theorem splitDecimal_fst (cs : List Char) :
    splitDecimal (splitDecimal cs).1 = ((splitDecimal cs).1, []) := by
  obtain ⟨whole, places, digits, more, read, -, -⟩ := splitDecimal_eq cs
  have alone := splitDecimal_parts [] digits more rfl fun _ => rfl
  rwa [List.append_nil, ← read] at alone

/-- A decimal that is read does not go on. -/
theorem splitDecimal_stops (cs : List Char) :
    (splitDecimal cs).2.head?.any isAsciiDigit = false ∧
      ((splitDecimal cs).1.contains '.' = false → startsDecimal (splitDecimal cs).2 = false) := by
  obtain ⟨whole, places, digits, more, read, stops, point⟩ := splitDecimal_eq cs
  refine ⟨stops, fun free => point ?_⟩
  cases places with
  | nil => rfl
  | cons d ds => simp [read, pointed] at free

/-- A decimal goes on with digits only, and with a point before one unless it has a point. -/
theorem splitDecimal_append_of_whole {decimal rest : List Char}
    (whole : splitDecimal decimal = (decimal, [])) (stops : rest.head?.any isAsciiDigit = false)
    (point : decimal.contains '.' = false → startsDecimal rest = false) :
    splitDecimal (decimal ++ rest) = (decimal, rest) := by
  obtain ⟨whole, places, digits, more, read, -, -⟩ := splitDecimal_eq decimal
  rw [‹splitDecimal decimal = (decimal, [])›] at read
  have parts := splitDecimal_parts rest digits more stops fun empty => point (by
    have free : '.' ∉ whole := fun member =>
      absurd (List.all_eq_true.mp digits _ member) (by decide)
    simp_all [pointed])
  rwa [← List.append_assoc, ← read] at parts

theorem startsDecimal_append {decimal : List Char} (whole : splitDecimal decimal = (decimal, []))
    (nonempty : decimal ≠ []) (rest : List Char) : startsDecimal (decimal ++ rest) := by
  obtain ⟨whole, places, digits, more, read, -, -⟩ := splitDecimal_eq decimal
  rw [‹splitDecimal decimal = (decimal, [])›] at read
  have read : decimal = whole ++ pointed places := read
  cases whole with
  | cons d ds =>
    rw [List.all_cons, Bool.and_eq_true] at digits
    simp [read, startsDecimal, digits.1]
  | nil =>
    cases places with
    | nil => exact (nonempty read).elim
    | cons d ds =>
      rw [List.all_cons, Bool.and_eq_true] at more
      simp [read, pointed, startsDecimal, more.1]

/-- An exponent that is read is one on its own. -/
theorem splitExponent_fst (cs : List Char) :
    splitExponent (splitExponent cs).1 = ((splitExponent cs).1, []) := by
  rcases splitExponent_eq cs with
      absent | ⟨marker, sign, digits, letter, whole, all, nonempty, read, -⟩
  · rw [absent]
    rfl
  · have alone := splitExponent_parts [] letter whole all nonempty rfl
    rwa [List.append_nil, ← read] at alone

theorem splitExponent_append_of_whole {exponent rest : List Char}
    (whole : splitExponent exponent = (exponent, [])) (nonempty : exponent ≠ [])
    (stops : rest.head?.any isAsciiDigit = false) :
    splitExponent (exponent ++ rest) = (exponent, rest) := by
  rcases splitExponent_eq exponent with absent | ⟨marker, sign, digits, letter, signed, all, more,
    read, -⟩
  · rw [whole] at absent
    exact (nonempty (congrArg Prod.fst absent)).elim
  · have parts := splitExponent_parts rest letter signed all more stops
    rw [whole] at read
    have read : exponent = marker :: (sign ++ digits) := read
    rw [read, List.cons_append, List.append_assoc]
    exact parts

/-- An exponent starts with a letter. -/
theorem startsDecimal_exponent {exponent : List Char}
    (whole : splitExponent exponent = (exponent, [])) (nonempty : exponent ≠ [])
    (rest : List Char) :
    startsDecimal (exponent ++ rest) = false ∧
      (exponent ++ rest).head?.any isAsciiDigit = false := by
  rcases splitExponent_eq exponent with absent | ⟨marker, sign, digits, letter, -, -, -, read, -⟩
  · rw [whole] at absent
    exact (nonempty (congrArg Prod.fst absent)).elim
  · rw [whole] at read
    have read : exponent = marker :: (sign ++ digits) := read
    rw [read]
    rcases letter with rfl | rfl
    · exact ⟨rfl, rfl⟩
    · exact ⟨rfl, rfl⟩

/-! ## Whole numerals -/

/-- A numeral in three parts. -/
structure Numeral where
  sign : List Char
  decimal : List Char
  exponent : List Char
  sign_whole : isSign sign
  decimal_whole : splitDecimal decimal = (decimal, [])
  decimal_ne_nil : decimal ≠ []
  exponent_whole : splitExponent exponent = (exponent, [])

namespace Numeral

/-- A numeral as text. -/
def text (numeral : Numeral) : List Char :=
  numeral.sign ++ (numeral.decimal ++ numeral.exponent)

/-- The numeral goes on with the text after it: with a digit, or where it has no exponent yet, with
an exponent or a first point. -/
def goesOn (numeral : Numeral) (rest : List Char) : Bool :=
  rest.head?.any isAsciiDigit ||
    (numeral.exponent.isEmpty &&
      ((!numeral.decimal.contains '.' && startsDecimal rest) ||
        !(splitExponent rest).1.isEmpty))

end Numeral

/-- A numeral is read where the text after it does not go on with it. -/
theorem readNumeral?_text_append (numeral : Numeral) (rest : List Char)
    (ends : numeral.goesOn rest = false) :
    readNumeral? (numeral.text ++ rest) = some (numeral.text, rest) := by
  obtain ⟨sign, decimal, exponent, signed, decimal_whole, nonempty, exponent_whole⟩ := numeral
  simp only [Numeral.goesOn, Bool.or_eq_false_iff, Bool.and_eq_false_imp, List.isEmpty_iff,
    Bool.not_eq_true', Bool.not_eq_false'] at ends
  obtain ⟨stops, ends⟩ := ends
  have signs : splitSign (sign ++ (decimal ++ (exponent ++ rest))) =
      (sign, decimal ++ (exponent ++ rest)) :=
    splitSign_parts signed
      (splitSign_of_startsDecimal (startsDecimal_append decimal_whole nonempty _))
  have decimals : splitDecimal (decimal ++ (exponent ++ rest)) = (decimal, exponent ++ rest) := by
    by_cases bare : exponent = []
    · rw [bare, List.nil_append]
      exact splitDecimal_append_of_whole decimal_whole stops (ends bare).1
    · have letter := startsDecimal_exponent exponent_whole bare rest
      exact splitDecimal_append_of_whole decimal_whole letter.2 fun _ => letter.1
  have exponents : splitExponent (exponent ++ rest) = (exponent, rest) := by
    by_cases bare : exponent = []
    · have empty := (ends bare).2
      rw [bare, List.nil_append]
      rcases splitExponent_eq rest with same | ⟨marker, sign, digits, -, -, -, -, read, -⟩
      · exact same
      · rw [read] at empty
        cases empty
    · exact splitExponent_append_of_whole exponent_whole bare stops
  simp only [Numeral.text, List.append_assoc, readNumeral?, signs, decimals, exponents]
  simp [nonempty]

/-- What is read is the longest numeral at the start of the text. -/
theorem readNumeral?_eq_some_iff {cs n rest : List Char} :
    readNumeral? cs = some (n, rest) ↔
      ∃ numeral : Numeral, n = numeral.text ∧ cs = n ++ rest ∧ numeral.goesOn rest = false := by
  constructor
  · intro read
    have whole := readNumeral?_append read
    simp only [readNumeral?, List.append_assoc] at read
    split at read
    next => cases read
    next found =>
      obtain ⟨rfl, rfl⟩ := Prod.mk.inj (Option.some.inj read)
      refine ⟨⟨_, _, _, isSign_splitSign cs, splitDecimal_fst _, by simpa using found,
        splitExponent_fst _⟩, rfl, whole.symm, ?_⟩
      have decimal := splitDecimal_stops (splitSign cs).2
      rcases splitExponent_eq (splitDecimal (splitSign cs).2).2 with
        absent | ⟨marker, sign, digits, -, -, -, -, exponent, stops⟩
      · simp only [Numeral.goesOn, absent]
        simpa using decimal
      · simp [Numeral.goesOn, stops, exponent]
  · rintro ⟨numeral, rfl, rfl, ends⟩
    exact readNumeral?_text_append numeral rest ends

/-- A character of a numeral. -/
def isNumeralChar (c : Char) : Bool :=
  isAsciiDigit c || ['+', '-', '.', 'e', 'E'].contains c

/-- A numeral holds digits, signs, a point and the letter of an exponent. -/
theorem Numeral.all_text (numeral : Numeral) : numeral.text.all isNumeralChar := by
  have digits {cs : List Char} (all : cs.all isAsciiDigit) : cs.all isNumeralChar :=
    List.all_eq_true.mpr fun c member => by simp [isNumeralChar, List.all_eq_true.mp all c member]
  have signs {sign : List Char} (whole : isSign sign) : sign.all isNumeralChar := by
    cases sign with
    | nil => rfl
    | cons c cs =>
      rw [isSign, splitSign] at whole
      split at whole
      next sign =>
        obtain ⟨-, empty⟩ := Prod.mk.inj whole
        rw [empty]
        rcases sign with rfl | rfl <;> rfl
      next => cases whole
  obtain ⟨whole, places, digit, more, decimal, -, -⟩ := splitDecimal_eq numeral.decimal
  rw [numeral.decimal_whole] at decimal
  have points : (pointed places).all isNumeralChar := by
    cases places with
    | nil => rfl
    | cons d ds =>
      rw [pointed, List.all_cons, digits more]
      · rfl
      · simp
  have exponents : numeral.exponent.all isNumeralChar := by
    rcases splitExponent_eq numeral.exponent with
      absent | ⟨marker, sign, power, letter, signed, all, -, exponent, -⟩
    · rw [numeral.exponent_whole] at absent
      rw [show numeral.exponent = [] from congrArg Prod.fst absent]
      rfl
    · rw [numeral.exponent_whole] at exponent
      rw [show numeral.exponent = marker :: (sign ++ power) from exponent, List.all_cons,
        List.all_append, signs signed, digits all]
      rcases letter with rfl | rfl <;> rfl
  rw [Numeral.text, List.all_append, List.all_append, signs numeral.sign_whole, exponents,
    show numeral.decimal = whole ++ pointed places from decimal, List.all_append, digits digit,
    points]
  rfl

/-- There is no numeral exactly where there is no digit for it. -/
theorem readNumeral?_eq_none_iff {cs : List Char} :
    readNumeral? cs = none ↔ startsNumeral cs = false := by
  obtain ⟨whole, places, digits, more, read, stops, point⟩ := splitDecimal_eq (splitSign cs).2
  have split := splitDecimal_append (splitSign cs).2
  simp only [readNumeral?, startsNumeral]
  constructor
  · intro absent
    split at absent
    next empty =>
      rw [List.isEmpty_iff] at empty
      rw [empty, List.nil_append] at split
      rw [empty] at read
      have empty_places : places = [] := by
        cases places with
        | nil => rfl
        | cons d ds => simp [pointed] at read
      rw [← split]
      exact point empty_places
    next => cases absent
  · intro absent
    have empty : (splitDecimal (splitSign cs).2).1 = [] := by
      by_contra nonempty
      have start :=
        startsDecimal_append (splitDecimal_fst _) nonempty (splitDecimal (splitSign cs).2).2
      rw [split, absent] at start
      cases start
    rw [empty]
    rfl

end Swatch.Css
