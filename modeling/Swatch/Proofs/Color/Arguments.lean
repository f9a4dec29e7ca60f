import Swatch.Proofs.Color.Spelling

/-!
# Arguments as a walk

The text between the parentheses of a color function is walked through character by character, with
a note of what the last characters were (`Place`). Spelled arguments give a walk
(`tidy_of_argumentsText`), and so does every part of their text (`Tidy.of_append`). What cannot
stand in arguments is a part that no walk goes through: two hyphens, or a hyphen after a digit
(`Tidy.hyphen`), and a second exponent (`Tidy.exponent`).
-/

namespace Swatch

open Text

namespace Color

/-! ## Places -/

/-- What the last characters of an argument were. -/
inductive Place where
  /-- A separator, or nothing. -/
  | start
  | sign
  | digits
  /-- A point, perhaps with digits behind it. -/
  | places
  /-- The letter of an exponent. -/
  | power
  | powerSign
  | powerDigits
  /-- Letters of a unit. -/
  | unit
  | percent
  deriving DecidableEq, Repr

namespace Place

/-- The place after one more character, if it may stand here. -/
def next (place : Place) (c : Char) : Option Place :=
  if isArgumentSeparator c then some start
  else if isDecimalDigit c then
    match place with
    | start | sign | digits => some digits
    | places => some places
    | power | powerSign | powerDigits => some powerDigits
    | unit | percent => none
  else if c = '+' ∨ c = '-' then
    match place with
    | start => some sign
    | power => some powerSign
    | _ => none
  else if c = '.' then
    match place with
    | start | sign | digits => some places
    | _ => none
  else if c = '%' then
    match place with
    | digits | places | powerDigits => some percent
    | _ => none
  else if asciiLower c = 'e' then
    match place with
    | digits | places => some power
    | unit => some unit
    | _ => none
  else if asciiLower c = 'd' then
    match place with
    | digits | places | powerDigits => some unit
    | _ => none
  else if asciiLower c = 'g' then
    match place with
    | unit => some unit
    | _ => none
  else none

/-- The place after a text, if it may stand here. -/
def walk (place : Place) (cs : List Char) : Option Place :=
  cs.foldlM next place

theorem walk_cons (place : Place) (c : Char) (cs : List Char) :
    place.walk (c :: cs) = (place.next c).bind fun after => after.walk cs :=
  List.foldlM_cons

theorem walk_append (place : Place) (front back : List Char) :
    place.walk (front ++ back) = (place.walk front).bind fun after => after.walk back :=
  List.foldlM_append

end Place

/-- The text may stand somewhere in arguments. -/
def Tidy (cs : List Char) : Prop :=
  ∃ place : Place, (place.walk cs).isSome

theorem Tidy.of_append {front middle back : List Char} (tidy : Tidy (front ++ (middle ++ back))) :
    Tidy middle := by
  obtain ⟨place, walk⟩ := tidy
  rw [Place.walk_append, Option.isSome_bind, Option.any_eq_true] at walk
  obtain ⟨here, -, walk⟩ := walk
  rw [Place.walk_append, Option.isSome_bind, Option.any_eq_true] at walk
  obtain ⟨after, own, -⟩ := walk
  exact ⟨here, by rw [own]; rfl⟩

/-! ## Digits -/

namespace Place

/-- The place after a digit. -/
def afterDigit? : Place → Option Place
  | start | sign | digits => some digits
  | places => some places
  | power | powerSign | powerDigits => some powerDigits
  | unit | percent => none

theorem next_digit (place : Place) {c : Char} (digit : isDecimalDigit c) :
    place.next c = place.afterDigit? := by
  unfold next
  rw [if_neg (by rw [not_separator_of_digit digit]; exact Bool.false_ne_true), if_pos digit]
  cases place <;> rfl

/-- A digit behind a digit changes nothing. -/
theorem walk_digits {place : Place} (stays : place.afterDigit? = some place) {cs : List Char}
    (all : cs.all isDecimalDigit) : place.walk cs = some place := by
  induction cs with
  | nil => rfl
  | cons c cs ih =>
    rw [List.all_cons, Bool.and_eq_true] at all
    rw [walk_cons, next_digit place all.1, stays, Option.bind_some, ih all.2]

theorem afterDigit?_idem {place after : Place} (step : place.afterDigit? = some after) :
    after.afterDigit? = some after := by
  cases place <;> cases step <;> rfl

/-- All digits of a run lead where the first one leads. -/
theorem walk_digit_digits {place after : Place} (step : place.afterDigit? = some after) {c : Char}
    {cs : List Char} (digit : isDecimalDigit c) (all : cs.all isDecimalDigit) :
    place.walk (c :: cs) = some after := by
  rw [walk_cons, next_digit place digit, step, Option.bind_some,
    walk_digits (afterDigit?_idem step) all]

end Place

/-! ## What no walk goes through -/

/-- A hyphen stands neither behind a hyphen nor behind a digit. -/
theorem Tidy.hyphen {c : Char} (tidy : Tidy [c, '-']) : c ≠ '-' ∧ isAsciiDigit c = false := by
  obtain ⟨place, walk⟩ := tidy
  rw [Place.walk_cons] at walk
  constructor
  · rintro rfl
    cases place <;> cases walk
  · rw [Bool.eq_false_iff]
    intro digit
    rw [Place.next_digit place (isDecimalDigit_of_isAsciiDigit digit)] at walk
    cases place <;> cases walk

theorem next_exponent {place after : Place} {c : Char} (letter : asciiLower c = 'e')
    (step : place.next c = some after) :
    (after = .power ∧ (place = .digits ∨ place = .places)) ∨ (after = .unit ∧ place = .unit) := by
  rcases eq_of_asciiLower 'E' letter rfl (by decide) with rfl | rfl <;>
    cases place <;> cases step <;> simp

/-- Behind the digits of an exponent there is no other exponent. -/
theorem Tidy.exponent {marker digit other : Char} {digits : List Char}
    (tidy : Tidy (marker :: digit :: (digits ++ [other]))) (letter : asciiLower marker = 'e')
    (first : isAsciiDigit digit) (all : digits.all isAsciiDigit) : asciiLower other ≠ 'e' := by
  intro letter'
  have first := isDecimalDigit_of_isAsciiDigit first
  have all : digits.all isDecimalDigit := List.all_eq_true.mpr fun c member =>
    isDecimalDigit_of_isAsciiDigit (List.all_eq_true.mp all c member)
  obtain ⟨place, walk⟩ := tidy
  rw [Place.walk_cons, Option.isSome_bind, Option.any_eq_true] at walk
  obtain ⟨here, step, walk⟩ := walk
  rw [← List.cons_append, Place.walk_append] at walk
  rcases next_exponent letter step with ⟨rfl, -⟩ | ⟨rfl, -⟩
  · have digits : Place.power.walk (digit :: digits) = some .powerDigits :=
      Place.walk_digit_digits rfl first all
    rw [digits, Option.bind_some, Place.walk_cons, Option.isSome_bind, Option.any_eq_true] at walk
    obtain ⟨after, step, -⟩ := walk
    rcases next_exponent letter' step with ⟨-, same | same⟩ | ⟨-, same⟩ <;> cases same
  · rw [Place.walk_cons, Place.next_digit _ first] at walk
    cases walk

/-! ## Characters of arguments -/

/-- A character that arguments may hold, or another one beyond ASCII. -/
def isArgumentChar (c : Char) : Bool :=
  isBlank c || isAsciiDigit c || [',', '/', '+', '-', '.', '%'].contains c ||
    ['d', 'e', 'g'].contains (asciiLower c) || 0x80 ≤ c.toNat

theorem isArgumentChar_of_next {place after : Place} {c : Char}
    (step : place.next c = some after) : isArgumentChar c = true := by
  unfold Place.next at step
  simp only [isArgumentChar, Bool.or_eq_true, decide_eq_true_eq]
  split at step
  next separator =>
    simp only [isArgumentSeparator, Bool.or_eq_true, beq_iff_eq] at separator
    rcases separator with (blank | rfl) | rfl
    · exact .inl (.inl (.inl (.inl blank)))
    · simp
    · simp
  split at step
  next digit =>
    have all := of_isDecimalDigit (p := fun c => isAsciiDigit c || 0x80 ≤ c.toNat)
      (by decide) digit
    simp only [Bool.or_eq_true, decide_eq_true_eq] at all
    rcases all with ascii | beyond
    · exact .inl (.inl (.inl (.inr ascii)))
    · exact .inr beyond
  split at step
  next sign => rcases sign with rfl | rfl <;> simp
  split at step
  next point => subst point; simp
  split at step
  next percent => subst percent; simp
  split at step
  next letter => simp [letter]
  split at step
  next letter => simp [letter]
  split at step
  next letter => simp [letter]
  next => cases step

theorem Tidy.all {cs : List Char} (tidy : Tidy cs) : cs.all isArgumentChar := by
  obtain ⟨place, walk⟩ := tidy
  induction cs generalizing place with
  | nil => rfl
  | cons c cs ih =>
    rw [Place.walk_cons, Option.isSome_bind, Option.any_eq_true] at walk
    obtain ⟨after, step, walk⟩ := walk
    rw [List.all_cons, isArgumentChar_of_next step, ih after walk]
    rfl

/-! ## Spelled arguments -/

section Walks

variable {cs : List Char}

theorem walk_sign {negative : Bool} (signed : SignText cs negative) :
    ∃ after, Place.start.walk cs = some after ∧ after.afterDigit? = some .digits ∧
      after.next '.' = some .places := by
  cases signed with
  | none => exact ⟨.start, rfl, rfl, rfl⟩
  | plus => exact ⟨.sign, rfl, rfl, rfl⟩
  | minus => exact ⟨.sign, rfl, rfl, rfl⟩

/-- A run of digits that is not empty leads where its first digit leads. -/
theorem walk_run {place after : Place} (step : place.afterDigit? = some after) (nonempty : cs ≠ [])
    (all : cs.all isDecimalDigit) : place.walk cs = Option.some after := by
  cases cs with
  | nil => exact (nonempty rfl).elim
  | cons c digits =>
    rw [List.all_cons, Bool.and_eq_true] at all
    exact Place.walk_digit_digits step all.1 all.2

theorem walk_decimal {whole places : List Char} {place : Place}
    (numeral : DecimalText isDecimalDigit cs whole places)
    (digit : place.afterDigit? = some .digits) (point : place.next '.' = some .places) :
    ∃ after, place.walk cs = some after ∧ (after = .digits ∨ after = .places) := by
  cases numeral with
  | whole nonempty all => exact ⟨.digits, walk_run digit nonempty all, .inl rfl⟩
  | point _ all all' =>
    have places : Place.places.walk places = some .places := Place.walk_digits rfl all'
    refine ⟨.places, ?_, .inr rfl⟩
    rw [Place.walk_append]
    by_cases empty : whole = []
    · rw [empty, Place.walk, List.foldlM_nil, Option.pure_def, Option.bind_some, Place.walk_cons,
        point, Option.bind_some, places]
    · rw [walk_run digit empty all, Option.bind_some, Place.walk_cons]
      exact places

theorem walk_power {power : Int} {place : Place} (scaled : PowerText isDecimalDigit cs power)
    (behind : place = .digits ∨ place = .places) :
    ∃ after, place.walk cs = some after ∧
      (after = .digits ∨ after = .places ∨ after = .powerDigits) := by
  cases scaled with
  | none => exact ⟨place, rfl, behind.imp_right .inl⟩
  | @power marker _ _ _ letter signed nonempty all =>
    have exponent : place.next marker = Option.some .power := by
      rcases eq_of_asciiLower 'E' letter rfl (by decide) with rfl | rfl <;>
        rcases behind with rfl | rfl <;> rfl
    refine ⟨.powerDigits, ?_, .inr (.inr rfl)⟩
    rw [Place.walk_cons, exponent, Option.bind_some, Place.walk_append]
    cases signed with
    | none => exact walk_run rfl nonempty all
    | plus => exact walk_run rfl nonempty all
    | minus => exact walk_run rfl nonempty all

theorem walk_unit {measure : Option Measure} {place : Place} (measured : UnitText cs measure)
    (behind : place = .digits ∨ place = .places ∨ place = .powerDigits) :
    (place.walk cs).isSome := by
  cases measured with
  | none => rfl
  | percent => rcases behind with rfl | rfl | rfl <;> rfl
  | degree letters =>
    obtain ⟨d, ds, rfl, first, letters⟩ := List.map_eq_cons_iff.mp letters
    obtain ⟨e, es, rfl, second, letters⟩ := List.map_eq_cons_iff.mp letters
    obtain ⟨g, rfl, third⟩ := List.map_eq_singleton_iff.mp letters
    rcases eq_of_asciiLower 'D' first rfl (by decide) with rfl | rfl <;>
      rcases eq_of_asciiLower 'E' second rfl (by decide) with rfl | rfl <;>
        rcases eq_of_asciiLower 'G' third rfl (by decide) with rfl | rfl <;>
          rcases behind with rfl | rfl | rfl <;> rfl

theorem walk_argument {argument : Argument} (spelled : ArgumentText isDecimalDigit cs argument) :
    (Place.start.walk cs).isSome := by
  obtain ⟨signed, numeral, scaled, measured⟩ := spelled
  obtain ⟨signPlace, sign, digit, point⟩ := walk_sign signed
  obtain ⟨decimalPlace, decimal, behind⟩ := walk_decimal numeral digit point
  obtain ⟨powerPlace, power, behind⟩ := walk_power scaled behind
  rw [Place.walk_append, sign, Option.bind_some, Place.walk_append, decimal, Option.bind_some,
    Place.walk_append, power, Option.bind_some]
  exact walk_unit measured behind

theorem Place.next_separator (place : Place) {c : Char} (separator : isArgumentSeparator c) :
    place.next c = some .start :=
  if_pos separator

theorem walk_gap (all : cs.all isArgumentSeparator) : Place.start.walk cs = some .start := by
  induction cs with
  | nil => rfl
  | cons c cs ih =>
    rw [List.all_cons, Bool.and_eq_true] at all
    rw [Place.walk_cons, Place.next_separator _ all.1, Option.bind_some, ih all.2]

/-- Behind a separator it does not matter what stood before it. -/
theorem walk_of_stops (stops : cs.head?.all isArgumentSeparator)
    (walk : (Place.start.walk cs).isSome) (place : Place) : (place.walk cs).isSome := by
  cases cs with
  | nil => rfl
  | cons c cs =>
    have separator : isArgumentSeparator c = true := by simpa using stops
    rw [Place.walk_cons, Place.next_separator _ separator] at walk ⊢
    exact walk

/-- Arguments give a walk. -/
theorem tidy_of_argumentsText {arguments : List Argument}
    (spelled : ArgumentsText isDecimalDigit cs arguments) : Tidy cs := by
  refine ⟨.start, ?_⟩
  induction spelled with
  | none all =>
    rw [walk_gap all]
    rfl
  | next all number stops others ih =>
    obtain ⟨after, own⟩ := Option.isSome_iff_exists.mp (walk_argument number)
    rw [Place.walk_append, walk_gap all, Option.bind_some, Place.walk_append, own, Option.bind_some]
    exact walk_of_stops stops ih after

end Walks

end Color

end Swatch
