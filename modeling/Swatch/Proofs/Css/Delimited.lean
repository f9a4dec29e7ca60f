import Swatch.Proofs.Css.Nesting
import Swatch.Proofs.Css.Starts
import Swatch.Proofs.Text.Digits

/-!
# Lexemes that read back

A lexeme that is written reads back as itself when the text after it does not go on with it
(`Lexeme.read_write`). `Lexeme.Valid` says which lexemes this is about: all but strings, addresses
and the few signs that belong together with others. `Lexeme.EndsBefore` says which text does not go
on with a lexeme. The one lexeme that changes is a number whose unit would read as an exponent: its
unit is written by the code of a small letter (`Lexeme.settled`).
-/

namespace Swatch.Css

open Text

/-- The token that is read where this one is written. -/
def Token.settled : Token → Token
  | dimension numeral unit =>
    match unit.toList with
    | 'E' :: rest =>
      if rest.isEmpty || rest.head? == some '-' then
        dimension numeral (String.ofList ('e' :: rest))
      else dimension numeral unit
    | _ => dimension numeral unit
  | token => token

namespace Lexeme

/-! ## Lexemes that are written as they are read -/

/-- A character that is read alone wherever it is not the start of something longer. -/
def isSign (c : Char) : Bool :=
  !isSpace c && !isNameStart c && !isAsciiDigit c && (Bracket.ofOpening? c).isNone &&
    (Bracket.ofClosing? c).isNone && !"\"'\\@<|~^$*".toList.contains c

/-- A character that starts nothing longer is a sign, but for those that belong together with
others. -/
theorem isSign_of_startsNone {c : Char} {cs : List Char} (alone : StartsNone c cs)
    (opens : Bracket.ofOpening? c = none) (closes : Bracket.ofClosing? c = none)
    (special : "\"'\\@<|~^$*".toList.contains c = false) : isSign c := by
  have letter : isNameStart c = false := by
    by_contra start
    rw [Bool.not_eq_false] at start
    have name := alone.name
    rw [startsName_cons_iff.mpr (.inl start)] at name
    cases name
  have digit : isAsciiDigit c = false := by
    by_contra start
    rw [Bool.not_eq_false] at start
    have numeral := alone.numeral
    rw [startsNumeral_cons_iff.mpr (.inl (startsDecimal_cons_iff.mpr (.inl start)))] at numeral
    cases numeral
  simp only [isSign, alone.space, letter, digit, opens, closes, special, Option.isNone_none,
    Bool.not_false, Bool.and_self]

/-- A unit that would read as an exponent although it is written as it is. -/
def isExponentUnit : List Char → Bool
  | c :: d :: _ => (c == 'e' || c == 'E') && isAsciiDigit d
  | _ => false

/-- A lexeme that a text can hold and that is written as it is read. -/
def Valid : Lexeme → Prop
  | token (.whitespace spaces) => spaces.toList ≠ [] ∧ spaces.toList.all isSpace
  | token (.ident name) => name.toList ≠ []
  | token (.atKeyword name) => name.toList ≠ []
  | token (.hash name isIdent) =>
    name.toList ≠ [] ∧ (isIdent = false → startsName (writeName name.toList) = false)
  | token (.number numeral) => ∃ whole : Numeral, numeral.toList = whole.text
  | token (.percentage numeral) => ∃ whole : Numeral, numeral.toList = whole.text
  | token (.dimension numeral unit) =>
    unit.toList ≠ [] ∧ ∃ whole : Numeral, numeral.toList = whole.text ∧
      (whole.exponent = [] → isExponentUnit unit.toList = false)
  | token (.unicodeRange first last) => first < 0x1000000 ∧ last < 0x1000000
  | token (.delim text) => ∃ c, text.toList = [c] ∧ isSign c
  | opening (.function name) => name.toList ≠ [] ∧ asciiLowered name ≠ "url"
  | opening (.bracket _) => True
  | closing _ => True
  | _ => False

/-- The text does not go on with the lexeme. -/
def EndsBefore : Lexeme → List Char → Prop
  | token (.whitespace _), rest => rest.head?.any isSpace = false
  | token (.ident name), rest =>
    endsName rest ∧ rest.head? ≠ some '(' ∧ (name = "--" → rest.head? ≠ some '>') ∧
      (name = "u" ∨ name = "U" → startsRange 'u' rest = false)
  | token (.atKeyword _), rest => endsName rest
  | token (.hash _ _), rest => endsName rest
  | token (.number _), rest =>
    startsName rest = false ∧ startsDecimal rest = false ∧ rest.head? ≠ some '%'
  | token (.dimension _ _), rest => endsName rest
  | token (.unicodeRange _ _), rest =>
    rest.head?.any isHexDigit = false ∧ rest.head? ≠ some '?' ∧
      (rest.head? = some '-' → rest.tail.head?.any isHexDigit = false)
  | token (.delim text), rest =>
    startsName (text.toList ++ rest) = false ∧ startsNumeral (text.toList ++ rest) = false ∧
      (text = "#" → endsName rest) ∧ (text = "/" → rest.head? ≠ some '*')
  | _, _ => True

/-- The lexeme that is read where this one is written. -/
def settled : Lexeme → Lexeme
  | token part => token part.settled
  | lexeme => lexeme

/-- A lexeme is read at the start of a text, up to the rest. -/
def ReadsTo (text : List Char) (lexeme : Lexeme) (rest : List Char) : Prop :=
  ∃ c cs, text = c :: cs ∧ read c cs = (lexeme, rest)

/-! ## Names -/

section Names

variable {name rest : List Char}

/-- A text that starts like a name starts a word, where no range and no hidden part starts. -/
theorem read_of_readName {text : List Char} (start : startsName text)
    (named : readName text = (name, rest))
    (hidden : name = ['-', '-'] → rest.head? ≠ Option.some '>')
    (range : name = ['u'] ∨ name = ['U'] → startsRange 'u' rest = false) :
    ∃ c cs, text = c :: cs ∧ read c cs = readWord (c :: cs) := by
  obtain - | ⟨c, cs⟩ := text
  · cases start
  refine ⟨c, cs, rfl, read_name start ?_ ?_⟩
  · by_contra found
    rw [Bool.not_eq_false] at found
    obtain ⟨letter, d, ds, rfl, -⟩ := startsRange_head found
    have letter_name : isNameChar c := by rcases letter with rfl | rfl <;> rfl
    rw [readName_nameChar letter_name, readName_of_endsName ('+' :: d :: ds) rfl] at named
    obtain ⟨rfl, rfl⟩ := Prod.mk.inj named
    have apart := range (by rcases letter with rfl | rfl <;> simp)
    rcases letter with rfl | rfl
    · rw [apart] at found
      cases found
    · simp_all [startsRange]
  · by_contra found
    rw [Bool.not_eq_false] at found
    obtain ⟨rfl, ds, rfl⟩ := closesHidden_head found
    rw [readName_nameChar rfl, readName_nameChar rfl,
      readName_of_endsName ('>' :: ds) rfl] at named
    obtain ⟨rfl, rfl⟩ := Prod.mk.inj named
    exact hidden rfl rfl

/-- A written name is read up to its end, where no range and no hidden part starts. -/
theorem readsTo_writeIdent (rest : List Char) (nonempty : name ≠ []) (ends : endsName rest)
    (hidden : name = ['-', '-'] → rest.head? ≠ Option.some '>')
    (range : name = ['u'] ∨ name = ['U'] → startsRange 'u' rest = false) :
    ∃ c cs, writeIdent name ++ rest = c :: cs ∧ read c cs = readWord (c :: cs) ∧
      readName (c :: cs) = (name, rest) := by
  have named := readName_writeIdent name rest ends
  obtain ⟨c, cs, written, read⟩ :=
    read_of_readName (startsName_writeIdent nonempty rest) named hidden range
  rw [written] at named
  exact ⟨c, cs, written, read, named⟩

theorem readsTo_ident {name : String} (valid : (token (.ident name)).Valid)
    (ends : (token (.ident name)).EndsBefore rest) :
    ReadsTo (writeIdent name.toList ++ rest) (.token (.ident name)) rest := by
  obtain ⟨ends, round, hidden, range⟩ := ends
  obtain ⟨c, cs, written, read, found⟩ := readsTo_writeIdent rest valid ends
    (fun same => hidden (String.toList_inj.mp same))
    (fun same => range (same.imp String.toList_inj.mp String.toList_inj.mp))
  refine ⟨c, cs, written, ?_⟩
  rw [read, readWord, found]
  cases rest with
  | nil => simp
  | cons d ds =>
    have other : d ≠ '(' := fun same => round (by rw [same]; rfl)
    simp [other]

theorem readsTo_function {name : String} (rest : List Char)
    (valid : (opening (.function name)).Valid) :
    ReadsTo (writeIdent name.toList ++ '(' :: rest) (.opening (.function name)) rest := by
  obtain ⟨nonempty, plain⟩ := valid
  obtain ⟨c, cs, written, read, found⟩ := readsTo_writeIdent ('(' :: rest) nonempty rfl
    (fun _ => by simp) (fun _ => rfl)
  refine ⟨c, cs, written, ?_⟩
  rw [read, readWord, found]
  simp [plain]

theorem readsTo_atKeyword {name : String} (valid : (token (.atKeyword name)).Valid)
    (ends : endsName rest) :
    ReadsTo ('@' :: (writeIdent name.toList ++ rest)) (.token (.atKeyword name)) rest := by
  refine ⟨'@', _, rfl, ?_⟩
  rw [read_signed (.inl rfl), readSigned, if_pos ⟨rfl, startsName_writeIdent valid rest⟩,
    readName_writeIdent _ _ ends]
  simp

/-- More text after an escape does not undo it. -/
theorem isEscape_of_append {cs : List Char} (escape : isEscape (cs ++ rest)) : isEscape cs := by
  cases cs with
  | nil => rfl
  | cons c cs => exact escape

theorem not_escape_of_endsName {c : Char} {cs : List Char} (ends : endsName (c :: cs)) :
    isNameChar c = false ∧ ¬(c = '\\' ∧ isEscape cs = true) := by
  simp only [endsName, Bool.and_eq_true, Bool.not_eq_true', Bool.and_eq_false_imp,
    beq_iff_eq] at ends
  refine ⟨ends.1, fun both => ?_⟩
  rw [ends.2 both.1] at both
  cases both.2

theorem isNameStart_of_isNameChar {c : Char} (other : isNameChar c = false) :
    isNameStart c = false ∧ c ≠ '-' := by
  simp only [isNameChar, Bool.or_eq_false_iff, beq_eq_false_iff_ne] at other
  exact ⟨other.1.1, other.2⟩

/-- A text that starts no name alone starts none before what ends a name. -/
theorem startsName_append_eq_false {cs : List Char} (nonempty : cs ≠ [])
    (unnamed : startsName cs = false) (ends : endsName rest) : startsName (cs ++ rest) = false := by
  cases cs with
  | nil => exact (nonempty rfl).elim
  | cons c cs =>
    rw [Bool.eq_false_iff, ne_eq, startsName_cons_iff] at unnamed
    rw [List.cons_append, Bool.eq_false_iff, ne_eq, startsName_cons_iff]
    rintro (start | ⟨same, escape⟩ | ⟨rfl, d, ds, after, start⟩)
    · exact unnamed (.inl start)
    · exact unnamed (.inr (.inl ⟨same, isEscape_of_append escape⟩))
    · cases cs with
      | nil =>
        rw [List.nil_append] at after
        subst after
        obtain ⟨other, escape⟩ := not_escape_of_endsName ends
        obtain ⟨other, hyphen⟩ := isNameStart_of_isNameChar other
        rcases start with start | same | both
        · rw [other] at start
          cases start
        · exact hyphen same
        · exact escape both
      | cons e es =>
        obtain ⟨rfl, rfl⟩ := List.cons.inj after
        refine unnamed (.inr (.inr ⟨rfl, _, _, rfl, ?_⟩))
        exact start.imp_right (.imp_right (.imp_right isEscape_of_append))

/-- Where a name is read, there is a character of a name or an escape. -/
theorem head_of_readName (body : List Char) (nonempty : (readName body).1 ≠ []) :
    body.head?.any isNameChar ∨ (body.head? = Option.some '\\' ∧ isEscape body.tail) := by
  have goes : ¬endsName body := fun ends => nonempty (by rw [readName_of_endsName _ ends])
  cases body with
  | nil => exact (goes rfl).elim
  | cons c cs =>
    simp only [endsName, Bool.and_eq_true, Bool.not_eq_true', not_and_or, Bool.not_eq_false,
      beq_iff_eq] at goes
    exact goes.imp id fun both => ⟨congrArg Option.some both.1, both.2⟩

theorem readsTo_hash {name : String} {isIdent : Bool} (valid : (token (.hash name isIdent)).Valid)
    (ends : endsName rest) :
    ReadsTo ((token (.hash name isIdent)).write ++ rest) (.token (.hash name isIdent)) rest := by
  obtain ⟨filled, plain⟩ := valid
  have written : ∃ body, (token (.hash name isIdent)).write ++ rest = '#' :: body ∧
      readName body = (name.toList, rest) ∧ startsName body = isIdent := by
    cases isIdent with
    | true => exact ⟨_, rfl, readName_writeIdent _ _ ends, startsName_writeIdent filled rest⟩
    | false =>
      have nonempty : writeName name.toList ≠ [] := by
        intro empty
        have read := readName_writeName name.toList [] rfl
        rw [empty, List.append_nil, readName_of_endsName [] rfl] at read
        exact filled (Prod.mk.inj read).1.symm
      exact ⟨_, rfl, readName_writeName _ _ ends,
        startsName_append_eq_false nonempty (plain rfl) ends⟩
  obtain ⟨body, written, name_read, start⟩ := written
  have named := head_of_readName body (by rwa [name_read])
  refine ⟨'#', body, written, ?_⟩
  rw [read_signed (.inr rfl), readSigned, if_neg (by simp), if_pos ⟨rfl, named⟩, name_read, start]
  simp

end Names

/-! ## Numbers -/

section Numbers

variable {numeral rest : List Char}

theorem head_text (whole : Numeral) (rest : List Char) :
    ∃ c cs, whole.text ++ rest = c :: cs := by
  have nonempty : whole.text ≠ [] := by
    intro empty
    have decimal : whole.decimal = [] := by
      simp only [Numeral.text, List.append_eq_nil_iff] at empty
      exact empty.2.1
    exact whole.decimal_ne_nil decimal
  cases written : whole.text ++ rest with
  | nil => exact (nonempty (List.append_eq_nil_iff.mp written).1).elim
  | cons c cs => exact ⟨c, cs, rfl⟩

/-- A numeral is read with what belongs to it. -/
theorem readsTo_numeral (whole : Numeral) (rest : List Char) (ends : whole.goesOn rest = false) :
    ∃ c cs, whole.text ++ rest = c :: cs ∧
      read c cs = readMeasure (String.ofList whole.text) rest := by
  obtain ⟨c, cs, written⟩ := head_text whole rest
  have found := readNumeral?_text_append whole rest ends
  rw [written] at found
  exact ⟨c, cs, written, read_numeral found⟩

/-- A numeral goes on only with a digit, with a point before one, or with a letter. -/
theorem goesOn_eq_false {whole : Numeral} (decimal : startsDecimal rest = false)
    (exponent : whole.exponent = [] → (splitExponent rest).1 = []) :
    whole.goesOn rest = false := by
  have digit : rest.head?.any isAsciiDigit = false := by
    cases rest with
    | nil => rfl
    | cons c cs =>
      simp only [startsDecimal, Bool.or_eq_false_iff] at decimal
      simpa using decimal.1
  simp only [Numeral.goesOn, digit, decimal, Bool.and_false, Bool.false_or, Bool.and_eq_false_imp,
    List.isEmpty_iff, Bool.not_eq_false']
  exact exponent

theorem splitExponent_of_startsName (unnamed : startsName rest = false) :
    (splitExponent rest).1 = [] := by
  cases rest with
  | nil => rfl
  | cons c cs =>
    rw [splitExponent, if_neg]
    rintro (rfl | rfl) <;> cases unnamed

theorem readsTo_number {numeral : String} (valid : (token (.number numeral)).Valid)
    (ends : (token (.number numeral)).EndsBefore rest) :
    ReadsTo (numeral.toList ++ rest) (.token (.number numeral)) rest := by
  obtain ⟨whole, same⟩ := valid
  obtain ⟨name, decimal, percent⟩ := ends
  obtain ⟨c, cs, written, read⟩ := readsTo_numeral whole rest
    (goesOn_eq_false decimal fun _ => splitExponent_of_startsName name)
  refine ⟨c, cs, by rw [same, written], ?_⟩
  rw [read, readMeasure, if_neg (by simp [name]), ← same, String.ofList_toList]
  rintro rest rfl
  exact percent rfl

theorem readsTo_percentage {numeral : String} (rest : List Char)
    (valid : (token (.percentage numeral)).Valid) :
    ReadsTo (numeral.toList ++ '%' :: rest) (.token (.percentage numeral)) rest := by
  obtain ⟨whole, same⟩ := valid
  obtain ⟨c, cs, written, read⟩ := readsTo_numeral whole ('%' :: rest)
    (goesOn_eq_false rfl fun _ => rfl)
  refine ⟨c, cs, by rw [same, written], ?_⟩
  have unitless : ¬startsName ('%' :: rest) = true := by
    simp [startsName, show isNameStart '%' = false from rfl]
  rw [read, readMeasure, if_neg unitless, ← same, String.ofList_toList]

/-- A unit is written like a name, or with the code of its first letter. -/
theorem writeUnit_eq (unit : List Char) :
    (∃ marker tail, unit = marker :: tail ∧ (marker = 'e' ∨ marker = 'E') ∧
        (tail.isEmpty || tail.head? == some '-') = true ∧
        writeUnit unit = ['\\', '6', '5', ' '] ++ writeName tail) ∨
      (writeUnit unit = writeIdent unit ∧
        ∀ marker tail, unit = marker :: tail → (marker = 'e' ∨ marker = 'E') →
          (tail.isEmpty || tail.head? == some '-') = false) := by
  fun_cases writeUnit unit with
  | case1 tail escaped => exact .inl ⟨_, tail, rfl, .inl rfl, escaped, rfl⟩
  | case2 tail plain =>
    refine .inr ⟨rfl, ?_⟩
    rintro marker tail ⟨rfl, rfl⟩ -
    simpa using plain
  | case3 tail escaped => exact .inl ⟨_, tail, rfl, .inr rfl, escaped, rfl⟩
  | case4 tail plain =>
    refine .inr ⟨rfl, ?_⟩
    rintro marker tail ⟨rfl, rfl⟩ -
    simpa using plain
  | case5 unit small capital =>
    refine .inr ⟨rfl, ?_⟩
    rintro marker tail rfl (rfl | rfl)
    · exact (small _ rfl).elim
    · exact (capital _ rfl).elim

/-- A letter with neither a digit nor a sign behind it is no exponent. -/
theorem splitExponent_cons_cons {marker d : Char} {ds : List Char} (digit : isAsciiDigit d = false)
    (plus : d ≠ '+') (minus : d ≠ '-') : (splitExponent (marker :: d :: ds)).1 = [] := by
  rw [splitExponent]
  split
  next => simp [splitSign, plus, minus, digit]
  next => rfl

theorem head_writeNameStart (c : Char) (rest : List Char) :
    ∃ d ds, writeNameStart c ++ rest = d :: ds ∧ (d = c ∨ d = '\\') := by
  rw [writeNameStart]
  split
  next => exact ⟨c, rest, rfl, .inl rfl⟩
  split
  next => exact ⟨_, _, rfl, .inr rfl⟩
  next =>
    obtain ⟨escaped, backslash, -, -⟩ := writeEscaped_eq c rest
    exact ⟨_, escaped, backslash, .inr rfl⟩

theorem head_writeIdent_eq {name : List Char} (nonempty : name ≠ []) (rest : List Char) :
    ∃ d ds, writeIdent name ++ rest = d :: ds ∧
      (name.head? = Option.some d ∨ d = '\\' ∨ d = '-') := by
  fun_cases writeIdent name with
  | case1 => exact (nonempty rfl).elim
  | case2 => exact ⟨_, _, rfl, .inr (.inl rfl)⟩
  | case3 name => exact ⟨_, _, rfl, .inr (.inr rfl)⟩
  | case4 c name => exact ⟨_, _, rfl, .inr (.inr rfl)⟩
  | case5 c name =>
    obtain ⟨d, ds, written, first⟩ := head_writeNameStart c (writeName name ++ rest)
    refine ⟨d, ds, by rw [List.append_assoc, written], first.imp (fun same => ?_) .inl⟩
    rw [same]
    rfl

/-- A unit that is written like a name does not make the numeral before it longer. -/
theorem splitExponent_writeIdent {unit : List Char} (nonempty : unit ≠ [])
    (plain : isExponentUnit unit = false)
    (same : ∀ marker tail, unit = marker :: tail → (marker = 'e' ∨ marker = 'E') →
      (tail.isEmpty || tail.head? == Option.some '-') = false) (rest : List Char) :
    (splitExponent (writeIdent unit ++ rest)).1 = [] := by
  cases unit with
  | nil => exact (nonempty rfl).elim
  | cons marker tail =>
    by_cases letter : marker = 'e' ∨ marker = 'E'
    · have free := same marker tail rfl letter
      cases tail with
      | nil => cases free
      | cons d ds =>
        have written : writeIdent (marker :: d :: ds) ++ rest =
            marker :: (writeNameChar d ++ (writeName ds ++ rest)) := by
          rcases letter with rfl | rfl <;> simp [writeIdent, writeNameStart, writeName,
            show isNameStart 'e' = true from rfl, show isNameStart 'E' = true from rfl]
        have hyphen : d ≠ '-' := by
          rintro rfl
          cases free
        have digit : isAsciiDigit d = false := by
          rcases letter with rfl | rfl <;> simpa [isExponentUnit] using plain
        rw [written, writeNameChar]
        split
        next name =>
          have plus : d ≠ '+' := by
            rintro rfl
            cases name
          exact splitExponent_cons_cons digit plus hyphen
        next =>
          obtain ⟨escaped, backslash, -, -⟩ := writeEscaped_eq d (writeName ds ++ rest)
          rw [backslash]
          exact splitExponent_cons_cons rfl (by decide) (by decide)
    · obtain ⟨d, ds, written, first⟩ := head_writeIdent_eq nonempty rest
      have other : ¬(d = 'e' ∨ d = 'E') := by
        rcases first with same | rfl | rfl
        · rwa [← Option.some.inj same]
        · decide
        · decide
      rw [written, splitExponent, if_neg other]

/-- A name right after a numeral is its unit. -/
theorem readMeasure_of_startsName {cs : List Char} (start : startsName cs) (numeral : String) :
    readMeasure numeral cs =
      (.token (.dimension numeral (String.ofList (readName cs).1)), (readName cs).2) := by
  unfold readMeasure
  rw [if_pos start]

theorem readsTo_dimension {numeral unit : String}
    (valid : (token (.dimension numeral unit)).Valid) (ends : endsName rest) :
    ReadsTo ((token (.dimension numeral unit)).write ++ rest)
      (token (.dimension numeral unit)).settled rest := by
  obtain ⟨nonempty, whole, same, plain⟩ := valid
  have text : (token (.dimension numeral unit)).write ++ rest =
      whole.text ++ (writeUnit unit.toList ++ rest) := by
    rw [← same, ← List.append_assoc]
    rfl
  rw [text]
  rcases writeUnit_eq unit.toList with
      ⟨marker, tail, unit_eq, letter, escaped, written⟩ | ⟨written, free⟩
  · have code : readName ('\\' :: '6' :: '5' :: ' ' :: (writeName tail ++ rest)) =
        ('e' :: tail, rest) := by
      have digits :=
        readEscape_digits ['6', '5'] (writeName tail ++ rest) rfl (by decide) (by decide)
      have read := readName_escape ('6' :: '5' :: ' ' :: (writeName tail ++ rest)) rfl
      rw [List.cons_append, List.singleton_append] at digits
      rw [digits, readName_writeName _ _ ends] at read
      exact read
    have settled : (token (.dimension numeral unit)).settled =
        token (.dimension numeral (String.ofList ('e' :: tail))) := by
      rcases letter with rfl | rfl
      · have kept : unit = String.ofList ('e' :: tail) := by rw [← unit_eq, String.ofList_toList]
        rw [settled, Token.settled, ← kept]
        simp [unit_eq]
      · simp [settled, Token.settled, unit_eq, escaped]
    obtain ⟨c, cs, head, read⟩ := readsTo_numeral whole
      ('\\' :: '6' :: '5' :: ' ' :: (writeName tail ++ rest))
      (goesOn_eq_false rfl fun _ => rfl)
    refine ⟨c, cs, by simpa [written] using head, ?_⟩
    rw [read, readMeasure_of_startsName rfl, code, settled, ← same, String.ofList_toList]
  · have start := startsName_writeIdent nonempty rest
    have decimal : startsDecimal (writeIdent unit.toList ++ rest) = false := by
      by_contra digit
      rw [Bool.not_eq_false] at digit
      rw [startsName_of_startsDecimal digit] at start
      cases start
    obtain ⟨c, cs, head, read⟩ := readsTo_numeral whole (writeIdent unit.toList ++ rest)
      (goesOn_eq_false decimal fun bare => splitExponent_writeIdent nonempty (plain bare) free rest)
    have settled : (token (.dimension numeral unit)).settled = token (.dimension numeral unit) := by
      rw [settled, Token.settled]
      split
      next tail capital =>
        rw [free _ tail capital (.inr rfl)]
        rfl
      next => rfl
    refine ⟨c, cs, by rw [written, head], ?_⟩
    rw [read, readMeasure_of_startsName start, readName_writeIdent _ _ ends, settled, ← same,
      String.ofList_toList, String.ofList_toList]

end Numbers

/-! ## Signs -/

theorem splitHex_parts {digits rest : List Char} {room : Nat} (all : digits.all isHexDigit)
    (short : digits.length ≤ room) (stops : rest.head?.any isHexDigit = false) :
    splitHex room (digits ++ rest) = (digits, rest) := by
  have whole : ((digits ++ rest).take room).takeWhile isHexDigit = digits := by
    obtain ⟨more, length⟩ : ∃ more, room = digits.length + more := ⟨room - digits.length, by omega⟩
    rw [length, List.take_length_add_append]
    refine takeWhile_run all ?_
    cases rest with
    | nil => simp
    | cons c cs => cases more <;> simp_all
  simp [splitHex, whole]

theorem readsTo_unicodeRange {first last : Nat} {rest : List Char}
    (valid : (token (.unicodeRange first last)).Valid)
    (ends : (token (.unicodeRange first last)).EndsBefore rest) :
    ReadsTo ((token (.unicodeRange first last)).write ++ rest)
      (.token (.unicodeRange first last)) rest := by
  obtain ⟨first_small, last_small⟩ := valid
  obtain ⟨stops, wild, hyphen⟩ := ends
  obtain ⟨tail, tail_eq⟩ : ∃ tail, tail =
      (if first = last then [] else '-' :: writeHex last) ++ rest := ⟨_, rfl⟩
  have text : (token (.unicodeRange first last)).write ++ rest =
      'U' :: '+' :: (writeHex first ++ tail) := by
    rw [tail_eq, ← List.append_assoc]
    rfl
  have tail_stops : tail.head?.any isHexDigit = false ∧ tail.head? ≠ some '?' := by
    by_cases same : first = last
    · simpa [tail_eq, same] using ⟨stops, wild⟩
    · simp [tail_eq, same, show isHexDigit '-' = false from rfl]
  have start : startsRange 'U' ('+' :: (writeHex first ++ tail)) = true := by
    obtain ⟨d, ds, hex, digit⟩ := head_writeHex first
    simp [startsRange, hex, digit]
  have digits := splitHex_parts (all_writeHex first) (length_writeHex_le first_small) tail_stops.1
  have wilds : (tail.take (6 - (writeHex first).length)).takeWhile (· == '?') = [] := by
    cases tail with
    | nil => simp
    | cons c cs =>
      have other : c ≠ '?' := fun same => tail_stops.2 (by rw [same]; rfl)
      cases 6 - (writeHex first).length <;> simp [other]
  refine ⟨'U', _, text, ?_⟩
  rw [read_range start, List.tail_cons, readRange, digits]
  simp only [wilds, List.isEmpty_nil, if_true, hexNumeral_writeHex]
  by_cases same : first = last
  · have tail_rest : tail = rest := by simp [tail_eq, same]
    subst tail_rest same
    split
    next d ds =>
      have other : isHexDigit d = false := by simpa using hyphen rfl
      rw [if_neg (by simp [other])]
    next => rfl
  · obtain ⟨d, ds, hex, digit⟩ := head_writeHex last
    have tail_hyphen : tail = '-' :: d :: (ds ++ rest) := by simp [tail_eq, same, hex]
    have more := splitHex_parts (all_writeHex last) (length_writeHex_le last_small) stops
    rw [hex, List.cons_append] at more
    simp only [tail_hyphen, digit, if_true, more]
    rw [← hex, hexNumeral_writeHex]

theorem readsTo_delim {text : String} {rest : List Char} (valid : (token (.delim text)).Valid)
    (ends : (token (.delim text)).EndsBefore rest) :
    ReadsTo (text.toList ++ rest) (.token (.delim text)) rest := by
  obtain ⟨c, spelled, sign⟩ := valid
  obtain ⟨name, numeral, hash, slash⟩ := ends
  rw [spelled] at name numeral ⊢
  have same : c.toString = text := by
    simp [← String.toList_inj, spelled]
  simp only [isSign, Bool.and_eq_true, Bool.not_eq_true', Option.isNone_iff_eq_none] at sign
  obtain ⟨⟨⟨⟨⟨space, start⟩, digit⟩, opens⟩, closes⟩, special⟩ := sign
  have other (d : Char) (member : "\"'\\@<|~^$*".toList.contains d = true) : c ≠ d := by
    rintro rfl
    rw [member] at special
    cases special
  have startsNone : StartsNone c rest := ⟨space, name, numeral⟩
  refine ⟨c, rest, rfl, ?_⟩
  rw [read_of_startsNone startsNone, opens, closes, ← same]
  by_cases number : c = '#'
  · have plain : ¬(rest.head?.any isNameChar ∨ (rest.head? = some '\\' ∧ isEscape rest.tail)) := by
      have ends := hash (by rw [← same, number]; rfl)
      cases rest with
      | nil => simp
      | cons d ds =>
        obtain ⟨other, escape⟩ := not_escape_of_endsName ends
        simpa [other] using escape
    rw [if_pos (.inr number), readSigned, if_neg (by simp [other '@' rfl]),
      if_neg fun both => plain both.2]
    rfl
  · rw [if_neg (by simp [number, other '@' rfl])]
    simp only []
    rw [if_neg (by simp [other '"' rfl, other '\'' rfl])]
    have symbol : readSymbol c rest = (delim c.toString, rest) := by
      fun_cases readSymbol c rest with
      | case1 rest => exact (slash (by rw [← same]; rfl) rfl).elim
      | case2 rest => exact (other '<' rfl rfl).elim
      | case3 rest => exact (other '|' rfl rfl).elim
      | case4 _ rest double =>
        have member : c = '~' ∨ c = '|' ∨ c = '^' ∨ c = '$' ∨ c = '*' := by simpa using double
        rcases member with rfl | rfl | rfl | rfl | rfl <;> exact (other _ rfl rfl).elim
      | case5 => rfl
      | case6 => rfl
    exact symbol

theorem readsTo_whitespace {spaces : String} {rest : List Char}
    (valid : (token (.whitespace spaces)).Valid)
    (ends : (token (.whitespace spaces)).EndsBefore rest) :
    ReadsTo (spaces.toList ++ rest) (.token (.whitespace spaces)) rest := by
  obtain ⟨nonempty, all⟩ := valid
  cases written : spaces.toList with
  | nil => exact (nonempty written).elim
  | cons c cs =>
    rw [written, List.all_cons, Bool.and_eq_true] at all
    refine ⟨c, cs ++ rest, rfl, ?_⟩
    rw [read_space all.1, takeWhile_run all.2 ends, dropWhile_run all.2 ends, ← written,
      String.ofList_toList]

/-- A lexeme reads back where it ends. -/
theorem readsTo_write {lexeme : Lexeme} {rest : List Char} (valid : lexeme.Valid)
    (ends : lexeme.EndsBefore rest) :
    ReadsTo (lexeme.write ++ rest) lexeme.settled rest := by
  cases lexeme with
  | token part =>
    cases part with
    | whitespace spaces => exact readsTo_whitespace valid ends
    | ident name => exact readsTo_ident valid ends
    | atKeyword name => exact readsTo_atKeyword valid ends
    | hash name isIdent => exact readsTo_hash valid ends
    | number numeral => exact readsTo_number valid ends
    | percentage numeral =>
      have read := readsTo_percentage rest valid
      rw [List.append_cons] at read
      exact read
    | dimension numeral unit => exact readsTo_dimension valid ends
    | unicodeRange first last => exact readsTo_unicodeRange valid ends
    | delim text => exact readsTo_delim valid ends
    | string value closed => exact valid.elim
    | url value closed => exact valid.elim
    | badString => exact valid.elim
    | badUrl => exact valid.elim
    | unmatched bracket => exact valid.elim
  | opening opener =>
    cases opener with
    | function name =>
      have read := readsTo_function rest valid
      rw [List.append_cons] at read
      exact read
    | bracket bracket => exact ⟨_, _, rfl, read_opening bracket rest⟩
  | closing bracket => exact ⟨_, _, rfl, read_closing bracket rest⟩
  | comment => exact valid.elim

theorem settled_ne_comment {lexeme : Lexeme} (valid : lexeme.Valid) :
    lexeme.settled ≠ .comment := by
  cases lexeme with
  | comment => exact valid.elim
  | _ => simp [settled]

end Lexeme

/-- A written lexeme is the first one of a text that does not go on with it. -/
theorem significant_write (lexeme : Lexeme) {rest : List Char} (valid : lexeme.Valid)
    (ends : lexeme.EndsBefore rest) :
    significant (lexeme.write ++ rest) = lexeme.settled :: significant rest := by
  obtain ⟨c, cs, written, read⟩ := Lexeme.readsTo_write valid ends
  rw [written, significant_of_read read (Lexeme.settled_ne_comment valid)]

end Swatch.Css
