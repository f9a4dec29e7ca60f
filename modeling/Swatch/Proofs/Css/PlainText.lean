import Mathlib.Data.List.Basic
import Swatch.Proofs.Css.Rows
import Swatch.Proofs.Css.Stops

/-!
# Plain texts

A plain text holds letters, digits, spaces, round brackets and a few signs, and no address. Each of
its lexemes is spelled by a piece of it (`Spells`), so three things can be read off the text: no two
of its lexemes are read together when they are written again (`apart_of_plain`), and its lexemes
close all groups when its brackets are balanced (`closes_of_balanced`).
-/

namespace Swatch.Css

open Text

/-- A character of a plain text. -/
def isPlain (c : Char) : Bool :=
  isAsciiLetter c || isAsciiDigit c || [' ', '#', '.', '%', '+', '-', ',', '/', '(', ')'].contains c

/-- A text of such characters that holds no address. -/
structure Plain (text : List Char) : Prop where
  chars : text.all isPlain
  free : ¬"url(".toList <:+: text.map asciiLower

theorem isPlain_iff (c : Char) :
    isPlain c = true ↔
      (97 ≤ c.toNat ∧ c.toNat ≤ 122) ∨ (65 ≤ c.toNat ∧ c.toNat ≤ 90) ∨ c.toNat = 32 ∨
        c.toNat = 35 ∨ c.toNat = 37 ∨ c.toNat = 40 ∨ c.toNat = 41 ∨
        (43 ≤ c.toNat ∧ c.toNat ≤ 57) := by
  simp only [isPlain, Bool.or_eq_true, isAsciiLetter_iff, isAsciiDigit_iff, List.contains_iff_mem,
    List.mem_cons, List.not_mem_nil, or_false, char_eq_iff]
  change _ ∨ (c.toNat = 32 ∨ c.toNat = 35 ∨ c.toNat = 46 ∨ c.toNat = 37 ∨ c.toNat = 43 ∨
    c.toNat = 45 ∨ c.toNat = 44 ∨ c.toNat = 47 ∨ c.toNat = 40 ∨ c.toNat = 41) ↔ _
  omega

theorem isCalm_of_isPlain {c : Char} (plain : isPlain c) : isCalm c := by
  rw [isPlain_iff] at plain
  simp only [isCalm, Bool.not_eq_true', ← Bool.not_eq_true, List.contains_iff_mem]
  change ¬c ∈ ['"', '\'', '\\', '*', '!', '|', '=']
  simp only [List.mem_cons, List.not_mem_nil, or_false, char_eq_iff]
  change ¬(c.toNat = 34 ∨ c.toNat = 39 ∨ c.toNat = 92 ∨ c.toNat = 42 ∨ c.toNat = 33 ∨
    c.toNat = 124 ∨ c.toNat = 61)
  omega

namespace Plain

variable {text rest : List Char}

theorem calm (plain : Plain text) : Calm text := by
  refine ⟨List.all_eq_true.mpr fun c member => ?_, plain.free⟩
  exact isCalm_of_isPlain (List.all_eq_true.mp plain.chars c member)

theorem of_suffix (plain : Plain text) (suffix : rest <:+ text) : Plain rest :=
  ⟨List.all_eq_true.mpr fun c member => List.all_eq_true.mp plain.chars c (suffix.subset member),
    (plain.calm.of_suffix suffix).free⟩

theorem backslash (plain : Plain text) : '\\' ∉ text :=
  fun member => plain.calm.ne member rfl rfl

end Plain

/-! ## Spellings -/

/-- A lexeme of a plain text with the piece of the text that it is read from, and the rest. -/
inductive Spells : List Char → Lexeme → List Char → Prop where
  | whitespace {run rest : List Char} (nonempty : run ≠ []) (spaces : run.all isSpace)
    (stops : rest.head?.any isSpace = false) :
    Spells run (.token (.whitespace (String.ofList run))) rest
  | ident {name rest : List Char} (starts : startsName name) (chars : name.all isNameChar)
    (range : name = ['u'] ∨ name = ['U'] → Lexeme.startsRange 'u' rest = false) :
    Spells name (.token (.ident (String.ofList name))) rest
  | function {name rest : List Char} (starts : startsName name) (chars : name.all isNameChar)
    (plain : asciiLowered (String.ofList name) ≠ "url") :
    Spells (name ++ ['(']) (.opening (.function (String.ofList name))) rest
  | number (whole : Numeral) {rest : List Char} (percent : rest.head? ≠ some '%') :
    Spells whole.text (.token (.number (String.ofList whole.text))) rest
  | percentage (whole : Numeral) {rest : List Char} :
    Spells (whole.text ++ ['%']) (.token (.percentage (String.ofList whole.text))) rest
  | dimension (whole : Numeral) {unit rest : List Char} (starts : startsName unit)
    (chars : unit.all isNameChar)
    (exponent : whole.exponent = [] → Lexeme.isExponentUnit unit = false) :
    Spells (whole.text ++ unit)
      (.token (.dimension (String.ofList whole.text) (String.ofList unit))) rest
  | hash {name rest : List Char} (nonempty : name ≠ []) (chars : name.all isNameChar) :
    Spells ('#' :: name) (.token (.hash (String.ofList name) (startsName name))) rest
  | range {u : Char} {digits rest : List Char} {first last : Nat} (letter : u = 'u' ∨ u = 'U')
    (hex : digits.all fun c => isHexDigit c || c == '-')
    (small : first < 0x1000000 ∧ last < 0x1000000) :
    Spells (u :: '+' :: digits) (.token (.unicodeRange first last)) rest
  | round {rest : List Char} : Spells ['('] (.opening (.bracket .round)) rest
  | closing {rest : List Char} : Spells [')'] (.closing .round) rest
  | sign {c : Char} {rest : List Char} (sign : Lexeme.isSign c) (plain : isPlain c)
    (hyphen : c = '-' ∨ c = '#' → rest.head? ≠ some '-') :
    Spells [c] (.token (.delim (String.ofList [c]))) rest

section Pieces

variable {text rest : List Char} {lexeme : Lexeme}

/-- Whether a name starts is decided by the characters of names at the start. -/
theorem startsName_takeWhile {cs : List Char} (plain : '\\' ∉ cs) :
    startsName (cs.takeWhile isNameChar) = startsName cs := by
  cases cs with
  | nil => rfl
  | cons c cs =>
    rw [List.mem_cons, not_or] at plain
    have first : (c == '\\') = false := beq_eq_false_iff_ne.mpr (Ne.symm plain.1)
    rw [List.takeWhile_cons]
    split
    next name =>
      cases cs with
      | nil => rfl
      | cons d ds =>
        rw [List.mem_cons, not_or] at plain
        have second : (d == '\\') = false := beq_eq_false_iff_ne.mpr (Ne.symm plain.2.1)
        rw [List.takeWhile_cons]
        split
        next => simp only [startsName, first, second, Bool.false_and]
        next other =>
          have parts : isNameStart d = false ∧ d ≠ '-' :=
            Lexeme.isNameStart_of_isNameChar (Bool.not_eq_true _ ▸ other)
          simp [startsName, first, second, parts]
    next other =>
      have parts : isNameStart c = false ∧ c ≠ '-' :=
        Lexeme.isNameStart_of_isNameChar (Bool.not_eq_true _ ▸ other)
      simp [startsName, first, parts]

/-- A name of a plain text is its characters. -/
theorem Plain.readName (plain : Plain text) {name : List Char}
    (read : Css.readName text = (name, rest)) :
    text = name ++ rest ∧ name.all isNameChar ∧ startsName name = startsName text := by
  rw [readName_plain plain.backslash] at read
  obtain ⟨rfl, rfl⟩ := Prod.mk.inj read
  exact ⟨List.takeWhile_append_dropWhile.symm, List.all_takeWhile,
    startsName_takeWhile plain.backslash⟩

/-- A unit does not go on with the numeral before it. -/
theorem isExponentUnit_eq_false {whole : Numeral} {unit : List Char}
    (ends : whole.goesOn (unit ++ rest) = false) (bare : whole.exponent = []) :
    Lexeme.isExponentUnit unit = false := by
  by_contra exponent
  rw [Bool.not_eq_false] at exponent
  match unit, exponent with
  | c :: d :: ds, exponent =>
    simp only [Lexeme.isExponentUnit, Bool.and_eq_true, Bool.or_eq_true, beq_iff_eq] at exponent
    obtain ⟨letter, digit⟩ := exponent
    have unsigned : splitSign (d :: (ds ++ rest)) = ([], d :: (ds ++ rest)) :=
      splitSign_of_startsDecimal (startsDecimal_cons_iff.mpr (.inl digit))
    have found : (splitExponent (c :: d :: (ds ++ rest))).1.isEmpty = false := by
      rw [splitExponent, if_pos letter, unsigned]
      simp [digit]
    simp [Numeral.goesOn, bare, found] at ends

theorem isSign_of_isPlain {c : Char} {cs : List Char} (plain : isPlain c)
    (alone : Lexeme.StartsNone c cs) (opens : Bracket.ofOpening? c = none)
    (closes : Bracket.ofClosing? c = none) : Lexeme.isSign c := by
  refine Lexeme.isSign_of_startsNone alone opens closes ?_
  rw [Bool.eq_false_iff, ne_eq, List.contains_iff_mem]
  change ¬c ∈ ['"', '\'', '\\', '@', '<', '|', '~', '^', '$', '*']
  rw [isPlain_iff] at plain
  simp only [List.mem_cons, List.not_mem_nil, or_false, char_eq_iff]
  change ¬(c.toNat = 34 ∨ c.toNat = 39 ∨ c.toNat = 92 ∨ c.toNat = 64 ∨ c.toNat = 60 ∨
    c.toNat = 124 ∨ c.toNat = 126 ∨ c.toNat = 94 ∨ c.toNat = 36 ∨ c.toNat = 42)
  omega

theorem splitHex_spec (room : Nat) (cs : List Char) :
    cs = (Lexeme.splitHex room cs).1 ++ (Lexeme.splitHex room cs).2 ∧
      (Lexeme.splitHex room cs).1.all isHexDigit ∧ (Lexeme.splitHex room cs).1.length ≤ room := by
  have front : (cs.take room).takeWhile isHexDigit <+: cs :=
    (List.takeWhile_prefix _).trans (List.take_prefix _ _)
  obtain ⟨back, whole⟩ := front
  refine ⟨?_, List.all_takeWhile, ?_⟩
  · have dropped : ((cs.take room).takeWhile isHexDigit ++ back).drop
        ((cs.take room).takeWhile isHexDigit).length = back := List.drop_left
    rw [whole] at dropped
    rw [Lexeme.splitHex, dropped, whole]
  · have inner := (List.takeWhile_sublist isHexDigit (l := cs.take room)).length_le
    rw [List.length_take] at inner
    change ((cs.take room).takeWhile isHexDigit).length ≤ room
    omega

/-- A range without question marks is one number or two. -/
theorem readRange_cases {cs : List Char} (plain : '?' ∉ cs) :
    ∃ digits rest, cs = digits ++ rest ∧ digits.all isHexDigit ∧ digits.length ≤ 6 ∧
      (Lexeme.readRange cs =
          (.token (.unicodeRange (hexNumeral digits) (hexNumeral digits)), rest) ∨
        ∃ last after, rest = '-' :: (last ++ after) ∧ last.all isHexDigit ∧ last.length ≤ 6 ∧
          Lexeme.readRange cs =
            (.token (.unicodeRange (hexNumeral digits) (hexNumeral last)), after)) := by
  obtain ⟨digits, rest, found⟩ :
      ∃ digits rest, Lexeme.splitHex 6 cs = (digits, rest) := ⟨_, _, rfl⟩
  obtain ⟨whole, hex, short⟩ := splitHex_spec 6 cs
  rw [found] at whole hex short
  refine ⟨digits, rest, whole, hex, short, ?_⟩
  have wild : (rest.take (6 - digits.length)).takeWhile (· == '?') = [] := by
    rw [List.eq_nil_iff_forall_not_mem]
    intro c member
    have mark : c = '?' := by simpa using List.mem_takeWhile_imp member
    have later : c ∈ rest := List.mem_of_mem_take ((List.takeWhile_sublist _).subset member)
    exact plain (mark ▸ whole ▸ List.mem_append_right _ later)
  unfold Lexeme.readRange
  rw [found]
  simp only [wild, List.isEmpty_nil, if_true]
  split
  next d ds =>
    split
    next digit =>
      obtain ⟨last, more, small⟩ := splitHex_spec 6 (d :: ds)
      exact .inr ⟨_, _, congrArg _ last, more, small, rfl⟩
    next => exact .inl rfl
  next => exact .inl rfl

theorem spells_range {c : Char} {cs : List Char} (plain : Plain (c :: cs))
    (start : Lexeme.startsRange c cs) :
    ∃ piece, c :: cs = piece ++ (Lexeme.readRange cs.tail).2 ∧
      Spells piece (Lexeme.readRange cs.tail).1 (Lexeme.readRange cs.tail).2 := by
  obtain ⟨letter, d, ds, rfl, hex⟩ := startsRange_head start
  have wild : '?' ∉ d :: ds := fun member => by
    have other := List.all_eq_true.mp plain.chars '?' (by simp [member])
    cases other
  have spelled {digits : List Char} (all : digits.all isHexDigit) :
      digits.all (fun c => isHexDigit c || c == '-') :=
    List.all_eq_true.mpr fun e member => by simp [List.all_eq_true.mp all e member]
  obtain ⟨digits, rest, whole, all, short, one | ⟨last, after, more, all', short', two⟩⟩ :=
    readRange_cases wild
  · rw [List.tail_cons, one]
    exact ⟨c :: '+' :: digits, by rw [whole]; rfl,
      .range letter (spelled all) ⟨hexNumeral_lt short, hexNumeral_lt short⟩⟩
  · rw [List.tail_cons, two]
    refine ⟨c :: '+' :: (digits ++ '-' :: last), by rw [whole, more]; simp,
      .range letter ?_ ⟨hexNumeral_lt short, hexNumeral_lt short'⟩⟩
    rw [List.all_append, List.all_cons, spelled all, spelled all']
    rfl

/-- The unit of a plain text is its characters, and none of the numeral before it. -/
theorem spells_dimension {numeral after : List Char} (plain : Plain text)
    (found : readNumeral? text = some (numeral, after)) (start : startsName after) :
    ∃ piece, text = piece ++ (Css.readName after).2 ∧
      Spells piece
        (.token (.dimension (String.ofList numeral) (String.ofList (Css.readName after).1)))
        (Css.readName after).2 := by
  obtain ⟨whole, rfl, text, ends⟩ := readNumeral?_eq_some_iff.mp found
  have later : Plain after := plain.of_suffix ⟨whole.text, text.symm⟩
  obtain ⟨unit, chars, starts⟩ := later.readName (Prod.eta _).symm
  refine ⟨whole.text ++ (Css.readName after).1, ?_, .dimension whole (starts.trans start) chars ?_⟩
  · rw [List.append_assoc, ← unit, text]
  · rw [unit] at ends
    exact isExponentUnit_eq_false ends

/-- A number sign goes on with a character of a name: there is no escape in a plain text. -/
theorem spells_hash {cs : List Char} (plain : Plain ('#' :: cs)) (named : ¬endsName cs) :
    ∃ piece, '#' :: cs = piece ++ (Css.readName cs).2 ∧
      Spells piece (.token (.hash (String.ofList (Css.readName cs).1) (startsName cs)))
        (Css.readName cs).2 := by
  have later : Plain cs := plain.of_suffix (List.suffix_cons _ _)
  obtain ⟨name, chars, starts⟩ := later.readName (Prod.eta _).symm
  refine ⟨'#' :: (Css.readName cs).1, by rw [List.cons_append, ← name], ?_⟩
  rw [← starts]
  refine .hash (fun empty => named ?_) chars
  rw [readName_plain later.backslash] at empty
  cases cs with
  | nil => rfl
  | cons d ds =>
    have other : ¬isNameChar d := fun member => by simp [member] at empty
    have escape : d ≠ '\\' := by
      rintro rfl
      exact later.backslash List.mem_cons_self
    simp [endsName, other, escape]

/-- A hyphen behind a hyphen or a number sign would have been taken for the start of a name. -/
theorem spells_sign {c : Char} {cs : List Char} (plain : isPlain c)
    (alone : Lexeme.StartsNone c cs) (opens : Bracket.ofOpening? c = none)
    (closes : Bracket.ofClosing? c = none) (number : c = '#' → endsName cs) :
    Spells [c] (.token (.delim c.toString)) cs := by
  have same : c.toString = String.ofList [c] := rfl
  rw [same]
  refine .sign (isSign_of_isPlain plain alone opens closes) plain fun special hyphen => ?_
  cases cs with
  | nil => cases hyphen
  | cons d ds =>
    rcases special with rfl | rfl
    · have name := alone.name
      rw [Option.some.inj hyphen] at name
      cases name
    · have ends := number rfl
      rw [Option.some.inj hyphen] at ends
      cases ends

/-- What is read at the start of a plain text is spelled by a piece of it. -/
theorem Reading.spells (reading : Reading text lexeme rest) (plain : Plain text) :
    ∃ piece, text = piece ++ rest ∧ Spells piece lexeme rest := by
  have other {c : Char} (member : c ∈ text) : isPlain c :=
    List.all_eq_true.mp plain.chars c member
  cases reading with
  | whitespace space =>
    rename_i c cs
    refine ⟨c :: cs.takeWhile isSpace, ?_, .whitespace (by simp) ?_ (head?_dropWhile isSpace cs)⟩
    · rw [List.cons_append, List.takeWhile_append_dropWhile]
    · rw [List.all_cons, space, List.all_takeWhile, Bool.true_and]
  | range start => exact spells_range plain start
  | ident start range hidden read round =>
    obtain ⟨whole, chars, starts⟩ := plain.readName read
    refine ⟨_, whole, .ident (starts.trans start) chars fun letter => ?_⟩
    rcases letter with rfl | rfl
    all_goals
      obtain ⟨rfl, rfl⟩ := List.cons.inj whole
      exact range
  | function start range hidden read address =>
    obtain ⟨whole, chars, starts⟩ := plain.readName read
    refine ⟨_, ?_, .function (starts.trans start) chars (plain.calm.ne_url read)⟩
    rw [whole, List.append_assoc]
    rfl
  | url read address => exact (plain.calm.ne_url read address).elim
  | dimension found start => exact spells_dimension plain found start
  | percentage found =>
    obtain ⟨whole, rfl, text, -⟩ := readNumeral?_eq_some_iff.mp found
    refine ⟨whole.text ++ ['%'], ?_, .percentage whole⟩
    rw [text, List.append_assoc]
    rfl
  | number found name percent =>
    obtain ⟨whole, rfl, text, -⟩ := readNumeral?_eq_some_iff.mp found
    exact ⟨whole.text, text, .number whole percent⟩
  | atKeyword start => cases other List.mem_cons_self
  | hash named => exact spells_hash plain named
  | opening bracket cs =>
    cases bracket with
    | round => exact ⟨['('], rfl, .round⟩
    | square => cases other List.mem_cons_self
    | curly => cases other List.mem_cons_self
  | closing bracket cs =>
    cases bracket with
    | round => exact ⟨[')'], rfl, .closing⟩
    | square => cases other List.mem_cons_self
    | curly => cases other List.mem_cons_self
  | quoted isQuote cs => rcases isQuote with rfl | rfl <;> cases other List.mem_cons_self
  | comment cs => cases other (List.mem_cons_of_mem _ List.mem_cons_self)
  | sign alone opens closes quote number slash =>
    exact ⟨_, rfl, spells_sign (other List.mem_cons_self) alone opens closes number⟩
  | signs longer mark =>
    subst longer
    rcases mark with ⟨-, hidden⟩ | rfl | rfl | rfl | rfl | rfl | rfl
    · cases other (List.mem_append_left _ (List.mem_cons_of_mem _ (List.mem_cons_of_mem _ hidden)))
    all_goals cases other (List.mem_append_left _ List.mem_cons_self)

theorem text_ne_nil (whole : Numeral) : whole.text ≠ [] := by
  intro empty
  obtain ⟨c, cs, head⟩ := Lexeme.head_text whole []
  rw [empty] at head
  cases head

theorem Spells.ne_nil {piece : List Char} (spells : Spells piece lexeme rest) : piece ≠ [] := by
  cases spells with
  | whitespace nonempty spaces stops => exact nonempty
  | ident starts chars range =>
    rintro rfl
    cases starts
  | number whole percent => exact text_ne_nil whole
  | dimension whole starts chars exponent =>
    exact fun empty => text_ne_nil whole (List.append_eq_nil_iff.mp empty).1
  | _ => simp

theorem Spells.ne_comment {piece : List Char} (spells : Spells piece lexeme rest) :
    lexeme ≠ .comment := by
  cases spells <;> simp

/-- The first lexeme of a plain text. -/
theorem Plain.significant {c : Char} {cs : List Char} (plain : Plain (c :: cs)) :
    ∃ piece lexeme rest, c :: cs = piece ++ rest ∧ Spells piece lexeme rest ∧
      rest.length ≤ cs.length ∧ Plain rest ∧
      Css.significant (c :: cs) = lexeme :: Css.significant rest := by
  have reading := reading_read c cs
  obtain ⟨piece, whole, spells⟩ := reading.spells plain
  exact ⟨piece, _, _, whole, spells, Lexeme.length_read_le c cs,
    plain.of_suffix (reading.suffix), significant_of_read rfl spells.ne_comment⟩

/-! ## Written again -/

/-- The lexemes of a plain text can be read back. -/
theorem Spells.valid {piece : List Char} (spells : Spells piece lexeme rest) : lexeme.Valid := by
  have name {letters : List Char} (starts : startsName letters) :
      (String.ofList letters).toList ≠ [] := by
    rw [String.toList_ofList]
    rintro rfl
    cases starts
  cases spells with
  | whitespace nonempty spaces stops => exact ⟨by simpa using nonempty, by simpa using spaces⟩
  | ident starts chars range => exact name starts
  | function starts chars plain => exact ⟨name starts, plain⟩
  | number whole percent => exact ⟨whole, String.toList_ofList⟩
  | percentage whole => exact ⟨whole, String.toList_ofList⟩
  | dimension whole starts chars exponent =>
    refine ⟨name starts, whole, String.toList_ofList, fun bare => ?_⟩
    rw [String.toList_ofList]
    exact exponent bare
  | hash nonempty chars =>
    refine ⟨by simpa using nonempty, fun noName => ?_⟩
    rw [String.toList_ofList, writeName_plain chars]
    exact noName
  | range letter hex small => exact small
  | round => trivial
  | closing => trivial
  | sign sign plain hyphen => exact ⟨_, String.toList_ofList, sign⟩

/-- A lexeme of a plain text is written as the piece that it was read from, but for a range and for
a unit that is written by a code. -/
theorem Spells.write_cases {piece : List Char} (spells : Spells piece lexeme rest) :
    lexeme.write = piece ∨
      (∃ first last, lexeme = .token (.unicodeRange first last)) ∨
      ∃ (whole : Numeral) (marker : Char) (tail : List Char),
        piece = whole.text ++ marker :: tail ∧ (marker = 'e' ∨ marker = 'E') ∧
        (tail.isEmpty || tail.head? == some '-') = true ∧
        lexeme = .token
          (.dimension (String.ofList whole.text) (String.ofList (marker :: tail))) ∧
        lexeme.write = whole.text ++ '\\' :: '6' :: '5' :: ' ' :: tail := by
  cases spells with
  | whitespace nonempty spaces stops => exact .inl String.toList_ofList
  | ident starts chars range =>
    left
    change writeIdent (String.ofList piece).toList = piece
    rw [String.toList_ofList, writeIdent_plain starts chars]
  | function starts chars plain =>
    rename_i name
    left
    change writeIdent (String.ofList name).toList ++ ['('] = name ++ ['(']
    rw [String.toList_ofList, writeIdent_plain starts chars]
  | number whole percent => exact .inl String.toList_ofList
  | percentage whole =>
    left
    change (String.ofList whole.text).toList ++ ['%'] = whole.text ++ ['%']
    rw [String.toList_ofList]
  | dimension whole starts chars exponent =>
    rename_i unit
    have text : (Lexeme.token (.dimension (String.ofList whole.text) (String.ofList unit))).write =
        whole.text ++ writeUnit unit := by
      change (String.ofList whole.text).toList ++ writeUnit (String.ofList unit).toList = _
      rw [String.toList_ofList, String.toList_ofList]
    rw [text]
    rcases Lexeme.writeUnit_eq unit with
        ⟨marker, tail, rfl, letter, escaped, written⟩ | ⟨written, -⟩
    · rw [List.all_cons, Bool.and_eq_true] at chars
      refine .inr (.inr ⟨whole, marker, tail, rfl, letter, escaped, rfl, ?_⟩)
      rw [written, writeName_plain chars.2]
      rfl
    · rw [written, writeIdent_plain starts chars]
      exact .inl rfl
  | hash nonempty chars =>
    rename_i name
    left
    change '#' :: (if startsName name then writeIdent (String.ofList name).toList
      else writeName (String.ofList name).toList) = '#' :: name
    rw [String.toList_ofList]
    split
    next starts => rw [writeIdent_plain starts chars]
    next => rw [writeName_plain chars]
  | range letter hex small => exact .inr (.inl ⟨_, _, rfl⟩)
  | round => exact .inl rfl
  | closing => exact .inl rfl
  | sign sign plain hyphen => exact .inl String.toList_ofList

/-- It is written with the first character that it was read from, but for the letter of a range. -/
theorem Spells.head_write {piece : List Char} (spells : Spells piece lexeme rest)
    (after : List Char) :
    (lexeme.write ++ after).head? = piece.head? ∨ (lexeme.write ++ after).head? = some 'U' := by
  rcases spells.write_cases with
    same | ⟨first, last, rfl⟩ | ⟨whole, marker, tail, rfl, -, -, -, written⟩
  · rw [same, List.head?_append_of_ne_nil _ spells.ne_nil]
    exact .inl rfl
  · exact .inr rfl
  · rw [written, List.append_assoc, List.head?_append_of_ne_nil _ (text_ne_nil whole),
      List.head?_append_of_ne_nil _ (text_ne_nil whole)]
    exact .inl rfl

/-- The lexemes of a plain text after a plus sign make no range of what stands before it. -/
theorem Plain.not_goesOnRange (plain : Plain rest)
    (free : rest.head?.any (fun d => isHexDigit d || d == '?') = false) :
    ¬Lexeme.GoesOnRange (Css.significant rest) := by
  rintro ⟨d, ds, written, hex⟩
  have goes : (d :: ds).head?.any (fun d => isHexDigit d || d == '?') = true := by
    simpa using hex
  rw [← written] at goes
  cases rest with
  | nil =>
    rw [significant_nil, writeRow] at goes
    cases goes
  | cons c cs =>
    obtain ⟨piece, lexeme, rest, whole, spells, -, -, read⟩ := plain.significant
    rw [read, writeRow, List.append_assoc] at goes
    have plus : some (Kind.delim "+") ≠ some (.delim "\\") := by simp
    rcases Lexeme.gap_cases plus lexeme with gap | ⟨gap, -⟩
    · rw [gap] at goes
      cases goes
    · rw [gap, List.nil_append] at goes
      rcases spells.head_write (writeRow lexeme.kindBefore (Css.significant rest)) with own | range
      · rw [own, ← List.head?_append_of_ne_nil _ spells.ne_nil, ← whole, free] at goes
        cases goes
      · rw [range] at goes
        cases goes

theorem Spells.of_whitespace {piece : List Char} (spells : Spells piece lexeme rest)
    {run : String} (same : lexeme = .token (.whitespace run)) :
    piece.head?.any isSpace ∧ rest.head?.any isSpace = false := by
  cases spells <;> cases same
  rename_i nonempty spaces stops
  refine ⟨?_, stops⟩
  cases piece with
  | nil => exact (nonempty rfl).elim
  | cons c cs =>
    rw [List.all_cons, Bool.and_eq_true] at spaces
    exact spaces.1

theorem Spells.of_delim {piece : List Char} (spells : Spells piece lexeme rest)
    {text : String} (same : lexeme = .token (.delim text)) :
    piece = text.toList ∧ piece.all isPlain ∧
      (text = "-" ∨ text = "#" → rest.head? ≠ some '-') := by
  cases spells <;> cases same
  rename_i c sign plain hyphen
  refine ⟨String.toList_ofList.symm, by simpa using plain, fun special => hyphen ?_⟩
  refine special.imp (fun same => ?_) (fun same => ?_)
  all_goals
    have letters := congrArg String.toList same
    rw [String.toList_ofList] at letters
    exact List.singleton_inj.mp letters

theorem Spells.of_number {piece : List Char} (spells : Spells piece lexeme rest)
    (kind : lexeme.kind = .number) : rest.head? ≠ some '%' := by
  cases spells <;> try cases kind
  assumption

theorem Spells.of_ident {piece : List Char} (spells : Spells piece lexeme rest)
    {name : String} (same : lexeme = .token (.ident name)) (letter : name = "u" ∨ name = "U") :
    Lexeme.startsRange 'u' rest = false := by
  cases spells <;> cases same
  rename_i range
  refine range (letter.imp (fun same => ?_) (fun same => ?_))
  all_goals
    have letters := congrArg String.toList same
    rw [String.toList_ofList] at letters
    exact letters

/-- A lexeme of a plain text is not read together with the ones that are written after it. -/
theorem Spells.not_fuses {piece : List Char} (spells : Spells piece lexeme rest)
    (plain : Plain rest) : ¬lexeme.Fuses (Css.significant rest) := by
  cases rest with
  | nil =>
    rw [significant_nil]
    exact id
  | cons d ds =>
    obtain ⟨own, next, after, whole, follows, -, later, read⟩ := plain.significant
    have sign {text : String} (kind : next.kind = .delim text) :
        own = text.toList ∧ own.all isPlain := by
      obtain ⟨piece, chars, -⟩ := follows.of_delim (Lexeme.eq_of_kind_delim kind)
      exact ⟨piece, chars⟩
    rw [read]
    rintro (⟨spaces, more, first, second⟩ | ⟨number, percent⟩ | ⟨special, hyphen⟩ |
      ⟨first, hidden⟩ | ⟨letter, plus, range⟩)
    · have stops := (spells.of_whitespace first).2
      rw [whole, List.head?_append_of_ne_nil _ follows.ne_nil,
        (follows.of_whitespace second).1] at stops
      cases stops
    · obtain ⟨rfl, -⟩ := sign percent
      exact spells.of_number number (by rw [whole]; rfl)
    · obtain ⟨rfl, -⟩ := sign hyphen
      rcases special with same | same
      · have stops := (spells.of_delim (Lexeme.eq_of_kind_delim same)).2.2 (.inl rfl)
        exact stops (by rw [whole]; rfl)
      · have stops := (spells.of_delim (Lexeme.eq_of_kind_delim same)).2.2 (.inr rfl)
        exact stops (by rw [whole]; rfl)
    · obtain ⟨rfl, chars⟩ := sign hidden
      cases chars
    · obtain ⟨rfl, -⟩ := sign plus
      refine later.not_goesOnRange ?_ range
      have stops : Lexeme.startsRange 'u' (d :: ds) = false := by
        rcases letter with same | same
        · exact spells.of_ident same (.inl rfl)
        · exact spells.of_ident same (.inr rfl)
      rw [whole] at stops
      cases after with
      | nil => rfl
      | cons e es => exact stops

/-- No two lexemes of a plain text are read together when they are written again. -/
theorem apart_of_plain {text : List Char} (plain : Plain text) : Apart (significant text) := by
  induction length : text.length using Nat.strong_induction_on generalizing text with
  | _ n ih =>
    cases text with
    | nil =>
      rw [significant_nil]
      trivial
    | cons c cs =>
      obtain ⟨piece, lexeme, rest, -, spells, shorter, later, read⟩ := plain.significant
      rw [read]
      refine ⟨spells.valid, spells.not_fuses later, ih _ ?_ later rfl⟩
      rw [← length]
      exact Nat.lt_succ_of_le shorter

end Pieces

/-! ## Balanced brackets -/

/-- The text closes as many round brackets as it opens and as are open already, each after it is
opened. -/
def Balanced : Nat → List Char → Prop
  | depth, [] => depth = 0
  | depth, c :: cs =>
    if c = '(' then Balanced (depth + 1) cs
    else if c = ')' then 0 < depth ∧ Balanced (depth - 1) cs
    else Balanced depth cs

/-- A text is balanced when no prefix of it closes more than it opens, and all of it as much. -/
theorem balanced_of_prefixes {text : List Char} {depth : Nat}
    (prefixes : ∀ front, front <+: text → front.count ')' ≤ depth + front.count '(')
    (whole : text.count ')' = depth + text.count '(') : Balanced depth text := by
  induction text generalizing depth with
  | nil =>
    rw [List.count_nil, List.count_nil, Nat.add_zero] at whole
    exact whole.symm
  | cons c cs ih =>
    have inner (front : List Char) (start : front <+: cs) :=
      prefixes (c :: front) ((List.prefix_cons_inj c).mpr start)
    rw [Balanced]
    split
    next opens =>
      subst opens
      refine ih (fun front start => ?_) ?_
      · have bound := inner front start
        simp at bound
        omega
      · simp at whole
        omega
    split
    next closes =>
      subst closes
      have first := prefixes [')'] (by simp)
      simp at first
      refine ⟨first, ih (fun front start => ?_) ?_⟩
      · have bound := inner front start
        simp at bound
        omega
      · simp at whole
        omega
    next opens closes =>
      refine ih (fun front start => ?_) ?_
      · have bound := inner front start
        simpa [List.count_cons, opens, closes] using bound
      · simpa [List.count_cons, opens, closes] using whole

theorem balanced_append {piece rest : List Char} {depth : Nat}
    (free : ∀ c ∈ piece, c ≠ '(' ∧ c ≠ ')') :
    Balanced depth (piece ++ rest) ↔ Balanced depth rest := by
  induction piece with
  | nil => rfl
  | cons c cs ih =>
    obtain ⟨opens, closes⟩ := free c List.mem_cons_self
    rw [List.cons_append, Balanced, if_neg opens, if_neg closes]
    exact ih fun d member => free d (List.mem_cons_of_mem c member)

theorem not_bracket_of_all {p : Char → Bool} {piece : List Char} (all : piece.all p)
    (opens : p '(' = false) (closes : p ')' = false) : ∀ c ∈ piece, c ≠ '(' ∧ c ≠ ')' := by
  intro c member
  have own := List.all_eq_true.mp all c member
  constructor
  · rintro rfl
    rw [opens] at own
    cases own
  · rintro rfl
    rw [closes] at own
    cases own

/-- A lexeme of a balanced text closes what its piece closes. -/
theorem Spells.closes {piece rest : List Char} {lexeme : Lexeme} {depth : Nat} {row : List Lexeme}
    (spells : Spells piece lexeme rest) (balanced : Balanced depth (piece ++ rest))
    (inner : ∀ depth, Balanced depth rest → Component.Closes (List.replicate depth .round) row) :
    Component.Closes (List.replicate depth .round) (lexeme :: row) := by
  have name {name : List Char} (chars : name.all isNameChar) :=
    not_bracket_of_all chars rfl rfl
  have numeral (whole : Numeral) := not_bracket_of_all whole.all_text rfl rfl
  have token (free : ∀ c ∈ piece, c ≠ '(' ∧ c ≠ ')') :
      Component.Closes (List.replicate depth .round) row :=
    inner depth ((balanced_append free).mp balanced)
  cases spells with
  | whitespace nonempty spaces stops => exact token (not_bracket_of_all spaces rfl rfl)
  | ident starts chars range => exact token (name chars)
  | function starts chars plain =>
    rw [List.append_assoc, balanced_append (name chars)] at balanced
    have deeper := inner (depth + 1) balanced
    rw [List.replicate_succ] at deeper
    exact deeper
  | number whole percent => exact token (numeral whole)
  | percentage whole =>
    rw [List.append_assoc, balanced_append (numeral whole)] at balanced
    exact inner depth balanced
  | dimension whole starts chars exponent =>
    rw [List.append_assoc, balanced_append (numeral whole),
      balanced_append (name chars)] at balanced
    exact inner depth balanced
  | hash nonempty chars =>
    rw [List.cons_append, Balanced, if_neg (by decide), if_neg (by decide),
      balanced_append (name chars)] at balanced
    exact inner depth balanced
  | range letter hex small =>
    have digits := not_bracket_of_all hex rfl rfl
    refine token fun c member => ?_
    rcases List.mem_cons.mp member with rfl | later
    · rcases letter with rfl | rfl <;> decide
    rcases List.mem_cons.mp later with rfl | later
    · decide
    · exact digits c later
  | round =>
    have deeper := inner (depth + 1) balanced
    rw [List.replicate_succ] at deeper
    exact deeper
  | closing =>
    obtain ⟨positive, outer⟩ : 0 < depth ∧ Balanced (depth - 1) rest := balanced
    obtain ⟨less, same⟩ : ∃ less, depth = less + 1 := ⟨depth - 1, by omega⟩
    rw [same, Nat.add_sub_cancel] at outer
    rw [same, List.replicate_succ]
    exact ⟨rfl, inner less outer⟩
  | sign sign plain hyphen =>
    refine token fun c member => ?_
    rw [List.mem_singleton.mp member]
    constructor
    · rintro rfl
      cases sign
    · rintro rfl
      cases sign

/-- The lexemes of a balanced text close all that they open and all that is open already. -/
theorem closes_of_balanced {text : List Char} {depth : Nat} (plain : Plain text)
    (balanced : Balanced depth text) :
    Component.Closes (List.replicate depth .round) (significant text) := by
  induction length : text.length using Nat.strong_induction_on generalizing text depth with
  | _ n ih =>
    cases text with
    | nil =>
      have outermost : depth = 0 := balanced
      rw [significant_nil, outermost]
      rfl
    | cons c cs =>
      obtain ⟨piece, lexeme, rest, whole, spells, shorter, later, read⟩ := plain.significant
      rw [whole] at balanced
      rw [read]
      refine spells.closes balanced fun depth balanced => ih _ ?_ later balanced rfl
      rw [← length]
      exact Nat.lt_succ_of_le shorter

end Swatch.Css
