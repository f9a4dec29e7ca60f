import Swatch.Proofs.Css.Delimited

/-!
# Rows of lexemes that read back

Writing puts a comment between two lexemes of kinds that must not stand together. That is enough for
all but a few pairs, which are read together although nothing is put between them
(`Lexeme.Fuses`). A row without such pairs (`Apart`) is read back lexeme by lexeme
(`significant_writeRow`), because each of its lexemes ends where it is written to end
(`readable_of_apart`).
-/

namespace Swatch.Css

open Text

/-! ## Starts of written lexemes -/

/-- How the text of a lexeme starts. -/
inductive Lexeme.Start : Lexeme → List Char → Prop where
  | name {lexeme : Lexeme} {text : List Char}
      (kind : lexeme.kind = .ident ∨ lexeme.kind = .function)
    (start : startsName text) : Start lexeme text
  | numeral {lexeme : Lexeme} {text : List Char} (kind : lexeme.kind ∈ Kind.numerals)
    (start : startsNumeral text) : Start lexeme text
  | range {lexeme : Lexeme} {cs : List Char} (kind : lexeme.kind = .unicodeRange) :
    Start lexeme ('U' :: '+' :: cs)
  | whitespace {spaces : String} {c : Char} {cs : List Char} (space : isSpace c) :
    Start (.token (.whitespace spaces)) (c :: cs)
  | round {cs : List Char} : Start (.opening (.bracket .round)) ('(' :: cs)
  | mark {lexeme : Lexeme} {c : Char} {cs : List Char}
    (mark : c ∈ ['@', '#', '[', '\x7b', ')', ']', '\x7d']) : Start lexeme (c :: cs)
  | sign {text : String} {c : Char} {cs : List Char} (spelled : text.toList = [c])
    (sign : Lexeme.isSign c) (name : startsName (c :: cs) = false)
    (numeral : startsNumeral (c :: cs) = false) : Start (.token (.delim text)) (c :: cs)

namespace Lexeme

theorem startsNumeral_text (whole : Numeral) (rest : List Char) :
    startsNumeral (whole.text ++ rest) := by
  have start := startsDecimal_append whole.decimal_whole whole.decimal_ne_nil
    (whole.exponent ++ rest)
  have signs := splitSign_parts whole.sign_whole (splitSign_of_startsDecimal start)
  rw [Numeral.text, List.append_assoc, List.append_assoc, startsNumeral, signs]
  exact start

/-- Every lexeme that can be read back starts in one of these ways. -/
theorem start_write {lexeme : Lexeme} {rest : List Char} (valid : lexeme.Valid)
    (ends : lexeme.EndsBefore rest) : Start lexeme (lexeme.write ++ rest) := by
  cases lexeme with
  | token part =>
    cases part with
    | whitespace spaces =>
      obtain ⟨nonempty, all⟩ := valid
      change Start _ (spaces.toList ++ rest)
      cases spelled : spaces.toList with
      | nil => exact (nonempty spelled).elim
      | cons c cs =>
        rw [spelled, List.all_cons, Bool.and_eq_true] at all
        exact .whitespace all.1
    | ident name => exact .name (.inl rfl) (startsName_writeIdent valid rest)
    | atKeyword name => exact .mark (by simp)
    | hash name isIdent => exact .mark (by simp)
    | number numeral =>
      obtain ⟨whole, same⟩ := valid
      refine .numeral (by simp [kind, Kind.ofToken, Kind.numerals]) ?_
      change startsNumeral (numeral.toList ++ rest)
      rw [same]
      exact startsNumeral_text whole rest
    | percentage numeral =>
      obtain ⟨whole, same⟩ := valid
      refine .numeral (by simp [kind, Kind.ofToken, Kind.numerals]) ?_
      change startsNumeral (numeral.toList ++ ['%'] ++ rest)
      rw [same, List.append_assoc]
      exact startsNumeral_text whole _
    | dimension numeral unit =>
      obtain ⟨-, whole, same, -⟩ := valid
      refine .numeral (by simp [kind, Kind.ofToken, Kind.numerals]) ?_
      change startsNumeral (numeral.toList ++ writeUnit unit.toList ++ rest)
      rw [same, List.append_assoc]
      exact startsNumeral_text whole _
    | unicodeRange first last => exact .range rfl
    | delim text =>
      obtain ⟨c, spelled, sign⟩ := valid
      obtain ⟨name, numeral, -, -⟩ := ends
      change Start _ (text.toList ++ rest)
      rw [spelled] at name numeral ⊢
      exact .sign spelled sign name numeral
    | string value closed => exact valid.elim
    | url value closed => exact valid.elim
    | badString => exact valid.elim
    | badUrl => exact valid.elim
    | unmatched bracket => exact valid.elim
  | opening opener =>
    cases opener with
    | function name =>
      obtain ⟨nonempty, -⟩ := valid
      refine .name (.inr rfl) ?_
      change startsName (writeIdent name.toList ++ ['('] ++ rest)
      rw [List.append_assoc]
      exact startsName_writeIdent nonempty _
    | bracket bracket =>
      cases bracket with
      | round => exact .round
      | square => exact .mark (by simp [Bracket.opening])
      | curly => exact .mark (by simp [Bracket.opening])
  | closing bracket => cases bracket <;> exact .mark (by simp [Bracket.closing])
  | comment => exact valid.elim

namespace Start

variable {lexeme : Lexeme} {text : List Char}

theorem isSign_not_nameChar {c : Char} (sign : Lexeme.isSign c) (hyphen : c ≠ '-') :
    isNameChar c = false := by
  simp only [Lexeme.isSign, Bool.and_eq_true, Bool.not_eq_true'] at sign
  simp [isNameChar, sign, hyphen]

/-- A name before the lexeme ends there, unless the kind of the lexeme goes on with a name. -/
theorem endsName (start : Start lexeme text) (name : lexeme.kind ≠ .ident)
    (function : lexeme.kind ≠ .function) (numeral : lexeme.kind ∉ Kind.numerals)
    (range : lexeme.kind ≠ .unicodeRange) (hyphen : lexeme.kind ≠ .delim "-") :
    endsName text := by
  cases start with
  | name kind start => exact (kind.elim name function).elim
  | numeral kind start => exact (numeral kind).elim
  | range kind => exact (range kind).elim
  | whitespace space =>
    rename_i c cs
    have other : isNameChar c = false ∧ c ≠ '\\' := by
      rw [isSpace_iff] at space
      rw [Bool.eq_false_iff, ne_eq, isNameChar_iff, ne_eq, char_eq_iff]
      change _ ∧ ¬c.toNat = 92
      omega
    simp [Css.endsName, other]
  | round => rfl
  | mark mark =>
    simp only [List.mem_cons, List.not_mem_nil, or_false] at mark
    rcases mark with rfl | rfl | rfl | rfl | rfl | rfl | rfl <;> rfl
  | sign spelled sign noName noNumeral =>
    rename_i text c cs
    have other : c ≠ '-' := by
      rintro rfl
      exact hyphen (congrArg Kind.delim (String.toList_inj.mp spelled))
    have backslash : c ≠ '\\' := by
      rintro rfl
      cases sign
    simp [Css.endsName, isSign_not_nameChar sign other, backslash]

theorem startsName_eq_false (start : Start lexeme text) (name : lexeme.kind ≠ .ident)
    (function : lexeme.kind ≠ .function) (range : lexeme.kind ≠ .unicodeRange) :
    startsName text = false := by
  cases start with
  | name kind start => exact (kind.elim name function).elim
  | numeral kind start => exact startsName_of_startsNumeral start
  | range kind => exact (range kind).elim
  | whitespace space => exact not_startsName_of_space space _
  | round => rfl
  | mark mark =>
    simp only [List.mem_cons, List.not_mem_nil, or_false] at mark
    rcases mark with rfl | rfl | rfl | rfl | rfl | rfl | rfl <;> rfl
  | sign spelled sign noName noNumeral => exact noName

theorem startsDecimal_eq_false (start : Start lexeme text)
    (numeral : lexeme.kind ∉ Kind.numerals) : startsDecimal text = false := by
  have decimal {cs : List Char} (unstarted : startsNumeral cs = false) :
      startsDecimal cs = false := by
    cases cs with
    | nil => rfl
    | cons c cs =>
      by_contra start
      rw [Bool.not_eq_false] at start
      rw [startsNumeral_cons_iff.mpr (.inl start)] at unstarted
      cases unstarted
  cases start with
  | name kind start =>
    by_contra decimal
    rw [Bool.not_eq_false] at decimal
    rw [startsName_of_startsDecimal decimal] at start
    cases start
  | numeral kind start => exact (numeral kind).elim
  | range kind => rfl
  | whitespace space => exact decimal (not_startsNumeral_of_space space _)
  | round => rfl
  | mark mark =>
    simp only [List.mem_cons, List.not_mem_nil, or_false] at mark
    rcases mark with rfl | rfl | rfl | rfl | rfl | rfl | rfl <;> rfl
  | sign spelled sign noName noNumeral => exact decimal noNumeral

/-- A sign at the start that starts neither a name nor a numeral is a lexeme of its own. -/
theorem kind_of_head {c : Char} (start : Start lexeme text) (head : text.head? = some c)
    (sign : Lexeme.isSign c) (number : c ≠ '#') (name : lexeme.kind ≠ .ident)
    (function : lexeme.kind ≠ .function) (numeral : lexeme.kind ∉ Kind.numerals) :
    lexeme.kind = .delim (String.ofList [c]) := by
  cases start with
  | name kind start => exact (kind.elim name function).elim
  | numeral kind start => exact (numeral kind).elim
  | range kind =>
    rw [← Option.some.inj head] at sign
    cases sign
  | whitespace space =>
    rw [← Option.some.inj head] at sign
    simp [Lexeme.isSign, space] at sign
  | round =>
    rw [← Option.some.inj head] at sign
    cases sign
  | mark mark =>
    rw [← Option.some.inj head] at sign number
    simp only [List.mem_cons, List.not_mem_nil, or_false] at mark
    rcases mark with rfl | rfl | rfl | rfl | rfl | rfl | rfl
    · cases sign
    · exact (number rfl).elim
    all_goals cases sign
  | sign spelled sign noName noNumeral =>
    rw [← Option.some.inj head, ← spelled, String.ofList_toList]
    rfl

/-- A round bracket at the start opens a group that is no function. -/
theorem kind_of_round (start : Start lexeme text) (head : text.head? = some '(')
    (name : lexeme.kind ≠ .ident) (function : lexeme.kind ≠ .function)
    (numeral : lexeme.kind ∉ Kind.numerals) : lexeme.kind = .round := by
  cases start with
  | name kind start => exact (kind.elim name function).elim
  | numeral kind start => exact (numeral kind).elim
  | range kind => simp at head
  | whitespace space =>
    rw [Option.some.inj head] at space
    cases space
  | round => rfl
  | mark mark =>
    rw [Option.some.inj head] at mark
    simp at mark
  | sign spelled sign noName noNumeral =>
    rw [Option.some.inj head] at sign
    cases sign

/-- A space at the start is part of a run of spaces. -/
theorem whitespace_of_head (start : Start lexeme text) (head : text.head?.any isSpace) :
    ∃ spaces, lexeme = .token (.whitespace spaces) := by
  cases start with
  | name kind start =>
    cases text with
    | nil => cases head
    | cons c cs =>
      rw [not_startsName_of_space head] at start
      cases start
  | numeral kind start =>
    cases text with
    | nil => cases head
    | cons c cs =>
      rw [not_startsNumeral_of_space head] at start
      cases start
  | range kind => cases head
  | whitespace space => exact ⟨_, rfl⟩
  | round => cases head
  | mark mark =>
    simp only [List.mem_cons, List.not_mem_nil, or_false] at mark
    rcases mark with rfl | rfl | rfl | rfl | rfl | rfl | rfl <;> cases head
  | sign spelled sign noName noNumeral =>
    simp only [List.head?_cons, Option.any_some] at head
    simp [Lexeme.isSign, head] at sign

theorem head_not_hexDigit (start : Start lexeme text) (name : lexeme.kind ≠ .ident)
    (function : lexeme.kind ≠ .function) (numeral : lexeme.kind ∉ Kind.numerals) :
    text.head?.any isHexDigit = false := by
  cases start with
  | name kind start => exact (kind.elim name function).elim
  | numeral kind start => exact (numeral kind).elim
  | range kind => rfl
  | whitespace space =>
    rename_i c cs
    change isHexDigit c = false
    rw [isSpace_iff] at space
    rw [Bool.eq_false_iff, ne_eq, isHexDigit_iff]
    omega
  | round => rfl
  | mark mark =>
    simp only [List.mem_cons, List.not_mem_nil, or_false] at mark
    rcases mark with rfl | rfl | rfl | rfl | rfl | rfl | rfl <;> rfl
  | sign spelled sign noName noNumeral =>
    rename_i c cs
    change isHexDigit c = false
    simp only [Lexeme.isSign, Bool.and_eq_true, Bool.not_eq_true', Bool.eq_false_iff, ne_eq,
      isNameStart_iff, isAsciiDigit_iff] at sign
    rw [Bool.eq_false_iff, ne_eq, isHexDigit_iff]
    omega

/-- A hyphen on its own has no digit of the sixteen-based notation behind it. -/
theorem tail_not_hexDigit (start : Start lexeme text) (head : text.head? = some '-')
    (name : lexeme.kind ≠ .ident) (function : lexeme.kind ≠ .function)
    (numeral : lexeme.kind ∉ Kind.numerals) : text.tail.head?.any isHexDigit = false := by
  cases start with
  | name kind start => exact (kind.elim name function).elim
  | numeral kind start => exact (numeral kind).elim
  | range kind => simp at head
  | whitespace space =>
    rw [Option.some.inj head] at space
    cases space
  | round => simp at head
  | mark mark =>
    rw [Option.some.inj head] at mark
    simp at mark
  | sign spelled sign noName noNumeral =>
    rename_i text c cs
    rw [Option.some.inj head] at noName noNumeral
    cases cs with
    | nil => rfl
    | cons d ds =>
      change isHexDigit d = false
      rw [Bool.eq_false_iff, ne_eq, startsName_cons_iff] at noName
      rw [Bool.eq_false_iff, ne_eq, startsNumeral_cons_iff] at noNumeral
      have letter : ¬isNameStart d = true := fun letter =>
        noName (.inr (.inr ⟨rfl, d, ds, rfl, .inl letter⟩))
      have digit : ¬isAsciiDigit d = true := fun digit =>
        noNumeral (.inr ⟨.inr rfl, startsDecimal_cons_iff.mpr (.inl digit)⟩)
      rw [isNameStart_iff] at letter
      rw [isAsciiDigit_iff] at digit
      rw [Bool.eq_false_iff, ne_eq, isHexDigit_iff]
      omega

theorem head_ne_star (start : Start lexeme text) : text.head? ≠ some '*' := by
  cases start with
  | name kind start =>
    intro star
    cases text with
    | nil => cases star
    | cons c cs =>
      rw [Option.some.inj star] at start
      cases start
  | numeral kind start =>
    intro star
    cases text with
    | nil => cases star
    | cons c cs =>
      rw [Option.some.inj star] at start
      cases start
  | range kind => simp
  | whitespace space =>
    intro star
    rw [Option.some.inj star] at space
    cases space
  | round => simp
  | mark mark =>
    simp only [List.mem_cons, List.not_mem_nil, or_false] at mark
    rcases mark with rfl | rfl | rfl | rfl | rfl | rfl | rfl <;> simp
  | sign spelled sign noName noNumeral =>
    intro star
    rw [Option.some.inj star] at sign
    cases sign

end Start

/-! ## Pairs that are read together -/

/-- A row of lexemes after a plus sign goes on like a range of code points. -/
def GoesOnRange (row : List Lexeme) : Prop :=
  ∃ d ds, writeRow (some (.delim "+")) row = d :: ds ∧ (isHexDigit d = true ∨ d = '?')

/-- The lexeme is read together with the next ones although nothing is put between them. -/
def Fuses (lexeme : Lexeme) : List Lexeme → Prop
  | [] => False
  | next :: row =>
    (∃ spaces more, lexeme = .token (.whitespace spaces) ∧ next = .token (.whitespace more)) ∨
      (lexeme.kind = .number ∧ next.kind = .delim "%") ∨
      ((lexeme.kind = .delim "-" ∨ lexeme.kind = .delim "#") ∧ next.kind = .delim "-") ∨
      (lexeme = .token (.ident "--") ∧ next.kind = .delim ">") ∨
      ((lexeme = .token (.ident "u") ∨ lexeme = .token (.ident "U")) ∧
        next.kind = .delim "+" ∧ GoesOnRange row)

/-- A sign ends where neither a name nor a numeral nor a comment begins with it. -/
theorem endsBefore_delim {text : String} {c : Char} {rest : List Char} (spelled : text.toList = [c])
    (sign : isSign c) (name : c = '-' → startsName rest = false ∧ rest.head? ≠ some '-')
    (numeral : c = '+' ∨ c = '-' ∨ c = '.' → startsDecimal rest = false)
    (number : c = '#' → endsName rest) (slash : c = '/' → rest.head? ≠ some '*') :
    (token (.delim text)).EndsBefore rest := by
  have spelling (d : Char) (same : text = String.ofList [d]) : c = d := by
    rw [same, String.toList_ofList] at spelled
    exact (List.singleton_inj.mp spelled).symm
  have parts := sign
  simp only [isSign, Bool.and_eq_true, Bool.not_eq_true'] at parts
  obtain ⟨⟨⟨⟨⟨-, start⟩, digit⟩, -⟩, -⟩, special⟩ := parts
  have backslash : c ≠ '\\' := by
    rintro rfl
    cases special
  refine ⟨?_, ?_, fun same => number (spelling '#' same), fun same => slash (spelling '/' same)⟩
  · rw [spelled, List.singleton_append, Bool.eq_false_iff, ne_eq, startsName_cons_iff]
    rintro (letter | ⟨same, -⟩ | ⟨hyphen, d, ds, rfl, goes⟩)
    · rw [start] at letter
      cases letter
    · exact backslash same
    · obtain ⟨unstarted, other⟩ := name hyphen
      rw [Bool.eq_false_iff, ne_eq, startsName_cons_iff] at unstarted
      rcases goes with letter | rfl | escape
      · exact unstarted (.inl letter)
      · exact other rfl
      · exact unstarted (.inr (.inl escape))
  · rw [spelled, List.singleton_append, Bool.eq_false_iff, ne_eq, startsNumeral_cons_iff,
      startsDecimal_cons_iff]
    rintro ((whole | ⟨point, places⟩) | ⟨signed, decimal⟩)
    · rw [digit] at whole
      cases whole
    · have unstarted := numeral (.inr (.inr point))
      cases rest with
      | nil => cases places
      | cons d ds =>
        rw [startsDecimal_cons_iff.mpr (.inl places)] at unstarted
        cases unstarted
    · have unstarted := numeral (signed.imp_right .inl)
      rw [decimal] at unstarted
      cases unstarted

/-- A lexeme ends where the text does, and where a comment begins. -/
theorem endsBefore_of_slash {lexeme : Lexeme} (valid : lexeme.Valid) {rest : List Char}
    (ends : rest = [] ∨ ∃ after, rest = '/' :: after) : lexeme.EndsBefore rest := by
  have name : endsName rest := by
    rcases ends with rfl | ⟨after, rfl⟩ <;> rfl
  have noName : startsName rest = false := by
    rcases ends with rfl | ⟨after, rfl⟩ <;> rfl
  have noDecimal : startsDecimal rest = false := by
    rcases ends with rfl | ⟨after, rfl⟩ <;> rfl
  have head (c : Char) (other : c ≠ '/') : rest.head? ≠ some c := by
    rcases ends with rfl | ⟨after, rfl⟩
    · simp
    · simpa using other.symm
  cases lexeme with
  | token part =>
    cases part with
    | whitespace spaces => rcases ends with rfl | ⟨after, rfl⟩ <;> rfl
    | ident name =>
      refine ⟨‹_›, head '(' (by decide), fun _ => head '>' (by decide), fun _ => ?_⟩
      rcases ends with rfl | ⟨after, rfl⟩ <;> rfl
    | atKeyword word => exact name
    | hash word isIdent => exact name
    | number numeral => exact ⟨noName, noDecimal, head '%' (by decide)⟩
    | dimension numeral unit => exact name
    | unicodeRange first last =>
      refine ⟨?_, head '?' (by decide), fun same => (head '-' (by decide) same).elim⟩
      rcases ends with rfl | ⟨after, rfl⟩ <;> rfl
    | delim text =>
      obtain ⟨c, spelled, sign⟩ := valid
      exact endsBefore_delim spelled sign (fun _ => ⟨noName, head '-' (by decide)⟩)
        (fun _ => noDecimal) (fun _ => name) fun _ => head '*' (by decide)
    | _ => trivial
  | _ => trivial

/-- No lexeme that can be read back is a backslash. -/
theorem kindBefore_ne_backslash {lexeme : Lexeme} (valid : lexeme.Valid) :
    lexeme.kindBefore ≠ some (.delim "\\") := by
  intro same
  cases lexeme with
  | token part =>
    cases part with
    | delim text =>
      obtain ⟨c, spelled, sign⟩ := valid
      rw [Kind.delim.inj (Option.some.inj same)] at spelled
      rw [← List.singleton_inj.mp spelled] at sign
      cases sign
    | _ => cases same
  | _ => cases same

/-- Between two lexemes there is a comment, or nothing when their kinds do not clash. -/
theorem gap_cases {before : Option Kind} (plain : before ≠ some (.delim "\\")) (next : Lexeme) :
    next.gap before = "/**/".toList ∨
      (next.gap before = [] ∧ ∀ kind, before = some kind → next.kind ∉ kind.clashing) := by
  cases before with
  | none => exact .inr ⟨rfl, fun kind same => by cases same⟩
  | some before =>
    have backslash : before ≠ .delim "\\" := fun same => plain (by rw [same])
    by_cases clash : next.kind ∈ before.clashing
    · left
      cases next with
      | closing bracket => exact (other_not_mem_clashing _ clash).elim
      | _ => simp [gap, clash]
    · right
      refine ⟨?_, fun kind same => by rw [← Option.some.inj same]; exact clash⟩
      cases next with
      | closing bracket => rfl
      | _ => simp [gap, clash, backslash]

section Next

variable {next : Lexeme} {rest : List Char}

/-- Any name ends before a lexeme that clashes with neither names nor numerals. -/
theorem endsName_next (start : Start next rest)
    (free : next.kind ∉ Kind.names ++ Kind.numerals ++ [.unicodeRange, .delim "-", .delim "-->"]) :
    endsName rest := by
  simp only [Kind.names, List.mem_append, List.mem_cons, List.not_mem_nil, or_false,
    not_or] at free
  obtain ⟨⟨⟨ident, function, -⟩, numeral⟩, range, hyphen, -⟩ := free
  exact start.endsName ident function numeral range hyphen

theorem endsBefore_ident {name : String} (start : Start next rest)
    (free : next.kind ∉ Kind.clashing .ident) (hidden : name = "--" → next.kind ≠ .delim ">")
    (range : name = "u" ∨ name = "U" → startsRange 'u' rest = false) :
    (token (.ident name)).EndsBefore rest := by
  simp only [Kind.clashing, Kind.names, List.mem_append, List.mem_cons, List.not_mem_nil, or_false,
    not_or] at free
  obtain ⟨⟨⟨ident, function, -⟩, numeral⟩, noRange, hyphen, -, round⟩ := free
  refine ⟨start.endsName ident function numeral noRange hyphen, fun head => ?_,
    fun same head => ?_, range⟩
  · exact round (start.kind_of_round head ident function numeral)
  · exact hidden same (start.kind_of_head head rfl (by decide) ident function numeral)

theorem endsBefore_number {numeral : String} (start : Start next rest)
    (free : next.kind ∉ Kind.clashing .number) (percent : next.kind ≠ .delim "%") :
    (token (.number numeral)).EndsBefore rest := by
  simp only [Kind.clashing, Kind.names, List.mem_append, List.mem_cons, List.not_mem_nil, or_false,
    not_or] at free
  obtain ⟨⟨⟨ident, function, -⟩, numeral⟩, range⟩ := free
  refine ⟨start.startsName_eq_false ident function range, start.startsDecimal_eq_false numeral,
    fun head => ?_⟩
  exact percent (start.kind_of_head head rfl (by decide) ident function numeral)

theorem endsBefore_unicodeRange {first last : Nat} (start : Start next rest)
    (free : next.kind ∉ Kind.clashing .unicodeRange) :
    (token (.unicodeRange first last)).EndsBefore rest := by
  simp only [Kind.clashing, List.mem_cons, not_or] at free
  obtain ⟨ident, function, wild, numeral⟩ := free
  refine ⟨start.head_not_hexDigit ident function numeral, fun head => ?_, fun head => ?_⟩
  · exact wild (start.kind_of_head head rfl (by decide) ident function numeral)
  · exact start.tail_not_hexDigit head ident function numeral

theorem endsBefore_sign {text : String} (start : Start next rest)
    (valid : (token (.delim text)).Valid) (free : next.kind ∉ Kind.clashing (.delim text))
    (hyphens : text = "-" ∨ text = "#" → next.kind ≠ .delim "-") :
    (token (.delim text)).EndsBefore rest := by
  obtain ⟨c, spelled, sign⟩ := valid
  have same : text = String.ofList [c] := by rw [← spelled, String.ofList_toList]
  have names (special : text = "-" ∨ text = "#") : next.kind ≠ .ident ∧ next.kind ≠ .function ∧
      next.kind ∉ Kind.numerals ∧ next.kind ≠ .unicodeRange := by
    rcases special with rfl | rfl
    all_goals
      simp only [Kind.clashing, Kind.names, List.mem_append, List.mem_cons, List.not_mem_nil,
        or_false, not_or] at free
      exact ⟨free.1.1.1, free.1.1.2.1, free.1.2, free.2⟩
  refine endsBefore_delim spelled sign ?_ ?_ ?_ fun _ => start.head_ne_star
  · rintro rfl
    obtain ⟨ident, function, numeral, range⟩ := names (.inl same)
    refine ⟨start.startsName_eq_false ident function range, fun head => ?_⟩
    exact hyphens (.inl same) (start.kind_of_head head rfl (by decide) ident function numeral)
  · intro decimal
    apply start.startsDecimal_eq_false
    rcases decimal with rfl | rfl | rfl
    · subst same
      exact free
    · exact (names (.inl same)).2.2.1
    · subst same
      exact free
  · rintro rfl
    obtain ⟨ident, function, numeral, range⟩ := names (.inr same)
    exact start.endsName ident function numeral range (hyphens (.inr same))

end Next

theorem eq_of_kind_delim {lexeme : Lexeme} {text : String} (kind : lexeme.kind = .delim text) :
    lexeme = .token (.delim text) := by
  cases lexeme with
  | token part =>
    cases part with
    | delim other => rw [Kind.delim.inj kind]
    | _ => cases kind
  | opening opener =>
    cases opener with
    | function name => cases kind
    | bracket bracket => cases bracket <;> cases kind
  | closing bracket => cases kind
  | comment => cases kind

/-- A range of code points after a letter takes a plus sign and what follows it. -/
theorem not_startsRange {next : Lexeme} {row : List Lexeme}
    (start : Start next (next.write ++ writeRow next.kindBefore row))
    (free : next.kind ∉ Kind.clashing .ident)
    (apart : ¬(next.kind = .delim "+" ∧ GoesOnRange row)) :
    startsRange 'u' (next.write ++ writeRow next.kindBefore row) = false := by
  by_contra range
  rw [Bool.not_eq_false] at range
  obtain ⟨-, d, ds, text, hex⟩ := startsRange_head range
  simp only [Kind.clashing, Kind.names, List.mem_append, List.mem_cons, List.not_mem_nil, or_false,
    not_or] at free
  obtain ⟨⟨⟨ident, function, -⟩, numeral⟩, -⟩ := free
  have plus : next.kind = .delim "+" :=
    start.kind_of_head (by rw [text]; rfl) rfl (by decide) ident function numeral
  rw [eq_of_kind_delim plus] at text
  exact apart ⟨plus, d, ds, List.tail_eq_of_cons_eq text, hex⟩

/-- A lexeme ends before the next one of its row, when they neither clash nor fuse. -/
theorem endsBefore_next {lexeme next : Lexeme} {row : List Lexeme} (valid : lexeme.Valid)
    (apart : ¬Fuses lexeme (next :: row))
    (free : ∀ kind, lexeme.kindBefore = some kind → next.kind ∉ kind.clashing)
    (start : Start next (next.write ++ writeRow next.kindBefore row)) :
    lexeme.EndsBefore (next.write ++ writeRow next.kindBefore row) := by
  simp only [Fuses, not_or] at apart
  obtain ⟨spaces, percent, hyphens, hidden, range⟩ := apart
  cases lexeme with
  | token part =>
    have free := free (.ofToken part) rfl
    cases part with
    | whitespace run =>
      by_contra space
      obtain ⟨more, same⟩ := start.whitespace_of_head (by simpa [EndsBefore] using space)
      exact spaces ⟨run, more, rfl, same⟩
    | ident name =>
      refine endsBefore_ident start free (fun same sign => hidden ⟨by rw [same], sign⟩)
        fun letter => not_startsRange start free fun more => ?_
      exact range ⟨letter.imp (by rintro rfl; rfl) (by rintro rfl; rfl), more⟩
    | atKeyword word => exact endsName_next start free
    | hash word isIdent => exact endsName_next start free
    | number numeral => exact endsBefore_number start free fun same => percent ⟨rfl, same⟩
    | dimension numeral unit => exact endsName_next start free
    | unicodeRange first last => exact endsBefore_unicodeRange start free
    | delim text =>
      refine endsBefore_sign start valid free fun special same => hyphens ⟨?_, same⟩
      exact special.imp (congrArg Kind.delim) (congrArg Kind.delim)
    | _ => trivial
  | _ => trivial

end Lexeme

/-! ## Rows -/

/-- A row of lexemes that can be read back, no two of which are read together. -/
def Apart : List Lexeme → Prop
  | [] => True
  | lexeme :: row => lexeme.Valid ∧ ¬lexeme.Fuses row ∧ Apart row

/-- Each lexeme of the row ends where it is written to end. -/
def Readable : List Lexeme → Prop
  | [] => True
  | lexeme :: row =>
    lexeme.Valid ∧ lexeme.EndsBefore (writeRow lexeme.kindBefore row) ∧ Readable row

/-- Lexemes of a row end properly when no two of them are read together. -/
theorem readable_of_apart {row : List Lexeme} (apart : Apart row) : Readable row := by
  induction row with
  | nil => trivial
  | cons lexeme row ih =>
    obtain ⟨valid, fuses, later⟩ := apart
    have rest := ih later
    refine ⟨valid, ?_, rest⟩
    cases row with
    | nil => exact Lexeme.endsBefore_of_slash valid (.inl rfl)
    | cons next row =>
      obtain ⟨next_valid, next_ends, -⟩ := rest
      have start := Lexeme.start_write next_valid next_ends
      rw [writeRow, List.append_assoc]
      rcases Lexeme.gap_cases (Lexeme.kindBefore_ne_backslash valid) next with gap | ⟨gap, free⟩
      · rw [gap]
        exact Lexeme.endsBefore_of_slash valid (.inr ⟨_, rfl⟩)
      · rw [gap]
        exact Lexeme.endsBefore_next valid fuses free start

/-- A comment before a text does not count. -/
theorem significant_comment (rest : List Char) :
    significant ("/**/".toList ++ rest) = significant rest :=
  significant_of_read_comment rfl

/-- What is written between two lexemes does not count. -/
theorem significant_gap {before : Option Kind} (plain : before ≠ some (.delim "\\"))
    (lexeme : Lexeme) (rest : List Char) :
    significant (lexeme.gap before ++ rest) = significant rest := by
  rcases Lexeme.gap_cases plain lexeme with gap | ⟨gap, -⟩
  · rw [gap, significant_comment]
  · rw [gap, List.nil_append]

/-- A row of which no two lexemes are read together reads back. -/
theorem significant_writeRow {row : List Lexeme} (apart : Apart row) {before : Option Kind}
    (plain : before ≠ some (.delim "\\")) :
    significant (writeRow before row) = row.map Lexeme.settled := by
  have readable := readable_of_apart apart
  clear apart
  induction row generalizing before with
  | nil =>
    rw [writeRow, significant_nil]
    rfl
  | cons lexeme row ih =>
    obtain ⟨valid, ends, later⟩ := readable
    rw [writeRow, List.append_assoc, significant_gap plain, significant_write lexeme valid ends,
      ih (Lexeme.kindBefore_ne_backslash valid) later, List.map_cons]

/-! ## Parts of rows -/

theorem writeRow_prefix (before : Option Kind) (first second : List Lexeme) :
    writeRow before first <+: writeRow before (first ++ second) := by
  induction first generalizing before with
  | nil => exact List.nil_prefix
  | cons lexeme first ih =>
    rw [List.cons_append, writeRow, writeRow]
    exact (List.prefix_append_right_inj _).mpr (ih _)

/-- Lexemes that are read together are so whatever follows them. -/
theorem Lexeme.Fuses.append {lexeme : Lexeme} {row : List Lexeme} (fuses : lexeme.Fuses row)
    (more : List Lexeme) : lexeme.Fuses (row ++ more) := by
  cases row with
  | nil => exact fuses.elim
  | cons next row =>
    rcases fuses with spaces | percent | hyphens | hidden | ⟨letter, plus, d, ds, written, hex⟩
    · exact .inl spaces
    · exact .inr (.inl percent)
    · exact .inr (.inr (.inl hyphens))
    · exact .inr (.inr (.inr (.inl hidden)))
    · obtain ⟨back, whole⟩ := writeRow_prefix (some (.delim "+")) row more
      rw [written] at whole
      exact .inr (.inr (.inr (.inr ⟨letter, plus, d, ds ++ back, whole.symm, hex⟩)))

theorem Apart.of_append_left {first second : List Lexeme} (apart : Apart (first ++ second)) :
    Apart first := by
  induction first with
  | nil => trivial
  | cons lexeme first ih =>
    obtain ⟨valid, free, later⟩ := apart
    exact ⟨valid, fun fuses => free (fuses.append second), ih later⟩

theorem Apart.of_append_right {first second : List Lexeme} (apart : Apart (first ++ second)) :
    Apart second := by
  induction first with
  | nil => exact apart
  | cons lexeme first ih => exact ih apart.2.2

theorem Apart.valid {row : List Lexeme} (apart : Apart row) : ∀ lexeme ∈ row, lexeme.Valid := by
  induction row with
  | nil =>
    intro lexeme member
    cases member
  | cons first row ih =>
    rw [List.forall_mem_cons]
    exact ⟨apart.1, ih apart.2.2⟩

end Swatch.Css
