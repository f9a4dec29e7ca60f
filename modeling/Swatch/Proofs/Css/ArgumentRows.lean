import Swatch.Proofs.Color.Arguments
import Swatch.Proofs.Css.Sound
import Swatch.Proofs.Css.Steady

/-!
# Rows of arguments

The arguments of a color function are written as a row of few kinds of lexemes (`Part`), and nothing
stands between two of them (`meets_of_writeRow`). When the arguments can be read, a steady row has
the same text (`exists_respelled`): only spaces, a percent sign and an exponent that was spelled as
a unit go over to the lexeme before them.
-/

namespace Swatch.Css

open Text
open Color (isArgumentChar Tidy)

/-! ## Rows without gaps -/

theorem kindBefore_ne_backslash_of_write {lexeme : Lexeme} (plain : '\\' ∉ lexeme.write) :
    lexeme.kindBefore ≠ some (.delim "\\") := by
  intro same
  cases lexeme with
  | token part =>
    cases part with
    | delim text =>
      rw [Kind.delim.inj (Option.some.inj same)] at plain
      exact plain (List.mem_singleton_self _)
    | _ => cases same
  | _ => cases same

/-- In a row that is written without comments and backslashes nothing is put between neighbours. -/
theorem meets_of_writeRow {row : List Lexeme} {before : Option Kind}
    (first : before ≠ some (.delim "\\")) (plain : '\\' ∉ writeRow before row)
    (bare : '*' ∉ writeRow before row) :
    row.IsChain Lexeme.Meets ∧ writeRow before row = rowText row ∧
      ∀ lexeme ∈ row.head?, ∀ kind, before = some kind → lexeme.kind ∉ kind.clashing := by
  induction row generalizing before with
  | nil => exact ⟨.nil, rfl, fun _ member => by cases member⟩
  | cons lexeme row ih =>
    rw [writeRow, List.append_assoc, List.mem_append, List.mem_append, not_or, not_or] at plain bare
    obtain ⟨meets, written, next⟩ :=
      ih (kindBefore_ne_backslash_of_write plain.2.1) plain.2.2 bare.2.2
    rcases Lexeme.gap_cases first lexeme with gap | ⟨gap, free⟩
    · rw [gap] at bare
      exact (bare.1 (by decide)).elim
    · refine ⟨List.isChain_cons.mpr ⟨next, meets⟩, ?_, fun other same => ?_⟩
      · rw [writeRow, gap, written, List.nil_append, rowText_cons]
      · rw [← Option.some.inj same]
        exact free

/-! ## Names without escapes -/

theorem writeEscaped_plain {c : Char} : '\\' ∈ writeEscaped c := by
  obtain ⟨escaped, written, -⟩ := writeEscaped_eq c []
  rw [List.append_nil] at written
  rw [written]
  exact List.mem_cons_self

theorem writeName_of_plain {name : List Char} (plain : '\\' ∉ writeName name) :
    name.all isNameChar := by
  refine List.all_eq_true.mpr fun c member => ?_
  by_contra other
  refine plain (List.mem_flatMap.mpr ⟨c, member, ?_⟩)
  rw [writeNameChar, if_neg other]
  exact writeEscaped_plain

theorem writeNameStart_of_plain {c : Char} (plain : '\\' ∉ writeNameStart c) :
    isNameStart c = true := by
  by_contra other
  rw [writeNameStart, if_neg other] at plain
  split at plain
  next => exact plain List.mem_cons_self
  next => exact plain writeEscaped_plain

/-- A name that is written without escapes is written as it is. -/
theorem writeIdent_of_plain {name : List Char} (nonempty : name ≠ [])
    (plain : '\\' ∉ writeIdent name) :
    startsName name ∧ name.all isNameChar := by
  have start {c : Char} (plain : '\\' ∉ writeNameStart c) : isNameStart c ∧ isNameChar c := by
    have start := writeNameStart_of_plain plain
    exact ⟨start, by simp [isNameChar, start]⟩
  fun_cases writeIdent name with
  | case1 => exact (nonempty rfl).elim
  | case2 => exact (plain List.mem_cons_self).elim
  | case3 name =>
    rw [writeIdent, List.mem_cons, List.mem_cons, not_or, not_or] at plain
    rw [List.all_cons, List.all_cons, writeName_of_plain plain.2.2]
    exact ⟨rfl, rfl⟩
  | case4 c name other =>
    rw [writeIdent, List.mem_cons, List.mem_append, not_or, not_or] at plain
    · obtain ⟨first, letter⟩ := start plain.2.1
      rw [List.all_cons, List.all_cons, writeName_of_plain plain.2.2, letter]
      exact ⟨by simp [startsName, first], rfl⟩
    all_goals assumption
  | case5 c name =>
    rw [writeIdent, List.mem_append, not_or] at plain
    · obtain ⟨first, letter⟩ := start plain.1
      rw [List.all_cons, writeName_of_plain plain.2, letter]
      exact ⟨by simp [startsName, first], rfl⟩
    all_goals assumption

/-! ## Kinds of lexemes -/

/-- A character of a color function: one of its arguments, of its name, or a bracket. -/
def isCallChar (c : Char) : Bool :=
  isArgumentChar c || isAsciiLetter c || c == '(' || c == ')'

/-- A lexeme of arguments. -/
inductive Part : Lexeme → Prop
  | spaces {run : String} (nonempty : run.toList ≠ []) (all : run.toList.all isSpace) :
      Part (.token (.whitespace run))
  | word {name : List Char} (start : startsName name) (all : name.all isNameChar) :
      Part (.token (.ident (String.ofList name)))
  | number (whole : Numeral) : Part (.token (.number (String.ofList whole.text)))
  | percentage (whole : Numeral) : Part (.token (.percentage (String.ofList whole.text)))
  | dimension (whole : Numeral) {unit : List Char} (start : startsName unit)
      (all : unit.all isNameChar) (plain : writeUnit unit = unit) :
      Part (.token (.dimension (String.ofList whole.text) (String.ofList unit)))
  | sign {c : Char} (sign : Lexeme.isSign c) (kept : isKept c) :
      Part (.token (.delim (String.ofList [c])))

section Parts

variable {lexeme : Lexeme}

theorem not_isCallChar {c : Char} (other : isCallChar c = false) {cs : List Char}
    (all : cs.all isCallChar) : c ∉ cs := by
  intro member
  rw [List.all_eq_true.mp all c member] at other
  cases other

theorem write_dimension (whole : Numeral) {unit : List Char} (plain : writeUnit unit = unit) :
    (Lexeme.token (.dimension (String.ofList whole.text) (String.ofList unit))).write =
      whole.text ++ unit := by
  change (String.ofList whole.text).toList ++ writeUnit (String.ofList unit).toList = _
  rw [String.toList_ofList, String.toList_ofList, plain]

/-- A dimension that is written without escapes is one of arguments. -/
theorem part_dimension {numeral unit : String}
    (sound : (Lexeme.token (.dimension numeral unit)).Sound)
    (plain : '\\' ∉ (Lexeme.token (.dimension numeral unit)).write) :
    Part (.token (.dimension numeral unit)) := by
  obtain ⟨nonempty, whole, same⟩ := sound
  have plain : '\\' ∉ writeUnit unit.toList := fun member => plain (List.mem_append_right _ member)
  rcases Lexeme.writeUnit_eq unit.toList with ⟨marker, tail, -, -, -, written⟩ | ⟨written, -⟩
  · rw [written] at plain
    exact (plain List.mem_cons_self).elim
  · rw [written] at plain
    obtain ⟨start, chars⟩ := writeIdent_of_plain nonempty plain
    have part := Part.dimension whole start chars (written.trans (writeIdent_plain start chars))
    rw [← same, String.ofList_toList, String.ofList_toList] at part
    exact part

/-- A sign is one of arguments, unless it is rare. -/
theorem part_delim {text : String} (sound : (Lexeme.token (.delim text)).Sound)
    (all : text.toList.all isCallChar) : Part (.token (.delim text)) := by
  rcases sound with ⟨c, spelled, sign, kept⟩ | ⟨c, member, rare⟩
  · have part := Part.sign sign kept
    rw [← spelled, String.ofList_toList] at part
    exact part
  · have known : "\\@<|~^$*>".toList.all (!isCallChar ·) := by decide
    have other := List.all_eq_true.mp known c (List.contains_iff_mem.mp rare)
    exact (not_isCallChar (by simpa using other) all member).elim

/-- What a lexeme is whose text has nothing but characters of color functions. -/
theorem part_cases (sound : lexeme.Sound) (all : lexeme.write.all isCallChar) :
    Part lexeme ∨ (∃ first last, lexeme = .token (.unicodeRange first last)) ∨
      (∃ value closed, lexeme = .token (.url value closed)) ∨
      (∃ opener, lexeme = .opening opener ∧ opener.brackets = .round) ∨
      lexeme.write = [')'] := by
  have absent (c : Char) (other : isCallChar c = false) : c ∉ lexeme.write :=
    not_isCallChar other all
  have backslash := absent '\\' (by decide)
  cases lexeme with
  | token part =>
    cases part with
    | whitespace run => exact .inl (.spaces sound.1 sound.2)
    | ident name =>
      obtain ⟨start, chars⟩ := writeIdent_of_plain sound backslash
      have part := Part.word start chars
      rw [String.ofList_toList] at part
      exact .inl part
    | atKeyword name => exact (absent '@' (by decide) List.mem_cons_self).elim
    | hash name isIdent => exact (absent '#' (by decide) List.mem_cons_self).elim
    | string value closed => exact (absent '"' (by decide) List.mem_cons_self).elim
    | url value closed => exact .inr (.inr (.inl ⟨value, closed, rfl⟩))
    | number numeral =>
      obtain ⟨whole, same⟩ := sound
      have part := Part.number whole
      rw [← same, String.ofList_toList] at part
      exact .inl part
    | percentage numeral =>
      obtain ⟨whole, same⟩ := sound
      have part := Part.percentage whole
      rw [← same, String.ofList_toList] at part
      exact .inl part
    | dimension numeral unit => exact .inl (part_dimension sound backslash)
    | unicodeRange first last => exact .inr (.inl ⟨first, last, rfl⟩)
    | delim text => exact .inl (part_delim sound all)
    | badString => exact (absent '"' (by decide) (by decide)).elim
    | badUrl => exact (absent '[' (by decide) (by decide)).elim
    | unmatched bracket =>
      cases bracket with
      | round => exact .inr (.inr (.inr (.inr rfl)))
      | square => exact (absent ']' (by decide) (List.mem_singleton_self _)).elim
      | curly => exact (absent '\x7d' (by decide) (List.mem_singleton_self _)).elim
  | opening opener =>
    cases opener with
    | function name => exact .inr (.inr (.inr (.inl ⟨_, rfl, rfl⟩)))
    | bracket bracket =>
      cases bracket with
      | round => exact .inr (.inr (.inr (.inl ⟨_, rfl, rfl⟩)))
      | square => exact (absent '[' (by decide) (List.mem_singleton_self _)).elim
      | curly => exact (absent '\x7b' (by decide) (List.mem_singleton_self _)).elim
  | closing bracket =>
    cases bracket with
    | round => exact .inr (.inr (.inr (.inr rfl)))
    | square => exact (absent ']' (by decide) (List.mem_singleton_self _)).elim
    | curly => exact (absent '\x7d' (by decide) (List.mem_singleton_self _)).elim
  | comment => exact (absent '*' (by decide) (by decide)).elim

end Parts

/-! ## Rows with the same text -/

/-- The second row has the text of the first one and stays as it is. Whatever may stand before the
first row may stand before the second one. -/
structure Respelled (row row' : List Lexeme) : Prop where
  steady : Steady row'
  tokens : ∀ lexeme ∈ row', ∃ token, lexeme = .token token
  text : rowText row' = rowText row
  starts : ∀ kind : Kind, (∀ first ∈ row.head?, first.kind ∉ kind.clashing) →
    ∀ first ∈ row'.head?, first.kind ∉ kind.clashing

theorem Respelled.nil : Respelled [] [] :=
  ⟨.nil, fun _ member => by (cases member), rfl, fun _ free => free⟩

theorem isKept_of_isNumeralChar {c : Char} (numeral : isNumeralChar c) : isKept c = true := by
  simp only [isNumeralChar, Bool.or_eq_true, List.contains_iff_mem, List.mem_cons,
    List.not_mem_nil, or_false] at numeral
  rcases numeral with digit | rfl | rfl | rfl | rfl | rfl
  · exact isKept_of_isNameChar (by simp [isNameChar, digit])
  all_goals rfl

theorem Numeral.all_isKept (whole : Numeral) : whole.text.all isKept :=
  all_isKept_of (fun _ => isKept_of_isNumeralChar) whole.all_text

/-- The kinds with a numeral clash with the same kinds before them. -/
theorem clashing_numerals {kind first second : Kind} (numeral : first ∈ Kind.numerals)
    (numeral' : second ∈ Kind.numerals) (clash : second ∈ kind.clashing) :
    first ∈ kind.clashing := by
  have cases : Kind.numerals ⊆ kind.clashing ∨ ∀ free ∈ Kind.numerals, free ∉ kind.clashing := by
    unfold Kind.clashing
    split
    all_goals first
      | exact .inl (by decide)
      | exact .inr (by decide)
  rcases cases with all | disjoint
  · exact all numeral
  · exact (disjoint second numeral' clash).elim

section Steps

variable {row row' : List Lexeme} {lexeme : Lexeme}

/-- What lasts may stay in front. -/
theorem Respelled.keep (respelled : Respelled row row') {token : Token}
    (lasts : (Lexeme.token token).Lasts)
    (beside : ∀ next ∈ row'.head?, (Lexeme.token token).Beside next) :
    Respelled (.token token :: row) (.token token :: row') where
  steady := .cons lasts beside respelled.steady
  tokens := List.forall_mem_cons.mpr ⟨⟨token, rfl⟩, respelled.tokens⟩
  text := by rw [rowText_cons, rowText_cons, respelled.text]
  starts _ free := free

/-- A kind that clashes with nothing that follows keeps so. -/
theorem Respelled.meets (respelled : Respelled row row') {token : Token}
    (meets : ∀ next ∈ row.head?, (Lexeme.token token).Meets next) :
    ∀ next ∈ row'.head?, (Lexeme.token token).Meets next := by
  intro next first kind same
  refine respelled.starts kind (fun other member => meets other member kind same) next first

/-- What may stand before a numeral may stand before what the numeral becomes. -/
theorem starts_of_numerals {other : Lexeme} (numeral : lexeme.kind ∈ Kind.numerals)
    (numeral' : other.kind ∈ Kind.numerals) (kind : Kind)
    (free : ∀ first ∈ (lexeme :: row).head?, first.kind ∉ kind.clashing) :
    ∀ first ∈ (other :: row').head?, first.kind ∉ kind.clashing := by
  intro first member clash
  rw [← Option.some.inj member] at clash
  exact free lexeme rfl (clashing_numerals numeral numeral' clash)

theorem lasts_percentage (whole : Numeral)
    (short : overlongNumeral? (String.ofList whole.text) = none) :
    (Lexeme.token (.percentage (String.ofList whole.text))).Lasts := by
  have spelled : (String.ofList whole.text).toList = whole.text := String.toList_ofList
  refine ⟨⟨whole, spelled⟩, short, ?_⟩
  change ((String.ofList whole.text).toList ++ ['%']).all isKept
  rw [spelled, List.all_append, whole.all_isKept]
  rfl

theorem percentage_beside (numeral : String) (next : Lexeme) :
    (Lexeme.token (.percentage numeral)).Beside next := by
  refine ⟨fun kind same => ?_, ?_⟩
  · rw [← Option.some.inj same]
    exact List.not_mem_nil
  · simp [Lexeme.Fuses, Lexeme.kind, Kind.ofToken]

/-- A numeral takes the percent sign behind it. -/
theorem Respelled.percent {tail : List Lexeme}
    (respelled : Respelled row (.token (.delim "%") :: tail)) (whole : Numeral)
    (short : overlongNumeral? (String.ofList whole.text) = none)
    (numeral : lexeme.kind ∈ Kind.numerals) (text : lexeme.write = whole.text) :
    Respelled (lexeme :: row) (.token (.percentage (String.ofList whole.text)) :: tail) where
  steady := .cons (lasts_percentage whole short) (fun next _ => percentage_beside _ next)
    respelled.steady.of_cons.2.2
  tokens := List.forall_mem_cons.mpr ⟨⟨_, rfl⟩, (List.forall_mem_cons.mp respelled.tokens).2⟩
  text := by
    change (String.ofList whole.text).toList ++ ['%'] ++ rowText tail = _
    rw [rowText_cons, ← respelled.text, text, String.toList_ofList, List.append_assoc]
    rfl
  starts := starts_of_numerals numeral (by simp [Lexeme.kind, Kind.ofToken, Kind.numerals])

/-- A numeral without a percent sign behind it is a number. -/
theorem Respelled.plain (respelled : Respelled row row') (whole : Numeral)
    (short : overlongNumeral? (String.ofList whole.text) = none)
    (meets : ∀ next ∈ row'.head?, next.kind ∉ Kind.clashing .number)
    (other : ∀ next ∈ row'.head?, next.kind ≠ .delim "%")
    (numeral : lexeme.kind ∈ Kind.numerals) (text : lexeme.write = whole.text) :
    Respelled (lexeme :: row) (.token (.number (String.ofList whole.text)) :: row') where
  steady := by
    have spelled : (String.ofList whole.text).toList = whole.text := String.toList_ofList
    have kept : (String.ofList whole.text).toList.all isKept := by
      rw [spelled]
      exact whole.all_isKept
    refine .cons ⟨⟨whole, spelled⟩, short, kept⟩
      (fun next first => ⟨fun kind own => ?_, fun row => ?_⟩)
      respelled.steady
    · rw [← Option.some.inj own]
      exact meets next first
    · simpa [Lexeme.Fuses, Lexeme.kind, Kind.ofToken] using other next first
  tokens := List.forall_mem_cons.mpr ⟨⟨_, rfl⟩, respelled.tokens⟩
  text := by
    change (String.ofList whole.text).toList ++ rowText row' = _
    rw [rowText_cons, respelled.text, text, String.toList_ofList]
  starts := starts_of_numerals numeral (by simp [Lexeme.kind, Kind.ofToken, Kind.numerals])

/-- A numeral is a number, or it takes the percent sign behind it. -/
theorem Respelled.number (respelled : Respelled row row') (whole : Numeral)
    (short : overlongNumeral? (String.ofList whole.text) = none)
    (meets : ∀ next ∈ row'.head?, next.kind ∉ Kind.clashing .number)
    (numeral : lexeme.kind ∈ Kind.numerals) (text : lexeme.write = whole.text) :
    ∃ row'', Respelled (lexeme :: row) row'' := by
  by_cases percent : ∃ tail, row' = .token (.delim "%") :: tail
  · obtain ⟨tail, rfl⟩ := percent
    exact ⟨_, respelled.percent whole short numeral text⟩
  · refine ⟨_, respelled.plain whole short meets (fun next first sign => ?_) numeral text⟩
    obtain ⟨tail, rfl⟩ := List.head?_eq_some_iff.mp first
    exact percent ⟨tail, by rw [Lexeme.eq_of_kind_delim sign]⟩

/-- Spaces take the spaces behind them. -/
theorem Respelled.spaces (respelled : Respelled row row') {run : String}
    (nonempty : run.toList ≠ [])
    (all : run.toList.all isSpace) :
    ∃ row'', Respelled (.token (.whitespace run) :: row) row'' := by
  by_cases more : ∃ run' tail, row' = .token (.whitespace run') :: tail
  · obtain ⟨run', tail, rfl⟩ := more
    obtain ⟨steady, tokens, same, -⟩ := respelled
    obtain ⟨lasts, beside, rest⟩ := steady.of_cons
    rw [List.forall_mem_cons] at tokens
    have both : (run ++ run').toList = run.toList ++ run'.toList := String.toList_append
    have valid : run'.toList ≠ [] ∧ run'.toList.all isSpace := lasts.valid
    have space : (run ++ run').toList.all isSpace := by
      rw [both, List.all_append, all, valid.2]
      rfl
    refine ⟨.token (.whitespace (run ++ run')) :: tail,
      .cons ⟨⟨?_, space⟩, rfl, all_isKept_of (fun _ => isKept_of_isSpace) space⟩
        (fun next first => ?_) rest,
      List.forall_mem_cons.mpr ⟨⟨_, rfl⟩, tokens.2⟩, ?_, fun kind free first member => ?_⟩
    · rw [both]
      simp [nonempty]
    · exact Lexeme.space_beside_iff.mpr (Lexeme.space_beside_iff.mp (beside next first))
    · change (run ++ run').toList ++ rowText tail = _
      rw [both, List.append_assoc, rowText_cons, ← same]
      rfl
    · rw [← Option.some.inj member]
      exact other_not_mem_clashing kind
  · refine ⟨_, respelled.keep ⟨⟨nonempty, all⟩, rfl, all_isKept_of (fun _ => isKept_of_isSpace) all⟩
      fun next first => Lexeme.space_beside_iff.mpr ?_⟩
    by_contra space
    rw [Bool.not_eq_false] at space
    obtain ⟨run', rfl⟩ := Lexeme.isWhitespace_iff.mp space
    cases row' with
    | nil => cases first
    | cons other tail => exact more ⟨run', tail, by rw [← Option.some.inj first]⟩

theorem hyphen_of_tidy (front : List Char) {back : List Char} {c : Char}
    (tidy : Tidy (front ++ c :: '-' :: back)) : c ≠ '-' ∧ isAsciiDigit c = false := by
  have middle : Tidy (front ++ ([c, '-'] ++ back)) := tidy
  exact middle.of_append.hyphen

/-- A word stays. -/
theorem Respelled.word (respelled : Respelled row row') {name : List Char} (start : startsName name)
    (all : name.all isNameChar)
    (meets : ∀ next ∈ row.head?, (Lexeme.token (.ident (String.ofList name))).Meets next)
    (tidy : Tidy (name ++ rowText row)) :
    Respelled (.token (.ident (String.ofList name)) :: row)
      (.token (.ident (String.ofList name)) :: row') := by
  have spelled : (String.ofList name).toList = name := String.toList_ofList
  have kept : name.all isKept := all_isKept_of (fun _ => isKept_of_isNameChar) all
  have dashes : String.ofList name ≠ "--" := by
    intro same
    have text : name = ['-', '-'] := by rw [← spelled, same]; rfl
    rw [text] at tidy
    exact (hyphen_of_tidy [] tidy).1 rfl
  have letter (c : Char) (other : isArgumentChar c = false) :
      String.ofList name ≠ String.ofList [c] := by
    intro same
    have text : name = [c] := String.ofList_injective same
    have chars := tidy.all
    rw [text, List.cons_append, List.all_cons, Bool.and_eq_true, other] at chars
    cases chars.1
  refine respelled.keep ⟨?_, rfl, ?_⟩ fun next first =>
    ⟨respelled.meets meets next first, fun row => ?_⟩
  · change (String.ofList name).toList ≠ []
    rw [spelled]
    rintro rfl
    cases start
  · change (writeIdent (String.ofList name).toList).all isKept
    rw [spelled, writeIdent_plain start all]
    exact kept
  · rintro (⟨run, -, same, -⟩ | ⟨kind, -⟩ | ⟨kind | kind, -⟩ | ⟨same, -⟩ | ⟨same | same, -⟩)
    · cases same
    · cases kind
    · cases kind
    · cases kind
    · exact dashes (Token.ident.inj (Lexeme.token.inj same))
    · exact letter 'u' (by decide) (Token.ident.inj (Lexeme.token.inj same))
    · exact letter 'U' (by decide) (Token.ident.inj (Lexeme.token.inj same))

/-- A percentage stays. -/
theorem Respelled.percentage (respelled : Respelled row row') (whole : Numeral)
    (short : overlongNumeral? (String.ofList whole.text) = none) :
    Respelled (.token (.percentage (String.ofList whole.text)) :: row)
      (.token (.percentage (String.ofList whole.text)) :: row') :=
  respelled.keep (lasts_percentage whole short) fun next _ => percentage_beside _ next

/-- A numeral without an exponent as one with it. -/
theorem exists_exponent (whole : Numeral) (bare : whole.exponent = []) {marker digit : Char}
    {digits : List Char} (letter : marker = 'e' ∨ marker = 'E') (first : isAsciiDigit digit)
    (all : digits.all isAsciiDigit) :
    ∃ longer : Numeral, longer.text = whole.text ++ marker :: digit :: digits ∧
      longer.exponent ≠ [] ∧ overlongNumeral? (String.ofList longer.text) = .none := by
  have run : (digit :: digits).all isAsciiDigit := by
    rw [List.all_cons, first, all]
    rfl
  have unsigned : isSign [] := rfl
  have exponent := splitExponent_parts [] letter unsigned run (by simp) rfl
  rw [List.append_nil, List.nil_append] at exponent
  refine ⟨{ whole with exponent := marker :: digit :: digits, exponent_whole := exponent }, ?_,
    by simp, ?_⟩
  · simp [Numeral.text, bare]
  · have member : marker ∈ (whole.sign ++ (whole.decimal ++ marker :: digit :: digits)).filter
        fun c => c != '+' && c != '-' := by
      rcases letter with rfl | rfl <;> simp
    have other : isAsciiDigit marker = false := by
      rcases letter with rfl | rfl <;> rfl
    unfold overlongNumeral?
    dsimp only
    rw [if_neg]
    intro both
    rw [Bool.and_eq_true, String.toList_ofList] at both
    rw [List.all_eq_true.mp both.1 marker (by simpa [Numeral.text] using member)] at other
    cases other

/-- A sign stays. -/
theorem Respelled.sign (respelled : Respelled row row') {c : Char} (sign : Lexeme.isSign c)
    (kept : isKept c)
    (meets : ∀ next ∈ row.head?, (Lexeme.token (.delim (String.ofList [c]))).Meets next)
    (tidy : Tidy (c :: rowText row)) :
    Respelled (.token (.delim (String.ofList [c])) :: row)
      (.token (.delim (String.ofList [c])) :: row') := by
  have spelled : (String.ofList [c]).toList = [c] := String.toList_ofList
  refine respelled.keep ⟨⟨c, spelled, sign⟩, rfl, ?_⟩ fun next first =>
    ⟨respelled.meets meets next first, fun row => ?_⟩
  · change (String.ofList [c]).toList.all isKept
    rw [spelled, List.all_cons, kept]
    rfl
  · have number : c ≠ '#' := by
      rintro rfl
      have chars := tidy.all
      cases chars
    have hyphen : c = '-' → next.kind ≠ .delim "-" := by
      rintro rfl same
      cases row' with
      | nil => cases first
      | cons other tail =>
        rw [Option.some.inj first, Lexeme.eq_of_kind_delim same] at respelled
        rw [← respelled.text] at tidy
        exact (hyphen_of_tidy [] tidy).1 rfl
    have own (mark : Char) (same : Kind.delim (String.ofList [c]) = .delim (String.ofList [mark])) :
        c = mark := by
      have text : [c] = [mark] := String.ofList_injective (Kind.delim.inj same)
      exact List.singleton_inj.mp text
    rintro (⟨run, -, same, -⟩ | ⟨kind, -⟩ | ⟨kind | kind, same⟩ | ⟨same, -⟩ | ⟨same | same, -⟩)
    · cases same
    · cases kind
    · exact hyphen (own '-' kind) same
    · exact number (own '#' kind)
    all_goals cases same

/-- No hyphen follows a digit. -/
theorem not_hyphen_of_digits {front power ds : List Char} {digit d : Char}
    (first : isAsciiDigit digit) (digits : power.all isAsciiDigit)
    (tidy : Tidy (front ++ digit :: (power ++ d :: ds))) : d ≠ '-' := by
  rintro rfl
  have run : (digit :: power).all isAsciiDigit := by
    rw [List.all_cons, first, digits]
    rfl
  obtain ⟨init, c, whole⟩ := (List.eq_nil_or_concat (digit :: power)).resolve_left (by simp)
  rw [List.concat_eq_append] at whole
  have last : isAsciiDigit c = true := List.all_eq_true.mp run c (by rw [whole]; simp)
  have split : front ++ digit :: (power ++ '-' :: ds) = (front ++ init) ++ c :: '-' :: ds := by
    rw [← List.cons_append, whole]
    simp
  rw [split] at tidy
  rw [(hyphen_of_tidy (front ++ init) tidy).2] at last
  cases last

/-- What stands behind the digits of an exponent is a unit that reads back. -/
theorem unit_behind_exponent {marker digit d : Char} {power ds : List Char}
    (letter : marker = 'e' ∨ marker = 'E') (first : isAsciiDigit digit)
    (digits : power.all isAsciiDigit) (stops : (d :: ds).head?.any isAsciiDigit = false)
    (all : (marker :: digit :: (power ++ d :: ds)).all isNameChar)
    (tidy : Tidy (marker :: digit :: (power ++ d :: ds))) :
    startsName (d :: ds) ∧ (d :: ds).all isNameChar ∧ writeUnit (d :: ds) = d :: ds := by
  have names : (d :: ds).all isNameChar := by
    rw [List.all_cons, List.all_cons, List.all_append, Bool.and_eq_true, Bool.and_eq_true,
      Bool.and_eq_true] at all
    exact all.2.2.2
  have hyphen : d ≠ '-' := @not_hyphen_of_digits [marker] _ _ _ _ first digits tidy
  have exponent : asciiLower d ≠ 'e' := by
    have split : marker :: digit :: (power ++ d :: ds) =
        [] ++ (marker :: digit :: (power ++ [d]) ++ ds) := by simp
    rw [split] at tidy
    exact tidy.of_append.exponent (by rcases letter with rfl | rfl <;> rfl) first digits
  have begins : startsName (d :: ds) := by
    have name : isNameChar d = true := List.all_eq_true.mp names d List.mem_cons_self
    have other : isAsciiDigit d = false := by simpa using stops
    exact startsName_cons_iff.mpr (.inl (by simpa [isNameChar, other, hyphen] using name))
  refine ⟨begins, names, ?_⟩
  rcases Lexeme.writeUnit_eq (d :: ds) with ⟨other, tail, same, letter', -, -⟩ | ⟨written, -⟩
  · obtain ⟨rfl, -⟩ := List.cons.inj same
    rcases letter' with rfl | rfl <;> exact (exponent rfl).elim
  · rw [written, writeIdent_plain begins names]

/-- A dimension that reads back stays. -/
theorem Respelled.unit (respelled : Respelled row row') (whole : Numeral) {unit : List Char}
    (start : startsName unit) (all : unit.all isNameChar) (plain : writeUnit unit = unit)
    (short : overlongNumeral? (String.ofList whole.text) = none)
    (apart : whole.exponent = [] → Lexeme.isExponentUnit unit = false)
    (meets : ∀ next ∈ row'.head?, next.kind ∉ Kind.clashing .dimension)
    (numeral : lexeme.kind ∈ Kind.numerals) (text : lexeme.write = whole.text ++ unit) :
    Respelled (lexeme :: row)
      (.token (.dimension (String.ofList whole.text) (String.ofList unit)) :: row') := by
  have spelled : (String.ofList whole.text).toList = whole.text := String.toList_ofList
  have unit_spelled : (String.ofList unit).toList = unit := String.toList_ofList
  have written := write_dimension whole plain
  have nonempty : unit ≠ [] := by
    rintro rfl
    cases start
  have kept : (whole.text ++ unit).all isKept := by
    rw [List.all_append, whole.all_isKept, all_isKept_of (fun _ => isKept_of_isNameChar) all]
    rfl
  have lasts : (Lexeme.token (.dimension (String.ofList whole.text) (String.ofList unit))).Lasts :=
    ⟨⟨by rwa [unit_spelled], whole, spelled, by rwa [unit_spelled]⟩, short, written ▸ kept⟩
  exact {
    steady := by
      refine .cons lasts (fun next first => ⟨fun kind same => ?_, fun row => ?_⟩) respelled.steady
      · rw [← Option.some.inj same]
        exact meets next first
      · simp [Lexeme.Fuses, Lexeme.kind, Kind.ofToken]
    tokens := List.forall_mem_cons.mpr ⟨⟨_, rfl⟩, respelled.tokens⟩
    text := by rw [rowText_cons, rowText_cons, written, respelled.text, text]
    starts := starts_of_numerals numeral (by simp [Lexeme.kind, Kind.ofToken, Kind.numerals]) }

/-- A dimension stays, unless its unit reads as an exponent; what is behind the exponent is then the
unit. -/
theorem Respelled.dimension (respelled : Respelled row row') (whole : Numeral) {unit : List Char}
    (start : startsName unit) (all : unit.all isNameChar) (plain : writeUnit unit = unit)
    (short : overlongNumeral? (String.ofList whole.text) = none)
    (meets : ∀ next ∈ row'.head?, next.kind ∉ Kind.clashing .dimension)
    (numeral : lexeme.kind ∈ Kind.numerals) (text : lexeme.write = whole.text ++ unit)
    (tidy : Tidy unit) : ∃ row'', Respelled (lexeme :: row) row'' := by
  by_cases exponent : whole.exponent = [] ∧ Lexeme.isExponentUnit unit = true
  · obtain ⟨bare, reads⟩ := exponent
    match unit, reads with
    | marker :: digit :: more, reads =>
      rw [Lexeme.isExponentUnit, Bool.and_eq_true, Bool.or_eq_true, beq_iff_eq, beq_iff_eq] at reads
      obtain ⟨letter, first⟩ := reads
      have digits : (more.takeWhile isAsciiDigit).all isAsciiDigit := List.all_takeWhile
      have stops := head?_dropWhile isAsciiDigit more
      have unit_text := List.takeWhile_append_dropWhile (p := isAsciiDigit) (l := more)
      generalize more.takeWhile isAsciiDigit = power at digits unit_text
      generalize more.dropWhile isAsciiDigit = rest at stops unit_text
      subst unit_text
      obtain ⟨longer, longer_text, exponential, short'⟩ :=
        exists_exponent whole bare letter first digits
      cases rest with
      | nil =>
        rw [List.append_nil] at text
        have wider : Kind.clashing .number ⊆ Kind.clashing .dimension := by decide
        exact respelled.number longer short'
          (fun next first clash => meets next first (wider clash))
          numeral (text.trans longer_text.symm)
      | cons d ds =>
        obtain ⟨begins, others, written⟩ := unit_behind_exponent letter first digits stops all tidy
        refine ⟨_, respelled.unit longer begins others written short'
          (fun bare => (exponential bare).elim)
          meets numeral ?_⟩
        rw [text, longer_text, List.append_assoc]
        rfl
  · refine ⟨_, respelled.unit whole start all plain short (fun bare => ?_) meets numeral text⟩
    simpa [bare] using exponent

end Steps

/-- A row of arguments that can be read has the text of a steady row. -/
theorem exists_respelled {row : List Lexeme} (parts : ∀ lexeme ∈ row, Part lexeme)
    (short : ∀ lexeme ∈ row, lexeme.overlong? = none) (meets : row.IsChain Lexeme.Meets)
    (tidy : Tidy (rowText row)) : ∃ row', Respelled row row' := by
  induction row with
  | nil => exact ⟨[], .nil⟩
  | cons lexeme row ih =>
    rw [List.forall_mem_cons] at parts short
    rw [List.isChain_cons] at meets
    rw [rowText_cons] at tidy
    have rest : Tidy (lexeme.write ++ (rowText row ++ [])) := by rwa [List.append_nil]
    obtain ⟨row', respelled⟩ := ih parts.2 short.2 meets.2 rest.of_append
    have own := parts.1
    cases own with
    | spaces nonempty all => exact respelled.spaces nonempty all
    | @word name start all =>
      have text : (Lexeme.token (.ident (String.ofList name))).write = name := by
        change writeIdent (String.ofList name).toList = name
        rw [String.toList_ofList, writeIdent_plain start all]
      rw [text] at tidy
      exact ⟨_, respelled.word start all meets.1 tidy⟩
    | number whole =>
      refine respelled.number whole short.1 ?_ (by simp [Lexeme.kind, Kind.ofToken, Kind.numerals])
        String.toList_ofList
      exact fun next first => respelled.meets meets.1 next first .number rfl
    | percentage whole => exact ⟨_, respelled.percentage whole short.1⟩
    | @dimension whole unit start all plain =>
      have text := write_dimension whole plain
      rw [text, List.append_assoc] at tidy
      exact respelled.dimension whole start all plain short.1
        (fun next first => respelled.meets meets.1 next first .dimension rfl)
        (by simp [Lexeme.kind, Kind.ofToken, Kind.numerals]) text tidy.of_append
    | @sign c sign kept =>
      have text : (Lexeme.token (.delim (String.ofList [c]))).write = [c] := String.toList_ofList
      rw [text] at tidy
      exact ⟨_, respelled.sign sign kept meets.1 tidy⟩

end Swatch.Css
