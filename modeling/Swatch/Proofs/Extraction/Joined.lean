import Swatch.Proofs.Css.CallRows
import Swatch.Proofs.Extraction.Formats

/-!
# Colors that are given out can be read again

A color that was given out is one component: a word, digits behind a number sign, or a call whose
arguments stay as they are (`exists_single_of_literal`, `exists_single_of_written`). So the list
that was given out for a style sheet can be joined by commas and read as a value, which has these
colors (`ofValue_join`).
-/

namespace Swatch

open Text Css
open Color (isArgumentChar functionNames functionLetter)
open Outcome (exists_of_bind_eq_ok exists_of_mem_mapM)

namespace Css

/-! ## Words and digits -/

theorem isSingle_leaf {token : Token} {cs : List Char} (lasts : (Lexeme.token token).Lasts)
    (written : token.write = cs) (solid : Solid cs) (nonempty : cs ≠ [])
    (space : token.isWhitespace = false) (comma : token ≠ .delim ",") :
    IsSingle (String.ofList cs) (.leaf () token) where
  steady := by
    rw [Component.lexemes_leaf]
    exact .singleton lasts
  written := by
    rw [String.toList_ofList, Component.lexemes_leaf, rowText_cons, ← written]
    exact (List.append_nil _).symm
  solid := by rwa [String.toList_ofList]
  some := by
    intro empty
    exact nonempty (by simpa using congrArg String.toList empty)
  space := space
  comma := by
    cases token with
    | delim text => simpa [Component.isDelim, Component.token?] using comma
    | _ => rfl

theorem isSingle_hex {digits : List Char} (all : digits.all isHexDigit) (nonempty : digits ≠ []) :
    ∃ component, IsSingle (String.ofList ('#' :: digits)) component := by
  have names : digits.all isNameChar := by
    refine List.all_eq_true.mpr fun c member => ?_
    have digit := List.all_eq_true.mp all c member
    rw [isHexDigit_iff] at digit
    rw [isNameChar_iff]
    omega
  have spelled : (String.ofList digits).toList = digits := String.toList_ofList
  have written : (Token.hash (String.ofList digits) (startsName digits)).write = '#' :: digits := by
    change '#' :: (if startsName digits = true then writeIdent (String.ofList digits).toList
      else writeName (String.ofList digits).toList) = _
    rw [spelled, writeName_plain names]
    split
    next start => rw [writeIdent_plain start names]
    next => rfl
  have lasts : (Lexeme.token (.hash (String.ofList digits) (startsName digits))).Lasts := by
    refine ⟨⟨?_, fun empty => ?_⟩, rfl, ?_⟩
    · rwa [spelled]
    · rwa [spelled, writeName_plain names]
    · change (Token.write (.hash (String.ofList digits) (startsName digits))).all isKept
      rw [written, List.all_cons, all_isKept_of (fun _ => isKept_of_isNameChar) names]
      rfl
  exact ⟨_, isSingle_leaf lasts written (Color.solid_hex all) (by simp) rfl (by simp)⟩

theorem isSingle_word {cs : List Char} (word : Color.isWord cs) :
    ∃ component, IsSingle (String.ofList cs) component := by
  have whole := word
  rw [Color.isWord, Bool.and_eq_true] at word
  have nonempty : cs ≠ [] := by simpa using word.1
  have starts {c : Char} (member : c ∈ cs) : isNameStart c = true := by
    have letter := List.all_eq_true.mp word.2 c member
    rw [Color.isNameLetter, Bool.or_eq_true, isAsciiLetter_iff, List.contains_iff_mem] at letter
    rw [isNameStart_iff]
    simp only [List.mem_cons, List.not_mem_nil, or_false] at letter
    omega
  have names : cs.all isNameChar :=
    List.all_eq_true.mpr fun c member => by simp [isNameChar, starts member]
  have start : startsName cs := by
    cases cs with
    | nil => exact (nonempty rfl).elim
    | cons c cs => exact startsName_cons_iff.mpr (.inl (starts List.mem_cons_self))
  have spelled : (String.ofList cs).toList = cs := String.toList_ofList
  have written : (Token.ident (String.ofList cs)).write = cs := by
    change writeIdent (String.ofList cs).toList = cs
    rw [spelled, writeIdent_plain start names]
  have lasts : (Lexeme.token (.ident (String.ofList cs))).Lasts := by
    refine ⟨?_, rfl, ?_⟩
    · change (String.ofList cs).toList ≠ []
      rwa [spelled]
    · change (Token.write (.ident (String.ofList cs))).all isKept
      rw [written]
      exact all_isKept_of (fun _ => isKept_of_isNameChar) names
  exact ⟨_, isSingle_leaf lasts written (Color.solid_of_isWord whole) nonempty rfl (by simp)⟩

/-! ## Calls -/

theorem exists_tokens {row : List Lexeme} (all : ∀ lexeme ∈ row, ∃ token, lexeme = .token token) :
    ∃ tokens : List Token, row = tokens.map Lexeme.token := by
  induction row with
  | nil => exact ⟨[], rfl⟩
  | cons lexeme row ih =>
    rw [List.forall_mem_cons] at all
    obtain ⟨⟨token, rfl⟩, others⟩ := all
    obtain ⟨tokens, rfl⟩ := ih others
    exact ⟨token :: tokens, rfl⟩

theorem lexemesOf_leaves (tokens : List Token) :
    Component.lexemesOf (tokens.map (Component.leaf ())) = tokens.map Lexeme.token := by
  induction tokens with
  | nil => exact Component.lexemesOf_nil
  | cons token tokens ih => simp [ih]

/-- The name of a color function opens a group that is no address. -/
theorem lasts_functionName {name : List Char}
    (named : functionNames.contains (name.map functionLetter)) :
    writeIdent name = name ∧ (Lexeme.opening (.function (String.ofList name))).Lasts := by
  have spelled : (String.ofList name).toList = name := String.toList_ofList
  have nonempty : name ≠ [] := (Color.functionName_letters named).2
  have names : name.all isNameChar := List.all_eq_true.mpr fun c member => by
    simp [isNameChar, (letters_of_functionName named member).1]
  have start : startsName name := by
    cases name with
    | nil => exact (nonempty rfl).elim
    | cons c name =>
      exact startsName_cons_iff.mpr (.inl (letters_of_functionName named List.mem_cons_self).1)
  have written := writeIdent_plain start names
  refine ⟨written, ⟨?_, fun address => ?_⟩, rfl, ?_⟩
  · rwa [spelled]
  · rw [asciiLowered, spelled] at address
    have letters : name.map asciiLower = ['u', 'r', 'l'] := String.ofList_injective address
    have same : name.map functionLetter = ['u', 'r', 'l'] := by
      rw [← letters]
      refine List.map_congr_left fun c member => Color.functionLetter_eq fun long => ?_
      have own : asciiLower c ∈ ['u', 'r', 'l'] := letters ▸ List.mem_map_of_mem member
      have known : ['u', 'r', 'l'].all (·.toNat < 128) := by decide
      have small := List.all_eq_true.mp known _ own
      rw [decide_eq_true_eq, toNat_asciiLower, long] at small
      simp at small
    rw [same] at named
    cases named
  · change (writeIdent (String.ofList name).toList ++ ['(']).all isKept
    rw [spelled, written, List.all_append, all_isKept_of (fun _ => isKept_of_isNameChar) names]
    rfl

/-- A call whose arguments are written by a row of their lexemes is written for one component. -/
theorem isSingle_call {name body : List Char} {row : List Lexeme} {arguments : List Color.Argument}
    (named : functionNames.contains (name.map functionLetter))
    (spelled : Color.ArgumentsText isDecimalDigit body arguments)
    (parts : ∀ lexeme ∈ row, Part lexeme) (short : ∀ lexeme ∈ row, lexeme.overlong? = none)
    (meets : row.IsChain Lexeme.Meets) (text : rowText row = body)
    (solid : Solid (name ++ '(' :: (body ++ [')']))) :
    ∃ component, IsSingle (String.ofList (name ++ '(' :: (body ++ [')']))) component := by
  have tidy : Color.Tidy (rowText row) := text ▸ Color.tidy_of_argumentsText spelled
  obtain ⟨row', steady, tokens, text', -⟩ := exists_respelled parts short meets tidy
  obtain ⟨leaves, rfl⟩ := exists_tokens tokens
  obtain ⟨written, lasts⟩ := lasts_functionName named
  have lexemes : Component.lexemes
      (.group () (.function (String.ofList name)) (leaves.map (Component.leaf ()))) =
      .opening (.function (String.ofList name)) ::
      (leaves.map Lexeme.token ++ [.closing .round]) := by
    rw [Component.lexemes_group, lexemesOf_leaves]
    rfl
  have closing : (Lexeme.closing .round).Lasts := ⟨trivial, rfl, rfl⟩
  refine ⟨.group () (.function (String.ofList name)) (leaves.map (Component.leaf ())), ?_, ?_, ?_,
    ?_, rfl, rfl⟩
  · rw [lexemes]
    refine .cons lasts (fun next _ => ⟨Lexeme.meets_of_kindBefore rfl next, fun row => ?_⟩)
      (steady.append (.singleton closing) fun last _ next first => ?_)
    · simp [Lexeme.Fuses, Lexeme.kind]
    · rw [← Option.some.inj first]
      exact last.beside_closing .round
  · have opening : (Lexeme.opening (.function (String.ofList name))).write = name ++ ['('] := by
      change writeIdent (String.ofList name).toList ++ ['('] = _
      rw [String.toList_ofList, written]
    rw [String.toList_ofList, lexemes, rowText_cons, rowText_append, text', text, opening]
    simp [rowText, Lexeme.write, Bracket.closing]
  · rwa [String.toList_ofList]
  · intro blank
    have empty := congrArg String.toList blank
    rw [String.toList_ofList] at empty
    simp at empty

/-! ## Literals -/

/-- A text that was written and names a color is written for one component. -/
theorem exists_single_of_literal {text : String} (literal : IsLiteral text) :
    ∃ component, IsSingle text component := by
  obtain ⟨written, named⟩ := literal
  have trimmed : trim text.toList = text.toList := by
    have own := congrArg String.toList written.trimmed
    rwa [Text.trimmed, String.toList_ofList] at own
  have solid : Solid text.toList := by
    obtain ⟨-, -, -, -, -, solid⟩ := exists_trim text.toList
    rwa [trimmed] at solid
  obtain ⟨color, read⟩ := Option.isSome_iff_exists.mp named
  have denotes := Color.parse?_eq_some_iff.mp read
  rw [trimmed] at denotes
  have whole : String.ofList text.toList = text := String.ofList_toList
  generalize spelled : text.toList = cs at denotes solid
  rw [← whole, spelled]
  cases denotes with
  | transparent spells => exact isSingle_word (Color.isWord_of_name (.inl rfl) spells)
  | name entry spells =>
    exact isSingle_word
      (Color.isWord_of_name (.inr (List.mem_map_of_mem (f := Prod.fst) entry)) spells)
  | hex digits => exact isSingle_hex digits (by simp)
  | hexAlpha digits => exact isSingle_hex digits (by simp)
  | hexPairs digits => exact isSingle_hex digits (by simp)
  | hexPairsAlpha digits => exact isSingle_hex digits (by simp)
  | call called argumentsText few computed =>
    have chars := (Color.tidy_of_argumentsText argumentsText).all
    obtain ⟨row, parts, short, meets, text⟩ := exists_argumentRow written spelled called.1 chars
    exact isSingle_call called.1 argumentsText parts short meets text solid

/-! ## Formats -/

/-- A numeral as the formats write it is a numeral of a style sheet, and a short one. -/
theorem exists_numeral {cs : List Char} {value : Binary64}
    (written : Color.WrittenNumeral cs value) :
    ∃ whole : Numeral, whole.text = cs ∧ overlongNumeral? (String.ofList cs) = none := by
  obtain ⟨nonempty, short, all, all'⟩ := written
  rename_i negative whole places
  have signed : isSign (if negative then ['-'] else []) := by
    cases negative <;> rfl
  have decimal := splitDecimal_parts [] all all' rfl fun _ => rfl
  rw [List.append_nil] at decimal
  refine ⟨⟨if negative then ['-'] else [], whole ++ pointed places, [], signed, decimal,
    by simp [nonempty], rfl⟩, by simp [Numeral.text], ?_⟩
  have sign : (if negative = true then ['-'] else []).filter (fun c => c != '+' && c != '-') =
      [] := by
    cases negative <;> rfl
  have digits {run : List Char} (all : run.all isAsciiDigit) :
      run.filter (fun c => c != '+' && c != '-') = run := by
    refine List.filter_eq_self.mpr fun c member => ?_
    have digit := List.all_eq_true.mp all c member
    simp only [Bool.and_eq_true, bne_iff_ne]
    constructor <;> rintro rfl <;> cases digit
  unfold overlongNumeral?
  dsimp only
  rw [if_neg]
  rw [String.toList_ofList, List.filter_append, sign, List.nil_append, List.filter_append,
    digits all]
  cases places with
  | nil =>
    rw [pointed, List.filter_nil, List.append_nil, Bool.and_eq_true, decide_eq_true_eq]
    rintro ⟨-, long⟩
    have limit : Json.digitLimit = 4300 := rfl
    omega
  | cons d places =>
    rw [pointed]
    · simp [isAsciiDigit]
    · simp

theorem exists_field {cs : List Char} {argument : Color.Argument}
    (written : Color.WrittenArgument cs argument) :
    ∃ lexeme, Part lexeme ∧ lexeme.overlong? = none ∧ lexeme.write = cs := by
  cases written with
  | number numeral =>
    obtain ⟨whole, text, short⟩ := exists_numeral numeral
    exact ⟨_, .number whole, text ▸ short, String.toList_ofList.trans text⟩
  | percent numeral =>
    obtain ⟨whole, text, short⟩ := exists_numeral numeral
    refine ⟨_, .percentage whole, text ▸ short, ?_⟩
    change (String.ofList whole.text).toList ++ ['%'] = _
    rw [String.toList_ofList, text]

/-- Arguments between commas are written by a row of lexemes. -/
theorem exists_fieldRow {fields : List (List Char)} {arguments : List Color.Argument}
    (each : List.Forall₂ Color.WrittenArgument fields arguments) :
    ∃ row, (∀ lexeme ∈ row, Part lexeme) ∧ (∀ lexeme ∈ row, lexeme.overlong? = none) ∧
      row.IsChain Lexeme.Meets ∧ rowText row = [',', ' '].intercalate fields := by
  induction each with
  | nil => exact ⟨[], by simp, by simp, .nil, rfl⟩
  | @cons field argument fields arguments own others ih =>
    obtain ⟨lexeme, part, short, text⟩ := exists_field own
    cases others with
    | nil =>
      refine ⟨[lexeme], by simpa using part, by simpa using short, .singleton lexeme, ?_⟩
      simp [rowText, text]
    | @cons field' argument' fields arguments own' others =>
      obtain ⟨row, parts, shorts, meets, text'⟩ := ih
      have comma : Part (.token (.delim ",")) := .sign (c := ',') (by decide) (by decide)
      have space : Part (.token (.whitespace " ")) := .spaces (by decide) (by decide)
      refine ⟨lexeme :: .token (.delim ",") :: .token (.whitespace " ") :: row, ?_, ?_, ?_, ?_⟩
      · simp only [List.forall_mem_cons]
        exact ⟨part, comma, space, parts⟩
      · simp only [List.forall_mem_cons]
        exact ⟨short, rfl, rfl, shorts⟩
      · refine List.isChain_cons.mpr
          ⟨fun next first => ?_, List.isChain_cons.mpr ⟨fun next first => ?_,
          List.isChain_cons.mpr ⟨fun next first kind same => ?_, meets⟩⟩⟩
        · rw [← Option.some.inj first]
          exact lexeme.beside_comma.1
        · rw [← Option.some.inj first]
          exact comma_beside_space.1
        · rw [← Option.some.inj same]
          exact List.not_mem_nil
      · rw [rowText_cons, rowText_cons, rowText_cons, text, text']
        rfl

/-- What a format writes is written for one component. -/
theorem exists_single_of_written {cs : List Char} (written : Color.Written cs) :
    ∃ component, IsSingle (String.ofList cs) component := by
  have solid := written.solid
  cases written with
  | hex all count =>
    refine isSingle_hex all ?_
    rintro rfl
    rcases count with count | count <;> cases count
  | name named =>
    exact isSingle_word (Color.isWord_of_name (.inr named)
      (Color.anyScript_spells_of_ascii (.inr named) (Color.ascii_spells_name named)))
  | call called each few admitted plain =>
    obtain ⟨row, parts, short, meets, text⟩ := exists_fieldRow each
    have spelled :=
      (Color.argumentsText_intercalate (each.imp fun _ _ own => own.argumentText)).mono
      fun _ _ digit => isDecimalDigit_of_isAsciiDigit digit
    exact isSingle_call (Color.anyScript_calls_of_ascii called).1 spelled parts short meets text
      solid

end Css

theorem exists_single_of_format {options : Options} {literal text : String}
    (own : IsLiteral literal)
    (formatted : Palette.format options literal = .ok text) :
    ∃ component, IsSingle text component := by
  rcases Palette.format_cases formatted with ⟨_, rfl⟩ | ⟨color, _, _, read, computed⟩
  · exact exists_single_of_literal own
  · have single :=
      exists_single_of_written (Color.written_of_write (Color.ranged_of_parse read) computed)
    rwa [String.ofList_toList] at single

/-! ## Colors as values -/

namespace Css

/-- A call of a name that is no color function denotes no color. -/
theorem not_denotes_call {front rest : List Char} {color : Color} (free : front.all (· != '('))
    (head : front.head? ≠ some '#')
    (other : functionNames.contains (front.map functionLetter) = false) :
    ¬Color.Denotes Color.anyScript (front ++ '(' :: rest) color := by
  intro denotes
  generalize whole : front ++ '(' :: rest = cs at denotes
  have hash {digits : List Char} : cs ≠ '#' :: digits := by
    rintro rfl
    cases front with
    | nil => simp at whole
    | cons c front => exact head (by rw [List.head?_cons, (List.cons.inj whole).1])
  have word {cs' : List Char} (word : Color.isWord cs') : cs ≠ cs' := by
    rintro rfl
    rw [Color.isWord, Bool.and_eq_true] at word
    have bracket : '(' ∈ cs := by
      rw [← whole]
      simp
    exact absurd (List.all_eq_true.mp word.2 '(' bracket) (by decide)
  cases denotes with
  | transparent spells => exact word (Color.isWord_of_name (.inl rfl) spells) rfl
  | name entry spells =>
    exact word (Color.isWord_of_name (.inr (List.mem_map_of_mem (f := Prod.fst) entry)) spells) rfl
  | hex digits => exact hash rfl
  | hexAlpha digits => exact hash rfl
  | hexPairs digits => exact hash rfl
  | hexPairsAlpha digits => exact hash rfl
  | @call name body _ _ _ _ _ _ called spelled few computed =>
    obtain ⟨letters, -⟩ := Color.functionName_letters called.1
    have own : (name ++ '(' :: (body ++ [')'])).takeWhile (· != '(') = name :=
      takeWhile_run letters rfl
    rw [← whole, takeWhile_run free rfl] at own
    rw [own, called.1] at other
    cases other

/-- The openings of gradients, letter by letter. -/
def gradientLetters : List (List Char) :=
  ["", "-webkit-", "-moz-", "-o-"].flatMap fun vendor =>
    ["", "repeating-"].flatMap fun repeated =>
      ["radial", "linear"].map fun shape =>
        vendor.toList ++ repeated.toList ++ shape.toList ++ "-gradient(".toList

theorem toList_gradientOpenings :
    Value.gradientOpenings.map String.toList = gradientLetters := by
  simp only [Value.gradientOpenings, gradientLetters, List.map_flatMap, List.map_map,
    Function.comp_def, String.toList_append]

/-- What holds of all these letters holds of those of an opening. -/
theorem of_gradientLetters {P : List Char → Prop} (each : ∀ letters ∈ gradientLetters, P letters)
    {opening : String} (known : opening ∈ Value.gradientOpenings) : P opening.toList := by
  rw [← toList_gradientOpenings, List.forall_mem_map] at each
  exact each opening known

/-- A text that denotes a color opens no gradient. -/
theorem no_gradient {cs : List Char} {color : Color}
    (denotes : Color.Denotes Color.anyScript cs color)
    {opening : String} (known : opening ∈ Value.gradientOpenings) : ¬opening.toList <+: cs := by
  have shapes : ∀ letters ∈ gradientLetters,
      letters = letters.takeWhile (· != '(') ++ ['('] ∧
        (letters.takeWhile (· != '(')).head? ≠ some '#' ∧
        functionNames.contains ((letters.takeWhile (· != '(')).map functionLetter) = false := by
    decide
  obtain ⟨shape, head, other⟩ := of_gradientLetters shapes known
  rintro ⟨rest, rfl⟩
  rw [shape, List.append_assoc, List.singleton_append] at denotes
  exact not_denotes_call List.all_takeWhile head other denotes

theorem gradientArguments?_eq_none_of {text : String}
    (other : ∀ opening ∈ Value.gradientOpenings, ¬opening.toList <+: text.toList) :
    Value.gradientArguments? text = none := by
  unfold Value.gradientArguments?
  rw [List.findSome?_eq_none_iff]
  intro opening known
  cases found : opening.toList.isPrefixOf? text.toList with
  | none => rfl
  | some inner =>
    exact (other opening known ⟨inner, List.isPrefixOf?_eq_some_iff_append_eq.mp found⟩).elim

theorem gradientArguments?_eq_none {text : String} (named : Color.IsNamedBy text)
    (trimmed : trim text.toList = text.toList) : Value.gradientArguments? text = none := by
  obtain ⟨color, read⟩ := named
  have denotes := Color.parse_eq_ok_iff.mp read
  rw [trimmed] at denotes
  exact gradientArguments?_eq_none_of fun opening known => no_gradient denotes known

end Css

/-- Pieces without gradients among them stay as they are. -/
theorem openGradients_of_none {pieces : List String}
    (whole : ∀ piece ∈ pieces, Value.gradientArguments? piece = none) :
    Value.openGradients pieces = .ok pieces := by
  have alone : pieces.mapM Value.openGradient = .ok (pieces.map ([·])) := by
    induction pieces with
    | nil => rfl
    | cons piece pieces ih =>
      rw [List.forall_mem_cons] at whole
      rw [List.mapM_cons, Value.openGradient, whole.1, ih whole.2]
      rfl
  rw [Value.openGradients, alone, Outcome.ok_bind]
  exact congrArg Except.ok (by simp [← List.flatMap_def])

/-- Without filters and formats all colors are kept. -/
theorem kept_plain {texts : List String} (named : ∀ text ∈ texts, Color.IsNamedBy text) :
    kept { allColors := true } texts = .ok texts := by
  have verdict {text : String} (named : Color.IsNamedBy text) :
      Verdict.of { allColors := true } text = .ok .kept := by
    obtain ⟨color, read⟩ := named
    unfold Verdict.of Color.parse?
    rw [read]
    rfl
  have judged : (texts.mapM fun text =>
      (Extracted.ofComputed (Verdict.of { allColors := true } text)).map (text, ·)) =
        .ok (texts.map fun text => (text, Verdict.kept)) := by
    induction texts with
    | nil => rfl
    | cons text texts ih =>
      rw [List.forall_mem_cons] at named
      rw [List.mapM_cons, verdict named.1, ih named.2]
      rfl
  unfold kept
  rw [judged, Outcome.ok_bind]
  refine congrArg Except.ok ?_
  rw [List.filter_eq_self.mpr (by simp), List.map_map]
  exact List.map_id texts

/-- Colors that are written for one component each are the colors of their list. -/
theorem ofValue_of_singles {texts : List String}
    (singles : ∀ text ∈ texts, Color.IsNamedBy text ∧ ∃ component, IsSingle text component) :
    Extraction.ofValue { allColors := true } (", ".intercalate texts) none = .ok texts := by
  have parts : ∃ parts, List.Forall₂ IsSingle texts parts := by
    induction texts with
    | nil => exact ⟨[], .nil⟩
    | cons text texts ih =>
      rw [List.forall_mem_cons] at singles
      obtain ⟨⟨-, component, own⟩, others⟩ := singles
      obtain ⟨parts, each⟩ := ih others
      exact ⟨component :: parts, .cons own each⟩
  obtain ⟨parts, each⟩ := parts
  have opened : Value.openGradients texts = .ok texts := by
    refine openGradients_of_none fun text member => ?_
    obtain ⟨named, component, own⟩ := singles text member
    exact gradientArguments?_eq_none named (trim_solid own.solid)
  have read : literals { allColors := true } (", ".intercalate texts) none = .ok texts := by
    rw [literals, candidates, items_join each, Outcome.ok_bind, opened, Outcome.ok_bind]
    exact kept_plain fun text member => (singles text member).1
  have formatted : texts.mapM (Palette.format { allColors := true }) = .ok texts := by
    clear read opened each singles
    induction texts with
    | nil => rfl
    | cons text texts ih =>
      rw [List.mapM_cons, ih]
      rfl
  rw [Extraction.ofValue, read, Outcome.ok_bind, Palette.arrange, formatted]
  rfl

/-- The colors of a style sheet, whatever the options, are what is read when they are joined by
commas; and each of them is what is read when it stands alone. -/
theorem ofValue_join (options : Options) (text : String) (colors : List String)
    (found : Extraction.ofStylesheet options text = .ok colors) :
    Extraction.ofValue { allColors := true } (", ".intercalate colors) none = .ok colors ∧
      ∀ color ∈ colors, Extraction.ofValue { allColors := true } color none = .ok [color] := by
  have singles : ∀ color ∈ colors, Color.IsNamedBy color ∧
      ∃ component, IsSingle color component := by
    intro color member
    obtain ⟨literal, own, formatted⟩ := exists_literal_of_mem_ofStylesheet found member
    exact ⟨Palette.isNamedBy_of_format (Color.isNamedBy_iff.mpr own.2) formatted,
      exists_single_of_format own formatted⟩
  refine ⟨ofValue_of_singles singles, fun color member => ?_⟩
  have alone : Extraction.ofValue { allColors := true } (", ".intercalate [color]) none =
      .ok [color] :=
    ofValue_of_singles (by simpa using singles color member)
  exact alone

/-- An exponent that is spelled as a unit, and a variable with a percentage that a comment cuts in
two. -/
theorem ofValue_join_respelled :
    Extraction.ofStylesheet {}
        "a\x7b--x:rgb(5/**/%,0%,0%);color:rgb(1\\65 2, 0, 0) var(--x)\x7d" =
          .ok ["rgb(1e2, 0, 0)", "rgb(5%,0%,0%)"] ∧
      Extraction.ofValue { allColors := true } "rgb(1e2, 0, 0), rgb(5%,0%,0%)" none =
        .ok ["rgb(1e2, 0, 0)", "rgb(5%,0%,0%)"] := by
  have found : Extraction.ofStylesheet {}
      "a\x7b--x:rgb(5/**/%,0%,0%);color:rgb(1\\65 2, 0, 0) var(--x)\x7d" =
        .ok ["rgb(1e2, 0, 0)", "rgb(5%,0%,0%)"] :=
    Outcome.eq_ok_of_toOption (by decide +kernel)
  exact ⟨found, (ofValue_join _ _ _ found).1⟩

end Swatch
