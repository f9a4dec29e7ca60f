import Swatch.Proofs.Color.Grammar
import Swatch.Proofs.Css.ArgumentRows

/-!
# Rows with a color function

A written text that is a call of a color function was written from lexemes, and among them are those
of its arguments (`exists_argumentRow`): the row is cut where the brackets of the call are written.
What stands before the first bracket need not be the name alone, since blanks may have been written
around the text and be part of the same lexeme.
-/

namespace Swatch.Css

open Text
open Color (isArgumentChar functionNames functionLetter)

/-! ## Cutting rows -/

/-- A character of a row's text is a character of one of its lexemes. -/
theorem exists_cut {row : List Lexeme} {c : Char} {front back : List Char}
    (text : rowText row = front ++ c :: back) :
    ∃ before lexeme after first last, row = before ++ lexeme :: after ∧
      lexeme.write = first ++ c :: last ∧ front = rowText before ++ first ∧
      back = last ++ rowText after := by
  induction row generalizing front with
  | nil => simp [rowText] at text
  | cons lexeme row ih =>
    rw [rowText_cons, List.append_eq_append_iff] at text
    rcases text with ⟨more, rfl, rest⟩ | ⟨more, own, rest⟩
    · obtain ⟨before, other, after, first, last, rfl, written, rfl, rfl⟩ := ih rest
      exact ⟨lexeme :: before, other, after, first, last, rfl, written,
        by rw [rowText_cons, List.append_assoc], rfl⟩
    · cases more with
      | nil =>
        rw [List.append_nil] at own
        have rest : rowText row = [] ++ c :: back := rest.symm
        obtain ⟨before, other, after, first, last, rfl, written, empty, rfl⟩ := ih rest
        refine ⟨lexeme :: before, other, after, first, last, rfl, written, ?_, rfl⟩
        rw [rowText_cons, List.append_assoc, ← empty, List.append_nil, own]
      | cons d more =>
        obtain ⟨rfl, rfl⟩ := List.cons.inj rest
        exact ⟨[], lexeme, row, front, more, rfl, own, rfl, rfl⟩

theorem Part.no_brackets {lexeme : Lexeme} (part : Part lexeme) :
    '(' ∉ lexeme.write ∧ ')' ∉ lexeme.write := by
  have absent {p : Char → Bool} {cs : List Char} (all : cs.all p) (opening : p '(' = false)
      (closing : p ')' = false) : '(' ∉ cs ∧ ')' ∉ cs := by
    constructor <;> intro member <;> have own := List.all_eq_true.mp all _ member
    · rw [opening] at own
      cases own
    · rw [closing] at own
      cases own
  cases part with
  | spaces nonempty all => exact absent all rfl rfl
  | @word name start all =>
    change '(' ∉ writeIdent (String.ofList name).toList ∧
      ')' ∉ writeIdent (String.ofList name).toList
    rw [String.toList_ofList, writeIdent_plain start all]
    exact absent all rfl rfl
  | number whole =>
    change '(' ∉ (String.ofList whole.text).toList ∧ ')' ∉ (String.ofList whole.text).toList
    rw [String.toList_ofList]
    exact absent whole.all_text rfl rfl
  | percentage whole =>
    obtain ⟨opening, closing⟩ := absent whole.all_text rfl rfl
    change '(' ∉ (String.ofList whole.text).toList ++ ['%'] ∧
      ')' ∉ (String.ofList whole.text).toList ++ ['%']
    rw [String.toList_ofList]
    simp [opening, closing]
  | @dimension whole unit start all plain =>
    obtain ⟨opening, closing⟩ := absent whole.all_text rfl rfl
    obtain ⟨opening', closing'⟩ := absent all rfl rfl
    rw [write_dimension whole plain]
    simp [opening, closing, opening', closing']
  | @sign c sign kept =>
    change '(' ∉ (String.ofList [c]).toList ∧ ')' ∉ (String.ofList [c]).toList
    rw [String.toList_ofList, List.mem_singleton, List.mem_singleton]
    constructor <;> rintro rfl <;> cases sign

theorem range_no_brackets (first last : Nat) :
    '(' ∉ (Lexeme.token (.unicodeRange first last)).write ∧
      ')' ∉ (Lexeme.token (.unicodeRange first last)).write := by
  have hex (n : Nat) : '(' ∉ writeHex n ∧ ')' ∉ writeHex n := by
    constructor <;> intro member <;>
      exact absurd (List.all_eq_true.mp (all_writeHex n) _ member) (by decide)
  change
    '(' ∉ "U+".toList ++ writeHex first ++ (if first = last then [] else '-' :: writeHex last) ∧
      ')' ∉ "U+".toList ++ writeHex first ++ (if first = last then [] else '-' :: writeHex last)
  split <;> simp [hex]

/-! ## Texts without strings -/

section Quotes

variable {α : Type}

mutual

/-- The text of a token is part of that of its component. -/
theorem Component.write_subset : ∀ (component : Component α) (token : Token),
    .token token ∈ component.lexemes → ∀ c ∈ token.write, c ∈ component.write
  | .leaf _ own, token, member, c, letter => by
    rw [lexemes_leaf, List.mem_singleton] at member
    rw [Component.write, ← Lexeme.token.inj member]
    exact letter
  | .group mark opener content, token, member, c, letter => by
    have inner : .token token ∈ lexemesOf content := by simpa using member
    have whole : ∃ ending, (group mark opener content).write =
        writeOpener opener ++ writeFrom none content ++ ending := by
      cases opener <;> exact ⟨_, by rw [Component.write]⟩
    obtain ⟨ending, whole⟩ := whole
    rw [whole]
    exact List.mem_append_left _
      (List.mem_append_right _ (Component.writeFrom_subset content none token inner c letter))

/-- The text of a token is part of that of the components. -/
theorem Component.writeFrom_subset : ∀ (found : List (Component α)) (before : Option Kind)
    (token : Token), .token token ∈ lexemesOf found →
    ∀ c ∈ token.write, c ∈ Component.writeFrom before found
  | [], before, token, member, c, letter => by simp at member
  | component :: rest, before, token, member, c, letter => by
    rw [lexemesOf_cons, List.mem_append] at member
    rw [Component.writeFrom]
    rcases member with member | member
    · exact List.mem_append_left _
        (List.mem_append_right _ (Component.write_subset component token member c letter))
    · exact List.mem_append_right _
        (Component.writeFrom_subset rest (some component.kind) token member c letter)

end

/-- A text without quotes has no strings. -/
theorem allClosed_of_no_quotes {found : List (Component α)} {before : Option Kind}
    (plain : '"' ∉ Component.writeFrom before found) :
    Component.AllClosed (Component.lexemesOf found) := by
  intro token member
  cases token with
  | string value closed =>
    exact (plain (Component.writeFrom_subset found before _ member '"' List.mem_cons_self)).elim
  | _ => rfl

end Quotes

/-! ## The arguments of a call -/

section Calls

variable {name body : List Char}

theorem isCallChar_of_isArgumentChar {c : Char} (argument : isArgumentChar c) :
    isCallChar c = true := by
  rw [isCallChar, argument]
  rfl

theorem isCallChar_of_isBlank {c : Char} (blank : isBlank c) : isCallChar c = true :=
  isCallChar_of_isArgumentChar (by rw [isArgumentChar, blank]; rfl)

/-- The letters in the names of color functions. -/
theorem letters_of_functionName (named : functionNames.contains (name.map functionLetter))
    {c : Char}
    (member : c ∈ name) : isNameStart c ∧ isCallChar c = true := by
  have known : functionNames.all fun name => name.all isAsciiLetter := by decide
  have own := List.all_eq_true.mp known _ (List.contains_iff_mem.mp named)
  have letter := List.all_eq_true.mp own (functionLetter c) (List.mem_map_of_mem member)
  unfold functionLetter at letter
  split at letter
  next long => simp [isNameStart, isCallChar, isArgumentChar, long]
  next =>
    have ascii : isAsciiLetter c = true := by
      rw [isAsciiLetter_iff, toNat_asciiLower] at letter
      rw [isAsciiLetter_iff]
      split at letter <;> omega
    simp [isNameStart, isCallChar, ascii]

/-- The start of an address is not the name of a color function. -/
theorem no_url_of_functionName (named : functionNames.contains (name.map functionLetter))
    {front before : List Char} : front ++ name ≠ before ++ ['u', 'r', 'l'] := by
  intro same
  have known : ∀ name ∈ functionNames, 3 ≤ name.length ∧ ¬['u', 'r', 'l'] <:+ name := by decide
  obtain ⟨long, other⟩ := known _ (List.contains_iff_mem.mp named)
  rw [List.length_map] at long
  have suffix : ['u', 'r', 'l'] <:+ name :=
    List.suffix_of_suffix_length_le ⟨before, same.symm⟩ (List.suffix_append front name) long
  exact other (suffix.map functionLetter)

/-- The row that a text was written from, with the blanks that stood around it. -/
theorem exists_writtenRow {text : String} (written : IsWritten text)
    (all : text.toList.all isCallChar) :
    ∃ row front back, SoundRow row ∧ (∀ lexeme ∈ row, lexeme.write.all isCallChar) ∧
      row.IsChain Lexeme.Meets ∧ front.all isBlank ∧ back.all isBlank ∧
      rowText row = front ++ (text.toList ++ back) := by
  obtain ⟨found, sound, rfl⟩ := written
  obtain ⟨front, back, before, after, whole, -⟩ := exists_trim (Component.writeFrom none found)
  have trimmed : (writeTrimmed found).toList = trim (Component.writeFrom none found) := by
    unfold writeTrimmed writeComponents Text.trimmed
    rw [String.toList_ofList, String.toList_ofList]
  rw [trimmed] at all ⊢
  have blanks {cs : List Char} (blank : cs.all isBlank) : cs.all isCallChar :=
    List.all_eq_true.mpr fun c member => isCallChar_of_isBlank (List.all_eq_true.mp blank c member)
  have chars : (Component.writeFrom none found).all isCallChar := by
    rw [whole, List.all_append, List.all_append, all, blanks before, blanks after]
    rfl
  have closed : Component.AllClosed (Component.lexemesOf found) :=
    allClosed_of_no_quotes (not_isCallChar (by decide) chars)
  rw [Component.writeFrom_eq_writeRow found closed none] at whole chars
  obtain ⟨meets, text, -⟩ := meets_of_writeRow (by simp) (not_isCallChar (by decide) chars)
    (not_isCallChar (by decide) chars)
  rw [← Component.writeFrom_eq_writeRow found closed none] at whole
  refine ⟨Component.lexemesOf found, front, back, Component.soundRow_lexemesOf.mpr sound,
    fun lexeme member => ?_, meets, before, after, ?_⟩
  · refine List.all_eq_true.mpr fun c letter => List.all_eq_true.mp chars c ?_
    rw [text]
    exact List.mem_flatMap.mpr ⟨lexeme, member, letter⟩
  · rw [← text, ← Component.writeFrom_eq_writeRow found closed none]
    exact whole

/-- What opens round brackets is written with one at its end. -/
theorem exists_write_opening {opener : Opener} (round : opener.brackets = .round) :
    ∃ front, (Lexeme.opening opener).write = front ++ ['('] := by
  cases opener with
  | function name => exact ⟨_, rfl⟩
  | bracket bracket =>
    cases bracket with
    | round => exact ⟨[], rfl⟩
    | _ => cases round

/-- A lexeme that is written with an opening bracket ends there, unless it is an address. -/
theorem ends_of_opening {lexeme : Lexeme} (sound : lexeme.Sound) (all : lexeme.write.all isCallChar)
    {first last : List Char} (spelled : lexeme.write = first ++ '(' :: last) (single : '(' ∉ first)
    (single' : '(' ∉ last) : first = ['u', 'r', 'l'] ∨ last = [] := by
  have member : '(' ∈ lexeme.write := by simp [spelled]
  rcases part_cases sound all with
    part | ⟨low, high, rfl⟩ | ⟨value, closed, rfl⟩ | ⟨opener, rfl, round⟩ | closing
  · exact (part.no_brackets.1 member).elim
  · exact ((range_no_brackets low high).1 member).elim
  · left
    have address : ∃ rest, (Lexeme.token (.url value closed)).write =
        ['u', 'r', 'l'] ++ '(' :: rest := ⟨_, rfl⟩
    obtain ⟨rest, address⟩ := address
    rw [address] at spelled
    rcases List.append_eq_append_iff.mp spelled with ⟨more, own, rest⟩ | ⟨more, own, rest⟩
    · cases more with
      | nil => simpa using own
      | cons c more =>
        rw [(List.cons.inj rest).1.symm] at own
        exact (single (by simp [own])).elim
    · cases more with
      | nil => simpa using own.symm
      | cons c more =>
        rw [(List.cons.inj rest).1.symm] at own
        have absent : '(' ∉ ['u', 'r', 'l'] := by decide
        exact (absent (by rw [own]; simp)).elim
  · right
    obtain ⟨front, ends⟩ := exists_write_opening round
    rcases List.eq_nil_or_concat last with empty | ⟨rest, c, rfl⟩
    · exact empty
    · rw [ends, List.concat_eq_append] at spelled
      have split : front ++ ['('] = (first ++ '(' :: rest) ++ [c] := by simpa using spelled
      obtain ⟨-, same⟩ := List.append_inj' split rfl
      refine (single' ?_).elim
      rw [List.concat_eq_append, ← same]
      simp
  · rw [closing, List.mem_singleton] at member
    cases member

/-- A lexeme that is written with a closing bracket, and without an opening one, starts there. -/
theorem starts_of_closing {lexeme : Lexeme} (sound : lexeme.Sound)
    (all : lexeme.write.all isCallChar) {first last : List Char}
    (spelled : lexeme.write = first ++ ')' :: last) (single : '(' ∉ lexeme.write) : first = [] := by
  have member : ')' ∈ lexeme.write := by simp [spelled]
  rcases part_cases sound all with
    part | ⟨low, high, rfl⟩ | ⟨value, closed, rfl⟩ | ⟨opener, rfl, round⟩ | closing
  · exact (part.no_brackets.2 member).elim
  · exact ((range_no_brackets low high).2 member).elim
  · exact (single (List.mem_append_left _ (List.mem_append_left _ (by decide)))).elim
  · obtain ⟨front, ends⟩ := exists_write_opening round
    exact (single (by simp [ends])).elim
  · rw [closing] at spelled
    cases first with
    | nil => rfl
    | cons c first => simp at spelled

/-- A lexeme that is written with characters of arguments is one of theirs. -/
theorem part_of_arguments {lexeme : Lexeme} (sound : lexeme.Sound)
    (arguments : lexeme.write.all isArgumentChar) : Part lexeme := by
  have absent (c : Char) (other : isArgumentChar c = false) : c ∉ lexeme.write := by
    intro letter
    rw [List.all_eq_true.mp arguments c letter] at other
    cases other
  have all : lexeme.write.all isCallChar := List.all_eq_true.mpr fun c member =>
    isCallChar_of_isArgumentChar (List.all_eq_true.mp arguments c member)
  rcases part_cases sound all with
    part | ⟨low, high, rfl⟩ | ⟨value, closed, rfl⟩ | ⟨opener, rfl, round⟩ | closing
  · exact part
  · refine (absent 'U' (by decide) ?_).elim
    exact List.mem_append_left _ (List.mem_append_left _ (by decide))
  · refine (absent 'u' (by decide) ?_).elim
    exact List.mem_append_left _ (List.mem_append_left _ (by decide))
  · obtain ⟨front, ends⟩ := exists_write_opening round
    exact (absent '(' (by decide) (by simp [ends])).elim
  · exact (absent ')' (by decide) (by simp [closing])).elim

/-- A row with one opening bracket, which is not that of an address, is cut where that bracket and
the first closing one behind it are written. -/
theorem exists_between {row : List Lexeme} {front body back : List Char} (sound : SoundRow row)
    (all : ∀ lexeme ∈ row, lexeme.write.all isCallChar)
    (text : rowText row = front ++ '(' :: (body ++ ')' :: back)) (before : '(' ∉ front)
    (after : '(' ∉ body ++ ')' :: back) (address : ∀ lead, front ≠ lead ++ ['u', 'r', 'l']) :
    ∃ lead opening inner closing trail, row = lead ++ opening :: (inner ++ closing :: trail) ∧
      rowText inner = body := by
  obtain ⟨lead, opening, rest, first, last, rfl, written, front_eq, back_eq⟩ := exists_cut text
  rw [back_eq, List.mem_append, not_or] at after
  have no_first : '(' ∉ first := by
    rw [front_eq] at before
    exact fun member => before (List.mem_append_right _ member)
  have opens : last = [] := by
    have own : opening ∈ lead ++ opening :: rest := by simp
    refine (ends_of_opening (sound opening own).1 (all opening own) written no_first
      after.1).resolve_left ?_
    rintro rfl
    exact address _ front_eq
  rw [opens, List.nil_append] at back_eq
  obtain ⟨inner, closing, trail, first', last', rfl, written', body_eq, -⟩ :=
    exists_cut back_eq.symm
  have closes : first' = [] := by
    have own : closing ∈ lead ++ opening :: (inner ++ closing :: trail) := by simp
    refine starts_of_closing (sound closing own).1 (all closing own) written' fun member => ?_
    exact after.2 (List.mem_flatMap.mpr ⟨closing, by simp, member⟩)
  rw [closes, List.append_nil] at body_eq
  exact ⟨lead, opening, inner, closing, trail, rfl, body_eq.symm⟩

/-- A written text that is a call holds a row of lexemes that is written as its arguments. -/
theorem exists_argumentRow {text : String} (written : IsWritten text)
    (spelled : text.toList = name ++ '(' :: (body ++ [')']))
    (named : functionNames.contains (name.map functionLetter))
    (arguments : body.all isArgumentChar) :
    ∃ row, (∀ lexeme ∈ row, Part lexeme) ∧ (∀ lexeme ∈ row, lexeme.overlong? = none) ∧
      row.IsChain Lexeme.Meets ∧ rowText row = body := by
  have letters : name.all isCallChar := List.all_eq_true.mpr fun c member =>
    (letters_of_functionName named member).2
  have chars : body.all isCallChar := List.all_eq_true.mpr fun c member =>
    isCallChar_of_isArgumentChar (List.all_eq_true.mp arguments c member)
  have all : text.toList.all isCallChar := by
    rw [spelled, List.all_append, List.all_cons, List.all_append, letters, chars]
    rfl
  obtain ⟨row, front, back, sound, rows, meets, before, after, text_eq⟩ :=
    exists_writtenRow written all
  have blank {cs : List Char} (all : cs.all isBlank) : '(' ∉ cs := fun member =>
    absurd (List.all_eq_true.mp all _ member) (by decide)
  have no_body : '(' ∉ body := fun member =>
    absurd (List.all_eq_true.mp arguments _ member) (by decide)
  have no_name : '(' ∉ name := fun member =>
    absurd (List.all_eq_true.mp (Color.functionName_letters named).1 _ member) (by decide)
  have whole : rowText row = (front ++ name) ++ '(' :: (body ++ ')' :: back) := by
    rw [text_eq, spelled]
    simp
  obtain ⟨lead, opening, inner, closing, trail, rfl, rfl⟩ :=
    exists_between sound rows whole (by simp [no_name, blank before])
      (by simp [no_body, blank after])
      fun _ => no_url_of_functionName named
  refine ⟨inner, fun lexeme member => ?_, fun lexeme member => ?_, ?_, rfl⟩
  · refine part_of_arguments (sound lexeme (by simp [member])).1 ?_
    refine List.all_eq_true.mpr fun c letter => List.all_eq_true.mp arguments c ?_
    exact List.mem_flatMap.mpr ⟨lexeme, member, letter⟩
  · exact (sound lexeme (by simp [member])).2
  · have tail := (List.isChain_cons.mp (List.isChain_append.mp meets).2.1).2
    exact (List.isChain_append.mp tail).1

end Calls

end Swatch.Css
