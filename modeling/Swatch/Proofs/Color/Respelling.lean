import Mathlib.Logic.Relation
import Swatch.Proofs.Color.Written

/-!
# Spellings of one color

What may be changed in a text without changing the color it is read as: the case of ASCII letters,
blanks around it, the `a` at the end of a function name, single digits for doubled ones, and what
stands between the arguments (`Respelling`). Each change keeps what the text denotes
(`Respelling.denotes_iff`), and so does any number of changes, made or taken back
(`parse_respelled`).
-/

namespace Swatch

open Text

namespace Text

/-! ## Letters of either case -/

section Letters

variable {c d : Char} {cs ds : List Char}

/-- What is no letter has no other case. -/
theorem eq_of_asciiLower_eq (same : asciiLower c = asciiLower d) (other : isAsciiLetter c = false) :
    c = d := by
  rw [Bool.eq_false_iff, Ne, isAsciiLetter_iff] at other
  rw [char_eq_iff, toNat_asciiLower, toNat_asciiLower] at same
  rw [char_eq_iff]
  split at same <;> split at same <;> omega

/-- What is the same for each capital and its small letter does not depend on case. -/
theorem apply_asciiLower {α : Type} {f : Char → α}
    (capitals : ∀ n < 26, f (asciiLower (Char.ofNat (65 + n))) = f (Char.ofNat (65 + n)))
    (c : Char) :
    f (asciiLower c) = f c := by
  by_cases capital : 'A' ≤ c ∧ c ≤ 'Z'
  · have bounds : 65 ≤ c.toNat ∧ c.toNat ≤ 90 := by
      rwa [char_le_iff, char_le_iff] at capital
    have own := capitals (c.toNat - 65) (by omega)
    rwa [Nat.add_sub_cancel' bounds.1, Char.ofNat_toNat] at own
  · rw [asciiLower, if_neg capital]

theorem isBlank_asciiLower (c : Char) : isBlank (asciiLower c) = isBlank c :=
  apply_asciiLower (by decide) c

theorem hexValue?_asciiLower (c : Char) : hexValue? (asciiLower c) = hexValue? c :=
  apply_asciiLower (by decide) c

theorem not_isAsciiLetter_of_isDecimalDigit (digit : isDecimalDigit c) :
    isAsciiLetter c = false := by
  have all : (!isAsciiLetter c) = true :=
    of_isDecimalDigit (p := fun c => !isAsciiLetter c) (by decide) digit
  exact Bool.not_eq_true' _ ▸ all

/-- A text without letters is the only one with its small letters. -/
theorem eq_of_map_asciiLower (same : cs.map asciiLower = ds.map asciiLower)
    (others : cs.all (!isAsciiLetter ·)) : ds = cs := by
  induction cs generalizing ds with
  | nil => exact List.map_eq_nil_iff.mp same.symm
  | cons c cs ih =>
    obtain ⟨d, ds, rfl, first, rest⟩ := List.map_eq_cons_iff.mp same.symm
    rw [List.all_cons, Bool.and_eq_true] at others
    have other : isAsciiLetter c = false := by simpa using others.1
    rw [ih rest.symm others.2, eq_of_asciiLower_eq first.symm other]

theorem exists_of_map_asciiLower_append {front back : List Char}
    (same : (front ++ back).map asciiLower = ds.map asciiLower) :
    ∃ front' back', ds = front' ++ back' ∧ front.map asciiLower = front'.map asciiLower ∧
      back.map asciiLower = back'.map asciiLower := by
  rw [List.map_append] at same
  obtain ⟨front', back', whole, first, second⟩ := List.map_eq_append_iff.mp same.symm
  exact ⟨front', back', whole, first.symm, second.symm⟩

theorem trimEnd_map_asciiLower (cs : List Char) :
    trimEnd (cs.map asciiLower) = (trimEnd cs).map asciiLower := by
  induction cs with
  | nil => rfl
  | cons c cs ih =>
    rw [List.map_cons, trimEnd, ih, trimEnd, isBlank_asciiLower]
    cases trimEnd cs with
    | nil =>
      rw [List.map_nil]
      dsimp only
      split <;> rfl
    | cons d kept => rfl

/-- Case has nothing to do with blanks. -/
theorem trim_map_asciiLower (cs : List Char) :
    trim (cs.map asciiLower) = (trim cs).map asciiLower := by
  have blank : isBlank ∘ asciiLower = isBlank := funext isBlank_asciiLower
  rw [trim, List.dropWhile_map, blank, trimEnd_map_asciiLower, trim]

end Letters

/-! ## Texts around a mark -/

section Marks

variable {mark : Char} {front middle back : List Char}

theorem trimEnd_mark (solid : isBlank mark = false) :
    trimEnd (front ++ mark :: back) = front ++ mark :: trimEnd back := by
  have kept : trimEnd (mark :: back) = mark :: trimEnd back := by
    rw [trimEnd]
    cases trimEnd back with
    | nil => simp [solid]
    | cons c kept => rfl
  rw [trimEnd_append front _ (by rw [kept]; exact List.cons_ne_nil _ _), kept]

/-- Of a text with a mark that is no blank, blanks are removed on both sides of the mark. -/
theorem trim_mark (solid : isBlank mark = false) :
    trim (front ++ mark :: back) = front.dropWhile isBlank ++ mark :: trimEnd back := by
  have stops : (mark :: back).head?.any isBlank = false := solid
  rw [trim, dropWhile_append_stop stops, trimEnd_mark solid]

end Marks

/-! ## Runs -/

/-- The maximal runs of a text without separators: each is as long as it can be, and between them
there are separators only. -/
inductive Runs (isSeparator : Char → Bool) : List Char → List (List Char) → Prop
  | none {gap : List Char} (all : gap.all isSeparator) : Runs isSeparator gap []
  | next {gap run rest : List Char} {runs : List (List Char)} (all : gap.all isSeparator)
      (nonempty : run ≠ []) (free : run.all (!isSeparator ·)) (stops : rest.head?.all isSeparator)
      (others : Runs isSeparator rest runs) : Runs isSeparator (gap ++ (run ++ rest)) (run :: runs)

/-- The fields of a text are its maximal runs. -/
theorem Runs.fields_eq {isSeparator : Char → Bool} {cs : List Char} {runs : List (List Char)}
    (own : Runs isSeparator cs runs) : fields isSeparator cs = runs := by
  induction own with
  | none all =>
    have empty := fields_gap all []
    rwa [List.append_nil] at empty
  | next all nonempty free stops others ih =>
    rw [fields_gap all, fields_text nonempty free stops, ih]

theorem runs_fields (isSeparator : Char → Bool) (cs : List Char) :
    Runs isSeparator cs (fields isSeparator cs) := by
  induction size : cs.length using Nat.strongRecOn generalizing cs with
  | ind n ih =>
    obtain ⟨gap, run, rest, rfl, all, free, stops, last⟩ := exists_field isSeparator cs
    rw [fields_gap all]
    by_cases empty : run = []
    · rw [empty, last empty, List.append_nil, List.append_nil]
      exact .none all
    · have positive : 0 < run.length := List.length_pos_iff.mpr empty
      rw [List.length_append, List.length_append] at size
      rw [fields_text empty free stops]
      exact .next all empty free stops (ih rest.length (by omega) rest rfl)

end Text

namespace Color

/-! ## Arguments in either case -/

section Arguments

variable {cs ds : List Char}

theorem no_letters_of_digits (all : cs.all isDecimalDigit) : cs.all (!isAsciiLetter ·) :=
  List.all_eq_true.mpr fun c member => by
    rw [not_isAsciiLetter_of_isDecimalDigit (List.all_eq_true.mp all c member)]
    rfl

theorem not_letter_of_separator {c : Char} (separator : isArgumentSeparator c) :
    isAsciiLetter c = false := by
  rw [Bool.eq_false_iff, Ne, isAsciiLetter_iff]
  simp only [isArgumentSeparator, isBlank, Bool.or_eq_true, beq_iff_eq, Bool.and_eq_true,
    decide_eq_true_eq, char_eq_iff] at separator
  have comma : ','.toNat = 44 := rfl
  have slash : '/'.toNat = 47 := rfl
  omega

theorem no_letters_of_gap (all : cs.all isArgumentSeparator) : cs.all (!isAsciiLetter ·) :=
  List.all_eq_true.mpr fun c member => by
    rw [not_letter_of_separator (List.all_eq_true.mp all c member)]
    rfl

theorem SignText.no_letters {negative : Bool} (signed : SignText cs negative) :
    cs.all (!isAsciiLetter ·) := by
  cases signed <;> rfl

theorem DecimalText.no_letters {whole places : List Char}
    (numeral : DecimalText isDecimalDigit cs whole places) : cs.all (!isAsciiLetter ·) := by
  cases numeral with
  | whole nonempty all => exact no_letters_of_digits all
  | point nonempty all all' =>
    rw [List.all_append, List.all_cons, no_letters_of_digits all, no_letters_of_digits all']
    rfl

theorem PowerText.recase {power : Int} (scaled : PowerText isDecimalDigit cs power)
    (same : cs.map asciiLower = ds.map asciiLower) : PowerText isDecimalDigit ds power := by
  cases scaled with
  | none =>
    rw [List.map_eq_nil_iff.mp same.symm]
    exact .none
  | @power marker sign digits negative letter signed nonempty all =>
    obtain ⟨marker', rest, rfl, letter', same⟩ := List.map_eq_cons_iff.mp same.symm
    have others : (sign ++ digits).all (!isAsciiLetter ·) := by
      rw [List.all_append, signed.no_letters, no_letters_of_digits all]
      rfl
    rw [eq_of_map_asciiLower same.symm others]
    exact .power (letter'.trans letter) signed nonempty all

theorem UnitText.recase {measure : Option Measure} (measured : UnitText cs measure)
    (same : cs.map asciiLower = ds.map asciiLower) : UnitText ds measure := by
  cases measured with
  | none =>
    rw [List.map_eq_nil_iff.mp same.symm]
    exact .none
  | percent =>
    rw [eq_of_map_asciiLower same (by decide)]
    exact .percent
  | degree letters => exact .degree (same.symm.trans letters)

theorem ArgumentText.recase {argument : Argument} (number : ArgumentText isDecimalDigit cs argument)
    (same : cs.map asciiLower = ds.map asciiLower) : ArgumentText isDecimalDigit ds argument := by
  obtain ⟨signed, numeral, scaled, measured⟩ := number
  obtain ⟨sign, rest, rfl, first, same⟩ := exists_of_map_asciiLower_append same
  obtain ⟨decimal, rest, rfl, second, same⟩ := exists_of_map_asciiLower_append same
  obtain ⟨exponent, unit, rfl, third, same⟩ := exists_of_map_asciiLower_append same
  rw [eq_of_map_asciiLower first signed.no_letters, eq_of_map_asciiLower second numeral.no_letters]
  exact .number signed numeral (scaled.recase third) (measured.recase same)

theorem ArgumentsText.recase {arguments : List Argument}
    (spelled : ArgumentsText isDecimalDigit cs arguments)
    (same : cs.map asciiLower = ds.map asciiLower) : ArgumentsText isDecimalDigit ds arguments := by
  induction spelled generalizing ds with
  | none all =>
    rw [eq_of_map_asciiLower same (no_letters_of_gap all)]
    exact .none all
  | @next gap text rest argument arguments all number stops others ih =>
    obtain ⟨gap', after, rfl, first, same⟩ := exists_of_map_asciiLower_append same
    obtain ⟨text', rest', rfl, second, same⟩ := exists_of_map_asciiLower_append same
    rw [eq_of_map_asciiLower first (no_letters_of_gap all)]
    refine .next all (number.recase second) ?_ (ih same)
    cases rest with
    | nil =>
      rw [List.map_eq_nil_iff.mp same.symm]
      rfl
    | cons c rest =>
      obtain ⟨d, rest', rfl, letter, -⟩ := List.map_eq_cons_iff.mp same.symm
      have separator : isArgumentSeparator c = true := by simpa using stops
      rw [← eq_of_asciiLower_eq letter.symm (not_letter_of_separator separator)]
      exact stops

end Arguments

/-! ## What a text denotes in either case -/

section Denotations

variable {name cs ds digits inner : List Char} {color : Color}

theorem nameLetter_asciiLower (c : Char) : nameLetter (asciiLower c) = nameLetter c :=
  apply_asciiLower (by decide) c

theorem functionLetter_asciiLower (c : Char) : functionLetter (asciiLower c) = functionLetter c :=
  apply_asciiLower (by decide) c

theorem map_eq_of_asciiLower {f : Char → Char} (either : ∀ c, f (asciiLower c) = f c)
    (same : cs.map asciiLower = ds.map asciiLower) : cs.map f = ds.map f := by
  have through : f ∘ asciiLower = f := funext either
  rw [← through, ← List.map_map, ← List.map_map, same]

theorem ofHexDigits?_map_asciiLower (digits : List Char) :
    ofHexDigits? (digits.map asciiLower) = ofHexDigits? digits := by
  have digit : isHexDigit ∘ asciiLower = isHexDigit := by
    funext c
    rw [Function.comp_apply, isHexDigit, hexValue?_asciiLower, isHexDigit]
  have channel (c d : Char) : hexChannel (asciiLower c) (asciiLower d) = hexChannel c d := by
    unfold hexChannel hexNumeral
    rw [List.map_cons, List.map_cons, List.map_cons, List.map_cons, hexValue?_asciiLower,
      hexValue?_asciiLower]
  unfold ofHexDigits?
  rw [List.all_map, digit]
  split
  next =>
    rcases digits with
        _ | ⟨a, _ | ⟨b, _ | ⟨c, _ | ⟨d, _ | ⟨e, _ | ⟨f, _ | ⟨g, _ | ⟨h, _ | ⟨i, more⟩⟩⟩⟩⟩⟩⟩⟩⟩
      <;> simp only [List.map_cons, List.map_nil, hexAlpha, channel]
  next => rfl

/-- After a number sign a text denotes what its digits spell. -/
theorem denotes_hash_iff :
    Denotes anyScript ('#' :: digits) color ↔ ofHexDigits? digits = some color := by
  constructor
  · intro denotes
    generalize text : '#' :: digits = cs at denotes
    have free {name : String} (named : name = transparentName ∨ name ∈ ColorName.names)
        (spelled : cs.map nameLetter = name.toList) : ofHexDigits? digits = some color := by
      have letter : nameLetter '#' ∈ name.toList := by
        rw [← spelled, ← text]
        exact List.mem_cons_self
      exact absurd ((names_letters named).2 _ letter).1 (by decide)
    cases denotes with
    | transparent spelled => exact free (.inl rfl) spelled
    | name entry spelled => exact free (.inr (List.mem_map_of_mem (f := Prod.fst) entry)) spelled
    | hex all => rw [(List.cons.inj text).2, ofHexDigits?, if_pos all]
    | hexAlpha all => rw [(List.cons.inj text).2, ofHexDigits?, if_pos all]
    | hexPairs all => rw [(List.cons.inj text).2, ofHexDigits?, if_pos all]
    | hexPairsAlpha all => rw [(List.cons.inj text).2, ofHexDigits?, if_pos all]
    | call called => exact absurd (by rw [← text]; rfl) (functionName_head called.1 _)
  · intro read
    exact denotes_of_ofHex? read

/-- With a parenthesis in it a text denotes what it is a call of. -/
theorem denotes_call_iff (free : '(' ∉ name) :
    Denotes anyScript (name ++ '(' :: inner) color ↔
      ∃ body rule x y z more, inner = body ++ [')'] ∧ anyScript.calls name rule ∧
        ArgumentsText isDecimalDigit body (x :: y :: z :: more) ∧ more.length ≤ 1 ∧
        rule.color x y z (x :: y :: z :: more) = .ok color := by
  constructor
  · intro denotes
    generalize text : name ++ '(' :: inner = cs at denotes
    have mark : '(' ∈ cs := by
      rw [← text]
      exact List.mem_append_right _ List.mem_cons_self
    have unnamed {word : String} (named : word = transparentName ∨ word ∈ ColorName.names)
        (spelled : cs.map nameLetter = word.toList) : False := by
      have letter : nameLetter '(' ∈ word.toList := by
        rw [← spelled]
        exact List.mem_map_of_mem mark
      exact absurd ((names_letters named).2 _ letter).1 (by decide)
    have undigit {digits : List Char} (all : digits.all isHexDigit) (text : cs = '#' :: digits) :
        False := by
      rw [text] at mark
      have digit := List.all_eq_true.mp all _ ((List.mem_cons.mp mark).resolve_left (by decide))
      exact absurd digit (by decide)
    cases denotes with
    | transparent spelled => exact (unnamed (.inl rfl) spelled).elim
    | name entry spelled =>
      exact (unnamed (.inr (List.mem_map_of_mem (f := Prod.fst) entry)) spelled).elim
    | hex all => exact (undigit all rfl).elim
    | hexAlpha all => exact (undigit all rfl).elim
    | hexPairs all => exact (undigit all rfl).elim
    | hexPairsAlpha all => exact (undigit all rfl).elim
    | @call name' body rule x y z more _ called spelled few computed =>
      have stops (rest : List Char) : ('(' :: rest).head?.any (· != '(') = false := rfl
      have all : name.all (· != '(') := List.all_eq_true.mpr fun c member => by
        rw [bne_iff_ne]
        rintro rfl
        exact free member
      have all' := (functionName_letters called.1).1
      have first := congrArg (List.takeWhile (· != '(')) text
      have second := congrArg (List.dropWhile (· != '(')) text
      rw [takeWhile_run all (stops _), takeWhile_run all' (stops _)] at first
      rw [dropWhile_run all (stops _), dropWhile_run all' (stops _)] at second
      subst first
      exact ⟨body, rule, x, y, z, more, (List.cons.inj second).2, called, spelled, few, computed⟩
  · rintro ⟨body, rule, x, y, z, more, rfl, called, spelled, few, computed⟩
    exact .call called spelled few computed

/-- A text denotes a color whatever the case of its ASCII letters. -/
theorem Denotes.recase (denotes : Denotes Color.anyScript cs color)
    (same : cs.map asciiLower = ds.map asciiLower) : Denotes Color.anyScript ds color := by
  have letters := map_eq_of_asciiLower nameLetter_asciiLower same
  have hash {digits : List Char} (all : cs = '#' :: digits)
      (read : ofHexDigits? digits = some color) :
      Denotes Color.anyScript ds color := by
    subst all
    obtain ⟨c, digits', rfl, mark, rest⟩ := List.map_eq_cons_iff.mp same.symm
    rw [← eq_of_asciiLower_eq mark.symm (by decide), denotes_hash_iff, ← read,
      ← ofHexDigits?_map_asciiLower digits', rest, ofHexDigits?_map_asciiLower]
  cases denotes with
  | transparent spelled => exact .transparent (letters.symm.trans spelled)
  | name entry spelled => exact .name entry (letters.symm.trans spelled)
  | hex all => exact hash rfl (by rw [ofHexDigits?, if_pos all])
  | hexAlpha all => exact hash rfl (by rw [ofHexDigits?, if_pos all])
  | hexPairs all => exact hash rfl (by rw [ofHexDigits?, if_pos all])
  | hexPairsAlpha all => exact hash rfl (by rw [ofHexDigits?, if_pos all])
  | call called spelled few computed =>
    obtain ⟨name', inner, rfl, first, rest⟩ := exists_of_map_asciiLower_append same
    obtain ⟨c, inner, rfl, mark, rest⟩ := List.map_eq_cons_iff.mp rest.symm
    obtain ⟨body', last, rfl, second, final⟩ := exists_of_map_asciiLower_append rest.symm
    obtain ⟨named, rfl⟩ := called
    rw [← eq_of_asciiLower_eq mark.symm (by decide), eq_of_map_asciiLower final (by decide)]
    refine .call ⟨?_, congrArg Rule.ofName first⟩ (spelled.recase second) few computed
    rwa [← map_eq_of_asciiLower functionLetter_asciiLower first]

end Denotations

/-! ## Changes of spelling -/

/-- A change of spelling. -/
inductive Respelling : List Char → List Char → Prop
  /-- ASCII letters in another case. -/
  | case {cs ds : List Char} (same : cs.map asciiLower = ds.map asciiLower) : Respelling cs ds
  /-- Blanks around the text. -/
  | blanks {front cs back : List Char} (before : front.all isBlank) (after : back.all isBlank) :
      Respelling cs (front ++ (cs ++ back))
  /-- Another name of the same function. -/
  | function {name name' rest : List Char} {rule : Rule} (called : ascii.calls name rule)
      (called' : ascii.calls name' rule) : Respelling (name ++ '(' :: rest) (name' ++ '(' :: rest)
  /-- Doubled digits after a number sign. -/
  | doubled {digits : List Char} (few : digits.length = 3 ∨ digits.length = 4)
      (all : digits.all isHexDigit) :
      Respelling ('#' :: digits) ('#' :: digits.flatMap fun c => [c, c])
  /-- Other text with the same runs between the first opening and the last closing parenthesis. -/
  | body {front body body' back : List Char} {runs : List (List Char)} (first : '(' ∉ front)
      (last : ')' ∉ back) (own : Runs isArgumentSeparator body runs)
      (own' : Runs isArgumentSeparator body' runs) :
      Respelling (front ++ '(' :: (body ++ ')' :: back)) (front ++ '(' :: (body' ++ ')' :: back))

section Respelling

variable {name cs ds digits inner : List Char} {color : Color}

/-- The arguments depend only on the runs between the separators. -/
theorem ArgumentsText.of_runs {body body' : List Char} {runs : List (List Char)}
    {arguments : List Argument} (own : Runs isArgumentSeparator body runs)
    (own' : Runs isArgumentSeparator body' runs)
    (spelled : ArgumentsText isDecimalDigit body arguments) :
    ArgumentsText isDecimalDigit body' arguments := by
  rw [← readArguments_eq_ok_iff, readArguments, own.fields_eq] at spelled
  rw [← readArguments_eq_ok_iff, readArguments, own'.fields_eq, spelled]

/-- A function name holds neither a parenthesis nor a blank. -/
theorem plain_of_calls {rule : Rule} (called : ascii.calls name rule) :
    '(' ∉ name ∧ name.dropWhile isBlank = name := by
  obtain ⟨-, letters⟩ := letters_of_calls called
  refine ⟨fun member => absurd (letters _ member) (by decide), ?_⟩
  cases name with
  | nil => rfl
  | cons c name =>
    have solid := not_isBlank_of_isAsciiLetter (letters c List.mem_cons_self)
    rw [List.dropWhile_cons_of_neg (by simp [solid])]

theorem calls_anyScript_iff {rule rule' : Rule} (called : ascii.calls name rule) :
    anyScript.calls name rule' ↔ rule' = rule := by
  have own := anyScript_calls_of_ascii called
  constructor
  · intro other
    exact other.2.trans own.2.symm
  · rintro rfl
    exact own

theorem trim_hash (all : digits.all isHexDigit) : trim ('#' :: digits) = '#' :: digits := by
  have known : ∀ c, isHexDigit c = true → isBlank c = false := by
    intro c digit
    rw [isHexDigit_iff] at digit
    rw [Bool.eq_false_iff]
    unfold isBlank
    simp
    omega
  have last : digits.getLast?.any isBlank = false := by
    cases found : digits.getLast? with
    | none => rfl
    | some c => exact known c (List.all_eq_true.mp all c (List.mem_of_getLast? found))
  rw [← List.nil_append ('#' :: digits), trim_mark (by decide), trimEnd_of_last last]
  rfl

theorem all_doubled (all : digits.all isHexDigit) :
    (digits.flatMap fun c => [c, c]).all isHexDigit := by
  refine List.all_eq_true.mpr fun c member => ?_
  obtain ⟨d, inner, member⟩ := List.mem_flatMap.mp member
  have same : c = d := by simpa using member
  exact same ▸ List.all_eq_true.mp all d inner

/-- A single digit stands for two. -/
theorem ofHexDigits?_doubled (few : digits.length = 3 ∨ digits.length = 4)
    (all : digits.all isHexDigit) :
    ofHexDigits? (digits.flatMap fun c => [c, c]) = ofHexDigits? digits := by
  have all' := all_doubled all
  unfold ofHexDigits?
  rw [if_pos all, if_pos all']
  match digits, few with
  | [r, g, b], _ => rfl
  | [r, g, b, a], _ => rfl

/-- A call ends with its parenthesis. -/
theorem denotes_body_iff {front body back : List Char} (first : '(' ∉ front) (last : ')' ∉ back) :
    Denotes anyScript (trim (front ++ '(' :: (body ++ ')' :: back))) color ↔
      trimEnd back = [] ∧ ∃ rule x y z more, anyScript.calls (front.dropWhile isBlank) rule ∧
        ArgumentsText isDecimalDigit body (x :: y :: z :: more) ∧ more.length ≤ 1 ∧
        rule.color x y z (x :: y :: z :: more) = .ok color := by
  have free : '(' ∉ front.dropWhile isBlank := fun member =>
    first ((List.dropWhile_sublist _).subset member)
  rw [trim_mark (by decide), trimEnd_mark (by decide), denotes_call_iff free]
  constructor
  · rintro ⟨body', rule, x, y, z, more, whole, called, spelled, few, computed⟩
    obtain ⟨after, -, text, -⟩ := exists_trimEnd back
    rcases List.eq_nil_or_concat (trimEnd back) with same | ⟨kept, c, same⟩
    · rw [same] at whole
      obtain ⟨rfl, -⟩ := List.append_inj' whole rfl
      exact ⟨same, rule, x, y, z, more, called, spelled, few, computed⟩
    · rw [same, List.concat_eq_append, ← List.cons_append, ← List.append_assoc] at whole
      have mark : c = ')' := by simpa using (List.append_inj' whole rfl).2
      rw [same, mark, List.concat_eq_append] at text
      exact absurd (by rw [text]; simp) last
  · rintro ⟨same, rule, x, y, z, more, called, spelled, few, computed⟩
    rw [same]
    exact ⟨body, rule, x, y, z, more, rfl, called, spelled, few, computed⟩

/-- A change of spelling keeps what the text denotes. -/
theorem Respelling.denotes_iff (step : Respelling cs ds) :
    Denotes Color.anyScript (trim cs) color ↔ Denotes Color.anyScript (trim ds) color := by
  cases step with
  | case same =>
    have trimmed : (trim cs).map asciiLower = (trim ds).map asciiLower := by
      rw [← trim_map_asciiLower, same, trim_map_asciiLower]
    exact ⟨fun denotes => denotes.recase trimmed, fun denotes => denotes.recase trimmed.symm⟩
  | blanks before after => rw [trim_blanks_append before, trim_append_blanks _ after]
  | function called called' =>
    obtain ⟨free, solid⟩ := plain_of_calls called
    obtain ⟨free', solid'⟩ := plain_of_calls called'
    rw [trim_mark (by decide), trim_mark (by decide), solid, solid', denotes_call_iff free,
      denotes_call_iff free']
    simp only [calls_anyScript_iff called, calls_anyScript_iff called']
  | doubled few all =>
    rw [trim_hash all, trim_hash (all_doubled all), denotes_hash_iff, denotes_hash_iff,
      ofHexDigits?_doubled few all]
  | body first last own own' =>
    have swap {arguments : List Argument} := Iff.intro
      (fun spelled : ArgumentsText isDecimalDigit _ arguments => spelled.of_runs own own')
      (fun spelled => spelled.of_runs own' own)
    rw [denotes_body_iff first last, denotes_body_iff first last]
    simp only [swap]

theorem denotes_iff_of_respelled (alike : Relation.EqvGen Respelling cs ds) :
    Denotes anyScript (trim cs) color ↔ Denotes anyScript (trim ds) color := by
  induction alike with
  | rel _ _ step => exact step.denotes_iff
  | refl => exact .rfl
  | symm _ _ _ ih => exact ih.symm
  | trans _ _ _ _ _ ih ih' => exact ih.trans ih'

/-- However often the spelling of a text is changed, it is read as the same color, or as none. -/
theorem parse_respelled {s t : String} (alike : Relation.EqvGen Respelling s.toList t.toList) :
    (∃ color, parse s = .ok color ∧ parse t = .ok color) ∨
      ((∃ cause, parse s = .error cause) ∧ ∃ cause, parse t = .error cause) := by
  have same (color : Color) : parse s = .ok color ↔ parse t = .ok color := by
    rw [parse_eq_ok_iff, parse_eq_ok_iff, denotes_iff_of_respelled alike]
  cases read : parse s with
  | ok color => exact .inl ⟨color, rfl, (same color).mp read⟩
  | error cause =>
    refine .inr ⟨⟨cause, rfl⟩, ?_⟩
    cases read' : parse t with
    | ok color =>
      rw [(same color).mpr read'] at read
      cases read
    | error cause' => exact ⟨cause', rfl⟩

/-- A call in other letters, under another name, with other separators and between blanks. -/
theorem parse_respelled_call :
    (∃ color, parse "RGB(1,2,3)" = .ok color ∧ parse " rgba( 1 / 2 3)\n" = .ok color) ∨
      ((∃ cause, parse "RGB(1,2,3)" = .error cause) ∧
        ∃ cause, parse " rgba( 1 / 2 3)\n" = .error cause) := by
  have plain : ascii.calls ['r', 'g', 'b'] .rgb := .inl rfl
  have clear : ascii.calls ['r', 'g', 'b', 'a'] .rgb := .inr rfl
  have dense : Runs isArgumentSeparator ['1', ',', '2', ',', '3'] [['1'], ['2'], ['3']] :=
    runs_fields _ _
  have loose : Runs isArgumentSeparator [' ', '1', ' ', '/', ' ', '2', ' ', '3']
      [['1'], ['2'], ['3']] :=
    runs_fields _ _
  have before : [' '].all isBlank = true := rfl
  have after : ['\n'].all isBlank = true := rfl
  have small : Respelling "RGB(1,2,3)".toList
      (['r', 'g', 'b'] ++ '(' :: ['1', ',', '2', ',', '3', ')']) :=
    .case rfl
  have named : Respelling (['r', 'g', 'b'] ++ '(' :: ['1', ',', '2', ',', '3', ')'])
      (['r', 'g', 'b', 'a'] ++ '(' :: ['1', ',', '2', ',', '3', ')']) :=
    .function plain clear
  have spaced : Respelling (['r', 'g', 'b', 'a'] ++ '(' :: (['1', ',', '2', ',', '3'] ++ ')' :: []))
      (['r', 'g', 'b', 'a'] ++ '(' :: ([' ', '1', ' ', '/', ' ', '2', ' ', '3'] ++ ')' :: [])) :=
    .body (by decide) (by decide) dense loose
  have between : Respelling
      (['r', 'g', 'b', 'a'] ++ '(' :: ([' ', '1', ' ', '/', ' ', '2', ' ', '3'] ++ ')' :: []))
      " rgba( 1 / 2 3)\n".toList :=
    .blanks before after
  exact parse_respelled (.trans _ _ _ (.rel _ _ small) (.trans _ _ _ (.rel _ _ named)
    (.trans _ _ _ (.rel _ _ spaced) (.rel _ _ between))))

end Respelling

end Color

end Swatch
