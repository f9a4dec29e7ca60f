import Swatch.Proofs.Css.Names
import Swatch.Proofs.Css.Numerals

/-!
# How a lexeme starts

The reader of lexemes asks a chain of questions about the text before it. For each kind of lexeme
the statements here say which start of a text leads to it, so that nothing later has to go through
the chain again.
-/

namespace Swatch.Css

open Text
open Lexeme (startsRange closesHidden)

/-! ## Starts of names and of numerals -/

theorem isNameStart_of_isAsciiDigit {c : Char} (digit : isAsciiDigit c) :
    isNameStart c = false := by
  rw [isAsciiDigit_iff] at digit
  rw [Bool.eq_false_iff, ne_eq, isNameStart_iff]
  omega

theorem isAsciiDigit_ne {c d : Char} (digit : isAsciiDigit c) (other : isAsciiDigit d = false) :
    c ≠ d := by
  rintro rfl
  rw [digit] at other
  cases other

theorem startsName_cons_iff {c : Char} {cs : List Char} :
    startsName (c :: cs) = true ↔
      isNameStart c = true ∨ (c = '\\' ∧ isEscape cs = true) ∨
        (c = '-' ∧ ∃ d ds, cs = d :: ds ∧
          (isNameStart d = true ∨ d = '-' ∨ (d = '\\' ∧ isEscape ds = true))) := by
  cases cs with
  | nil => simp [startsName]
  | cons d ds =>
    simp only [startsName, Bool.or_eq_true, Bool.and_eq_true, beq_iff_eq, List.cons.injEq]
    grind

theorem startsDecimal_cons_iff {c : Char} {cs : List Char} :
    startsDecimal (c :: cs) = true ↔
      isAsciiDigit c = true ∨ (c = '.' ∧ cs.head?.any isAsciiDigit = true) := by
  simp [startsDecimal]

/-- A numeral starts with a digit, a point or a sign. -/
theorem startsNumeral_cons_iff {c : Char} {cs : List Char} :
    startsNumeral (c :: cs) = true ↔
      startsDecimal (c :: cs) = true ∨ ((c = '+' ∨ c = '-') ∧ startsDecimal cs = true) := by
  by_cases sign : c = '+' ∨ c = '-'
  · have other : startsDecimal (c :: cs) = false := by
      rcases sign with rfl | rfl <;> rfl
    simp [startsNumeral, splitSign, sign, other]
  · simp [startsNumeral, splitSign, sign]

theorem startsName_of_startsDecimal {cs : List Char} (start : startsDecimal cs) :
    startsName cs = false := by
  cases cs with
  | nil => rfl
  | cons c cs =>
    rw [Bool.eq_false_iff, ne_eq, startsName_cons_iff]
    rcases startsDecimal_cons_iff.mp start with digit | ⟨rfl, -⟩
    · simp [isNameStart_of_isAsciiDigit digit, isAsciiDigit_ne digit (d := '\\') rfl,
        isAsciiDigit_ne digit (d := '-') rfl]
    · simp [show isNameStart '.' = false from rfl]

/-- Where a numeral starts, no name does. -/
theorem startsName_of_startsNumeral {cs : List Char} (start : startsNumeral cs) :
    startsName cs = false := by
  cases cs with
  | nil => rfl
  | cons c cs =>
    rcases startsNumeral_cons_iff.mp start with decimal | ⟨sign, decimal⟩
    · exact startsName_of_startsDecimal decimal
    · cases cs with
      | nil => cases decimal
      | cons d ds =>
        have later : isNameStart d = false ∧ d ≠ '-' ∧ d ≠ '\\' := by
          rcases startsDecimal_cons_iff.mp decimal with digit | ⟨rfl, -⟩
          · exact ⟨isNameStart_of_isAsciiDigit digit, isAsciiDigit_ne digit rfl,
              isAsciiDigit_ne digit rfl⟩
          · exact ⟨rfl, by decide, by decide⟩
        rw [Bool.eq_false_iff, ne_eq, startsName_cons_iff]
        rcases sign with rfl | rfl
        · simp [show isNameStart '+' = false from rfl]
        · simp [show isNameStart '-' = false from rfl, later]

theorem not_startsName_of_space {c : Char} (space : isSpace c) (cs : List Char) :
    startsName (c :: cs) = false := by
  rw [isSpace_iff] at space
  rw [Bool.eq_false_iff, ne_eq, startsName_cons_iff, isNameStart_iff, char_eq_iff, char_eq_iff]
  change ¬(_ ∨ (c.toNat = 92 ∧ _) ∨ (c.toNat = 45 ∧ _))
  omega

theorem not_startsNumeral_of_space {c : Char} (space : isSpace c) (cs : List Char) :
    startsNumeral (c :: cs) = false := by
  rw [isSpace_iff] at space
  rw [Bool.eq_false_iff, ne_eq, startsNumeral_cons_iff, startsDecimal_cons_iff, isAsciiDigit_iff,
    char_eq_iff, char_eq_iff, char_eq_iff]
  change ¬((_ ∨ (c.toNat = 46 ∧ _)) ∨ ((c.toNat = 43 ∨ c.toNat = 45) ∧ _))
  omega

theorem startsRange_head {c : Char} {cs : List Char} (start : startsRange c cs) :
    (c = 'u' ∨ c = 'U') ∧
      ∃ d ds, cs = '+' :: d :: ds ∧ (isHexDigit d = true ∨ d = '?') := by
  unfold startsRange at start
  split at start
  next d ds => simpa using start
  next => cases start

theorem closesHidden_head {c : Char} {cs : List Char} (start : closesHidden c cs) :
    c = '-' ∧ ∃ ds, cs = '-' :: '>' :: ds := by
  unfold closesHidden at start
  split at start
  next ds => simpa using start
  next => cases start

/-! ## Names without escapes -/

theorem writeName_plain {name : List Char} (plain : name.all isNameChar) :
    writeName name = name := by
  induction name with
  | nil => rfl
  | cons c name ih =>
    rw [List.all_cons, Bool.and_eq_true] at plain
    have rest := ih plain.2
    rw [writeName] at rest
    rw [writeName, List.flatMap_cons, rest, writeNameChar, if_pos plain.1, List.singleton_append]

/-- A name that starts like one and holds no other characters is written as it is. -/
theorem writeIdent_plain {name : List Char} (starts : startsName name)
    (plain : name.all isNameChar) : writeIdent name = name := by
  have first (c : Char) (start : isNameStart c) : writeNameStart c = [c] := by
    rw [writeNameStart, if_pos start]
  have backslash : isNameChar '\\' = false := rfl
  fun_cases writeIdent name with
  | case1 => rfl
  | case2 => cases starts
  | case3 name =>
    simp only [List.all_cons, Bool.and_eq_true] at plain
    rw [writeName_plain plain.2.2]
  | case4 c name other =>
    simp only [List.all_cons, Bool.and_eq_true] at plain
    have start : isNameStart c := by
      obtain start | ⟨same, -⟩ | ⟨-, d, ds, same, start | rfl | ⟨rfl, -⟩⟩ :=
        startsName_cons_iff.mp starts
      · cases start
      · cases same
      · rwa [(List.cons.inj same).1]
      · exact (other (List.cons.inj same).1).elim
      · rw [(List.cons.inj same).1, backslash] at plain
        cases plain.2.1
    rw [first c start, writeName_plain plain.2.2]
    rfl
  | case5 c name one two more =>
    simp only [List.all_cons, Bool.and_eq_true] at plain
    have start : isNameStart c := by
      obtain start | ⟨rfl, -⟩ | ⟨rfl, d, ds, rfl, -⟩ := startsName_cons_iff.mp starts
      · exact start
      · rw [backslash] at plain
        cases plain.1
      · exact (more d ds rfl rfl).elim
    rw [first c start, writeName_plain plain.2]
    rfl

/-! ## Lexemes by their start -/

namespace Lexeme

theorem read_space {c : Char} (space : isSpace c) (cs : List Char) :
    read c cs =
      (.token (.whitespace (String.ofList (c :: cs.takeWhile isSpace))), cs.dropWhile isSpace) := by
  rw [read, if_pos space]

theorem read_range {c : Char} {cs : List Char} (start : startsRange c cs) :
    read c cs = readRange cs.tail := by
  have space : isSpace c = false := by
    rcases (startsRange_head start).1 with rfl | rfl <;> rfl
  rw [read, if_neg (by simp [space]), if_pos start]

theorem read_name {c : Char} {cs : List Char} (start : startsName (c :: cs))
    (range : startsRange c cs = false) (hidden : closesHidden c cs = false) :
    read c cs = readWord (c :: cs) := by
  have space : ¬isSpace c := by
    intro space
    rw [not_startsName_of_space space] at start
    cases start
  rw [read, if_neg space, if_neg (by simp [range]), if_neg (by simp [hidden]), if_pos start]

theorem read_hidden (ds : List Char) :
    read '-' ('-' :: '>' :: ds) = (delim "-->", ds) := by
  have space : isSpace '-' = false := rfl
  have range : ¬startsRange '-' ('-' :: '>' :: ds) := fun range => by
    rcases (startsRange_head range).1 with same | same <;> cases same
  rw [read, if_neg (by simp [space]), if_neg range, if_pos (by simp [closesHidden])]
  rfl

/-- Where a numeral starts, it is read with what belongs to it. -/
theorem read_numeral {c : Char} {cs numeral rest : List Char}
    (found : readNumeral? (c :: cs) = some (numeral, rest)) :
    read c cs = readMeasure (String.ofList numeral) rest := by
  have start : startsNumeral (c :: cs) = true := by
    by_contra unstarted
    rw [Bool.not_eq_true, ← readNumeral?_eq_none_iff, found] at unstarted
    cases unstarted
  have name := startsName_of_startsNumeral start
  have space : ¬isSpace c := by
    intro space
    rw [not_startsNumeral_of_space space] at start
    cases start
  have range : ¬startsRange c cs := by
    intro range
    rcases (startsRange_head range).1 with rfl | rfl <;> cases name
  have hidden : ¬closesHidden c cs := by
    intro hidden
    obtain ⟨rfl, ds, rfl⟩ := closesHidden_head hidden
    cases name
  rw [read, if_neg space, if_neg range, if_neg hidden, if_neg (by simp [name]), found]

/-- A character that starts none of the longer lexemes before this text. -/
structure StartsNone (c : Char) (cs : List Char) : Prop where
  space : isSpace c = false
  name : startsName (c :: cs) = false
  numeral : startsNumeral (c :: cs) = false

theorem read_of_startsNone {c : Char} {cs : List Char} (startsNone : StartsNone c cs) :
    read c cs =
      if c = '@' ∨ c = '#' then readSigned c cs
      else
        match Bracket.ofOpening? c, Bracket.ofClosing? c with
        | some bracket, _ => (.opening (.bracket bracket), cs)
        | Option.none, some bracket => (.closing bracket, cs)
        | Option.none, Option.none =>
          if c = '"' ∨ c = '\'' then readQuoted c cs else readSymbol c cs := by
  have range : ¬startsRange c cs := by
    intro range
    have name := startsNone.name
    rcases (startsRange_head range).1 with rfl | rfl <;> cases name
  have hidden : ¬closesHidden c cs := by
    intro hidden
    have name := startsNone.name
    obtain ⟨rfl, ds, rfl⟩ := closesHidden_head hidden
    cases name
  rw [read, if_neg (by simp [startsNone.space]), if_neg range, if_neg hidden,
    if_neg (by simp [startsNone.name])]
  cases found : readNumeral? (c :: cs) with
  | none => rfl
  | some parts =>
    rw [readNumeral?_eq_none_iff.mpr startsNone.numeral] at found
    cases found

theorem read_opening (bracket : Bracket) (cs : List Char) :
    read bracket.opening cs = (.opening (.bracket bracket), cs) := by
  have startsNone : StartsNone bracket.opening cs := by cases bracket <;> exact ⟨rfl, rfl, rfl⟩
  rw [read_of_startsNone startsNone]
  cases bracket <;> rfl

theorem read_closing (bracket : Bracket) (cs : List Char) :
    read bracket.closing cs = (.closing bracket, cs) := by
  have startsNone : StartsNone bracket.closing cs := by cases bracket <;> exact ⟨rfl, rfl, rfl⟩
  rw [read_of_startsNone startsNone]
  cases bracket <;> rfl

theorem read_signed {c : Char} (sign : c = '@' ∨ c = '#') (cs : List Char) :
    read c cs = readSigned c cs := by
  have startsNone : StartsNone c cs := by rcases sign with rfl | rfl <;> exact ⟨rfl, rfl, rfl⟩
  rw [read_of_startsNone startsNone, if_pos sign]

end Lexeme

end Swatch.Css
