import Mathlib.Tactic.Tauto
import Swatch.Proofs.Css.Starts

/-!
# What a lexeme is read from

The reader of lexemes is inverted once: `Reading text lexeme rest` has one case for each kind of
lexeme, with what the text and the rest must be like, and whatever is read is one of these cases
(`reading_read`). Statements about all that a text can hold go through the cases and not through
the reader.
-/

namespace Swatch.Css

open Text
open Lexeme (startsRange closesHidden readRange)

/-- What the start of a text can be read as, with the rest after it. -/
inductive Reading : List Char → Lexeme → List Char → Prop where
  | whitespace {c : Char} {cs : List Char} (space : isSpace c) :
    Reading (c :: cs) (.token (.whitespace (String.ofList (c :: cs.takeWhile isSpace))))
      (cs.dropWhile isSpace)
  | range {c : Char} {cs : List Char} (start : startsRange c cs) :
    Reading (c :: cs) (readRange cs.tail).1 (readRange cs.tail).2
  | ident {c : Char} {cs name rest : List Char} (start : startsName (c :: cs))
    (range : startsRange c cs = false) (hidden : closesHidden c cs = false)
    (read : readName (c :: cs) = (name, rest)) (round : rest.head? ≠ some '(') :
    Reading (c :: cs) (.token (.ident (String.ofList name))) rest
  | function {c : Char} {cs name rest : List Char} (start : startsName (c :: cs))
    (range : startsRange c cs = false) (hidden : closesHidden c cs = false)
    (read : readName (c :: cs) = (name, '(' :: rest))
    (address : asciiLowered (String.ofList name) = "url" →
      (rest.dropWhile isSpace).head?.any (fun c => c == '"' || c == '\'') = true) :
    Reading (c :: cs) (.opening (.function (String.ofList name))) rest
  | url {c : Char} {cs name rest : List Char}
    (read : readName (c :: cs) = (name, '(' :: rest))
    (address : asciiLowered (String.ofList name) = "url") :
    Reading (c :: cs) (.token (readUrl rest).1) (readUrl rest).2
  | dimension {c : Char} {cs numeral after : List Char}
    (found : readNumeral? (c :: cs) = some (numeral, after)) (start : startsName after) :
    Reading (c :: cs)
      (.token (.dimension (String.ofList numeral) (String.ofList (readName after).1)))
      (readName after).2
  | percentage {c : Char} {cs numeral rest : List Char}
    (found : readNumeral? (c :: cs) = some (numeral, '%' :: rest)) :
    Reading (c :: cs) (.token (.percentage (String.ofList numeral))) rest
  | number {c : Char} {cs numeral rest : List Char}
    (found : readNumeral? (c :: cs) = some (numeral, rest)) (name : startsName rest = false)
    (percent : rest.head? ≠ some '%') :
    Reading (c :: cs) (.token (.number (String.ofList numeral))) rest
  | atKeyword {cs : List Char} (start : startsName cs) :
    Reading ('@' :: cs) (.token (.atKeyword (String.ofList (readName cs).1))) (readName cs).2
  | hash {cs : List Char} (named : ¬endsName cs) :
    Reading ('#' :: cs) (.token (.hash (String.ofList (readName cs).1) (startsName cs)))
      (readName cs).2
  | opening (bracket : Bracket) (cs : List Char) :
    Reading (bracket.opening :: cs) (.opening (.bracket bracket)) cs
  | closing (bracket : Bracket) (cs : List Char) :
    Reading (bracket.closing :: cs) (.closing bracket) cs
  | quoted {quote : Char} (isQuote : quote = '"' ∨ quote = '\'') (cs : List Char) :
    Reading (quote :: cs) (Lexeme.readQuoted quote cs).1 (Lexeme.readQuoted quote cs).2
  | comment (cs : List Char) :
    Reading ('/' :: '*' :: cs) .comment (Lexeme.afterComment cs)
  | sign {c : Char} {cs : List Char} (alone : Lexeme.StartsNone c cs)
    (opens : Bracket.ofOpening? c = none) (closes : Bracket.ofClosing? c = none)
    (quote : c ≠ '"' ∧ c ≠ '\'') (number : c = '#' → endsName cs)
    (slash : c = '/' → cs.head? ≠ some '*') :
    Reading (c :: cs) (.token (.delim c.toString)) cs
  | signs {c d : Char} {ds text rest : List Char} (longer : text = c :: d :: ds)
    (mark : (c = '-' ∧ '>' ∈ ds) ∨ c = '<' ∨ c = '|' ∨ c = '~' ∨ c = '^' ∨ c = '$' ∨ c = '*') :
    Reading (text ++ rest) (.token (.delim (String.ofList text))) rest

theorem endsName_iff {cs : List Char} :
    endsName cs = true ↔
      ¬(cs.head?.any isNameChar ∨ (cs.head? = some '\\' ∧ isEscape cs.tail)) := by
  cases cs with
  | nil => simp [endsName]
  | cons c cs => simp [endsName, imp_iff_not_or]

theorem reading_word {c : Char} {cs : List Char} (start : startsName (c :: cs))
    (range : startsRange c cs = false) (hidden : closesHidden c cs = false) :
    Reading (c :: cs) (Lexeme.readWord (c :: cs)).1 (Lexeme.readWord (c :: cs)).2 := by
  obtain ⟨name, after, read⟩ : ∃ name after, readName (c :: cs) = (name, after) := ⟨_, _, rfl⟩
  unfold Lexeme.readWord
  rw [read]
  dsimp only
  split
  next rest =>
    split
    next address => exact .url read address.1
    next other =>
      refine .function start range hidden read fun address => ?_
      by_contra quoted
      exact other ⟨address, quoted⟩
  next other =>
    refine .ident start range hidden read fun round => ?_
    cases after with
    | nil => cases round
    | cons d ds =>
      rw [Option.some.inj round] at other
      exact other ds rfl

theorem reading_measure {c : Char} {cs numeral after : List Char}
    (found : readNumeral? (c :: cs) = some (numeral, after)) :
    Reading (c :: cs) (Lexeme.readMeasure (String.ofList numeral) after).1
      (Lexeme.readMeasure (String.ofList numeral) after).2 := by
  unfold Lexeme.readMeasure
  split
  next start => exact .dimension found start
  next name =>
    rw [Bool.not_eq_true] at name
    split
    next rest => exact .percentage found
    next other =>
      refine .number found name fun percent => ?_
      cases after with
      | nil => cases percent
      | cons d ds =>
        rw [Option.some.inj percent] at other
        exact other ds rfl

theorem reading_signed {c : Char} {cs : List Char} (sign : c = '@' ∨ c = '#') :
    Reading (c :: cs) (Lexeme.readSigned c cs).1 (Lexeme.readSigned c cs).2 := by
  have alone : Lexeme.StartsNone c cs := by rcases sign with rfl | rfl <;> exact ⟨rfl, rfl, rfl⟩
  unfold Lexeme.readSigned
  split
  next keyword =>
    obtain ⟨rfl, start⟩ := keyword
    exact .atKeyword start
  split
  next hash =>
    obtain ⟨rfl, named⟩ := hash
    exact .hash fun ends => endsName_iff.mp ends named
  next other =>
    refine .sign alone ?_ ?_ ?_ (fun same => endsName_iff.mpr fun named => other ⟨same, named⟩) ?_
    all_goals rcases sign with rfl | rfl <;> simp [Bracket.ofOpening?, Bracket.ofClosing?,
      Bracket.all, Bracket.opening, Bracket.closing]

theorem reading_symbol {c : Char} {cs : List Char} (alone : Lexeme.StartsNone c cs)
    (opens : Bracket.ofOpening? c = none) (closes : Bracket.ofClosing? c = none)
    (quote : c ≠ '"' ∧ c ≠ '\'') (number : c ≠ '#') :
    Reading (c :: cs) (Lexeme.readSymbol c cs).1 (Lexeme.readSymbol c cs).2 := by
  fun_cases Lexeme.readSymbol c cs with
  | case1 rest => exact .comment rest
  | case2 rest =>
    have four : Reading (['<', '!', '-', '-'] ++ rest)
        (.token (.delim (String.ofList ['<', '!', '-', '-']))) rest := .signs rfl (by tauto)
    exact four
  | case3 rest =>
    have two : Reading (['|', '|'] ++ rest) (.token (.delim (String.ofList ['|', '|']))) rest :=
      .signs rfl (by tauto)
    exact two
  | case4 _ rest double =>
    have member : c = '~' ∨ c = '|' ∨ c = '^' ∨ c = '$' ∨ c = '*' := by simpa using double
    have two : Reading ([c, '='] ++ rest) (.token (.delim (String.ofList [c, '=']))) rest :=
      .signs rfl (by tauto)
    exact two
  | case5 _ rest single =>
    exact .sign alone opens closes quote (fun same => (number same).elim) fun _ => by simp
  | case6 _ _ slash =>
    refine .sign alone opens closes quote (fun same => (number same).elim) fun same star => ?_
    cases cs with
    | nil => cases star
    | cons d ds =>
      rw [Option.some.inj star] at slash
      exact slash ds same rfl

theorem opening_of_ofOpening? {c : Char} {bracket : Bracket}
    (found : Bracket.ofOpening? c = some bracket) : bracket.opening = c := by
  simpa using List.find?_some found

theorem closing_of_ofClosing? {c : Char} {bracket : Bracket}
    (found : Bracket.ofClosing? c = some bracket) : bracket.closing = c := by
  simpa using List.find?_some found

/-- Whatever is read is one of the cases. -/
theorem reading_read (c : Char) (cs : List Char) :
    Reading (c :: cs) (Lexeme.read c cs).1 (Lexeme.read c cs).2 := by
  by_cases space : isSpace c
  · rw [Lexeme.read_space space]
    exact .whitespace space
  by_cases range : startsRange c cs
  · rw [Lexeme.read_range range]
    exact .range range
  by_cases hidden : closesHidden c cs
  · obtain ⟨rfl, ds, rfl⟩ := closesHidden_head hidden
    have three : Reading (['-', '-', '>'] ++ ds)
        (.token (.delim (String.ofList ['-', '-', '>']))) ds := .signs rfl (.inl ⟨rfl, by simp⟩)
    rw [Lexeme.read_hidden]
    exact three
  rw [Bool.not_eq_true] at space range hidden
  by_cases start : startsName (c :: cs)
  · rw [Lexeme.read_name start range hidden]
    exact reading_word start range hidden
  cases found : readNumeral? (c :: cs) with
  | some parts =>
    obtain ⟨numeral, after⟩ := parts
    rw [Lexeme.read_numeral found]
    exact reading_measure found
  | none =>
    rw [Bool.not_eq_true] at start
    have alone : Lexeme.StartsNone c cs := ⟨space, start, readNumeral?_eq_none_iff.mp found⟩
    by_cases sign : c = '@' ∨ c = '#'
    · rw [Lexeme.read_signed sign]
      exact reading_signed sign
    rw [Lexeme.read_of_startsNone alone, if_neg sign]
    rw [not_or] at sign
    split
    next bracket opens =>
      rw [← opening_of_ofOpening? opens]
      exact .opening bracket cs
    next bracket opens closes =>
      rw [← closing_of_ofClosing? closes]
      exact .closing bracket cs
    next opens closes =>
      split
      next quote => exact .quoted quote cs
      next quote => exact reading_symbol alone opens closes (not_or.mp quote) sign.2

/-! ## What is left -/

theorem readEscape_suffix (cs : List Char) : (readEscape cs).2 <:+ cs := by
  have space (ds : List Char) : dropSpace ds <:+ ds := by
    cases ds with
    | nil => exact List.suffix_rfl
    | cons d ds =>
      rw [dropSpace]
      split
      next => exact List.suffix_cons _ _
      next => exact List.suffix_rfl
  unfold readEscape
  dsimp only
  split
  next => exact List.tail_suffix cs
  next => exact (space _).trans (List.drop_suffix _ cs)

theorem readName_suffix (cs : List Char) : (readName cs).2 <:+ cs := by
  fun_induction readName cs with
  | case1 => exact List.suffix_rfl
  | case2 c cs name word rest read ih =>
    rw [read] at ih
    exact ih.trans (List.suffix_cons _ _)
  | case3 c cs name escape word rest read ih =>
    rw [read] at ih
    exact ih.trans ((readEscape_suffix cs).trans (List.suffix_cons _ _))
  | case4 => exact List.suffix_rfl

theorem readString_suffix (quote : Char) (cs : List Char) : (readString quote cs).2.2 <:+ cs := by
  fun_induction readString quote cs with
  | case1 => exact List.suffix_rfl
  | case2 => exact List.suffix_cons _ _
  | case3 => exact List.suffix_rfl
  | case4 cs ends other line ih =>
    exact ih.trans ((List.tail_suffix cs).trans (List.suffix_cons _ _))
  | case5 cs escape value ending rest read other line ih =>
    rw [read] at ih
    exact ih.trans ((readEscape_suffix cs).trans (List.suffix_cons _ _))
  | case6 c cs other line plain value ending rest read ih =>
    rw [read] at ih
    exact ih.trans (List.suffix_cons _ _)

theorem readUrlText_suffix (cs : List Char) : (readUrlText cs).2.2 <:+ cs := by
  fun_induction readUrlText cs with
  | case1 => exact List.suffix_rfl
  | case2 => exact List.suffix_cons _ _
  | case3 => exact List.suffix_cons _ _
  | case4 => exact List.suffix_cons _ _
  | case5 c cs closes space forbidden escape value ending rest read ih =>
    rw [read] at ih
    exact ih.trans ((readEscape_suffix cs).trans (List.suffix_cons _ _))
  | case6 c cs closes space forbidden plain value ending rest read ih =>
    rw [read] at ih
    exact ih.trans (List.suffix_cons _ _)

theorem afterBadUrl_suffix (cs : List Char) : afterBadUrl cs <:+ cs := by
  fun_induction afterBadUrl cs with
  | case1 => exact List.suffix_rfl
  | case2 cs ih => exact ih.trans ((List.suffix_cons _ _).trans (List.suffix_cons _ _))
  | case3 cs => exact List.suffix_cons _ _
  | case4 c cs _ _ ih => exact ih.trans (List.suffix_cons _ _)

theorem readUrl_suffix (cs : List Char) : (readUrl cs).2 <:+ cs := by
  have start : cs.dropWhile isSpace <:+ cs := List.dropWhile_suffix _
  have text := (readUrlText_suffix (cs.dropWhile isSpace)).trans start
  rw [readUrl]
  split
  next value rest read =>
    rw [read] at text
    exact text
  next value rest read =>
    rw [read] at text
    exact text
  next value rest read =>
    rw [read] at text
    exact (afterBadUrl_suffix rest).trans text
  next value rest read =>
    rw [read] at text
    have after : rest.dropWhile isSpace <:+ cs := (List.dropWhile_suffix _).trans text
    split
    next => exact List.nil_suffix
    next c ds found =>
      rw [found] at after
      split
      next => exact (List.suffix_cons _ _).trans after
      next => exact (afterBadUrl_suffix _).trans after

theorem readQuoted_suffix (quote : Char) (cs : List Char) :
    (Lexeme.readQuoted quote cs).2 <:+ cs := by
  have text := readString_suffix quote cs
  rw [Lexeme.readQuoted]
  split
  next value rest read =>
    rw [read] at text
    exact text
  next value rest read =>
    rw [read] at text
    exact text
  next value rest read =>
    rw [read] at text
    exact text

theorem afterComment_suffix (cs : List Char) : Lexeme.afterComment cs <:+ cs := by
  fun_induction Lexeme.afterComment cs with
  | case1 => exact List.suffix_rfl
  | case2 cs => exact (List.suffix_cons _ _).trans (List.suffix_cons _ _)
  | case3 c cs _ ih => exact ih.trans (List.suffix_cons _ _)

theorem readRange_suffix (cs : List Char) : (Lexeme.readRange cs).2 <:+ cs := by
  have split (room : Nat) (ds : List Char) : (Lexeme.splitHex room ds).2 <:+ ds :=
    List.drop_suffix _ ds
  have digits := split 6 cs
  unfold Lexeme.readRange
  dsimp only
  split
  next =>
    split
    next d ds found =>
      rw [found] at digits
      split
      next => exact (split 6 (d :: ds)).trans ((List.suffix_cons '-' _).trans digits)
      next => exact digits
    next => exact digits
  next => exact (List.drop_suffix _ _).trans digits

/-- What is left of a text is its end. -/
theorem Reading.suffix {text rest : List Char} {lexeme : Lexeme}
    (reading : Reading text lexeme rest) : rest <:+ text := by
  have numeral {n after : List Char} (found : readNumeral? text = some (n, after)) :
      after <:+ text := ⟨n, readNumeral?_append found⟩
  have name {word after : List Char} (read : readName text = (word, after)) : after <:+ text := by
    have suffix := readName_suffix text
    rw [read] at suffix
    exact suffix
  cases reading with
  | whitespace space => exact (List.dropWhile_suffix _).trans (List.suffix_cons _ _)
  | range start =>
    exact (readRange_suffix _).trans ((List.tail_suffix _).trans (List.suffix_cons _ _))
  | ident start range hidden read round => exact name read
  | function start range hidden read address => exact (List.suffix_cons _ _).trans (name read)
  | url read address =>
    exact (readUrl_suffix _).trans ((List.suffix_cons _ _).trans (name read))
  | dimension found start => exact (readName_suffix _).trans (numeral found)
  | percentage found => exact (List.suffix_cons _ _).trans (numeral found)
  | number found name percent => exact numeral found
  | atKeyword start => exact (readName_suffix _).trans (List.suffix_cons _ _)
  | hash named => exact (readName_suffix _).trans (List.suffix_cons _ _)
  | opening bracket cs => exact List.suffix_cons _ _
  | closing bracket cs => exact List.suffix_cons _ _
  | quoted isQuote cs => exact (readQuoted_suffix _ cs).trans (List.suffix_cons _ _)
  | comment cs =>
    exact (afterComment_suffix cs).trans ((List.suffix_cons _ _).trans (List.suffix_cons _ _))
  | sign alone opens closes quote number slash => exact List.suffix_cons _ _
  | signs longer mark => exact List.suffix_append _ _

end Swatch.Css
