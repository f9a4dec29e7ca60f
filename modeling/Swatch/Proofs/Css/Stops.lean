import Swatch.Proofs.Css.Inversion
import Swatch.Proofs.Css.Reading

/-!
# Texts up to a stop

Some characters stop every lexeme that is not a comment, a string or an address: no name, numeral or
sign goes on with them. A text without the beginnings of these three (`Calm`) therefore has the same
lexemes alone and before a stop (`significant_append_stop`).
-/

namespace Swatch.Css

open Text

/-! ## Stops -/

/-- A character that stops every name, numeral and sign. -/
def isStop (c : Char) : Bool :=
  c == ',' || c == ';' || c == ')' || c == ']' || c == '\x7d'

/-- A character that begins neither a string nor an escape, and no sign of more characters. -/
def isCalm (c : Char) : Bool :=
  !"\"'\\*!|=".toList.contains c

/-- A text without strings, escapes, comments and addresses. -/
structure Calm (text : List Char) : Prop where
  chars : text.all isCalm
  free : ¬"url(".toList <:+: text.map asciiLower

theorem Calm.ne {text : List Char} (calm : Calm text) {c d : Char} (member : c ∈ text)
    (other : isCalm d = false) : c ≠ d := by
  rintro rfl
  rw [List.all_eq_true.mp calm.chars c member] at other
  cases other

theorem Calm.of_suffix {text rest : List Char} (calm : Calm text) (suffix : rest <:+ text) :
    Calm rest := by
  refine ⟨List.all_eq_true.mpr fun c member => ?_, fun address => ?_⟩
  · exact List.all_eq_true.mp calm.chars c (suffix.subset member)
  · exact calm.free (address.trans (suffix.map asciiLower).isInfix)

section Stops

variable {s : Char} {cs rest : List Char}

theorem isStop_cases (stop : isStop s) : s = ',' ∨ s = ';' ∨ s = ')' ∨ s = ']' ∨ s = '\x7d' := by
  simpa [isStop, or_assoc] using stop

theorem isStop_not (p : Char → Bool) (stop : isStop s)
    (excluded : [',', ';', ')', ']', '\x7d'].all (fun c => !p c)) : p s = false := by
  simp only [List.all_cons, List.all_nil, Bool.and_true, Bool.and_eq_true,
    Bool.not_eq_true'] at excluded
  rcases isStop_cases stop with rfl | rfl | rfl | rfl | rfl
  · exact excluded.1
  · exact excluded.2.1
  · exact excluded.2.2.1
  · exact excluded.2.2.2.1
  · exact excluded.2.2.2.2

theorem endsName_stop (stop : isStop s) : endsName (s :: rest) := by
  rcases isStop_cases stop with rfl | rfl | rfl | rfl | rfl <;> rfl

/-! ## Names -/

theorem readName_append_stop (plain : '\\' ∉ cs) (stop : isStop s) :
    readName (cs ++ s :: rest) = ((readName cs).1, (readName cs).2 ++ s :: rest) := by
  induction cs with
  | nil =>
    rw [List.nil_append, readName_of_endsName (s :: rest) (endsName_stop stop), readName]
    rfl
  | cons c cs ih =>
    rw [List.mem_cons, not_or] at plain
    by_cases name : isNameChar c
    · rw [List.cons_append, readName_nameChar name, readName_nameChar name, ih plain.2]
    · have ends (ds : List Char) : endsName (c :: ds) := by
        simp [endsName, name, Ne.symm plain.1]
      rw [List.cons_append, readName_of_endsName _ (ends _), readName_of_endsName _ (ends _)]
      rfl

theorem startsName_append_stop (plain : '\\' ∉ cs) (stop : isStop s) :
    startsName (cs ++ s :: rest) = startsName cs := by
  cases cs with
  | nil => rcases isStop_cases stop with rfl | rfl | rfl | rfl | rfl <;> rfl
  | cons c cs =>
    rw [List.mem_cons, not_or] at plain
    have first : (c == '\\') = false := beq_eq_false_iff_ne.mpr (Ne.symm plain.1)
    cases cs with
    | nil =>
      have start := isStop_not isNameStart stop rfl
      have hyphen := isStop_not (· == '-') stop rfl
      have backslash := isStop_not (· == '\\') stop rfl
      simp only [List.cons_append, List.nil_append, startsName, first, start, hyphen, backslash,
        Bool.false_and, Bool.or_self, Bool.and_false]
    | cons d ds =>
      rw [List.mem_cons, not_or] at plain
      have second : (d == '\\') = false := beq_eq_false_iff_ne.mpr (Ne.symm plain.2.1)
      simp only [List.cons_append, startsName, first, second, Bool.false_and]

/-! ## Numerals -/

theorem startsDecimal_append_stop (stop : isStop s) :
    startsDecimal (cs ++ s :: rest) = startsDecimal cs := by
  have digit := isStop_not isAsciiDigit stop rfl
  cases cs with
  | nil => rcases isStop_cases stop with rfl | rfl | rfl | rfl | rfl <;> rfl
  | cons c cs => cases cs <;> simp [startsDecimal, digit]

theorem splitSign_append_stop (stop : isStop s) :
    splitSign (cs ++ s :: rest) = ((splitSign cs).1, (splitSign cs).2 ++ s :: rest) := by
  cases cs with
  | nil => rcases isStop_cases stop with rfl | rfl | rfl | rfl | rfl <;> rfl
  | cons c cs =>
    rw [List.cons_append, splitSign, splitSign]
    split <;> rfl

theorem startsNumeral_append_stop (stop : isStop s) :
    startsNumeral (cs ++ s :: rest) = startsNumeral cs := by
  rw [startsNumeral, splitSign_append_stop stop, startsDecimal_append_stop stop]
  rfl

theorem splitExponent_append_stop (stop : isStop s) :
    (splitExponent (cs ++ s :: rest)).1 = (splitExponent cs).1 := by
  cases cs with
  | nil => rcases isStop_cases stop with rfl | rfl | rfl | rfl | rfl <;> rfl
  | cons c cs =>
    have digits : ((splitSign cs).2 ++ s :: rest).takeWhile isAsciiDigit =
        (splitSign cs).2.takeWhile isAsciiDigit :=
      takeWhile_append_stop (isStop_not isAsciiDigit stop rfl)
    simp only [List.cons_append, splitExponent, splitSign_append_stop stop, digits]
    split
    · split <;> rfl
    · rfl

theorem goesOn_append_stop (numeral : Numeral) (stop : isStop s) :
    numeral.goesOn (cs ++ s :: rest) = numeral.goesOn cs := by
  have digit : (cs ++ s :: rest).head?.any isAsciiDigit = cs.head?.any isAsciiDigit := by
    cases cs with
    | nil => exact isStop_not isAsciiDigit stop rfl
    | cons c cs => rfl
  rw [Numeral.goesOn, Numeral.goesOn, digit, startsDecimal_append_stop stop,
    splitExponent_append_stop stop]

theorem readNumeral?_append_stop (stop : isStop s) :
    readNumeral? (cs ++ s :: rest) =
      (readNumeral? cs).map fun parts => (parts.1, parts.2 ++ s :: rest) := by
  cases found : readNumeral? cs with
  | none =>
    rw [readNumeral?_eq_none_iff, ← startsNumeral_append_stop stop] at found
    exact readNumeral?_eq_none_iff.mpr found
  | some parts =>
    obtain ⟨n, after⟩ := parts
    obtain ⟨numeral, same, text, ends⟩ := readNumeral?_eq_some_iff.mp found
    rw [← goesOn_append_stop numeral stop] at ends
    exact readNumeral?_eq_some_iff.mpr ⟨numeral, same, by rw [text, List.append_assoc], ends⟩

/-! ## Ranges of code points -/

theorem takeWhile_take_append_stop {p : Char → Bool} (count : Nat) (stop : p s = false) :
    ((cs ++ s :: rest).take count).takeWhile p = (cs.take count).takeWhile p := by
  induction cs generalizing count with
  | nil => cases count <;> simp [stop]
  | cons c cs ih =>
    cases count with
    | zero => rfl
    | succ count => simp [List.takeWhile_cons, ih]

theorem splitHex_append_stop (room : Nat) (stop : isStop s) :
    Lexeme.splitHex room (cs ++ s :: rest) =
      ((Lexeme.splitHex room cs).1, (Lexeme.splitHex room cs).2 ++ s :: rest) := by
  have digits : ((cs ++ s :: rest).take room).takeWhile isHexDigit =
      (cs.take room).takeWhile isHexDigit :=
    takeWhile_take_append_stop room (isStop_not isHexDigit stop rfl)
  have short : ((cs.take room).takeWhile isHexDigit).length ≤ cs.length := by
    have inner := (List.takeWhile_sublist isHexDigit (l := cs.take room)).length_le
    rw [List.length_take] at inner
    omega
  rw [Lexeme.splitHex, Lexeme.splitHex, digits, List.drop_append_of_le_length short]

theorem readRange_append_stop (stop : isStop s) :
    Lexeme.readRange (cs ++ s :: rest) =
      ((Lexeme.readRange cs).1, (Lexeme.readRange cs).2 ++ s :: rest) := by
  obtain ⟨digits, after, found⟩ :
      ∃ digits after, Lexeme.splitHex 6 cs = (digits, after) := ⟨_, _, rfl⟩
  have wild : ((after ++ s :: rest).take (6 - digits.length)).takeWhile (· == '?') =
      (after.take (6 - digits.length)).takeWhile (· == '?') :=
    takeWhile_take_append_stop _ (isStop_not (· == '?') stop rfl)
  have short : ((after.take (6 - digits.length)).takeWhile (· == '?')).length ≤ after.length := by
    have inner :=
      (List.takeWhile_sublist (· == '?') (l := after.take (6 - digits.length))).length_le
    rw [List.length_take] at inner
    omega
  unfold Lexeme.readRange
  rw [splitHex_append_stop 6 stop, found]
  simp only [wild]
  split
  next =>
    cases after with
    | nil => rcases isStop_cases stop with rfl | rfl | rfl | rfl | rfl <;> rfl
    | cons c after =>
      by_cases hyphen : c = '-'
      · subst hyphen
        cases after with
        | nil =>
          have hex := isStop_not isHexDigit stop rfl
          simp [hex]
        | cons d ds =>
          have more : Lexeme.splitHex 6 (d :: ds ++ s :: rest) =
              ((Lexeme.splitHex 6 (d :: ds)).1, (Lexeme.splitHex 6 (d :: ds)).2 ++ s :: rest) :=
            splitHex_append_stop 6 stop
          rw [List.cons_append] at more
          simp only [List.cons_append, more]
          split <;> rfl
      · simp [hyphen]
  next => rw [List.drop_append_of_le_length short]

theorem startsRange_append_stop (c : Char) (stop : isStop s) :
    Lexeme.startsRange c (cs ++ s :: rest) = Lexeme.startsRange c cs := by
  have plus := isStop_not (· == '+') stop rfl
  have hex := isStop_not (fun d => isHexDigit d || d == '?') stop rfl
  cases cs with
  | nil => rcases isStop_cases stop with rfl | rfl | rfl | rfl | rfl <;> rfl
  | cons d ds =>
    by_cases same : d = '+'
    · subst same
      cases ds with
      | nil => simp [Lexeme.startsRange, hex]
      | cons e es => rfl
    · simp [Lexeme.startsRange, same]

theorem closesHidden_append_stop (c : Char) (stop : isStop s) :
    Lexeme.closesHidden c (cs ++ s :: rest) = Lexeme.closesHidden c cs := by
  cases cs with
  | nil => rcases isStop_cases stop with rfl | rfl | rfl | rfl | rfl <;> rfl
  | cons d ds =>
    by_cases same : d = '-'
    · subst same
      cases ds with
      | nil => rcases isStop_cases stop with rfl | rfl | rfl | rfl | rfl <;> rfl
      | cons e es =>
        by_cases close : e = '>'
        · subst close
          rfl
        · simp [Lexeme.closesHidden, close]
    · simp [Lexeme.closesHidden, same]

/-! ## Lexemes -/

theorem readMeasure_append_stop (numeral : String) (plain : '\\' ∉ cs) (stop : isStop s) :
    Lexeme.readMeasure numeral (cs ++ s :: rest) =
      ((Lexeme.readMeasure numeral cs).1, (Lexeme.readMeasure numeral cs).2 ++ s :: rest) := by
  unfold Lexeme.readMeasure
  rw [startsName_append_stop plain stop, readName_append_stop plain stop]
  split
  next => rfl
  next =>
    cases cs with
    | nil => rcases isStop_cases stop with rfl | rfl | rfl | rfl | rfl <;> rfl
    | cons c cs =>
      by_cases percent : c = '%'
      · subst percent
        rfl
      · simp [percent]

/-- A name without escapes is a run of the characters of names. -/
theorem readName_plain (plain : '\\' ∉ cs) :
    readName cs = (cs.takeWhile isNameChar, cs.dropWhile isNameChar) := by
  induction cs with
  | nil =>
    rw [readName]
    rfl
  | cons c cs ih =>
    rw [List.mem_cons, not_or] at plain
    rw [List.takeWhile_cons, List.dropWhile_cons]
    by_cases name : isNameChar c
    · rw [readName_nameChar name, ih plain.2, if_pos name, if_pos name]
    · rw [readName_of_endsName _ (by simp [endsName, name, Ne.symm plain.1]), if_neg name,
        if_neg name]

/-- No name in a calm text begins an address. -/
theorem Calm.ne_url {text name after : List Char} (calm : Calm text)
    (read : readName text = (name, '(' :: after)) : asciiLowered (String.ofList name) ≠ "url" := by
  intro address
  rw [readName_plain fun member => calm.ne member rfl rfl] at read
  obtain ⟨rfl, rest⟩ := Prod.mk.inj read
  have whole := List.takeWhile_append_dropWhile (p := isNameChar) (l := text)
  have letters : (text.takeWhile isNameChar).map asciiLower = "url".toList := by
    rw [← address, asciiLowered, String.toList_ofList, String.toList_ofList]
  apply calm.free
  rw [← whole, rest, List.map_append, letters]
  exact ⟨[], after.map asciiLower, rfl⟩

theorem readWord_append_stop {c : Char} (calm : Calm (c :: cs)) (stop : isStop s) :
    Lexeme.readWord (c :: (cs ++ s :: rest)) =
      ((Lexeme.readWord (c :: cs)).1, (Lexeme.readWord (c :: cs)).2 ++ s :: rest) := by
  have plain : '\\' ∉ c :: cs := fun member => calm.ne member rfl rfl
  have name : readName (c :: (cs ++ s :: rest)) =
      ((readName (c :: cs)).1, (readName (c :: cs)).2 ++ s :: rest) :=
    readName_append_stop plain stop
  obtain ⟨word, after, read⟩ : ∃ word after, readName (c :: cs) = (word, after) := ⟨_, _, rfl⟩
  unfold Lexeme.readWord
  rw [name, read]
  cases after with
  | nil => rcases isStop_cases stop with rfl | rfl | rfl | rfl | rfl <;> rfl
  | cons d ds =>
    by_cases round : d = '('
    · subst round
      have other := calm.ne_url read
      simp [other]
    · simp [round]

theorem readSigned_append_stop (c : Char) (plain : '\\' ∉ cs) (stop : isStop s) :
    Lexeme.readSigned c (cs ++ s :: rest) =
      ((Lexeme.readSigned c cs).1, (Lexeme.readSigned c cs).2 ++ s :: rest) := by
  have named (ds : List Char) (first : ds.head? ≠ some '\\') :
      (ds.head?.any isNameChar ∨ (ds.head? = some '\\' ∧ isEscape ds.tail)) ↔
        ds.head?.any isNameChar := by
    simp [first]
  have alone : cs.head? ≠ some '\\' := fun head => plain (List.mem_of_head? head)
  have before : (cs ++ s :: rest).head? ≠ some '\\' := by
    cases cs with
    | nil =>
      have backslash := isStop_not (· == '\\') stop rfl
      simpa using backslash
    | cons d ds => exact alone
  have head : (cs ++ s :: rest).head?.any isNameChar = cs.head?.any isNameChar := by
    cases cs with
    | nil => exact isStop_not isNameChar stop rfl
    | cons d ds => rfl
  unfold Lexeme.readSigned
  rw [startsName_append_stop plain stop, readName_append_stop plain stop]
  simp only [named _ alone, named _ before]
  rw [head]
  split
  · rfl
  · split <;> rfl

/-- A sign of a calm text is one character. -/
theorem readSymbol_calm {c : Char} (calm : isCalm c) (next : cs.head?.all isCalm) :
    Lexeme.readSymbol c cs = (Lexeme.delim c.toString, cs) := by
  fun_cases Lexeme.readSymbol c cs with
  | case1 rest => cases next
  | case2 rest => cases next
  | case3 rest => cases next
  | case4 _ rest double => cases next
  | case5 _ rest single => rfl
  | case6 => rfl

/-- Where no name and no numeral starts, a sign or a name behind one is read. -/
theorem read_sign_append_stop {c : Char} (calm : Calm (c :: cs)) (stop : isStop s)
    (startsNone : Lexeme.StartsNone c cs) (startsNone' : Lexeme.StartsNone c (cs ++ s :: rest)) :
    Lexeme.read c (cs ++ s :: rest) =
      ((Lexeme.read c cs).1, (Lexeme.read c cs).2 ++ s :: rest) := by
  have plain : '\\' ∉ cs := fun member => calm.ne (List.mem_cons_of_mem c member) rfl rfl
  rw [Lexeme.read_of_startsNone startsNone, Lexeme.read_of_startsNone startsNone']
  by_cases sign : c = '@' ∨ c = '#'
  · rw [if_pos sign, if_pos sign]
    exact readSigned_append_stop c plain stop
  have quote : ¬(c = '"' ∨ c = '\'') := by
    rintro (rfl | rfl)
    · exact calm.ne List.mem_cons_self rfl rfl
    · exact calm.ne List.mem_cons_self rfl rfl
  have calm_char : isCalm c := List.all_eq_true.mp calm.chars c List.mem_cons_self
  have next : cs.head?.all isCalm := by
    cases cs with
    | nil => rfl
    | cons d ds => exact List.all_eq_true.mp calm.chars d (by simp)
  have next' : (cs ++ s :: rest).head?.all isCalm := by
    cases cs with
    | nil => rcases isStop_cases stop with rfl | rfl | rfl | rfl | rfl <;> rfl
    | cons d ds => exact next
  rw [if_neg sign, if_neg sign, if_neg quote, if_neg quote, readSymbol_calm calm_char next,
    readSymbol_calm calm_char next']
  split <;> rfl

/-- A lexeme of a calm text does not look past a stop. -/
theorem read_append_stop {c : Char} (calm : Calm (c :: cs)) (stop : isStop s) :
    Lexeme.read c (cs ++ s :: rest) =
      ((Lexeme.read c cs).1, (Lexeme.read c cs).2 ++ s :: rest) := by
  have later : '\\' ∉ c :: cs := fun member => calm.ne member rfl rfl
  have start : startsName (c :: (cs ++ s :: rest)) = startsName (c :: cs) :=
    startsName_append_stop later stop
  have numeral : readNumeral? (c :: cs ++ s :: rest) =
      (readNumeral? (c :: cs)).map fun parts => (parts.1, parts.2 ++ s :: rest) :=
    readNumeral?_append_stop stop
  rw [List.cons_append] at numeral
  have ranges : Lexeme.startsRange c (cs ++ s :: rest) = Lexeme.startsRange c cs :=
    startsRange_append_stop c stop
  have hides : Lexeme.closesHidden c (cs ++ s :: rest) = Lexeme.closesHidden c cs :=
    closesHidden_append_stop c stop
  by_cases space : isSpace c
  · have spaces : (s :: rest).head?.any isSpace = false := isStop_not isSpace stop rfl
    rw [Lexeme.read_space space, Lexeme.read_space space, takeWhile_append_stop spaces,
      dropWhile_append_stop spaces]
  by_cases range : Lexeme.startsRange c cs
  · rw [Lexeme.read_range range, Lexeme.read_range (ranges.trans range)]
    obtain ⟨-, d, ds, rfl, -⟩ := startsRange_head range
    exact readRange_append_stop stop
  by_cases hidden : Lexeme.closesHidden c cs
  · obtain ⟨rfl, ds, rfl⟩ := closesHidden_head hidden
    rw [Lexeme.read_hidden]
    exact Lexeme.read_hidden _
  rw [Bool.not_eq_true] at space range hidden
  have range' := ranges.trans range
  have hidden' := hides.trans hidden
  by_cases name : startsName (c :: cs)
  · rw [Lexeme.read_name name range hidden, Lexeme.read_name (start.trans name) range' hidden']
    exact readWord_append_stop calm stop
  rw [Bool.not_eq_true] at name
  cases found : readNumeral? (c :: cs) with
  | some parts =>
    obtain ⟨digits, after⟩ := parts
    rw [found] at numeral
    have rest_plain : '\\' ∉ after := fun member =>
      later (by rw [← readNumeral?_append found]; exact List.mem_append_right _ member)
    rw [Lexeme.read_numeral found, Lexeme.read_numeral numeral]
    exact readMeasure_append_stop _ rest_plain stop
  | none =>
    rw [found] at numeral
    have startsNone : Lexeme.StartsNone c cs := ⟨space, name, readNumeral?_eq_none_iff.mp found⟩
    have startsNone' : Lexeme.StartsNone c (cs ++ s :: rest) :=
      ⟨space, start.trans name, readNumeral?_eq_none_iff.mp numeral⟩
    exact read_sign_append_stop calm stop startsNone startsNone'

end Stops

/-! ## Texts -/

/-- A calm text is read before a stop as it is read alone. -/
theorem significant_append_stop {text : List Char} (calm : Calm text) {s : Char}
    (stop : isStop s) (rest : List Char) :
    significant (text ++ s :: rest) = significant text ++ significant (s :: rest) := by
  -- A lexeme leaves a shorter text, so the induction is on the length.
  induction length : text.length using Nat.strong_induction_on generalizing text with
  | _ n ih =>
    cases text with
    | nil =>
      rw [significant_nil]
      rfl
    | cons c cs =>
      have later := ih _ (by rw [← length]; exact Nat.lt_succ_of_le (Lexeme.length_read_le c cs))
        (calm.of_suffix (reading_read c cs).suffix) rfl
      rw [List.cons_append, significant_cons, significant_cons, read_append_stop calm stop]
      rw [later, List.append_assoc]

end Swatch.Css
