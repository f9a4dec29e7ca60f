import Swatch.Css.Token

/-!
# Lexemes

A style sheet cut into lexemes: its tokens, the brackets that open and close groups, and the
comments. Every lexeme takes at least one character (`Lexeme.length_read_le`), so a text has as
many lexemes as it needs and no more than characters. A lexeme is kept with the text from it on,
which tells where it stands.

No text is refused: a string cut off by a line end and an address with a forbidden character are
tokens of their own.
-/

namespace Swatch.Css

/-- The text with one kind of line end, and without the null character. -/
def normalized : List Char → List Char
  | [] => []
  | '\r' :: '\n' :: cs => '\n' :: normalized cs
  | c :: cs =>
    (if c == '\r' || c == '\x0c' then '\n' else if c == '\x00' then replacement else c) ::
      normalized cs

/-! ## Escapes and names -/

/-- The text without one space at its start. -/
def dropSpace : List Char → List Char
  | [] => []
  | c :: cs => if isSpace c then cs else c :: cs

/-- The character of a code point, if it is one. -/
def charOfCode (code : Nat) : Char :=
  if code ≠ 0 ∧ code.isValidChar then Char.ofNat code else replacement

/-- The character that is escaped after a backslash: by a code point of up to six digits with
perhaps a space behind, or by itself. -/
def readEscape (cs : List Char) : Char × List Char :=
  let digits := (cs.take 6).takeWhile Text.isHexDigit
  if digits.isEmpty then (cs.head?.getD replacement, cs.tail)
  else (charOfCode (Text.hexNumeral digits), dropSpace (cs.drop digits.length))

/-- Whether a backslash with this text after it escapes something. -/
def isEscape (cs : List Char) : Bool :=
  cs.head? != some '\n'

theorem length_dropSpace_le (cs : List Char) : (dropSpace cs).length ≤ cs.length := by
  cases cs <;> grind [dropSpace]

theorem length_readEscape_le (cs : List Char) : (readEscape cs).2.length ≤ cs.length := by
  have := length_dropSpace_le (cs.drop ((cs.take 6).takeWhile Text.isHexDigit).length)
  grind [readEscape]

/-- The longest name at the start of a text, its escapes resolved, and the text after it. -/
def readName : List Char → List Char × List Char
  | [] => ([], [])
  | c :: cs =>
    if isNameChar c then
      let (name, rest) := readName cs
      (c :: name, rest)
    else if c = '\\' ∧ isEscape cs then
      let (name, rest) := readName (readEscape cs).2
      ((readEscape cs).1 :: name, rest)
    else ([], c :: cs)
termination_by cs => cs.length
decreasing_by
  · simp
  · have := length_readEscape_le cs
    simp only [List.length_cons]
    omega

/-- Whether a name starts here: with a letter, with a hyphen before a name or another hyphen, or
with an escape. -/
def startsName : List Char → Bool
  | [] => false
  | c :: cs =>
    isNameStart c || (c == '\\' && isEscape cs) ||
      (c == '-' &&
        match cs with
        | [] => false
        | d :: ds => isNameStart d || d == '-' || (d == '\\' && isEscape ds))

theorem length_readName_le (cs : List Char) : (readName cs).2.length ≤ cs.length := by
  fun_induction readName cs with
  | case1 => simp
  | case2 c cs _ name rest read ih => grind
  | case3 c cs _ _ name rest read ih => grind [length_readEscape_le]
  | case4 => simp

/-- A name that starts takes a character. -/
theorem length_readName_lt {c : Char} {cs : List Char}
    (start : isNameChar c ∨ (c = '\\' ∧ isEscape cs)) :
    (readName (c :: cs)).2.length ≤ cs.length := by
  have name := length_readName_le cs
  have escaped := length_readName_le (readEscape cs).2
  have escape := length_readEscape_le cs
  rw [readName]
  grind

/-! ## Strings and addresses -/

/-- How a quoted text ends. -/
inductive StringEnd where
  | closed
  | unclosed
  | broken
  deriving DecidableEq, Repr

/-- The text up to a quote, its escapes resolved, how it ends, and what follows. A line end cuts it
off and is not part of it; an escaped line end counts for nothing. -/
def readString (quote : Char) : List Char → List Char × StringEnd × List Char
  | [] => ([], .unclosed, [])
  | c :: cs =>
    if c = quote then ([], .closed, cs)
    else if c = '\n' then ([], .broken, c :: cs)
    else if c = '\\' then
      if cs.isEmpty || !isEscape cs then readString quote cs.tail
      else
        let (value, ending, rest) := readString quote (readEscape cs).2
        ((readEscape cs).1 :: value, ending, rest)
    else
      let (value, ending, rest) := readString quote cs
      (c :: value, ending, rest)
termination_by cs => cs.length
decreasing_by
  · simp only [List.length_tail, List.length_cons]; omega
  · have := length_readEscape_le cs
    simp only [List.length_cons]
    omega
  · simp

theorem length_readString_le (quote : Char) (cs : List Char) :
    (readString quote cs).2.2.length ≤ cs.length := by
  fun_induction readString quote cs <;> grind [length_readEscape_le]

/-- How the text of an address ends. -/
inductive UrlEnd where
  | closed
  | unclosed
  | spaced
  | broken
  deriving DecidableEq, Repr

/-- A character that an address must not hold unquoted. -/
def isForbidden (c : Char) : Bool :=
  c == '"' || c == '\'' || c == '(' || c.toNat ≤ 8 || c.toNat == 0xB ||
    (0xE ≤ c.toNat && c.toNat ≤ 0x1F) || c.toNat == 0x7F

/-- The text of an address, its escapes resolved, how it ends, and what follows. -/
def readUrlText : List Char → List Char × UrlEnd × List Char
  | [] => ([], .unclosed, [])
  | c :: cs =>
    if c = ')' then ([], .closed, cs)
    else if isSpace c then ([], .spaced, cs)
    else if isForbidden c then ([], .broken, cs)
    else if c = '\\' ∧ isEscape cs then
      let (value, ending, rest) := readUrlText (readEscape cs).2
      ((readEscape cs).1 :: value, ending, rest)
    else
      let (value, ending, rest) := readUrlText cs
      (c :: value, ending, rest)
termination_by cs => cs.length
decreasing_by
  · have := length_readEscape_le cs
    simp only [List.length_cons]
    omega
  · simp

theorem length_readUrlText_le (cs : List Char) :
    (readUrlText cs).2.2.length ≤ cs.length := by
  fun_induction readUrlText cs <;> grind [length_readEscape_le]

/-- What follows an address that went wrong: the text after the next closing bracket that is not
escaped. -/
def afterBadUrl : List Char → List Char
  | [] => []
  | '\\' :: ')' :: cs => afterBadUrl cs
  | c :: cs => if c = ')' then cs else afterBadUrl cs

theorem length_afterBadUrl_le (cs : List Char) : (afterBadUrl cs).length ≤ cs.length := by
  fun_induction afterBadUrl cs <;> grind

/-- The address after its opening bracket, and the text after its closing one. Spaces may stand
around it. -/
def readUrl (cs : List Char) : Token × List Char :=
  match readUrlText (cs.dropWhile isSpace) with
  | (value, .closed, rest) => (.url (String.ofList value) true, rest)
  | (value, .unclosed, rest) => (.url (String.ofList value) false, rest)
  | (_, .broken, rest) => (.badUrl, afterBadUrl rest)
  | (value, .spaced, rest) =>
    match rest.dropWhile isSpace with
    | [] => (.url (String.ofList value) false, [])
    | c :: cs =>
      if c = ')' then (.url (String.ofList value) true, cs) else (.badUrl, afterBadUrl (c :: cs))

theorem length_dropWhile_le (p : Char → Bool) (cs : List Char) :
    (cs.dropWhile p).length ≤ cs.length :=
  (List.dropWhile_suffix p).length_le

theorem length_readUrl_le (cs : List Char) : (readUrl cs).2.length ≤ cs.length := by
  have spaces := length_dropWhile_le isSpace cs
  have read := length_readUrlText_le (cs.dropWhile isSpace)
  rw [readUrl]
  split
  next value rest found => grind
  next value rest found => grind
  next value rest found => grind [length_afterBadUrl_le]
  next value rest found =>
    have after := length_dropWhile_le isSpace rest
    split
    next ended => simp
    next c ds going =>
      have := length_afterBadUrl_le (c :: ds)
      split <;> grind

/-! ## Numerals -/

/-- A sign at the start of a text, if there is one, and the text after it. -/
def splitSign : List Char → List Char × List Char
  | [] => ([], [])
  | c :: cs => if c = '+' ∨ c = '-' then ([c], cs) else ([], c :: cs)

/-- The digits at the start of a text, perhaps with a point and more digits, and the text after
them. A point needs digits behind it but none before it. -/
def splitDecimal (cs : List Char) : List Char × List Char :=
  let whole := cs.takeWhile Text.isAsciiDigit
  match cs.dropWhile Text.isAsciiDigit with
  | '.' :: d :: ds =>
    if Text.isAsciiDigit d then
      (whole ++ '.' :: d :: ds.takeWhile Text.isAsciiDigit, ds.dropWhile Text.isAsciiDigit)
    else (whole, '.' :: d :: ds)
  | rest => (whole, rest)

/-- An exponent at the start of a text, if there is one, and the text after it. -/
def splitExponent : List Char → List Char × List Char
  | [] => ([], [])
  | c :: cs =>
    if c = 'e' ∨ c = 'E' then
      let (sign, after) := splitSign cs
      if (after.takeWhile Text.isAsciiDigit).isEmpty then ([], c :: cs)
      else (c :: (sign ++ after.takeWhile Text.isAsciiDigit), after.dropWhile Text.isAsciiDigit)
    else ([], c :: cs)

/-- The numeral at the start of a text and the text after it, if there is one. -/
def readNumeral? (cs : List Char) : Option (List Char × List Char) :=
  let (sign, unsigned) := splitSign cs
  let (decimal, scaled) := splitDecimal unsigned
  let (exponent, rest) := splitExponent scaled
  if decimal.isEmpty then none else some (sign ++ decimal ++ exponent, rest)

theorem splitSign_append (cs : List Char) : (splitSign cs).1 ++ (splitSign cs).2 = cs := by
  cases cs <;> grind [splitSign]

theorem splitDecimal_append (cs : List Char) :
    (splitDecimal cs).1 ++ (splitDecimal cs).2 = cs := by
  have whole := List.takeWhile_append_dropWhile (p := Text.isAsciiDigit) (l := cs)
  rw [splitDecimal]
  split
  next d ds found =>
    have fraction := List.takeWhile_append_dropWhile (p := Text.isAsciiDigit) (l := ds)
    split <;> simp_all
  next => simp_all

theorem splitExponent_append (cs : List Char) :
    (splitExponent cs).1 ++ (splitExponent cs).2 = cs := by
  cases cs with
  | nil => rfl
  | cons c cs =>
    have sign := splitSign_append cs
    have digits := List.takeWhile_append_dropWhile (p := Text.isAsciiDigit) (l := (splitSign cs).2)
    rw [splitExponent]
    grind

/-- A numeral is what stands at the start of the text. -/
theorem readNumeral?_append {cs numeral rest : List Char}
    (found : readNumeral? cs = some (numeral, rest)) : numeral ++ rest = cs := by
  have sign := splitSign_append cs
  have decimal := splitDecimal_append (splitSign cs).2
  have exponent := splitExponent_append (splitDecimal (splitSign cs).2).2
  grind [readNumeral?]

theorem length_readNumeral?_lt {c : Char} {cs numeral rest : List Char}
    (found : readNumeral? (c :: cs) = some (numeral, rest)) : rest.length ≤ cs.length := by
  have whole := congrArg List.length (readNumeral?_append found)
  have nonempty : numeral ≠ [] := by
    rintro rfl
    simp only [readNumeral?] at found
    split at found <;> simp_all
  have := List.length_pos_iff.2 nonempty
  simp only [List.length_append, List.length_cons] at whole
  omega

/-! ## Lexemes -/

/-- A part of a style sheet before its groups are closed. -/
inductive Lexeme where
  | token (token : Token)
  | opening (opener : Opener)
  | closing (bracket : Bracket)
  | comment
  deriving DecidableEq, Repr

namespace Lexeme

/-- A lexeme that takes its characters as they are. -/
def delim (text : String) : Lexeme :=
  .token (.delim text)

/-- A name: an address or the opening of a function where a round bracket follows. -/
def readWord (cs : List Char) : Lexeme × List Char :=
  let name := String.ofList (readName cs).1
  match (readName cs).2 with
  | '(' :: rest =>
    let quoted := (rest.dropWhile isSpace).head?.any fun c => c == '"' || c == '\''
    if Text.asciiLowered name = "url" ∧ ¬quoted then (.token (readUrl rest).1, (readUrl rest).2)
    else (.opening (.function name), rest)
  | rest => (.token (.ident name), rest)

/-- A numeral with what belongs to it: a unit or a percent sign. -/
def readMeasure (numeral : String) (cs : List Char) : Lexeme × List Char :=
  if startsName cs then
    (.token (.dimension numeral (String.ofList (readName cs).1)), (readName cs).2)
  else
    match cs with
    | '%' :: rest => (.token (.percentage numeral), rest)
    | rest => (.token (.number numeral), rest)

/-- Digits of a range of code points, at most `room` of them, and the text after them. -/
def splitHex (room : Nat) (cs : List Char) : List Char × List Char :=
  let digits := (cs.take room).takeWhile Text.isHexDigit
  (digits, cs.drop digits.length)

/-- A range of code points after its plus sign: one number, one with question marks for its last
digits, or two numbers. -/
def readRange (cs : List Char) : Lexeme × List Char :=
  let (digits, rest) := splitHex 6 cs
  let wild := (rest.take (6 - digits.length)).takeWhile (· == '?')
  let range (first last : List Char) : Lexeme :=
    .token (.unicodeRange (Text.hexNumeral first) (Text.hexNumeral last))
  if wild.isEmpty then
    match rest with
    | '-' :: d :: ds =>
      if Text.isHexDigit d then (range digits (splitHex 6 (d :: ds)).1, (splitHex 6 (d :: ds)).2)
      else (range digits digits, '-' :: d :: ds)
    | rest => (range digits digits, rest)
  else
    (range (digits ++ wild.map fun _ => '0') (digits ++ wild.map fun _ => 'F'),
      rest.drop wild.length)

/-- Whether a range of code points starts here. -/
def startsRange (c : Char) : List Char → Bool
  | '+' :: d :: _ => (c == 'u' || c == 'U') && (Text.isHexDigit d || d == '?')
  | _ => false

/-- The text after a comment that has been opened. -/
def afterComment : List Char → List Char
  | [] => []
  | '*' :: '/' :: cs => cs
  | _ :: cs => afterComment cs

/-- A quoted text after its opening quote. -/
def readQuoted (quote : Char) (cs : List Char) : Lexeme × List Char :=
  match readString quote cs with
  | (value, .closed, rest) => (.token (.string (String.ofList value) true), rest)
  | (value, .unclosed, rest) => (.token (.string (String.ofList value) false), rest)
  | (_, .broken, rest) => (.token .badString, rest)

/-- The character `c` as a lexeme, or more characters where they belong together. -/
def readSymbol (c : Char) (cs : List Char) : Lexeme × List Char :=
  match c, cs with
  | '/', '*' :: rest => (.comment, afterComment rest)
  | '<', '!' :: '-' :: '-' :: rest => (delim "<!--", rest)
  | '|', '|' :: rest => (delim "||", rest)
  | c, '=' :: rest =>
    if "~|^$*".toList.contains c then (delim (String.ofList [c, '=']), rest)
    else (delim c.toString, '=' :: rest)
  | c, rest => (delim c.toString, rest)

/-- A name after a sign that gives it its meaning, or the sign alone. -/
def readSigned (c : Char) (cs : List Char) : Lexeme × List Char :=
  if c = '@' ∧ startsName cs then
    (.token (.atKeyword (String.ofList (readName cs).1)), (readName cs).2)
  else if c = '#' ∧ (cs.head?.any isNameChar ∨ (cs.head? = some '\\' ∧ isEscape cs.tail)) then
    (.token (.hash (String.ofList (readName cs).1) (startsName cs)), (readName cs).2)
  else (delim c.toString, cs)

/-- Whether the end of a hidden part starts here. -/
def closesHidden (c : Char) : List Char → Bool
  | '-' :: '>' :: _ => c == '-'
  | _ => false

/-- The lexeme at the start of the text `c :: cs`, and the text after it. -/
def read (c : Char) (cs : List Char) : Lexeme × List Char :=
  if isSpace c then
    (.token (.whitespace (String.ofList (c :: cs.takeWhile isSpace))), cs.dropWhile isSpace)
  else if startsRange c cs then readRange cs.tail
  else if closesHidden c cs then (delim "-->", cs.drop 2)
  else if startsName (c :: cs) then readWord (c :: cs)
  else
    match readNumeral? (c :: cs) with
    | some (numeral, rest) => readMeasure (String.ofList numeral) rest
    | none =>
      if c = '@' ∨ c = '#' then readSigned c cs
      else
        match Bracket.ofOpening? c, Bracket.ofClosing? c with
        | some bracket, _ => (.opening (.bracket bracket), cs)
        | none, some bracket => (.closing bracket, cs)
        | none, none => if c = '"' ∨ c = '\'' then readQuoted c cs else readSymbol c cs

/-! ## Progress -/

theorem length_readWord_le {c : Char} {cs : List Char} (start : startsName (c :: cs)) :
    (readWord (c :: cs)).2.length ≤ cs.length := by
  have name : (readName (c :: cs)).2.length ≤ cs.length := by
    apply length_readName_lt
    simp only [startsName, isNameChar] at *
    grind
  rw [readWord]
  split
  next rest found =>
    have := length_readUrl_le rest
    grind
  next => grind

theorem length_readMeasure_le (numeral : String) (cs : List Char) :
    (readMeasure numeral cs).2.length ≤ cs.length := by
  have := length_readName_le cs
  fun_cases readMeasure numeral cs <;> simp_all

theorem length_splitHex_le (room : Nat) (cs : List Char) :
    (splitHex room cs).2.length ≤ cs.length := by
  simp [splitHex]

theorem length_readRange_le (cs : List Char) : (readRange cs).2.length ≤ cs.length := by
  have := length_splitHex_le 6 cs
  simp only [readRange]
  split
  · split
    next d ds found =>
      have := length_splitHex_le 6 (d :: ds)
      grind
    next => grind
  · simp only [List.length_drop]; omega

theorem length_afterComment_le (cs : List Char) : (afterComment cs).length ≤ cs.length := by
  fun_induction afterComment cs <;> grind

theorem length_readSymbol_le (c : Char) (cs : List Char) :
    (readSymbol c cs).2.length ≤ cs.length := by
  fun_cases readSymbol c cs <;> grind [length_afterComment_le]

theorem length_readSigned_le (c : Char) (cs : List Char) :
    (readSigned c cs).2.length ≤ cs.length := by
  have := length_readName_le cs
  grind [readSigned]

theorem length_readQuoted_le (quote : Char) (cs : List Char) :
    (readQuoted quote cs).2.length ≤ cs.length := by
  have := length_readString_le quote cs
  rw [readQuoted]
  split <;> grind

/-- A lexeme takes at least one character. -/
theorem length_read_le (c : Char) (cs : List Char) : (read c cs).2.length ≤ cs.length := by
  rw [read]
  split
  · exact length_dropWhile_le isSpace cs
  split
  · have := length_readRange_le cs.tail
    simp only [List.length_tail] at this
    omega
  split
  · simp
  split
  next start => exact length_readWord_le start
  split
  next numeral rest found =>
    exact Nat.le_trans (length_readMeasure_le _ rest) (length_readNumeral?_lt found)
  next =>
    split
    · exact length_readSigned_le c cs
    split
    · exact Nat.le_refl _
    · exact Nat.le_refl _
    · split
      · exact length_readQuoted_le c cs
      · exact length_readSymbol_le c cs

end Lexeme

/-- The lexemes of a text, each with the text from it on. -/
def lexemes : List Char → List (List Char × Lexeme)
  | [] => []
  | c :: cs => (c :: cs, (Lexeme.read c cs).1) :: lexemes (Lexeme.read c cs).2
termination_by cs => cs.length
decreasing_by
  have := Lexeme.length_read_le c cs
  simp only [List.length_cons]
  omega

end Swatch.Css
