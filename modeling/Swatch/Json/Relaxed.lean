import Swatch.Json.Strict
import Swatch.Text.Blank
import Swatch.Text.Case
import Swatch.Text.Letter

/-!
# Reading JSON for people

JSON as a person may write it: comments, texts in single or double quotes, member names without
quotes, a comma after the last item, a sign before a number, whole numbers to the base of sixteen,
and numbers that start or end with a point. A text that is not of this notation is refused without
a reason.
-/

namespace Swatch.Json

/-! ## Space and comments -/

/-- A character that ends a line. -/
def isLineEnd (c : Char) : Bool :=
  c == '\n' || c == '\r' || c.toNat == 0x2028 || c.toNat == 0x2029

/-- A blank between values: those that separate words, without the control characters that separate
records and lines, and the byte order mark. -/
def isRelaxedBlank (c : Char) : Bool :=
  c.toNat == 0xFEFF || (Text.isBlank c && !(0x1C ≤ c.toNat && c.toNat ≤ 0x1F) && c.toNat != 0x85)

/-- The text after the end of a comment, if it has an end. -/
def afterComment? : List Char → Option (List Char)
  | [] => none
  | '*' :: '/' :: cs => some cs
  | _ :: cs => afterComment? cs

theorem length_afterComment?_le {cs rest : List Char} (found : afterComment? cs = some rest) :
    rest.length ≤ cs.length := by
  fun_induction afterComment? cs <;> grind

/-- The text after its leading blanks and comments. -/
def skipSpace : List Char → List Char
  | [] => []
  | '/' :: '/' :: cs => skipSpace (cs.dropWhile (!isLineEnd ·))
  | '/' :: '*' :: cs =>
    match _found : afterComment? cs with
    | some rest => skipSpace rest
    | none => '/' :: '*' :: cs
  | c :: cs => if isRelaxedBlank c then skipSpace cs else c :: cs
termination_by cs => cs.length
decreasing_by
  · have := (List.dropWhile_suffix (!isLineEnd ·) (l := cs)).length_le
    simp only [List.length_cons]
    omega
  · have := length_afterComment?_le _found
    simp only [List.length_cons]
    omega
  · simp

/-! ## Texts and names -/

/-- The character that a letter after a backslash stands for. -/
def relaxedEscape? : Char → Option Char
  | 'b' => some '\x08'
  | 'f' => some '\x0c'
  | 'n' => some '\n'
  | 'r' => some '\r'
  | 't' => some '\t'
  | 'v' => some '\x0b'
  | _ => none

/-- The character of a code of four digits, or of two such codes for one character, after the
letter `u`, and the text behind. -/
def readCode? : List Char → Option (Char × List Char)
  | a :: b :: c :: d :: rest => do
    let code ← code? a b c d
    if Text.isLeadingHalf code then
      match rest with
      | '\\' :: 'u' :: a :: b :: c :: d :: behind =>
        match code? a b c d with
        | some next =>
          if Text.isTrailingHalf next then some (Text.pairChar code next, behind)
          else some (Text.codeChar code, rest)
        | none => some (Text.codeChar code, rest)
      | _ => some (Text.codeChar code, rest)
    else some (Text.codeChar code, rest)
  | _ => none

/-- What stands for nothing or one character after a backslash, and the text behind. -/
def readRelaxedEscape? : List Char → Option (Option Char × List Char)
  | [] => none
  | '\r' :: '\n' :: cs => some (none, cs)
  | 'u' :: cs => (readCode? cs).map fun (c, rest) => (some c, rest)
  | 'x' :: a :: b :: cs => (code? '0' '0' a b).map fun code => (some (Text.codeChar code), cs)
  | ['0'] => some (some '\x00', [])
  | '0' :: d :: cs => if isDigit d then none else some (some '\x00', d :: cs)
  | c :: cs =>
    if isLineEnd c then some (none, cs)
    else if c == 'x' || isDigit c then none
    else some (some ((relaxedEscape? c).getD c), cs)

/-- The text up to a closing quote, and what follows it. Of the characters that end a line, only
the separators of lines and paragraphs may stand in it. `steps` is at least the length of the
text. -/
def readQuoted? (quote : Char) : (steps : Nat) → List Char → Option (List Char × List Char)
  | 0, _ | _, [] => none
  | steps + 1, c :: cs =>
    if c == quote then some ([], cs)
    else if c == '\\' then do
      let (escaped, rest) ← readRelaxedEscape? cs
      let (text, left) ← readQuoted? quote steps rest
      return (escaped.toList ++ text, left)
    else if c == '\n' || c == '\r' then none
    else do
      let (text, left) ← readQuoted? quote steps cs
      return (c :: text, left)

/-- A character that a name without quotes may start with. -/
def isIdentStart (c : Char) : Bool :=
  Text.isAsciiLetter c || c == '$' || c == '_' || Text.isForeignLetter c

/-- A character that a name without quotes may go on with. -/
def isIdentChar (c : Char) : Bool :=
  isIdentStart c || isDigit c || Text.isForeignMark c || c.toNat == 0x200C || c.toNat == 0x200D

/-- The characters of a name without quotes as far as it goes, and what follows. -/
def readIdent (admits : Char → Bool) : (steps : Nat) → List Char → List Char × List Char
  | 0, cs => ([], cs)
  | _, [] => ([], [])
  | steps + 1, c :: cs =>
    if c == '\\' then
      match cs with
      | 'u' :: a :: b :: d :: e :: rest =>
        match code? a b d e with
        | some code =>
          let (name, left) := readIdent isIdentChar steps rest
          (Text.codeChar code :: name, left)
        | none => ([], c :: cs)
      | _ => ([], c :: cs)
    else if admits c then
      let (name, left) := readIdent isIdentChar steps cs
      (c :: name, left)
    else ([], c :: cs)

/-- The name of a member, in quotes or without them, and what follows it. -/
def readName? (cs : List Char) : Option (List Char × List Char) :=
  match cs with
  | '"' :: rest => readQuoted? '"' rest.length rest
  | '\'' :: rest => readQuoted? '\'' rest.length rest
  | _ =>
    let (name, left) := readIdent isIdentStart cs.length cs
    if name.isEmpty then none else some (name, left)

/-! ## Numbers -/

/-- The digits before the point, which may be missing. A zero stands alone. -/
def readRelaxedWhole? (cs : List Char) : Option (List Char × List Char) :=
  let digits := cs.takeWhile isDigit
  if digits.head? == some '0' && 1 < digits.length then none
  else some (digits, cs.dropWhile isDigit)

/-- The digits after the point, with the text behind; nothing without a point. -/
def readRelaxedFraction : List Char → Option (List Char) × List Char
  | '.' :: cs => (some (cs.takeWhile isDigit), cs.dropWhile isDigit)
  | cs => (none, cs)

/-- A number without its sign, and the text behind. -/
def readUnsigned? (negative : Bool) (cs : List Char) : Option (Json × List Char) := do
  let (whole, rest) ← readRelaxedWhole? cs
  let (fraction, rest) := readRelaxedFraction rest
  let (exponent, rest) := readExponent rest
  let places := fraction.getD []
  if (whole ++ places).isEmpty then none
  else if fraction.isNone && exponent.isNone then
    if digitLimit < whole.length then none
    else
      let size : Int := Text.decimalNumeral whole
      some (.int (if negative then -size else size), rest)
  else
    some (.real (Binary64.ofDecimal negative (Text.decimalNumeral (whole ++ places))
      (exponent.getD 0 - places.length)), rest)

/-- A number after its sign, and the text behind. -/
def readMagnitude? (negative : Bool) (cs : List Char) : Option (Json × List Char) :=
  let (mark, rest) := (cs.take 2, cs.drop 2)
  let digits := rest.takeWhile Text.isHexDigit
  if (mark == ['0', 'x'] || mark == ['0', 'X']) && !digits.isEmpty then
    let size : Int := Text.hexNumeral digits
    some (.int (if negative then -size else size), rest.dropWhile Text.isHexDigit)
  else if "Infinity".toList.isPrefixOf cs then some (.real (.infinite negative), cs.drop 8)
  else if "NaN".toList.isPrefixOf cs then some (.real .nan, cs.drop 3)
  else readUnsigned? negative cs

/-- A number with at most one sign, and the text behind. -/
def readRelaxedNumber? : List Char → Option (Json × List Char)
  | '-' :: cs => readMagnitude? true cs
  | '+' :: cs => readMagnitude? false cs
  | cs => readMagnitude? false cs

/-! ## Values -/

/-- The words that are values. -/
def words : List (List Char × Json) := [
  (['n', 'u', 'l', 'l'], .null),
  (['t', 'r', 'u', 'e'], .bool true),
  (['f', 'a', 'l', 's', 'e'], .bool false)]

mutual

/-- A value at the beginning of the text, and the text after it. A value within `steps` uses
fewer of them than twice the length of its text. -/
def readRelaxedValue? : (steps : Nat) → List Char → Option (Json × List Char)
  | 0, _ => none
  | steps + 1, cs =>
    match cs with
    | '"' :: rest => do
      let (text, left) ← readQuoted? '"' rest.length rest
      return (.string (String.ofList text), left)
    | '\'' :: rest => do
      let (text, left) ← readQuoted? '\'' rest.length rest
      return (.string (String.ofList text), left)
    | '\x7b' :: rest =>
      match skipSpace rest with
      | '\x7d' :: left => some (.object [], left)
      | start => do
        let (members, left) ← readRelaxedMembers? steps start
        return (.object (mergeMembers members), left)
    | '[' :: rest =>
      match skipSpace rest with
      | ']' :: left => some (.array [], left)
      | start => do
        let (items, left) ← readRelaxedItems? steps start
        return (.array items, left)
    | _ =>
      match words.find? fun word => word.1.isPrefixOf cs with
      | some (word, value) => some (value, cs.drop word.length)
      | none => readRelaxedNumber? cs

/-- The members of an object up to its closing brace. -/
def readRelaxedMembers? : (steps : Nat) → List Char → Option (List (String × Json) × List Char)
  | 0, _ => none
  | steps + 1, cs => do
    let (name, left) ← readName? cs
    match skipSpace left with
    | ':' :: left =>
      let (value, left) ← readRelaxedValue? steps (skipSpace left)
      let member := (String.ofList name, value)
      match skipSpace left with
      | '\x7d' :: left => return ([member], left)
      | ',' :: left =>
        match skipSpace left with
        | '\x7d' :: left => return ([member], left)
        | left =>
          let (members, left) ← readRelaxedMembers? steps left
          return (member :: members, left)
      | _ => none
    | _ => none

/-- The items of an array up to its closing bracket. -/
def readRelaxedItems? : (steps : Nat) → List Char → Option (List Json × List Char)
  | 0, _ => none
  | steps + 1, cs => do
    let (item, left) ← readRelaxedValue? steps cs
    match skipSpace left with
    | ']' :: left => return ([item], left)
    | ',' :: left =>
      match skipSpace left with
      | ']' :: left => return ([item], left)
      | left =>
        let (items, left) ← readRelaxedItems? steps left
        return (item :: items, left)
    | _ => none

end

/-- The value that a whole text holds. -/
def readRelaxed? (cs : List Char) : Option Json := do
  let (value, left) ← readRelaxedValue? (2 * cs.length + 2) (skipSpace cs)
  if (skipSpace left).isEmpty then some value else none

end Swatch.Json
