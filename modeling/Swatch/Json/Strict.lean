import Swatch.Json.Basic
import Swatch.Text.Digit
import Swatch.Text.Half

/-!
# Reading JSON

A text holds one JSON value between blanks. The constants `NaN`, `Infinity` and `-Infinity` are
admitted beside the numbers of the notation, a numeral without fraction and exponent is a whole
number of at most 4300 digits, and of members with one name the last value counts.

A refusal says what was wrong and which part of the text was still unread there, from which its
line and column follow.
-/

namespace Swatch.Json

/-- What is wrong at a place of a JSON text. -/
inductive Fault where
  | expectedValue
  | expectedName
  | expectedColon
  | expectedComma
  | extraData
  | controlCharacter
  | badEscape
  | badCodeEscape
  | openText
  | byteOrderMark
  deriving DecidableEq, Repr

/-- What a message says about a fault. -/
def Fault.message : Fault → String
  | .expectedValue => "Expecting value"
  | .expectedName => "Expecting property name enclosed in double quotes"
  | .expectedColon => "Expecting ':' delimiter"
  | .expectedComma => "Expecting ',' delimiter"
  | .extraData => "Extra data"
  | .controlCharacter => "Invalid control character at"
  | .badEscape => "Invalid \\escape"
  | .badCodeEscape => "Invalid \\uXXXX escape"
  | .openText => "Unterminated string starting at"
  | .byteOrderMark => "Unexpected UTF-8 BOM (decode using utf-8-sig)"

/-- Why a text is refused. -/
inductive Refusal where
  /-- A fault, where `rest` was still unread. -/
  | fault (cause : Fault) (rest : List Char)
  /-- A whole number of too many digits. -/
  | tooManyDigits (count : Nat)
  deriving DecidableEq, Repr

/-- The largest count of digits of a whole number. -/
def digitLimit : Nat := 4300

/-- What a message says about a whole number of too many digits. -/
def tooManyDigitsMessage (count : Nat) : String :=
  "Exceeds the limit (4300 digits) for integer string conversion: value has " ++ toString count ++
    " digits; use sys.set_int_max_str_digits() to increase the limit"

/-- The message for a refused text: its fault with line, column and offset. -/
def Refusal.message (whole : List Char) : Refusal → String
  | .fault cause rest =>
    let before := whole.take (whole.length - rest.length)
    let line := before.count '\n' + 1
    let column := (before.reverse.takeWhile (· != '\n')).length + 1
    cause.message ++ ": line " ++ toString line ++ " column " ++ toString column ++
      " (char " ++ toString before.length ++ ")"
  | .tooManyDigits count => tooManyDigitsMessage count

/-- The text after its leading blanks. -/
def skipBlanks (cs : List Char) : List Char :=
  cs.dropWhile fun c => c == ' ' || c == '\t' || c == '\n' || c == '\r'

/-! ## Texts -/

/-- The code that four digits spell. -/
def code? (a b c d : Char) : Option Nat :=
  if [a, b, c, d].all Text.isHexDigit then some (Text.hexNumeral [a, b, c, d]) else none

/-- The character after a backslash that stands for a single character. -/
def simpleEscape? : Char → Option Char
  | '"' => some '"'
  | '\\' => some '\\'
  | '/' => some '/'
  | 'b' => some '\x08'
  | 'f' => some '\x0c'
  | 'n' => some '\n'
  | 'r' => some '\r'
  | 't' => some '\t'
  | _ => none

/-- The second code of a pair at the beginning of a text that goes on after it, with the text
behind it. -/
def trailingCode (cs : List Char) : Except Refusal (Option (Nat × List Char)) :=
  match cs with
  | '\\' :: 'u' :: a :: b :: c :: d :: e :: rest =>
    match code? a b c d with
    | none => .error (.fault .badCodeEscape (cs.drop 1))
    | some code => .ok (if Text.isTrailingHalf code then some (code, e :: rest) else none)
  | _ => .ok none

/-- The characters up to the closing quotation mark, and the rest after it. `opening` is the text
from the opening quotation mark on, `steps` is at least the length of the text. -/
def readText (opening : List Char) :
    (steps : Nat) → List Char → Except Refusal (List Char × List Char)
  | 0, _ => .error (.fault .openText opening)
  | _, [] => .error (.fault .openText opening)
  | _ + 1, '"' :: rest => .ok ([], rest)
  | _ + 1, ['\\'] => .error (.fault .openText opening)
  | steps + 1, '\\' :: 'u' :: rest =>
    match rest with
    | a :: b :: c :: d :: e :: rest' =>
      match code? a b c d with
      | none => .error (.fault .badCodeEscape ('u' :: rest))
      | some code => do
        let pair ← if Text.isLeadingHalf code then trailingCode (e :: rest') else .ok none
        match pair with
        | some (trailing, after) =>
          let (text, left) ← readText opening steps after
          return (Text.pairChar code trailing :: text, left)
        | none =>
          let (text, left) ← readText opening steps (e :: rest')
          return (Text.codeChar code :: text, left)
    | _ => .error (.fault .badCodeEscape ('u' :: rest))
  | steps + 1, '\\' :: c :: rest =>
    match simpleEscape? c with
    | none => .error (.fault .badEscape ('\\' :: c :: rest))
    | some image => do
      let (text, left) ← readText opening steps rest
      return (image :: text, left)
  | steps + 1, c :: rest =>
    if c.toNat ≤ 0x1F then .error (.fault .controlCharacter (c :: rest))
    else do
      let (text, left) ← readText opening steps rest
      return (c :: text, left)

/-! ## Numbers -/

/-- An ASCII digit. -/
def isDigit (c : Char) : Bool :=
  '0' ≤ c && c ≤ '9'

/-- The digits of a fraction with the text after it; no fraction where no digit follows the
point. -/
def readFraction (cs : List Char) : Option (List Char) × List Char :=
  match cs with
  | '.' :: rest =>
    let digits := rest.takeWhile isDigit
    if digits.isEmpty then (none, cs) else (some digits, rest.dropWhile isDigit)
  | _ => (none, cs)

/-- The value of an exponent with the text after it; no exponent where no digit follows its
sign. -/
def readExponent (cs : List Char) : Option Int × List Char :=
  match cs with
  | c :: rest =>
    if c == 'e' || c == 'E' then
      let (negative, unsigned) :=
        match rest with
        | '-' :: rest' => (true, rest')
        | '+' :: rest' => (false, rest')
        | _ => (false, rest)
      let digits := unsigned.takeWhile isDigit
      if digits.isEmpty then (none, cs)
      else
        let size : Int := Text.decimalNumeral digits
        (some (if negative then -size else size), unsigned.dropWhile isDigit)
    else (none, cs)
  | [] => (none, cs)

/-- The digits before the point: a zero alone, or digits that start with another one. -/
def readWhole : List Char → List Char × List Char
  | '0' :: rest => (['0'], rest)
  | cs => (cs.takeWhile isDigit, cs.dropWhile isDigit)

/-- A number and the text after it. -/
def readNumber (cs : List Char) : Except Refusal (Json × List Char) :=
  let (negative, unsigned) :=
    match cs with
    | '-' :: rest => (true, rest)
    | _ => (false, cs)
  let (whole, rest) := readWhole unsigned
  if whole.isEmpty then .error (.fault .expectedValue cs)
  else
    let (fraction, rest) := readFraction rest
    let (exponent, rest) := readExponent rest
    if fraction.isNone && exponent.isNone then
      if digitLimit < whole.length then .error (.tooManyDigits whole.length)
      else
        let size : Int := Text.decimalNumeral whole
        .ok (.int (if negative then -size else size), rest)
    else
      let places := fraction.getD []
      .ok (.real (Binary64.ofDecimal negative (Text.decimalNumeral (whole ++ places))
        (exponent.getD 0 - places.length)), rest)

/-! ## Values -/

/-- The constants of the notation. -/
def constants : List (List Char × Json) := [
  (['n', 'u', 'l', 'l'], .null),
  (['t', 'r', 'u', 'e'], .bool true),
  (['f', 'a', 'l', 's', 'e'], .bool false),
  (['N', 'a', 'N'], .real .nan),
  (['I', 'n', 'f', 'i', 'n', 'i', 't', 'y'], .real (.infinite false)),
  (['-', 'I', 'n', 'f', 'i', 'n', 'i', 't', 'y'], .real (.infinite true))]

mutual

/-- A value at the beginning of the text, and the text after it. A value within `steps` uses
fewer of them than twice the length of its text. -/
def readValue : (steps : Nat) → List Char → Except Refusal (Json × List Char)
  | 0, cs => .error (.fault .expectedValue cs)
  | steps + 1, cs =>
    match cs with
    | '"' :: rest => do
      let (text, left) ← readText cs rest.length rest
      return (.string (String.ofList text), left)
    | '\x7b' :: rest =>
      match skipBlanks rest with
      | '\x7d' :: left => .ok (.object [], left)
      | start => do
        let (members, left) ← readMembers steps start
        return (.object (mergeMembers members), left)
    | '[' :: rest =>
      match skipBlanks rest with
      | ']' :: left => .ok (.array [], left)
      | start => do
        let (items, left) ← readItems steps start
        return (.array items, left)
    | _ =>
      match constants.find? fun constant => constant.1.isPrefixOf cs with
      | some (name, value) => .ok (value, cs.drop name.length)
      | none => readNumber cs

/-- The members of an object up to its closing brace. -/
def readMembers : (steps : Nat) → List Char → Except Refusal (List (String × Json) × List Char)
  | 0, cs => .error (.fault .expectedName cs)
  | steps + 1, cs =>
    match cs with
    | '"' :: rest => do
      let (name, left) ← readText cs rest.length rest
      match skipBlanks left with
      | ':' :: left =>
        let (value, left) ← readValue steps (skipBlanks left)
        let member := (String.ofList name, value)
        match skipBlanks left with
        | '\x7d' :: left => return ([member], left)
        | ',' :: left =>
          let (members, left) ← readMembers steps (skipBlanks left)
          return (member :: members, left)
        | left => .error (.fault .expectedComma left)
      | left => .error (.fault .expectedColon left)
    | _ => .error (.fault .expectedName cs)

/-- The items of an array up to its closing bracket. -/
def readItems : (steps : Nat) → List Char → Except Refusal (List Json × List Char)
  | 0, cs => .error (.fault .expectedValue cs)
  | steps + 1, cs => do
    let (item, left) ← readValue steps cs
    match skipBlanks left with
    | ']' :: left => return ([item], left)
    | ',' :: left =>
      let (items, left) ← readItems steps (skipBlanks left)
      return (item :: items, left)
    | left => .error (.fault .expectedComma left)

end

/-- The value that a whole text holds. -/
def readStrict (cs : List Char) : Except Refusal Json :=
  match cs with
  | '\ufeff' :: _ => .error (.fault .byteOrderMark cs)
  | _ => do
    let (value, left) ← readValue (2 * cs.length + 2) (skipBlanks cs)
    match skipBlanks left with
    | [] => return value
    | rest => .error (.fault .extraData rest)

end Swatch.Json
