import Swatch.Text.CharName
import Swatch.Text.DecodeFault
import Swatch.Text.Digit
import Swatch.Text.Half

/-!
# Escapes by a backslash

The encodings in which a byte stands for one of the first 256 characters, and a backslash starts the
escape of a character. The full form knows digits to the base of eight and of sixteen, letters for
controls, names, and line ends that are left out; the raw form knows only codes of four and eight
digits.
-/

namespace Swatch.Text.Backslash

/-- What the bytes at a backslash are. -/
inductive Escape where
  /-- So many bytes stand for codes, perhaps for none. -/
  | codes (codes : List Nat) (count : Nat)
  /-- The first bytes, so many, are no escape. -/
  | wrong (count : Nat) (reason : String)
  deriving DecidableEq, Repr

/-- The backslash as a byte. -/
def backslash : UInt8 := 0x5C

/-- A byte as one of the first 256 characters. -/
def byteChar (byte : UInt8) : Char :=
  Char.ofNat byte.toNat

/-- The longest start of bytes that are digits to the base of sixteen, of at most `count` bytes. -/
def hexRun (count : Nat) (bytes : List UInt8) : List Char :=
  ((bytes.take count).map byteChar).takeWhile isHexDigit

/-- The escape of a backslash and a letter, behind which a code of `count` digits must follow. -/
def codeEscape (count : Nat) (cut tooLarge : String) (bytes : List UInt8) : Escape :=
  let digits := hexRun count bytes
  if digits.length < count then .wrong (2 + digits.length) cut
  else if 0x10FFFF < hexNumeral digits then .wrong (2 + count) tooLarge
  else .codes [hexNumeral digits] (2 + count)

/-! ## The full form -/

/-- The code that a letter or sign behind a backslash stands for. -/
def simpleCode? : Char → Option Nat
  | '\\' => some 0x5C
  | '\'' => some 0x27
  | '"' => some 0x22
  | 'a' => some 0x07
  | 'b' => some 0x08
  | 't' => some 0x09
  | 'n' => some 0x0A
  | 'v' => some 0x0B
  | 'f' => some 0x0C
  | 'r' => some 0x0D
  | _ => none

/-- A digit to the base of eight. -/
def isOctalDigit (c : Char) : Bool :=
  '0' ≤ c && c ≤ '7'

/-- The escape of a character by its name between braces. -/
def nameEscape (bytes : List UInt8) : Escape :=
  let malformed := "malformed \\N character escape"
  match bytes with
  | 0x7B :: rest =>
    let name := rest.takeWhile (· ≠ 0x7D)
    if name.length = rest.length ∨ name.isEmpty then .wrong (3 + name.length) malformed
    else
      match CharName.char? (name.map byteChar) with
      | some c => .codes [c.toNat] (4 + name.length)
      | none => .wrong (4 + name.length) "unknown Unicode character name"
  | _ => .wrong 2 malformed

/-- The escape of a backslash and the bytes behind it. -/
def fullEscape : List UInt8 → Escape
  | [] => .wrong 1 "\\ at end of string"
  | kind :: bytes =>
    let c := byteChar kind
    let tooLarge := "illegal Unicode character"
    match simpleCode? c with
    | some code => .codes [code] 2
    | none =>
      if c = '\n' then .codes [] 2
      else if isOctalDigit c then
        let digits := (((kind :: bytes).take 3).map byteChar).takeWhile isOctalDigit
        .codes [numeralValue 8 (digits.map fun c => (hexValue? c).getD 0)] (1 + digits.length)
      else if c = 'x' then codeEscape 2 "truncated \\xXX escape" tooLarge bytes
      else if c = 'u' then codeEscape 4 "truncated \\uXXXX escape" tooLarge bytes
      else if c = 'U' then codeEscape 8 "truncated \\UXXXXXXXX escape" tooLarge bytes
      else if c = 'N' then nameEscape bytes
      else .codes [backslash.toNat, kind.toNat] 2

/-! ## The raw form -/

/-- The escape of a backslash and the bytes behind it. Two backslashes are kept both. -/
def rawEscape : List UInt8 → Escape
  | [] => .codes [backslash.toNat] 1
  | kind :: bytes =>
    let tooLarge := "\\Uxxxxxxxx out of range"
    if byteChar kind = 'u' then codeEscape 4 "truncated \\uXXXX escape" tooLarge bytes
    else if byteChar kind = 'U' then
      codeEscape 8 "truncated \\UXXXXXXXX escape" tooLarge bytes
    else .codes [backslash.toNat, kind.toNat] 2

/-! ## Texts -/

/-- The codes of bytes of which the first one stands at the place `start`. `steps` is at least
their count. -/
def codesFrom (codec : String) (escape : List UInt8 → Escape) (start : Nat) :
    (steps : Nat) → List UInt8 → Except DecodeFault (List Nat)
  | 0, _ | _, [] => .ok []
  | steps + 1, byte :: bytes =>
    if byte = backslash then
      match escape bytes with
      | .codes codes count =>
        (codesFrom codec escape (start + count) steps (bytes.drop (count - 1))).map (codes ++ ·)
      | .wrong count reason => .error (.ofBytes codec start ((byte :: bytes).take count) reason)
    else (codesFrom codec escape (start + 1) steps bytes).map (byte.toNat :: ·)

/-- The text of bytes in the full form. -/
def decodeFull (bytes : List UInt8) : Except DecodeFault (List Char) :=
  (codesFrom "unicodeescape" fullEscape 0 bytes.length bytes).map ofCodes

/-- The text of bytes in the raw form. -/
def decodeRaw (bytes : List UInt8) : Except DecodeFault (List Char) :=
  (codesFrom "rawunicodeescape" rawEscape 0 bytes.length bytes).map ofCodes

end Swatch.Text.Backslash
