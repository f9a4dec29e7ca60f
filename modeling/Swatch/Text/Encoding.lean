import Swatch.Text.Backslash
import Swatch.Text.CodePage
import Swatch.Text.EncodingName
import Swatch.Text.HostName
import Swatch.Text.Multibyte.Designated
import Swatch.Text.Multibyte.Scheme
import Swatch.Text.Utf7

/-!
# Encodings

Texts as bytes. Bytes that an encoding does not admit are refused with the place and the reason;
the bytes are counted from zero.
-/

namespace Swatch.Text

/-- Which of the bytes of a unit comes first. -/
inductive ByteOrder where
  | little
  | big
  deriving DecidableEq, Repr

/-- A way to write a text as bytes. -/
inductive Encoding where
  | ascii
  /-- The first 256 characters as one byte each. -/
  | latin
  /-- One byte for each character, as a code page tells. -/
  | page (name : String)
  /-- ASCII as one byte for each character, and the characters of East Asia as several bytes. -/
  | eastern (scheme : Multibyte.Scheme)
  /-- Sets of characters that escape sequences choose. -/
  | designated (form : Multibyte.Form)
  /-- ASCII with runs of Chinese characters between signs of two bytes. -/
  | hz
  /-- The first 256 characters as one byte each, and escapes by a backslash for all. -/
  | escaped (isRaw : Bool)
  /-- Names of hosts. -/
  | hostName
  /-- ASCII, and numbers for other characters behind it. -/
  | punycode
  /-- No text has bytes, nor have bytes a text. -/
  | undefined
  /-- ASCII, in which a plus sign starts a run of other characters. -/
  | utf7
  /-- One to four bytes for each character; perhaps with a mark at the start. -/
  | utf8 (marked : Bool)
  /-- One or two units of two bytes for each character; a mark at the start tells the order where
  none is given. -/
  | utf16 (order : Option ByteOrder)
  /-- One unit of four bytes for each character. -/
  | utf32 (order : Option ByteOrder)
  deriving DecidableEq, Repr

namespace Encoding

/-! ## Names -/

/-- The encodings that are no code pages, by their own names. -/
def ownNames : List (String × Encoding) := [
  ("ascii", .ascii), ("latin_1", .latin), ("charmap", .latin), ("hz", .hz),
  ("idna", .hostName), ("punycode", .punycode), ("raw_unicode_escape", .escaped true),
  ("undefined", .undefined), ("unicode_escape", .escaped false), ("utf_7", .utf7),
  ("utf_8", .utf8 false), ("utf_8_sig", .utf8 true), ("utf_16", .utf16 none),
  ("utf_16_le", .utf16 (some .little)), ("utf_16_be", .utf16 (some .big)),
  ("utf_32", .utf32 none), ("utf_32_le", .utf32 (some .little)),
  ("utf_32_be", .utf32 (some .big))]

/-- The encoding of an own name. -/
def ofOwnName? (name : String) : Option Encoding :=
  match ownNames.lookup name with
  | some encoding => some encoding
  | none =>
    if CodePage.all.any (·.name == name) then some (.page name)
    else
      (Multibyte.Scheme.all.find? (·.name == name)).map .eastern <|>
        (Multibyte.forms.find? (·.name == name)).map .designated

/-- The name of the encoding that texts have where one is. -/
def localName : String := "locale"

/-- The encoding of a name. -/
def ofName? (name : String) : Option Encoding :=
  if name = localName then some (.utf8 false)
  else (EncodingName.candidates name).findSome? ofOwnName?

/-- The encoding of files that name none. -/
def defaultName : String := "utf-8"

/-! ## One byte for each character -/

/-- The text of bytes that stand for one character each. -/
def decodeSingle (codec reason : String) (char? : UInt8 → Option Char) (start : Nat) :
    List UInt8 → Except DecodeFault (List Char)
  | [] => .ok []
  | byte :: bytes =>
    match char? byte with
    | some c => (decodeSingle codec reason char? (start + 1) bytes).map (c :: ·)
    | none => .error (.ofBytes codec start [byte] reason)

/-- The text of bytes in ASCII. -/
def decodeAscii (bytes : List UInt8) : Except DecodeFault (List Char) :=
  decodeSingle "ascii" "ordinal not in range(128)" Utf7.asciiChar? 0 bytes

/-! ## Other characters in ASCII -/

/-- The text of bytes with numbers behind the last hyphen. Places are counted on both sides of it
from the start. -/
def decodePunycode (bytes : List UInt8) : Except DecodeFault (List Char) := do
  let (plain, numbers) := Punycode.parts (· == 0x2D) bytes
  let plain ← decodeAscii plain
  return ofCodes (← Punycode.decodeParts plain (← decodeAscii numbers))

/-- The name of a host that bytes spell. -/
def decodeHostName (bytes : List UInt8) : Except DecodeFault (List Char) := do
  HostName.decode (← decodeAscii bytes)

/-! ## One to four bytes for each character -/

/-- The count of bytes after the first one, and the first bits of the character. -/
def leadingByte? (byte : UInt8) : Option (Nat × Nat) :=
  if byte < 0x80 then some (0, byte.toNat)
  else if 0xC2 ≤ byte ∧ byte ≤ 0xDF then some (1, byte.toNat - 0xC0)
  else if 0xE0 ≤ byte ∧ byte ≤ 0xEF then some (2, byte.toNat - 0xE0)
  else if 0xF0 ≤ byte ∧ byte ≤ 0xF4 then some (3, byte.toNat - 0xF0)
  else none

/-- The second byte of a character must not make it one that fewer bytes can write, nor half of a
pair, nor one beyond the last character. -/
def admitsSecond (leading second : UInt8) : Bool :=
  0x80 ≤ second && second ≤ 0xBF &&
    !(leading == 0xE0 && second < 0xA0) && !(leading == 0xED && 0xA0 ≤ second) &&
    !(leading == 0xF0 && second < 0x90) && !(leading == 0xF4 && 0x90 ≤ second)

/-- The bytes of a character after its first ones, with the reason if they end too early. -/
def continuation (leading : UInt8) :
    (count : Nat) → (isSecond : Bool) → List UInt8 → List UInt8 × Option String
  | 0, _, _ => ([], none)
  | _ + 1, _, [] => ([], some "unexpected end of data")
  | count + 1, isSecond, byte :: bytes =>
    if if isSecond then admitsSecond leading byte else 0x80 ≤ byte && byte ≤ 0xBF then
      let (taken, reason) := continuation leading count false bytes
      (byte :: taken, reason)
    else ([], some "invalid continuation byte")

/-- The text of bytes of which one to four stand for a character. `steps` is at least their
count. -/
def decodeUtf8 (start : Nat) : (steps : Nat) → List UInt8 → Except DecodeFault (List Char)
  | 0, _ | _, [] => .ok []
  | steps + 1, byte :: bytes =>
    match leadingByte? byte with
    | none => .error (.ofBytes "utf-8" start [byte] "invalid start byte")
    | some (count, bits) =>
      match continuation byte count true bytes with
      | (taken, some reason) => .error (.ofBytes "utf-8" start (byte :: taken) reason)
      | (taken, none) =>
        let code := taken.foldl (fun code byte => code * 64 + (byte.toNat - 0x80)) bits
        (decodeUtf8 (start + 1 + count) steps (bytes.drop count)).map (Char.ofNat code :: ·)

/-! ## Units of two and four bytes -/

/-- A byte order with the count of bytes in a unit, as a message names it. -/
def codecName (order : ByteOrder) (bits : Nat) : String :=
  "utf-" ++ toString bits ++ match order with
    | .little => "-le"
    | .big => "-be"

/-- The number that the bytes of a unit spell. -/
def unit (order : ByteOrder) (bytes : List UInt8) : Nat :=
  let ordered := match order with
    | .little => bytes.reverse
    | .big => bytes
  ordered.foldl (fun number byte => number * 256 + byte.toNat) 0

/-- The text of units of two bytes. `steps` is at least the count of bytes. -/
def decodeUtf16 (order : ByteOrder) (start : Nat) :
    (steps : Nat) → List UInt8 → Except DecodeFault (List Char)
  | 0, _ | _, [] => .ok []
  | steps + 1, bytes =>
    let codec := codecName order 16
    match bytes with
    | a :: b :: rest =>
      let first := unit order [a, b]
      if 0xDC00 ≤ first ∧ first ≤ 0xDFFF then
        .error (.ofBytes codec start [a, b] "illegal encoding")
      else if 0xD800 ≤ first ∧ first ≤ 0xDBFF then
        match rest with
        | c :: d :: rest =>
          let second := unit order [c, d]
          if 0xDC00 ≤ second ∧ second ≤ 0xDFFF then
            let code := 0x10000 + (first - 0xD800) * 0x400 + (second - 0xDC00)
            (decodeUtf16 order (start + 4) steps rest).map (Char.ofNat code :: ·)
          else .error (.ofBytes codec start [a, b] "illegal UTF-16 surrogate")
        | _ => .error (.ofBytes codec start bytes "unexpected end of data")
      else (decodeUtf16 order (start + 2) steps rest).map (Char.ofNat first :: ·)
    | _ => .error (.ofBytes codec start bytes "truncated data")

/-- The text of units of four bytes. `steps` is at least the count of bytes. -/
def decodeUtf32 (order : ByteOrder) (start : Nat) :
    (steps : Nat) → List UInt8 → Except DecodeFault (List Char)
  | 0, _ | _, [] => .ok []
  | steps + 1, bytes =>
    let codec := codecName order 32
    match bytes with
    | a :: b :: c :: d :: rest =>
      let code := unit order [a, b, c, d]
      if 0xD800 ≤ code ∧ code < 0xE000 then
        .error (.ofBytes codec start [a, b, c, d]
          "code point in surrogate code point range(0xd800, 0xe000)")
      else if 0x10FFFF < code then
        .error (.ofBytes codec start [a, b, c, d] "code point not in range(0x110000)")
      else (decodeUtf32 order (start + 4) steps rest).map (Char.ofNat code :: ·)
    | _ => .error (.ofBytes codec start bytes "truncated data")

/-! ## Marks -/

/-- The mark at the start of a text of bytes. -/
def utf8Mark : List UInt8 := [0xEF, 0xBB, 0xBF]

/-- The text of bytes with a mark that may be missing. Places are counted from behind it, and the
start of a mark alone is an empty text. -/
def decodeMarkedUtf8 (bytes : List UInt8) : Except DecodeFault (List Char) :=
  if bytes.isPrefixOf utf8Mark then .ok []
  else
    match utf8Mark.isPrefixOf? bytes with
    | some rest => decodeUtf8 0 rest.length rest
    | none => decodeUtf8 0 bytes.length bytes

/-- What becomes of units without a mark: a fault of the units comes first, and only an empty text
does without a mark. -/
def withoutMark (form : String) :
    Except DecodeFault (List Char) → Except DecodeFault (List Char)
  | .ok (_ :: _) => .error (.unmarked form)
  | decoded => decoded

/-- The text of bytes in an encoding. -/
def decode (encoding : Encoding) (bytes : List UInt8) : Except DecodeFault (List Char) :=
  match encoding with
  | .ascii => decodeAscii bytes
  | .latin => .ok (bytes.map fun byte => Char.ofNat byte.toNat)
  | .page name =>
    decodeSingle "charmap" "character maps to <undefined>" (CodePage.char? name) 0 bytes
  | .eastern scheme => scheme.decode bytes
  | .designated form => form.decode bytes
  | .hz => Multibyte.decodeHz bytes
  | .escaped false => Backslash.decodeFull bytes
  | .escaped true => Backslash.decodeRaw bytes
  | .hostName => decodeHostName bytes
  | .punycode => decodePunycode bytes
  | .undefined => .error .undefined
  | .utf7 => Utf7.decode bytes
  | .utf8 false => decodeUtf8 0 bytes.length bytes
  | .utf8 true => decodeMarkedUtf8 bytes
  | .utf16 (some order) => decodeUtf16 order 0 bytes.length bytes
  | .utf16 none =>
    match bytes with
    | 0xFF :: 0xFE :: rest => decodeUtf16 .little 2 rest.length rest
    | 0xFE :: 0xFF :: rest => decodeUtf16 .big 2 rest.length rest
    | _ => withoutMark "UTF-16" (decodeUtf16 .little 0 bytes.length bytes)
  | .utf32 (some order) => decodeUtf32 order 0 bytes.length bytes
  | .utf32 none =>
    match bytes with
    | 0xFF :: 0xFE :: 0 :: 0 :: rest => decodeUtf32 .little 4 rest.length rest
    | 0 :: 0 :: 0xFE :: 0xFF :: rest => decodeUtf32 .big 4 rest.length rest
    | _ => withoutMark "UTF-32" (decodeUtf32 .little 0 bytes.length bytes)

end Encoding

end Swatch.Text
