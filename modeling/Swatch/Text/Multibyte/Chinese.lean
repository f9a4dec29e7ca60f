import Swatch.Text.Charset.Big5
import Swatch.Text.Charset.Gb18030
import Swatch.Text.Charset.Gb2312
import Swatch.Text.Charset.Gbk
import Swatch.Text.Charset.Hkscs
import Swatch.Text.Multibyte.Basic

/-!
# Chinese

The encodings of Chinese characters as two or four bytes.
-/

namespace Swatch.Text.Multibyte

open Charset

/-! ## Simplified characters -/

/-- The first bytes in GB 2312. -/
def readGb2312 : Reader :=
  besideAscii (paired gb2312.highChar?)

/-- The character of two bytes in GBK. -/
def gbkChar? (code : Nat) : Option Char :=
  gbk.char? code <|> gb2312.highChar? code

/-- The first bytes in GBK. -/
def readGbk : Reader :=
  besideAscii (paired gbkChar?)

/-- A digit in a character of four bytes. -/
def isQuadDigit (byte : UInt8) : Bool :=
  0x30 ≤ byte && byte ≤ 0x39

/-- A byte before a digit in a character of four bytes. -/
def isQuadHead (byte : UInt8) : Bool :=
  0x81 ≤ byte && byte ≤ 0xFE

/-- The character of four bytes in GB 18030. The first 15 heads are kept for characters below
U+10000. -/
def quadChar? (first second third fourth : UInt8) : Option Char :=
  if isQuadHead first && isQuadHead third && isQuadDigit fourth then
    let head := first.toNat - 0x81
    let place (head : Nat) : Nat :=
      ((head * 10 + (second.toNat - 0x30)) * 126 + (third.toNat - 0x81)) * 10 +
        (fourth.toNat - 0x30)
    if head < 4 then gb18030Quad? (place head)
    else if 15 ≤ head ∧ 0x10000 + place (head - 15) ≤ 0x10FFFF then
      some (Char.ofNat (0x10000 + place (head - 15)))
    else none
  else none

/-- The bytes of a character in GB 18030; a digit as the second one makes four of them. -/
def readGb18030 : Reader :=
  besideAscii fun first bytes =>
    match bytes with
    | [] => .cut
    | second :: rest =>
      if isQuadDigit second then
        match rest with
        | third :: fourth :: _ => .ofChar? 4 (quadChar? first second third fourth)
        | _ => .cut
      else
        paired (fun code => gb18030Pair? code <|> gbkChar? code) first (second :: rest)

/-- The first bytes in HZ. A tilde before a brace starts or ends a run of characters of two bytes;
outside of such a run two tildes are one, and a tilde at the end of a line joins it to the next
one. The state tells whether a run is open. -/
def readHz : Bool → List UInt8 → Piece × Bool
  | isOpen, [] => (.cut, isOpen)
  | isOpen, 0x7E :: bytes =>
    match isOpen, bytes with
    | _, [] => (.cut, isOpen)
    | false, 0x7E :: _ => (.chars ['~'] 2, false)
    | false, 0x7B :: _ => (.chars [] 2, true)
    | false, 0x0A :: _ => (.chars [] 2, false)
    | true, 0x7D :: _ => (.chars [] 2, false)
    | _, _ => (.wrong 1, isOpen)
  | false, bytes => (besideAscii (fun _ _ => .wrong 1) bytes, false)
  | true, first :: bytes =>
    if first < 0x80 then (paired gb2312.char? first bytes, true) else (.wrong 1, true)

/-- The text of bytes in HZ. -/
def decodeHz (bytes : List UInt8) : Except DecodeFault (List Char) :=
  decodeFrom "hz" readHz 0 false bytes.length bytes

/-! ## Traditional characters -/

/-- The first bytes in Big5. -/
def readBig5 : Reader :=
  besideAscii (paired big5.char?)

/-- The first bytes in the form of Big5 that one maker uses. -/
def readCp950 : Reader :=
  besideAscii (paired fun code => big5Maker.char? code <|> big5.char? code)

/-- The numbers that HKSCS takes away from Big5. -/
def isHkscsOnly (code : Nat) : Bool :=
  0xC6A1 ≤ code && code < 0xC900

/-- Letters with two marks, for which there is no single character. -/
def hkscsPairs : List (Nat × List Char) := [
  (0x8862, ['\u00ca', '\u0304']), (0x8864, ['\u00ca', '\u030c']),
  (0x88A3, ['\u00ea', '\u0304']), (0x88A5, ['\u00ea', '\u030c'])]

/-- The text of two bytes in Big5 with HKSCS. -/
def hkscsText? (code : Nat) : Option (List Char) :=
  match hkscsPairs.lookup code with
  | some text => some text
  | none =>
    (hkscs.char? code <|> if isHkscsOnly code then none else big5.char? code).map ([·])

/-- The first bytes in Big5 with HKSCS. -/
def readBig5Hkscs : Reader :=
  besideAscii fun first bytes =>
    match bytes with
    | [] => .cut
    | second :: _ => .ofText? 2 (hkscsText? (pairCode first second))

end Swatch.Text.Multibyte
