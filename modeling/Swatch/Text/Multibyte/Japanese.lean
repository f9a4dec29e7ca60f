import Swatch.Text.Charset.Jis208
import Swatch.Text.Charset.Jis212
import Swatch.Text.Charset.Jis213
import Swatch.Text.Multibyte.Basic

/-!
# Japanese

The encodings of Japanese characters as two or three bytes. Narrow katakana have one byte of their
own or a byte behind a mark. The sets are tables of rows of 94 cells; both are counted from 0x21.
-/

namespace Swatch.Text.Multibyte

open Charset

/-! ## Katakana -/

/-- The narrow katakana of a byte with the highest bit. -/
def kana? (byte : UInt8) : Option Char :=
  if 0xA1 ≤ byte ∧ byte ≤ 0xDF then some (Char.ofNat (0xFEC0 + byte.toNat)) else none

/-! ## Two planes -/

/-- The editions of JIS X 0213. -/
inductive Edition where
  | first
  | second
  deriving DecidableEq, Repr

/-- The characters of the first plane that are written as a letter and a mark. -/
def jis213Pairs : List (Nat × List Char) := [
  (0x2477, ['か', '\u309a']), (0x2478, ['き', '\u309a']), (0x2479, ['く', '\u309a']),
  (0x247A, ['け', '\u309a']), (0x247B, ['こ', '\u309a']), (0x2577, ['カ', '\u309a']),
  (0x2578, ['キ', '\u309a']), (0x2579, ['ク', '\u309a']), (0x257A, ['ケ', '\u309a']),
  (0x257B, ['コ', '\u309a']), (0x257C, ['セ', '\u309a']), (0x257D, ['ツ', '\u309a']),
  (0x257E, ['ト', '\u309a']), (0x2678, ['ㇷ', '\u309a']), (0x2B44, ['\u00e6', '\u0300']),
  (0x2B48, ['\u0254', '\u0300']), (0x2B49, ['\u0254', '\u0301']), (0x2B4A, ['\u028c', '\u0300']),
  (0x2B4B, ['\u028c', '\u0301']), (0x2B4C, ['\u0259', '\u0300']), (0x2B4D, ['\u0259', '\u0301']),
  (0x2B4E, ['\u025a', '\u0300']), (0x2B4F, ['\u025a', '\u0301']), (0x2B65, ['\u02e9', '\u02e5']),
  (0x2B66, ['\u02e5', '\u02e9'])]

/-- The numbers in the first plane that the second edition added. -/
def addedInSecond : List Nat := [
  0x2E21, 0x2F7E, 0x4F54, 0x4F7E, 0x7427, 0x7E7A, 0x7E7B, 0x7E7C, 0x7E7D, 0x7E7E]

/-- The text of a number in the first plane. -/
def firstPlane? (edition : Edition) (code : Nat) : Option (List Char) :=
  if edition = .first ∧ code ∈ addedInSecond then none
  else
    match jis208.char? code <|> jis213First.char? code with
    | some c => some [c]
    | none => jis213Pairs.lookup code

/-- Two bytes with a number in the first plane. Those of a number that was added later stand for
nothing together. -/
def firstPlanePiece (edition : Edition) (code : Nat) : Piece :=
  if edition = .first ∧ code ∈ addedInSecond then .wrong 2
  else .ofText? 2 (firstPlane? edition code)

/-- The character of a number in the second plane. One was replaced in the second edition. -/
def secondPlane? (edition : Edition) (code : Nat) : Option Char :=
  if edition = .first ∧ code = 0x7D3B then some '\u9b1d' else jis213Second.char? code

/-! ## Both bytes above 0x80 -/

/-- The number of two bytes without the highest bit of each. -/
def highCode? (first second : UInt8) : Option Nat :=
  if 0x80 ≤ first ∧ 0x80 ≤ second then some (pairCode first second - 0x8080) else none

/-- The first bytes where a mark of one byte stands before katakana and another one before two more
bytes. -/
def readMarked (two : Nat → Piece) (three : Nat → Option Char) : Reader :=
  besideAscii fun first bytes =>
    if first = 0x8E then
      match bytes with
      | [] => .cut
      | second :: _ => .ofChar? 2 (kana? second)
    else if first = 0x8F then
      match bytes with
      | second :: third :: _ => .ofChar? 3 ((highCode? second third).bind three)
      | _ => .cut
    else
      match bytes with
      | [] => .cut
      | second :: _ => ((highCode? first second).map two).getD (.wrong 1)

/-- The first bytes with JIS X 0208 and, behind a mark, JIS X 0212. -/
def readEucJp : Reader :=
  readMarked (fun code => .ofChar? 2 (jis208.char? code)) jis212.char?

/-- The first bytes with the two planes, the second one behind a mark together with JIS X 0212. -/
def readEucJis (edition : Edition) : Reader :=
  readMarked (firstPlanePiece edition)
    (fun code => secondPlane? edition code <|> jis212.char? code)

/-! ## Shifted rows -/

/-- The place of a byte among the second bytes of a pair. -/
def shiftedCell? (byte : UInt8) : Option Nat :=
  if 0x40 ≤ byte ∧ byte < 0x7F then some (byte.toNat - 0x40)
  else if 0x80 ≤ byte ∧ byte ≤ 0xFC then some (byte.toNat - 0x41)
  else none

/-- The place of a byte among the first bytes of a pair. -/
def shiftedRow? (byte : UInt8) : Option Nat :=
  if 0x81 ≤ byte ∧ byte ≤ 0x9F then some (byte.toNat - 0x81)
  else if 0xE0 ≤ byte ∧ byte ≤ 0xFC then some (byte.toNat - 0xC1)
  else none

/-- The row and the cell of a pair: two rows for each first byte. Both are counted from zero. -/
def shifted? (first second : UInt8) : Option (Nat × Nat) := do
  let row ← shiftedRow? first
  let cell ← shiftedCell? second
  return (2 * row + cell / 94, cell % 94)

/-- The number of a row and a cell that are counted from zero. -/
def rowCode (row cell : Nat) : Nat :=
  (row + 0x21) * 0x100 + cell + 0x21

/-- Katakana stand for themselves; a first byte of a pair starts it, and any other stands for
nothing. -/
def readShiftedPair (isLead : UInt8 → Bool) (pair : UInt8 → UInt8 → Piece) (first : UInt8) :
    Reader :=
  fun bytes =>
    match kana? first with
    | some c => .chars [c] 1
    | none =>
      if isLead first then
        match bytes with
        | [] => .cut
        | second :: _ => pair first second
      else .wrong 1

/-- A first byte of a pair in JIS X 0208, of which the last rows are empty. -/
def isStandardLead (byte : UInt8) : Bool :=
  (0x81 ≤ byte && byte ≤ 0x9F) || (0xE0 ≤ byte && byte ≤ 0xEA)

/-- The character of a pair in JIS X 0208. -/
def shiftedChar? (first second : UInt8) : Option Char := do
  let (row, cell) ← shifted? first second
  jis208.char? (rowCode row cell)

/-- The first bytes in the shifted form of JIS X 0208. -/
def readShiftJis : Reader :=
  besideAscii (readShiftedPair isStandardLead fun first second =>
    .ofChar? 2 (shiftedChar? first second))

/-- The character of a byte that is no first byte of a pair in the form that one maker uses. -/
def makerSingle? (byte : UInt8) : Option Char :=
  if byte = 0x80 then some '\u0080'
  else if byte = 0xA0 then some '\uf8f0'
  else if 0xFD ≤ byte then some (Char.ofNat (0xF8F1 + (byte.toNat - 0xFD)))
  else kana? byte

/-- The character of a pair in the form that one maker uses: after the rows of the standard there
are ten first bytes for characters of private use. -/
def makerChar? (first second : UInt8) : Option Char :=
  match jis208Maker.char? (pairCode first second) with
  | some c => some c
  | none =>
    if isStandardLead first then shiftedChar? first second
    else if 0xF0 ≤ first ∧ first ≤ 0xF9 then
      (shiftedCell? second).map fun cell =>
        Char.ofNat (0xE000 + 188 * (first.toNat - 0xF0) + cell)
    else none

/-- The first bytes in the form that one maker uses. -/
def readCp932 : Reader :=
  besideAscii fun first bytes =>
    match makerSingle? first with
    | some c => .chars [c] 1
    | none =>
      match bytes with
      | [] => .cut
      | second :: _ => .ofChar? 2 (makerChar? first second)

/-- A pair in the two planes: after the rows of the first plane come those rows of the second one
that JIS X 0212 does not use. -/
def planesPiece (edition : Edition) (first second : UInt8) : Piece :=
  match shifted? first second with
  | none => .wrong 1
  | some (row, cell) =>
    if row < 94 then firstPlanePiece edition (rowCode row cell)
    else
      let row :=
        if 103 ≤ row then row - 26
        else if row = 95 ∨ 99 ≤ row then row - 88
        else row - 94
      .ofChar? 2 (secondPlane? edition (rowCode row cell))

/-- The first bytes in the shifted form of the two planes. A yen sign and an overline stand in
place of the backslash and the tilde, which are pairs. -/
def readShiftJis213 (edition : Edition) : Reader
  | 0x5C :: _ => .chars ['\u00a5'] 1
  | 0x7E :: _ => .chars ['\u203e'] 1
  | bytes =>
    besideAscii (readShiftedPair (fun byte => (shiftedRow? byte).isSome) fun first second =>
      match pairCode first second with
      | 0x815F => .chars ['\\'] 2
      | 0x81B0 => .chars ['~'] 2
      | _ => planesPiece edition first second) bytes

end Swatch.Text.Multibyte
