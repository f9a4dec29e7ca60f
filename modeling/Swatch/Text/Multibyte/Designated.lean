import Swatch.Text.Charset.Gb2312
import Swatch.Text.CodePage
import Swatch.Text.Multibyte.Japanese
import Swatch.Text.Multibyte.Korean

/-!
# Sets that are chosen on the way

The encodings in which escape sequences choose the set that the bytes behind them belong to. Four
places can hold a set. The bytes belong to the one at the first place or, while shifted, to the one
at the second place; the set at the third place is for the one character behind a mark.
-/

namespace Swatch.Text.Multibyte

open Charset

/-! ## Sets -/

/-- The sets that can be chosen. -/
inductive Repertoire where
  | ascii
  /-- ASCII with a yen sign and an overline. -/
  | roman
  | katakana
  | latin
  | greek
  | jis208
  /-- The same characters under the sign of an older edition. -/
  | jis208Old
  | jis212
  | jis213First (edition : Edition)
  | jis213Second
  | ks1001
  | gb2312
  deriving DecidableEq, Repr

namespace Repertoire

/-- The last byte of the sequence that chooses a set, which counts together with the width. -/
def sign : Repertoire → Char
  | .ascii => 'B'
  | .roman => 'J'
  | .katakana => 'I'
  | .latin => 'A'
  | .greek => 'F'
  | .jis208 => 'B'
  | .jis208Old => '@'
  | .jis212 => 'D'
  | .jis213First .first => 'O'
  | .jis213First .second => 'Q'
  | .jis213Second => 'P'
  | .ks1001 => 'C'
  | .gb2312 => 'A'

/-- The count of bytes for each character. -/
def width : Repertoire → Nat
  | .ascii | .roman | .katakana | .latin | .greek => 1
  | _ => 2

/-- The text of a number in a set. The letters of two sets are for the third place alone. -/
def text? : Repertoire → Nat → Option (List Char)
  | .ascii, code => some [Char.ofNat code]
  | .roman, code =>
    some [if code = 0x5C then '\u00a5' else if code = 0x7E then '\u203e' else Char.ofNat code]
  | .katakana, code => (kana? (UInt8.ofNat (code + 0x80))).map ([·])
  | .latin, _ => none
  | .greek, _ => none
  | .jis208, code | .jis208Old, code => (Charset.jis208.char? code).map ([·])
  | .jis212, code => (Charset.jis212.char? code).map ([·])
  | .jis213First _, 0x2232 => some ['~']
  | .jis213First edition, code => firstPlane? edition code
  | .jis213Second, code => (secondPlane? .second code).map ([·])
  | .ks1001, code => (Charset.ks1001.char? code).map ([·])
  | .gb2312, code => (Charset.gb2312.char? code).map ([·])

end Repertoire

/-! ## Forms -/

/-- A form of the encoding. -/
structure Form where
  name : String
  /-- The sets besides ASCII that can be chosen. -/
  sets : List Repertoire
  /-- Two bytes shift and shift back. -/
  shifts : Bool := false
  /-- The third place can be used. -/
  hasThird : Bool := false
  deriving DecidableEq, Repr

/-- The forms. -/
def forms : List Form := [
  ⟨"iso2022_jp", [.jis208, .roman, .jis208Old], false, false⟩,
  ⟨"iso2022_jp_1", [.jis208, .jis212, .roman, .jis208Old], false, false⟩,
  ⟨"iso2022_jp_2", [.jis208, .jis212, .ks1001, .gb2312, .roman, .jis208Old, .latin, .greek],
    false, true⟩,
  ⟨"iso2022_jp_2004", [.jis208, .jis213First .second, .jis213Second], false, false⟩,
  ⟨"iso2022_jp_3", [.jis208, .jis213First .first, .jis213Second], false, false⟩,
  ⟨"iso2022_jp_ext", [.jis208, .jis212, .roman, .katakana, .jis208Old], false, false⟩,
  ⟨"iso2022_kr", [.ks1001], true, false⟩]

/-- The set of a sign and a width. -/
def Form.set? (form : Form) (sign : Char) (width : Nat) : Option Repertoire :=
  (.ascii :: form.sets).find? fun set => set.sign == sign && set.width == width

/-! ## Escape sequences -/

/-- The byte that starts an escape sequence. -/
def escape : UInt8 := 0x1B

/-- A byte that ends an escape sequence. -/
def isEscapeEnd (byte : UInt8) : Bool :=
  0x40 ≤ byte && byte ≤ 0x5A

/-- A second byte of the sequences that choose a set. -/
def isChooser (byte : UInt8) : Bool :=
  ['(', ')', '$', '.', '&'].contains (Char.ofNat byte.toNat)

/-- How far an escape sequence goes. -/
inductive Extent where
  /-- It has so many bytes. -/
  | ends (count : Nat)
  /-- The input ends before it. -/
  | cut
  /-- No end is near. -/
  | endless
  deriving DecidableEq, Repr

/-- The place behind the longest escape sequence. -/
def escapeBound : Nat := 16

/-- How far an escape sequence goes whose bytes from the place `place` on are given. `skips` tells
that an announcement, which is three bytes before another sequence, may be part of it. -/
def extent (skips : Bool) (place : Nat) : (steps : Nat) → List UInt8 → Extent
  | 0, _ => .endless
  | steps + 1, bytes =>
    if escapeBound ≤ place then .endless
    else
      match bytes with
      | [] => .cut
      | byte :: rest =>
        if isEscapeEnd byte then .ends (place + 1)
        else if skips && byte == 0x26 && rest.head? == some 0x40 then
          extent skips (place + 3) steps (rest.drop 2)
        else extent skips (place + 1) steps rest

/-- The places that can hold a set. -/
inductive Place where
  | first
  | second
  | third
  deriving DecidableEq, Repr

/-- The place of a byte inside an escape sequence. -/
def Form.place? (form : Form) : Char → Option Place
  | '(' => some .first
  | ')' => some .second
  | '.' => if form.hasThird then some .third else none
  | _ => none

/-- The place, the sign and the width that an escape sequence names. -/
def Form.choice? (form : Form) (bytes : List UInt8) : Option (Place × Char × Nat) :=
  match bytes.map fun byte => Char.ofNat byte.toNat with
  | [_, '$', sign] => some (.first, sign, 2)
  | [_, mark, sign] => (form.place? mark).map (·, sign, 1)
  | [_, '$', '(', sign] => some (.first, sign, 2)
  | [_, '$', ')', sign] => some (.second, sign, 2)
  | [_, _, _, '\u001b', '$', 'B'] => if form.shifts then none else some (.first, 'B', 2)
  | _ => none

/-! ## Reading -/

/-- What the bytes read so far have left behind. -/
structure State where
  first : Repertoire := .ascii
  second : Repertoire := .ascii
  third : Repertoire := .ascii
  shifted : Bool := false
  /-- Inside an escape sequence that chooses nothing and is kept as it is. -/
  isForeign : Bool := false
  deriving DecidableEq, Repr

namespace State

/-- The state with a set at a place. -/
def set (state : State) (repertoire : Repertoire) : Place → State
  | .first => { state with first := repertoire }
  | .second => { state with second := repertoire }
  | .third => { state with third := repertoire }

/-- The set that bytes belong to. -/
def current (state : State) : Repertoire :=
  if state.shifted then state.second else state.first

end State

/-- An escape sequence that chooses a set. -/
def readChoice (form : Form) (state : State) (bytes : List UInt8) : Piece × State :=
  match extent (!form.shifts) 1 bytes.length (bytes.drop 1) with
  | .cut => (.cut, state)
  | .endless => (.wrong 1, state)
  | .ends count =>
    let chosen := do
      let (place, sign, width) ← form.choice? (bytes.take count)
      return state.set (← form.set? sign width) place
    match chosen with
    | some state => (.chars [] count, state)
    | none => (.wrong count, state)

/-- The characters of the Greek set that an older edition lacks. -/
def lateGreek : List UInt8 := [0xA4, 0xA5, 0xAA]

/-- The Greek character of a byte with the highest bit. -/
def greekChar? (byte : UInt8) : Option Char :=
  if lateGreek.contains byte then none else CodePage.char? "iso8859_7" byte

/-- The character of the set at the third place that a byte stands for. -/
def thirdPiece (repertoire : Repertoire) (byte : UInt8) : Piece :=
  let piece (char? : Option Char) : Piece :=
    match char? with
    | some c => .chars [c] 3
    | none => .wrong 3
  match repertoire with
  | .ascii => piece (if byte < 0x80 then some (Char.ofNat byte.toNat) else none)
  | .latin => piece (if byte < 0x80 then some (Char.ofNat (byte.toNat + 0x80)) else none)
  | .greek => piece (greekChar? (byte ^^^ 0x80))
  | _ => .stuck

/-- The first bytes in a form, and the state behind them. -/
def readDesignated (form : Form) (state : State) : List UInt8 → Piece × State
  | [] => (.cut, state)
  | byte :: bytes =>
    let itself : Piece := .chars [Char.ofNat byte.toNat] 1
    if state.isForeign then (itself, { state with isForeign := !isEscapeEnd byte })
    else if byte = escape then
      match bytes with
      | [] => (.cut, state)
      | second :: rest =>
        if isChooser second then readChoice form state (byte :: bytes)
        else if form.hasThird ∧ second = 0x4E then
          match rest with
          | [] => (.cut, state)
          | third :: _ => (thirdPiece state.third third, state)
        else (itself, { state with isForeign := true })
    else if form.shifts ∧ byte = 0x0E then (.chars [] 1, { state with shifted := true })
    else if form.shifts ∧ byte = 0x0F then (.chars [] 1, { state with shifted := false })
    else if byte = 0x0A then (itself, { state with shifted := false })
    else if byte < 0x20 then (itself, state)
    else if 0x80 ≤ byte then (.wrong 1, state)
    else
      let width := state.current.width
      if bytes.length + 1 < width then (.cut, state)
      else
        let code :=
          ((byte :: bytes).take width).foldl (fun code byte => code * 0x100 + byte.toNat) 0
        match state.current.text? code with
        | some text => (.chars text width, state)
        | none => (.wrong width, state)

/-- The text of bytes in a form. -/
def Form.decode (form : Form) (bytes : List UInt8) : Except DecodeFault (List Char) :=
  decodeFrom form.name (readDesignated form) 0 {} bytes.length bytes

end Swatch.Text.Multibyte
