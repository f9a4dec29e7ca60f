import Swatch.Text.Charset.Hangul
import Swatch.Text.Charset.Ks1001
import Swatch.Text.Multibyte.Basic

/-!
# Korean

The encodings of Korean syllables and hanja as two bytes, and of syllables that are spelled by their
letters.
-/

namespace Swatch.Text.Multibyte

open Charset

/-! ## Letters -/

/-- The consonants that a syllable can start with. -/
def initials : String := "ㄱㄲㄴㄷㄸㄹㅁㅂㅃㅅㅆㅇㅈㅉㅊㅋㅌㅍㅎ"

/-- The vowels. -/
def vowels : String := "ㅏㅐㅑㅒㅓㅔㅕㅖㅗㅘㅙㅚㅛㅜㅝㅞㅟㅠㅡㅢㅣ"

/-- The consonants that a syllable can end with. -/
def finals : String := "ㄱㄲㄳㄴㄵㄶㄷㄹㄺㄻㄼㄽㄾㄿㅀㅁㅂㅄㅅㅆㅇㅈㅊㅋㅌㅍㅎ"

/-- The syllable of letters, each given by its place among those of its kind; the last one may be
missing. -/
def syllable (initial vowel : Nat) (final : Option Nat) : Char :=
  Char.ofNat (0xAC00 + initial * 588 + vowel * 28 + (final.map (· + 1)).getD 0)

/-! ## Two bytes for each syllable -/

/-- The first byte of each letter in a syllable of eight bytes. -/
def spelledHead : UInt8 := 0xA4

/-- The byte that stands for no letter in a syllable of eight bytes, and before all of them. -/
def spelledFill : UInt8 := 0xD4

/-- The character of a letter that is given by its second byte. -/
def letter? (byte : UInt8) : Option Char :=
  ks1001.highChar? (pairCode spelledHead byte)

/-- The place of a letter among those of its kind. -/
def letterPlace? (letters : String) (byte : UInt8) : Option Nat := do
  letters.toList.idxOf? (← letter? byte)

/-- The syllable of three letters that are given by their second bytes. -/
def spelledSyllable? (initial vowel final : UInt8) : Option Char := do
  let initial ← letterPlace? initials initial
  let vowel ← letterPlace? vowels vowel
  if final = spelledFill then return syllable initial vowel none
  return syllable initial vowel (some (← letterPlace? finals final))

/-- The first bytes where a syllable may be spelled as eight bytes: a mark and three letters of two
bytes each. -/
def readEucKr : Reader :=
  besideAscii fun first bytes =>
    match bytes with
    | [] => .cut
    | second :: rest =>
      if first = spelledHead ∧ second = spelledFill then
        match rest with
        | a :: initial :: b :: vowel :: c :: final :: _ =>
          .ofChar? 8
            (if [a, b, c].all (· == spelledHead) then spelledSyllable? initial vowel final
            else none)
        | _ => .cut
      else .ofChar? 2 (ks1001.highChar? (pairCode first second))

/-- The first bytes where each syllable has two bytes of its own. -/
def readCp949 : Reader :=
  besideAscii (paired fun code => hangul.char? code <|> ks1001.highChar? code)

/-! ## Five bits for each letter -/

/-- What five bits stand for in a syllable. -/
inductive Slot where
  /-- No letter. -/
  | empty
  /-- A letter, by its place among those of its kind. -/
  | letter (place : Nat)
  deriving DecidableEq, Repr

/-- The slot for the first letter. -/
def initialSlot? (bits : Nat) : Option Slot :=
  if bits = 1 then some .empty
  else if 2 ≤ bits ∧ bits ≤ 20 then some (.letter (bits - 2))
  else none

/-- The slot for the vowel. -/
def vowelSlot? (bits : Nat) : Option Slot :=
  if bits = 2 then some .empty
  else if 3 ≤ bits ∧ bits ≤ 7 then some (.letter (bits - 3))
  else if 10 ≤ bits ∧ bits ≤ 15 then some (.letter (bits - 5))
  else if 18 ≤ bits ∧ bits ≤ 23 then some (.letter (bits - 7))
  else if 26 ≤ bits ∧ bits ≤ 29 then some (.letter (bits - 9))
  else none

/-- The slot for the last letter. -/
def finalSlot? (bits : Nat) : Option Slot :=
  if bits = 1 then some .empty
  else if 2 ≤ bits ∧ bits ≤ 17 then some (.letter (bits - 2))
  else if 19 ≤ bits ∧ bits ≤ 29 then some (.letter (bits - 3))
  else none

/-- The character of three slots: a syllable, a letter alone, or a wide space. -/
def ofSlots? : Slot → Slot → Slot → Option Char
  | .empty, .empty, .empty => some '\u3000'
  | .letter initial, .empty, .empty => initials.toList[initial]?
  | .empty, .letter vowel, .empty => vowels.toList[vowel]?
  | .empty, .empty, .letter final => finals.toList[final]?
  | .letter initial, .letter vowel, .empty => some (syllable initial vowel none)
  | .letter initial, .letter vowel, .letter final => some (syllable initial vowel (some final))
  | _, _, _ => none

/-- The character of a sign or hanja: two rows of KS X 1001 for each first byte. Nothing stands in
some gaps, nor for letters that five bits spell. -/
def johabSign? (first second : Nat) : Option Char :=
  if first < 0xD9 ∨ first = 0xDF ∨ 0xF9 < first ∨ second < 0x31 ∨
      (0x80 ≤ second ∧ second < 0x91) ∨ second % 0x80 = 0x7F ∨
      (first = 0xDA ∧ 0xA1 ≤ second ∧ second ≤ 0xD3) then none
  else
    let row := if first < 0xE0 then 2 * (first - 0xD9) else 2 * first - 0x197
    let cell := if second < 0x91 then second - 0x31 else second - 0x43
    ks1001.char? ((row + cell / 94 + 0x21) * 0x100 + cell % 94 + 0x21)

/-- The character of two bytes in Johab. -/
def johabChar? (code : Nat) : Option Char :=
  if 0xD800 ≤ code then johabSign? (code / 0x100) (code % 0x100)
  else do
    let initial ← initialSlot? (code / 0x400 % 0x20)
    let vowel ← vowelSlot? (code / 0x20 % 0x20)
    let final ← finalSlot? (code % 0x20)
    ofSlots? initial vowel final

/-- The first bytes in Johab. -/
def readJohab : Reader :=
  besideAscii (paired johabChar?)

end Swatch.Text.Multibyte
