import Swatch.Text.Direction
import Swatch.Text.Normal
import Swatch.Text.Punycode

/-!
# Names of hosts

The encoding of names that consist of labels with points between them. A label is ASCII, or it is a
mark and the ASCII form of other characters. Such a label must be just what its characters are
written as: in lower case and in normal form, with the characters alone that a name may hold and in
one direction of writing.
-/

namespace Swatch.Text.HostName

/-- The mark of a label that stands for other characters. -/
def mark : List Char := "xn--".toList

/-- The bound of the length of a label. -/
def labelBound : Nat := 64

/-! ## Preparation -/

/-- The characters that are left out. -/
def isLeftOut (c : Char) : Bool :=
  [0xAD, 0x34F, 0x1806, 0x2060, 0xFEFF].contains c.toNat ||
    [(0x180B, 0x180D), (0x200B, 0x200D), (0xFE00, 0xFE0F)].any fun run =>
      run.1 ≤ c.toNat && c.toNat ≤ run.2

/-- The characters that no name may hold: blanks, controls, characters of private use and for no
use at all, and signs that change or describe others. -/
def refusedRuns : List (Nat × Nat) := [
  (0x80, 0xA0), (0x340, 0x341), (0x6DD, 0x6DD), (0x70F, 0x70F), (0x1680, 0x1680),
  (0x180E, 0x180E), (0x2000, 0x200F), (0x2028, 0x202F), (0x205F, 0x2063), (0x206A, 0x206F),
  (0x2FF0, 0x2FFB), (0x3000, 0x3000), (0xD800, 0xF8FF), (0xFDD0, 0xFDEF), (0xFEFF, 0xFEFF),
  (0xFFF9, 0xFFFF), (0x1D173, 0x1D17A), (0xE0001, 0xE0001), (0xE0020, 0xE007F),
  (0xF0000, 0x10FFFF)]

/-- A character that no name may hold; the last two of each plane are for no use. -/
def isRefused (c : Char) : Bool :=
  refusedRuns.any (fun run => run.1 ≤ c.toNat && c.toNat ≤ run.2) || 0xFFFE ≤ c.toNat % 0x10000

/-- The letters whose form in names is not the one in lower case. -/
def specialFolds : List (Char × List Char) := [
  ('\u00df', ['s', 's']), ('\u03c2', ['\u03c3']), ('\u0345', ['\u03b9'])]

/-- The form of a letter in names. -/
def foldLetter (c : Char) : List Char :=
  match specialFolds.lookup c with
  | some form => form
  | none => lowerChar [] c []

/-- The form of a character in names. Its parts are letters again. -/
def fold (c : Char) : List Char :=
  ((foldLetter c).flatMap Normal.parts).flatMap foldLetter

/-- A character of a script that is written from the right to the left. -/
def isLeftward (c : Char) : Bool :=
  leftwardRuns.any fun run => run.1 ≤ c.toNat && c.toNat ≤ run.2

/-- A character of a script that is written from the left to the right. -/
def isRightward (c : Char) : Bool :=
  rightwardRuns.any fun run => run.1 ≤ c.toNat && c.toNat ≤ run.2

/-- What is wrong with the directions of the characters of a label: if one is written to the left,
none is written to the right, and the first and the last one are written to the left. -/
def directionFault? (cs : List Char) : Option DecodeFault :=
  if !cs.any isLeftward then none
  else if cs.any isRightward then some (.labelDirections 2)
  else if cs.head?.all isLeftward && cs.getLast?.all isLeftward then none
  else some (.labelDirections 3)

/-- The characters of a label as names hold them. -/
def prepare (cs : List Char) : Except DecodeFault (List Char) :=
  let prepared := Normal.ofText ((cs.filter (!isLeftOut ·)).flatMap fold)
  match prepared.find? isRefused with
  | some c => .error (.labelChar c)
  | none =>
    match directionFault? prepared with
    | some fault => .error fault
    | none => .ok prepared

/-! ## Labels -/

/-- A character is ASCII. -/
def isAscii (c : Char) : Bool :=
  c.toNat < 0x80

/-- A label in ASCII, which has a limited length. -/
def checkLength (cs : List Char) : Except DecodeFault (List Char) :=
  if cs.isEmpty ∨ labelBound ≤ cs.length then .error .labelLength else .ok cs

/-- What the characters of a label are written as. -/
def encodeLabel (cs : List Char) : Except DecodeFault (List Char) := do
  if cs.all isAscii then checkLength cs
  else
    let prepared ← prepare cs
    if prepared.all isAscii then checkLength prepared
    else if mark.isPrefixOf prepared then throw .labelMarked
    else checkLength (mark ++ Punycode.encode prepared)

/-- The characters of a label. -/
def decodeLabel (cs : List Char) : Except DecodeFault (List Char) :=
  match mark.isPrefixOf? cs with
  | none => .ok cs
  | some rest => do
    let (plain, numbers) := Punycode.parts (· == '-') rest
    let decoded := ofCodes (← (Punycode.decodeParts plain numbers).mapError .label)
    let again ← encodeLabel decoded
    if cs.map asciiLower = again then return decoded
    else throw (.labelChanged (String.ofList cs) (String.ofList again))

/-- The characters of a name. -/
def decode (cs : List Char) : Except DecodeFault (List Char) := do
  return ['.'].intercalate (← (cs.splitOnP (· == '.')).mapM decodeLabel)

end Swatch.Text.HostName
