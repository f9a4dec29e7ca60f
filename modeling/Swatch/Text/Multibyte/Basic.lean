import Swatch.Text.DecodeFault

/-!
# Several bytes for each character

Texts are taken apart from their start: what the first bytes stand for depends on nothing but these
bytes and a state that the bytes before have left.
-/

namespace Swatch.Text.Multibyte

/-- What the first bytes of an input are. -/
inductive Piece where
  /-- Bytes that stand for characters, perhaps for none. -/
  | chars (text : List Char) (count : Nat)
  /-- Bytes of a character whose last bytes are missing. -/
  | cut
  /-- Bytes that stand for nothing. -/
  | wrong (count : Nat)
  /-- Bytes that cannot be read in the state that they are met in. -/
  | stuck
  deriving DecidableEq, Repr

/-- How the first bytes of an input are read where no state is left behind. -/
abbrev Reader := List UInt8 → Piece

/-- The first bytes stand for a character, or the first one for nothing. -/
def Piece.ofChar? (count : Nat) : Option Char → Piece
  | some c => .chars [c] count
  | none => .wrong 1

/-- The first bytes stand for characters, or the first one for nothing. -/
def Piece.ofText? (count : Nat) : Option (List Char) → Piece
  | some text => .chars text count
  | none => .wrong 1

/-- The number of two bytes. -/
def pairCode (first second : UInt8) : Nat :=
  first.toNat * 0x100 + second.toNat

/-- Bytes below 0x80 stand for themselves; before others a reader for a first byte that is none of
these has its turn. -/
def besideAscii (other : UInt8 → Reader) : Reader
  | [] => .cut
  | byte :: bytes =>
    if byte < 0x80 then .chars [Char.ofNat byte.toNat] 1 else other byte bytes

/-- A first byte stands for a character together with the second one. -/
def paired (char? : Nat → Option Char) (first : UInt8) : Reader
  | [] => .cut
  | second :: _ => .ofChar? 2 (char? (pairCode first second))

/-- The text of an input whose first byte stands at the place `start`. `steps` is at least the
count of bytes. -/
def decodeFrom {σ : Type} (codec : String) (read : σ → List UInt8 → Piece × σ) (start : Nat)
    (state : σ) : (steps : Nat) → List UInt8 → Except DecodeFault (List Char)
  | 0, _ | _, [] => .ok []
  | steps + 1, bytes =>
    match read state bytes with
    | (.chars text count, state) =>
      (decodeFrom codec read (start + count) state steps (bytes.drop count)).map (text ++ ·)
    | (.cut, _) => .error (.ofBytes codec start bytes "incomplete multibyte sequence")
    | (.wrong count, _) =>
      .error (.ofBytes codec start (bytes.take count) "illegal multibyte sequence")
    | (.stuck, _) => .error .stuck

end Swatch.Text.Multibyte
