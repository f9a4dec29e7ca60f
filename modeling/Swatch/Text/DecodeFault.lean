import Swatch.Text.Quoted

/-!
# Bytes that are no text

Why bytes are refused as a text, and what a message says about it.
-/

namespace Swatch.Text

/-- Why bytes are no text in an encoding. -/
inductive DecodeFault where
  /-- The bytes from `first` to `last` are not admitted. -/
  | refused (codec : String) (bytes : List UInt8) (first last : Nat) (reason : String)
  /-- There is no mark that tells the order of the bytes. -/
  | unmarked (form : String)
  /-- Bytes cannot be read in the state that they are met in. -/
  | stuck
  /-- The encoding stands for no text at all. -/
  | undefined
  /-- A number ends before its last digit. -/
  | numberCut
  /-- A number holds a character that is no digit. -/
  | numberDigit (c : Char)
  /-- A number leads beyond the last character. -/
  | numberTooLarge (code : Nat)
  /-- The part of a name behind its mark cannot be read. -/
  | label (cause : DecodeFault)
  /-- A part of a name is empty or too long. -/
  | labelLength
  /-- A part of a name starts with the mark and needs it as well. -/
  | labelMarked
  /-- A part of a name holds a character that no name may hold. -/
  | labelChar (c : Char)
  /-- A part of a name breaks a rule on the directions of writing. -/
  | labelDirections (rule : Nat)
  /-- A part of a name would be written in another way. -/
  | labelChanged (written again : String)
  deriving DecidableEq, Repr

namespace DecodeFault

/-- What refuses the bytes that start a part of the input. -/
def ofBytes (codec : String) (start : Nat) (bytes : List UInt8) (reason : String) : DecodeFault :=
  .refused codec bytes start (start + bytes.length - 1) reason

/-- What a message says about bytes that are no text. -/
def message : DecodeFault → String
  | .unmarked form => form ++ " stream does not start with BOM"
  | .stuck => "internal codec error"
  | .undefined => "undefined encoding"
  | .numberCut => "incomplete punicode string"
  | .numberDigit c => "Invalid extended code point '" ++ c.toString ++ "'"
  | .numberTooLarge code => "Invalid character U+" ++ String.ofList (Nat.toDigits 16 code)
  | .label cause => "decoding with 'punycode' codec failed (UnicodeError: " ++ message cause ++ ")"
  | .labelLength => "label empty or too long"
  | .labelMarked => "Label starts with ACE prefix"
  | .labelChar c => "Invalid character " ++ quoted c.toString
  | .labelDirections rule => "Violation of BIDI requirement " ++ toString rule
  | .labelChanged written again =>
    "('IDNA does not round-trip', b" ++ quoted written ++ ", b" ++ quoted again ++ ")"
  | .refused codec [byte] first _ reason =>
    "'" ++ codec ++ "' codec can't decode byte 0x" ++ String.ofList (hexDigits 2 byte.toNat) ++
      " in position " ++ toString first ++ ": " ++ reason
  | .refused codec _ first last reason =>
    "'" ++ codec ++ "' codec can't decode bytes in position " ++ toString first ++ "-" ++
      toString last ++ ": " ++ reason

end DecodeFault

end Swatch.Text
