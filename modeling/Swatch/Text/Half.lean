/-!
# Halves of characters

Where the codes of a text have four digits, a character beyond them is two codes: the first half of
a pair and the second one. Half a pair alone is the replacement character.
-/

namespace Swatch.Text

/-- The first half of a pair of codes for one character. -/
def isLeadingHalf (code : Nat) : Bool :=
  0xD800 ≤ code && code < 0xDC00

/-- The second half of a pair of codes for one character. -/
def isTrailingHalf (code : Nat) : Bool :=
  0xDC00 ≤ code && code < 0xE000

/-- The character of a code; half a pair is the replacement character. -/
def codeChar (code : Nat) : Char :=
  if 0xD800 ≤ code ∧ code < 0xE000 then Char.ofNat 0xFFFD else Char.ofNat code

/-- The character that a pair of codes stands for. -/
def pairChar (leading trailing : Nat) : Char :=
  Char.ofNat (0x10000 + (leading - 0xD800) * 0x400 + (trailing - 0xDC00))

/-- The text of codes, of which two halves in a row are one character. -/
def ofCodes : List Nat → List Char
  | [] => []
  | [code] => [codeChar code]
  | code :: next :: codes =>
    if isLeadingHalf code && isTrailingHalf next then pairChar code next :: ofCodes codes
    else codeChar code :: ofCodes (next :: codes)

end Swatch.Text
