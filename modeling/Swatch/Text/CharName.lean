import Swatch.Text.CharName.Alias
import Swatch.Text.CharName.Ancient
import Swatch.Text.CharName.Eastern
import Swatch.Text.CharName.Form
import Swatch.Text.CharName.Notation
import Swatch.Text.CharName.Pictograph
import Swatch.Text.CharName.Pictorial
import Swatch.Text.CharName.Southern
import Swatch.Text.CharName.Symbol
import Swatch.Text.CharName.Western
import Swatch.Text.Case
import Swatch.Text.Digit

/-!
# Names of characters

The character of a name. Most names are found in tables without regard to case. The ideographs of
some families are named by their codes, and the Korean syllables by the letters of a transcription.
-/

namespace Swatch.Text.CharName

/-! ## Korean syllables -/

/-- The transcriptions of the consonants that a syllable can start with. -/
def initials : List String := [
  "G", "GG", "N", "D", "DD", "R", "M", "B", "BB", "S", "SS", "", "J", "JJ", "C", "K", "T", "P",
  "H"]

/-- The transcriptions of the vowels. -/
def vowels : List String := [
  "A", "AE", "YA", "YAE", "EO", "E", "YEO", "YE", "O", "WA", "WAE", "OE", "YO", "U", "WEO", "WE",
  "WI", "YU", "EU", "YI", "I"]

/-- The transcriptions of the consonants that a syllable can end with, of which one is none. -/
def finals : List String := [
  "", "G", "GG", "GS", "N", "NJ", "NH", "D", "L", "LG", "LM", "LB", "LS", "LT", "LP", "LH", "M",
  "B", "BS", "S", "SS", "NG", "J", "C", "K", "T", "P", "H"]

/-- A letter of the transcription of a vowel. -/
def isVowelLetter (c : Char) : Bool :=
  "AEIOUWY".toList.contains c

/-- The code of the Korean syllable with a transcription. -/
def syllableCode? (letters : List Char) : Option Nat := do
  let isConsonant := fun c => !isVowelLetter c
  let afterInitial := letters.dropWhile isConsonant
  let initial ← initials.idxOf? (String.ofList (letters.takeWhile isConsonant))
  let vowel ← vowels.idxOf? (String.ofList (afterInitial.takeWhile isVowelLetter))
  let final ← finals.idxOf? (String.ofList (afterInitial.dropWhile isVowelLetter))
  return 0xAC00 + (initial * vowels.length + vowel) * finals.length + final

/-! ## Codes as names -/

/-- The unified ideographs. -/
def ideographRuns : List (Nat × Nat) := [
  (0x3400, 0x4DBF), (0x4E00, 0x9FFF), (0x20000, 0x2A6DF), (0x2A700, 0x2B738), (0x2B740, 0x2B81D),
  (0x2B820, 0x2CEA1), (0x2CEB0, 0x2EBE0), (0x30000, 0x3134A)]

/-- The other characters that are named by their codes: what stands before the code, and the runs
of the characters. -/
def coded : List (String × List (Nat × Nat)) := [
  ("CJK COMPATIBILITY IDEOGRAPH-", [(0xF900, 0xFA6D), (0xFA70, 0xFAD9), (0x2F800, 0x2FA1D)]),
  ("KHITAN SMALL SCRIPT CHARACTER-", [(0x18B00, 0x18CD5)]),
  ("NUSHU CHARACTER-", [(0x1B170, 0x1B2FB)])]

/-- The code that digits in upper case spell, if it lies in a run. -/
def codeIn? (runs : List (Nat × Nat)) (digits : List Char) : Option Nat :=
  let code := hexNumeral digits
  if digits.all (fun c => isHexDigit c && asciiUpper c == c) &&
      runs.any (fun run => run.1 ≤ code && code ≤ run.2) then some code
  else none

/-- The code of a unified ideograph that four or five digits spell. -/
def ideographCode? (digits : List Char) : Option Nat :=
  if digits.length = 4 ∨ digits.length = 5 then codeIn? ideographRuns digits else none

/-- The code of another character that is named by its code, without a zero before it. -/
def codedCode? (name : List Char) : Option Nat :=
  coded.findSome? fun (stem, runs) => do
    let digits ← stem.toList.isPrefixOf? name
    if digits.head? = some '0' then none else codeIn? runs digits

/-! ## Names -/

/-- The runs of names. -/
def runs : List Run :=
  western ++ southern ++ symbol ++ eastern ++ form ++ ancient ++ pictorial ++ notations ++
    pictograph

/-- The code of the character of a name in the tables, which is given in upper case. -/
def tableCode? (name : List Char) : Option Nat :=
  runs.findSome? (·.code? name) <|> aliasCode? name <|> codedCode? name

/-- The character of a name. -/
def char? (name : List Char) : Option Char :=
  let code? :=
    match "HANGUL SYLLABLE ".toList.isPrefixOf? name,
      "CJK UNIFIED IDEOGRAPH-".toList.isPrefixOf? name with
    | some letters, _ => syllableCode? letters
    | none, some digits => ideographCode? digits
    | none, none => tableCode? (name.map asciiUpper)
  code?.map Char.ofNat

end Swatch.Text.CharName
