import Swatch.Text.CaseTable

/-!
# Letter case

The lower-case and the upper-case form of a text in every script, and the forms of single letters
that only ASCII changes. Two letters are special in lower case: the dotted capital I becomes two
characters, and a capital sigma takes its final form at the end of a word.
-/

namespace Swatch.Text

/-! ## ASCII -/

/-- The lower-case form of an ASCII letter; every other character is kept. -/
def asciiLower (c : Char) : Char :=
  if 'A' ≤ c ∧ c ≤ 'Z' then Char.ofNat (c.toNat + 32) else c

/-- The upper-case form of an ASCII letter; every other character is kept. -/
def asciiUpper (c : Char) : Char :=
  if 'a' ≤ c ∧ c ≤ 'z' then Char.ofNat (c.toNat - 32) else c

/-- A text with its ASCII letters in lower case. -/
def asciiLowered (s : String) : String :=
  String.ofList (s.toList.map asciiLower)

/-- An ASCII letter. -/
def isAsciiLetter (c : Char) : Bool :=
  ('a' ≤ c && c ≤ 'z') || ('A' ≤ c && c ≤ 'Z')

/-- An ASCII digit. -/
def isAsciiDigit (c : Char) : Bool :=
  '0' ≤ c && c ≤ '9'

/-! ## All scripts -/

/-- The image of a code point under the first run of a case table that holds it. -/
def runImage? (runs : List (Nat × Nat × Nat × Nat)) (n : Nat) : Option Nat :=
  (runs.find? fun (first, last, step, _) => first ≤ n && n ≤ last && (n - first) % step == 0).map
    fun (first, _, _, image) => image + (n - first)

/-- A letter that has case. -/
def isCased (c : Char) : Bool :=
  casedRuns.any fun run => run.1 ≤ c.toNat && c.toNat ≤ run.2

/-- A character that is passed over in the search for a neighbouring letter. -/
def isCaseIgnorable (c : Char) : Bool :=
  caseIgnorableRuns.any fun run => run.1 ≤ c.toNat && c.toNat ≤ run.2

/-- The nearest character of the list that is not passed over is a letter that has case. -/
def nearestIsCased (cs : List Char) : Bool :=
  match cs.dropWhile isCaseIgnorable with
  | [] => false
  | c :: _ => isCased c

/-- The lower-case form of a character, given the reversed text before it and the text after it. -/
def lowerChar (before : List Char) (c : Char) (after : List Char) : List Char :=
  if c.toNat == 0x3A3 then
    if nearestIsCased before && !nearestIsCased after then [Char.ofNat 0x3C2]
    else [Char.ofNat 0x3C3]
  else if c.toNat == 0x130 then ['i', Char.ofNat 0x307]
  else [((runImage? lowerRuns c.toNat).map Char.ofNat).getD c]

/-- The lower-case form of a text whose reversed beginning is already behind. -/
def lowerFrom (before : List Char) : List Char → List Char
  | [] => []
  | c :: cs => lowerChar before c cs ++ lowerFrom (c :: before) cs

/-- The lower-case form of a text. -/
def lower (cs : List Char) : List Char :=
  lowerFrom [] cs

/-- The upper-case form of one character. -/
def upperChar (c : Char) : List Char :=
  match upperExpansions.find? fun entry => entry.1 == c.toNat with
  | some (_, images) => images.map Char.ofNat
  | none => [((runImage? upperRuns c.toNat).map Char.ofNat).getD c]

/-- The upper-case form of a text. -/
def upper (cs : List Char) : List Char :=
  cs.flatMap upperChar

/-- The lower-case form of a string. -/
def lowered (s : String) : String :=
  String.ofList (lower s.toList)

/-- The upper-case form of a string. -/
def uppered (s : String) : String :=
  String.ofList (upper s.toList)

end Swatch.Text
