import Swatch.Text.Normal.Class
import Swatch.Text.Normal.Compatible
import Swatch.Text.Normal.Composite

/-!
# Normal forms

Texts that differ only in how their characters are composed, in the order of their marks or in
compatible forms of a character have one normal form. All characters are taken apart, the marks
behind a base are put in the order of their classes, and bases and marks are put together again.
The Korean syllables are composed of letters by rule.
-/

namespace Swatch.Text.Normal

/-! ## Korean syllables -/

/-- The codes of the first syllable and of the first letters: those at the start of a syllable, the
vowels, and one before those at the end. -/
def firstSyllable : Nat := 0xAC00

@[inherit_doc firstSyllable]
def firstInitial : Nat := 0x1100

@[inherit_doc firstSyllable]
def firstVowel : Nat := 0x1161

@[inherit_doc firstSyllable]
def beforeFinals : Nat := 0x11A7

/-- The counts of initial letters, of vowels and of final letters, where none counts as one. -/
def initialCount : Nat := 19

@[inherit_doc initialCount]
def vowelCount : Nat := 21

@[inherit_doc initialCount]
def finalCount : Nat := 28

/-- The letters of a syllable. -/
def syllableLetters? (code : Nat) : Option (List Char) :=
  let place := code - firstSyllable
  if firstSyllable ≤ code ∧ place < initialCount * vowelCount * finalCount then
    let initial := Char.ofNat (firstInitial + place / (vowelCount * finalCount))
    let vowel := Char.ofNat (firstVowel + place / finalCount % vowelCount)
    let final := place % finalCount
    some (initial :: vowel :: if final = 0 then [] else [Char.ofNat (beforeFinals + final)])
  else none

/-- The syllable without a final letter that two letters make. -/
def openSyllable? (initial vowel : Char) : Option Nat :=
  let i := initial.toNat - firstInitial
  let v := vowel.toNat - firstVowel
  if firstInitial ≤ initial.toNat ∧ i < initialCount ∧ firstVowel ≤ vowel.toNat ∧
      v < vowelCount then
    some (firstSyllable + (i * vowelCount + v) * finalCount)
  else none

/-- The place of a final letter, if a character is one. -/
def finalPlace? (c : Char) : Option Nat :=
  let place := c.toNat - beforeFinals
  if beforeFinals < c.toNat ∧ place < finalCount then some place else none

/-! ## Apart -/

/-- The base of a composite character in a text of pairs. -/
def baseOf? (composite : Char) : List Char → Option Char
  | base :: c :: rest => if c = composite then some base else baseOf? composite rest
  | _ => none

/-- The base and the mark of a composite character. -/
def baseAndMark? (c : Char) : Option (Char × Char) :=
  composites.findSome? fun (mark, pairs) => (baseOf? c pairs.toList).map (·, Char.ofNat mark)

/-- What a character is a form of, if it is one of another character. -/
def simpleForm? (c : Char) : Option Char :=
  simpleForms.findSome? fun (first, forms) =>
    if first ≤ c.toNat ∧ c.toNat < first + 0x100 then
      forms.toList[c.toNat - first]?.filter (· ≠ '\ufffd')
    else none

/-- What a character is a form of. -/
def form? (c : Char) : Option (List Char) :=
  ((simpleForm? c).map ([·])) <|> (severalForms.lookup c.toNat).map String.toList

/-- The largest count of marks in a composite character. -/
def markLimit : Nat := 3

/-- The parts of a character with at most so many marks. -/
def takeApart : (marks : Nat) → Char → List Char
  | 0, c => [c]
  | marks + 1, c =>
    match form? c with
    | some form => form
    | none =>
      match baseAndMark? c with
      | some (base, mark) => takeApart marks base ++ [mark]
      | none => (syllableLetters? c.toNat).getD [c]

/-- The parts of a character. -/
def parts (c : Char) : List Char :=
  if c.toNat < 0x80 then [c] else takeApart (markLimit + 1) c

/-! ## Order -/

/-- The class of a mark; zero for other characters. -/
def markClass (c : Char) : Nat :=
  ((classRuns.find? fun (first, last, _) => first ≤ c.toNat && c.toNat ≤ last).map
    (·.2.2)).getD 0

/-- A text in order with one more character before it: a mark moves behind the marks of lower
classes. -/
def insertMark (c : Char) : List Char → List Char
  | [] => [c]
  | d :: cs =>
    if markClass d ≠ 0 ∧ markClass d < markClass c then d :: insertMark c cs else c :: d :: cs

/-- A text with its marks in order. -/
def ordered (cs : List Char) : List Char :=
  cs.foldr insertMark []

/-! ## Together -/

/-- What a base becomes with a mark in a text of pairs. -/
def compositeOf? (base : Char) : List Char → Option Char
  | b :: c :: rest => if b = base then some c else compositeOf? base rest
  | _ => none

/-- What a base becomes with a mark. -/
def composite? (base mark : Char) : Option Char :=
  (composites ++ lateComposites).findSome? fun (code, pairs) =>
    if code = mark.toNat then compositeOf? base pairs.toList else none

/-- A base with all marks that it can take from the text behind it, and what is left of this text.
A mark that stays there blocks others of its class. `blocked` is the class of the last one that
stayed. -/
def takeMarks (base : Char) (blocked : Nat) : List Char → Char × List Char
  | [] => (base, [])
  | c :: cs =>
    let own := markClass c
    if blocked ≠ 0 ∧ own = 0 then (base, c :: cs)
    else if blocked ≠ 0 ∧ own ≤ blocked then
      let (base, left) := takeMarks base blocked cs
      (base, c :: left)
    else
      match composite? base c with
      | some composite => takeMarks composite blocked cs
      | none =>
        if own = 0 then (base, c :: cs)
        else
          let (base, left) := takeMarks base own cs
          (base, c :: left)

/-- A text put together. `steps` is at least its length. -/
def putTogether : (steps : Nat) → List Char → List Char
  | 0, cs => cs
  | _, [] => []
  | steps + 1, c :: cs =>
    match cs with
    | vowel :: rest =>
      match openSyllable? c vowel with
      | some code =>
        match (rest.head?).bind finalPlace? with
        | some final => Char.ofNat (code + final) :: putTogether steps (rest.drop 1)
        | none => Char.ofNat code :: putTogether steps rest
      | none =>
        let (composite, left) := takeMarks c 0 cs
        composite :: putTogether steps left
    | [] => [c]

/-- The normal form of a text. -/
def ofText (cs : List Char) : List Char :=
  let apart := ordered (cs.flatMap parts)
  putTogether apart.length apart

end Swatch.Text.Normal
