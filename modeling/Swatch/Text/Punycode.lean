import Swatch.Text.Case
import Swatch.Text.DecodeFault
import Swatch.Text.Half

/-!
# Characters as numbers behind ASCII

A text is written as its ASCII characters, a hyphen behind them if there are any, and a number for
each other character in the order of their codes. A number tells how far the place of the character
is from the one before, where a round through the whole text raises the code by one. Numbers have
digits of two kinds: a digit below a threshold is the last one. The thresholds follow the size of
the numbers so far.
-/

namespace Swatch.Text.Punycode

/-! ## Thresholds -/

/-- The base of the digits. -/
def base : Nat := 36

/-- The code of the first character that is not written as itself. -/
def firstCode : Nat := 0x80

/-- The bias before the first number. -/
def firstBias : Nat := 72

/-- A digit below this ends a number, by the place of the digit. -/
def threshold (place bias : Nat) : Nat :=
  max 1 (min 26 (base * (place + 1) - bias))

/-- A bias grows by the base for each time that the number is divided. -/
def scaled (delta divisions : Nat) : Nat :=
  if 455 < delta then scaled (delta / 35) (divisions + base)
  else divisions + base * delta / (delta + 38)
termination_by delta
decreasing_by omega

/-- The bias behind a number, where the text has so many characters then. -/
def adapt (delta : Nat) (isFirst : Bool) (length : Nat) : Nat :=
  let delta := if isFirst then delta / 700 else delta / 2
  scaled (delta + delta / length) 0

/-! ## Reading -/

/-- The value of a digit in upper case. -/
def digit? (c : Char) : Option Nat :=
  if 'A' ≤ c ∧ c ≤ 'Z' then some (c.toNat - 'A'.toNat)
  else if '0' ≤ c ∧ c ≤ '9' then some (c.toNat - '0'.toNat + 26)
  else none

/-- A number at the start of a text, and the rest behind it. -/
def readNumber (bias : Nat) :
    (place weight : Nat) → List Char → Except DecodeFault (Nat × List Char)
  | _, _, [] => .error .numberCut
  | place, weight, c :: cs =>
    match digit? c with
    | none => .error (.numberDigit c)
    | some digit =>
      let limit := threshold place bias
      if digit < limit then .ok (digit * weight, cs)
      else do
        let (higher, rest) ← readNumber bias (place + 1) (weight * (base - limit)) cs
        return (digit * weight + higher, rest)

/-- The codes of a text with the characters that the numbers stand for. `place` is where the next
one may stand at first, and `steps` is at least the length of the numbers. -/
def insertAll (place code bias : Nat) (isFirst : Bool) (codes : List Nat) :
    (steps : Nat) → List Char → Except DecodeFault (List Nat)
  | 0, _ | _, [] => .ok codes
  | steps + 1, numbers => do
    let (delta, rest) ← readNumber bias 0 1 numbers
    let length := codes.length + 1
    let code := code + (place + delta) / length
    let place := (place + delta) % length
    if 0x10FFFF < code then throw (.numberTooLarge code)
    insertAll (place + 1) code (adapt delta isFirst length) false (codes.insertIdx place code)
      steps rest

/-- The parts of a list before and behind its last hyphen; all is behind it where there is none. -/
def parts {α : Type} (isHyphen : α → Bool) (items : List α) : List α × List α :=
  let numbers := (items.reverse.takeWhile (!isHyphen ·)).reverse
  (items.take (items.length - numbers.length - 1), numbers)

/-- The codes of a text in two parts: the characters that stand for themselves, and the numbers. -/
def decodeParts (plain numbers : List Char) : Except DecodeFault (List Nat) :=
  insertAll 0 firstCode firstBias true (plain.map Char.toNat) numbers.length
    (numbers.map asciiUpper)

/-! ## Writing -/

/-- The digit of a value. -/
def digitChar (value : Nat) : Char :=
  if value < 26 then Char.ofNat ('a'.toNat + value) else Char.ofNat ('0'.toNat + (value - 26))

/-- The digits of a number. `steps` is more than the number. -/
def writeNumber (bias : Nat) : (steps place : Nat) → Nat → List Char
  | 0, _, _ => []
  | steps + 1, place, number =>
    let limit := threshold place bias
    if number < limit then [digitChar number]
    else
      digitChar (limit + (number - limit) % (base - limit)) ::
        writeNumber bias steps (place + 1) ((number - limit) / (base - limit))

/-- What is left behind by the numbers that are written. -/
structure Writing where
  digits : List Char := []
  delta : Nat := 0
  bias : Nat := firstBias
  /-- The count of characters that are written. -/
  written : Nat
  isFirst : Bool := true

/-- The writing after one character of the text in the round for a code: characters below the code
are passed, and one with the code itself gets its number. -/
def Writing.pass (code : Nat) (writing : Writing) (c : Char) : Writing :=
  if c.toNat < code then { writing with delta := writing.delta + 1 }
  else if c.toNat = code then
    { digits := writing.digits ++ writeNumber writing.bias (writing.delta + 1) 0 writing.delta
      delta := 0
      bias := adapt writing.delta writing.isFirst (writing.written + 1)
      written := writing.written + 1
      isFirst := false }
  else writing

/-- The writing after the rounds for the codes from `code` to those of the list, which is in
order. -/
def Writing.rounds (cs : List Char) (code : Nat) (writing : Writing) : List Nat → Writing
  | [] => writing
  | next :: codes =>
    let start := { writing with delta := writing.delta + (next - code) * (writing.written + 1) }
    let passed := cs.foldl (pass next) start
    rounds cs (next + 1) { passed with delta := passed.delta + 1 } codes

/-- A text in ASCII. -/
def encode (cs : List Char) : List Char :=
  let plain := cs.filter (·.toNat < firstCode)
  let others := ((cs.filter (firstCode ≤ ·.toNat)).map Char.toNat).eraseDups.mergeSort
  let writing := Writing.rounds cs firstCode { written := plain.length } others
  plain ++ (if plain.isEmpty then [] else ['-']) ++ writing.digits

end Swatch.Text.Punycode
