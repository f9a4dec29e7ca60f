import Swatch.Binary64.Basic

/-!
# Binary64 numbers in decimal notation

Reading a decimal numeral gives the nearest number, and a number is written with a fixed count of
places, or with the fewest digits that read back as the same number. A numeral is a whole number
times a power of ten, so nothing is lost before the one rounding.
-/

namespace Swatch.Binary64

/-! ## Reading -/

/-- The count of digits of a natural number in decimal notation. -/
def decimalLength (n : Nat) : Nat :=
  (Nat.toDigits 10 n).length

/-- The number nearest to `± significand · 10 ^ exponent`. Far outside the range of binary64 the
power of ten is not computed. -/
def ofDecimal (negative : Bool) (significand : Nat) (exponent : Int) : Binary64 :=
  let magnitude := exponent + decimalLength significand
  if significand = 0 ∨ magnitude < -330 then finite negative 0
  else if 310 < magnitude then infinite negative
  else if 0 ≤ exponent then
    ofRatio negative (significand * Nat.pow 10 exponent.toNat * unitsPerOne) 1
  else ofRatio negative (significand * unitsPerOne) (Nat.pow 10 (-exponent).toNat)

/-! ## A fixed count of places -/

/-- The digits of a natural number in decimal notation, with zeros in front up to a length. -/
def paddedDigits (length n : Nat) : List Char :=
  let digits := Nat.toDigits 10 n
  List.replicate (length - digits.length) '0' ++ digits

/-- The number in decimal notation with a fixed count of places, a tie going to the even digit. -/
def fixed (places : Nat) : Binary64 → List Char
  | finite negative units =>
    let scaled := roundEven (units * Nat.pow 10 places) unitsPerOne
    (if negative then ['-'] else []) ++ Nat.toDigits 10 (scaled / Nat.pow 10 places) ++
      '.' :: paddedDigits places (scaled % Nat.pow 10 places)
  | infinite negative => if negative then ['-', 'i', 'n', 'f'] else ['i', 'n', 'f']
  | nan => ['n', 'a', 'n']

/-- The number nearest to the one that is left after rounding to a count of decimal places. -/
def roundedTo (places : Nat) : Binary64 → Binary64
  | finite negative units =>
    ofRatio negative (roundEven (units * Nat.pow 10 places) unitsPerOne * unitsPerOne)
      (Nat.pow 10 places)
  | x => x

/-! ## The fewest digits that read back -/

/-- A whole number of tens powers next to `units`, and its distance, when it reads back. -/
def readsBack? (units : Nat) (exponent : Int) (candidate : Nat) : Option (Nat × Nat) :=
  if ofDecimal false candidate exponent = finite false units then
    if 0 ≤ exponent then
      some (candidate,
        ((candidate * Nat.pow 10 exponent.toNat * unitsPerOne : Nat) - (units : Int)).natAbs)
    else
      some (candidate,
        ((candidate * unitsPerOne : Nat) -
          (units * Nat.pow 10 (-exponent).toNat : Nat) : Int).natAbs)
  else none

/-- The nearer of the two neighbours of `units` on the grid of multiples of a power of ten, among
those that read back; of two that are equally near the even one. -/
def nearestOnGrid? (units : Nat) (exponent : Int) : Option Nat :=
  let low :=
    if 0 ≤ exponent then units / (Nat.pow 10 exponent.toNat * unitsPerOne)
    else units * Nat.pow 10 (-exponent).toNat / unitsPerOne
  match readsBack? units exponent low, readsBack? units exponent (low + 1) with
  | some (a, distanceA), some (b, distanceB) =>
    some (if distanceA < distanceB ∨ (distanceA = distanceB ∧ a % 2 = 0) then a else b)
  | some (a, _), none => some a
  | none, some (b, _) => some b
  | none, none => none

/-- The shortest decimal that reads back, searched from grids of few digits to finer ones. -/
def shortestFrom (units : Nat) : (steps : Nat) → (exponent : Int) → Nat × Int
  | 0, exponent => (0, exponent)
  | steps + 1, exponent =>
    match nearestOnGrid? units exponent with
    | some significand => (significand, exponent)
    | none => shortestFrom units steps (exponent - 1)

/-- The significand and the power of ten of the shortest decimal that reads back as the positive
number of `units`. -/
def shortest (units : Nat) : Nat × Int :=
  let whole := units / unitsPerOne
  let magnitude : Int :=
    if whole = 0 then 2 - decimalLength (unitsPerOne / units) else decimalLength whole
  shortestFrom units 19 magnitude

/-- The digits without the zeros at their end, and how many were dropped. -/
def dropFinalZeros (digits : List Char) : List Char × Nat :=
  let kept := (digits.reverse.dropWhile (· == '0')).reverse
  (kept, digits.length - kept.length)

/-- The text of a number: the fewest digits that read back, positional with at least one place
from 10⁻⁴ to below 10¹⁶ and otherwise with an exponent of at least two digits and a sign. -/
def text : Binary64 → String
  | finite negative 0 => if negative then "-0.0" else "0.0"
  | finite negative units =>
    let (significand, exponent) := shortest units
    let (digits, dropped) := dropFinalZeros (Nat.toDigits 10 significand)
    let point : Int := exponent + dropped + digits.length
    let body :=
      if -4 < point ∧ point ≤ 16 then
        if point ≤ 0 then '0' :: '.' :: List.replicate (-point).toNat '0' ++ digits
        else
          let filled := digits ++ List.replicate (point.toNat - digits.length) '0'
          let places := filled.drop point.toNat
          filled.take point.toNat ++ '.' :: (if places.isEmpty then ['0'] else places)
      else
        let power := point - 1
        digits.take 1 ++ (if digits.length = 1 then [] else '.' :: digits.drop 1) ++
          'e' :: (if power < 0 then '-' else '+') :: paddedDigits 2 power.natAbs
    String.ofList ((if negative then ['-'] else []) ++ body)
  | infinite negative => if negative then "-inf" else "inf"
  | nan => "nan"

end Swatch.Binary64
