/-!
# Binary64 numbers

The numbers that channels are computed with. Every finite binary64 number is a whole number of
units of 2⁻¹⁰⁷⁴, so a number is kept as a sign and a natural number of units, and sums, products
and quotients are exact ratios of natural numbers that one function rounds:

- `roundUnits` takes a ratio to the nearest number of units with at most 53 significant bits, a tie
  going to the even neighbour;
- `ofRatio` adds the sign and turns what is too large into an infinity.

Zero has a sign, and a comparison with the value that is no number is false.
-/

namespace Swatch

/-- A binary64 number. `finite negative units` stands for `± units · 2⁻¹⁰⁷⁴`. -/
inductive Binary64 where
  | finite (negative : Bool) (units : Nat)
  | infinite (negative : Bool)
  | nan
  deriving DecidableEq, Repr, Inhabited

namespace Binary64

/-- Why a computation has no result. -/
inductive Fault where
  /-- A quotient by zero. -/
  | divisionByZero
  /-- An infinity where a whole number is needed. -/
  | wholeOfInfinity
  /-- No number where a whole number is needed. -/
  | wholeOfNan
  deriving DecidableEq, Repr

/-- What a message says about a fault. -/
def Fault.message : Fault → String
  | .divisionByZero => "float division by zero"
  | .wholeOfInfinity => "cannot convert float infinity to integer"
  | .wholeOfNan => "cannot convert float NaN to integer"

/-! ## Rounding -/

/-- The number of units in one. It is never unfolded: it has a thousand bits. -/
@[irreducible] def unitsPerOne : Nat := Nat.pow 2 1074

/-- The least number of units that is too large for a finite number. -/
def unitsLimit : Nat := Nat.pow 2 2098

/-- The whole number nearest to `num / den`, the even one of two that are equally near. -/
def roundEven (num den : Nat) : Nat :=
  let low := num / den
  let twice := 2 * (num % den)
  if twice < den then low else if den < twice then low + 1 else low + low % 2

/-- The distance between neighbouring binary64 numbers around `num / den` units. -/
def spacing (num den : Nat) : Nat :=
  Nat.pow 2 (Nat.log2 (num / den) - 52)

/-- The number of units nearest to `num / den` among those with at most 53 significant bits. -/
def roundUnits (num den : Nat) : Nat :=
  roundEven num (den * spacing num den) * spacing num den

/-- The number nearest to `± num / den` units. -/
def ofRatio (negative : Bool) (num den : Nat) : Binary64 :=
  let units := roundUnits num den
  if units < unitsLimit then finite negative units else infinite negative

/-! ## Whole numbers and comparison -/

/-- Zero without a minus sign. -/
def zero : Binary64 := finite false 0

/-- The number nearest to a whole number. -/
def ofInt (n : Int) : Binary64 :=
  ofRatio (n < 0) (n.natAbs * unitsPerOne) 1

/-- The number nearest to a natural number. -/
def ofNat (n : Nat) : Binary64 :=
  ofRatio false (n * unitsPerOne) 1

instance (n : Nat) : OfNat Binary64 n := ⟨ofNat n⟩

/-- A sign and a magnitude as a whole number. -/
def signed (negative : Bool) (units : Nat) : Int :=
  if negative then -(units : Int) else units

/-- The first number is less than the second. -/
def lt : Binary64 → Binary64 → Bool
  | finite s m, finite t n => signed s m < signed t n
  | finite _ _, infinite t => !t
  | infinite s, finite _ _ => s
  | infinite s, infinite t => s && !t
  | _, _ => false

/-- The two numbers have one value; the two zeros do. -/
def same : Binary64 → Binary64 → Bool
  | finite s m, finite t n => signed s m == signed t n
  | infinite s, infinite t => s == t
  | _, _ => false

/-- The first number is at most the second. -/
def le (x y : Binary64) : Bool :=
  x.lt y || x.same y

/-- The second number if it is greater, else the first. -/
def larger (x y : Binary64) : Binary64 :=
  if x.lt y then y else x

/-- The second number if it is less, else the first. -/
def smaller (x y : Binary64) : Binary64 :=
  if y.lt x then y else x

/-- The number brought into the range from `low` to `high`; what is no number goes to `high`. -/
def clamp (low high x : Binary64) : Binary64 :=
  larger low (smaller high x)

/-- The value that is no number. -/
def isNan : Binary64 → Bool
  | nan => true
  | _ => false

/-! ## Arithmetic -/

/-- The number with the other sign. -/
def neg : Binary64 → Binary64
  | finite s m => finite (!s) m
  | infinite s => infinite (!s)
  | nan => nan

/-- The rounded sum. Opposite numbers add up to the zero without a minus sign. -/
def add : Binary64 → Binary64 → Binary64
  | finite s m, finite t n =>
    let sum := signed s m + signed t n
    if sum = 0 then finite (s && t) 0 else ofRatio (sum < 0) sum.natAbs 1
  | finite _ _, infinite t => infinite t
  | infinite s, finite _ _ => infinite s
  | infinite s, infinite t => if s == t then infinite s else nan
  | _, _ => nan

/-- The rounded difference. -/
def sub (x y : Binary64) : Binary64 :=
  x.add y.neg

/-- The rounded product. -/
def mul : Binary64 → Binary64 → Binary64
  | finite s m, finite t n => ofRatio (s != t) (m * n) unitsPerOne
  | finite s m, infinite t => if m = 0 then nan else infinite (s != t)
  | infinite s, finite t n => if n = 0 then nan else infinite (s != t)
  | infinite s, infinite t => infinite (s != t)
  | _, _ => nan

/-- The rounded quotient; a quotient by zero is infinite, or no number for zero by zero. -/
def div : Binary64 → Binary64 → Binary64
  | finite s m, finite t n =>
    if n = 0 then (if m = 0 then nan else infinite (s != t))
    else ofRatio (s != t) (m * unitsPerOne) n
  | finite s _, infinite t => finite (s != t) 0
  | infinite s, finite t _ => infinite (s != t)
  | _, _ => nan

instance : Neg Binary64 := ⟨neg⟩
instance : Add Binary64 := ⟨add⟩
instance : Sub Binary64 := ⟨sub⟩
instance : Mul Binary64 := ⟨mul⟩
instance : Div Binary64 := ⟨div⟩

/-- The rounded quotient, refused when the divisor is zero. -/
def quotient (x y : Binary64) : Except Fault Binary64 :=
  if y.same zero then .error .divisionByZero else .ok (x / y)

/-- The remainder modulo a positive whole number, which is never negative. -/
def wrap (period : Nat) : Binary64 → Binary64
  | finite negative units =>
    let remainder := units % (period * unitsPerOne)
    if remainder = 0 then zero
    else if negative then ofRatio false (period * unitsPerOne - remainder) 1
    else finite false remainder
  | _ => nan

/-- The greatest whole number that is not above the number. -/
def floor : Binary64 → Except Fault Int
  | finite negative units => .ok (signed negative units / (unitsPerOne : Int))
  | infinite _ => .error .wholeOfInfinity
  | nan => .error .wholeOfNan

/-! ## Interchange form -/

/-- The 64 bits of the number: its sign, eleven bits of exponent and 52 bits of fraction. -/
def bits : Binary64 → Nat
  | finite negative units =>
    let sign := if negative then 0x8000000000000000 else 0
    if units < 0x10000000000000 then sign + units
    else
      let shift := Nat.log2 units - 52
      sign + (shift + 1) * 0x10000000000000 + (units / Nat.pow 2 shift - 0x10000000000000)
  | infinite negative => (if negative then 0x8000000000000000 else 0) + 0x7FF0000000000000
  | nan => 0x7FF8000000000000

end Binary64

end Swatch
