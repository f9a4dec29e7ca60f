import Swatch.Text.Case
import Swatch.Text.DecodeFault

/-!
# Runs of other characters in ASCII

The encoding in which ASCII stands for itself, and a plus sign starts a run of other characters:
bytes of six bits each, written as letters, digits and two signs, until a byte that is none of
these. A minus sign that ends a run is no part of the text, and a run of a minus sign alone is a
plus sign.
-/

namespace Swatch.Text.Utf7

/-- The name of the encoding in messages. -/
def codecName : String := "utf7"

/-- The character that a byte stands for alone in ASCII. -/
def asciiChar? (byte : UInt8) : Option Char :=
  if byte < 0x80 then some (Char.ofNat byte.toNat) else none

/-- A run of characters beyond ASCII: bits, six for each byte, of which sixteen make a unit. -/
structure Run where
  /-- Where the plus sign before the run stands. -/
  start : Nat
  /-- The bits that make no unit yet, as a number, and their count. -/
  bits : Nat := 0
  count : Nat := 0
  /-- The first half of a pair of units. -/
  half : Option Nat := none

/-- The six bits that a byte stands for in a run. -/
def sixBits? (byte : UInt8) : Option Nat :=
  let c := Char.ofNat byte.toNat
  if 'A' ≤ c ∧ c ≤ 'Z' then some (byte.toNat - 0x41)
  else if 'a' ≤ c ∧ c ≤ 'z' then some (byte.toNat - 0x47)
  else if isAsciiDigit c then some (byte.toNat + 4)
  else if c = '+' then some 62
  else if c = '/' then some 63
  else none

namespace Run

/-- The characters that are complete with a unit, and the first half of a pair. Half a pair alone
is the replacement character. -/
def addUnit (half : Option Nat) (unit : Nat) : List Char × Option Nat :=
  let isFirst := 0xD800 ≤ unit ∧ unit < 0xDC00
  let isSecond := 0xDC00 ≤ unit ∧ unit < 0xE000
  match half with
  | some first =>
    if isSecond then ([Char.ofNat (0x10000 + (first - 0xD800) * 0x400 + (unit - 0xDC00))], none)
    else if isFirst then (['\ufffd'], some unit)
    else (['\ufffd', Char.ofNat unit], none)
  | none =>
    if isFirst then ([], some unit)
    else if isSecond then (['\ufffd'], none)
    else ([Char.ofNat unit], none)

/-- The characters that are complete with six more bits, and the run with them. -/
def add (run : Run) (six : Nat) : List Char × Run :=
  let bits := run.bits * 64 + six
  let count := run.count + 6
  if count < 16 then ([], { run with bits, count })
  else
    let rest := count - 16
    let (complete, half) := addUnit run.half (bits / Nat.pow 2 rest)
    (complete, { run with bits := bits % Nat.pow 2 rest, count := rest, half })

/-- Why a run cannot end here before another byte. -/
def fault? (run : Run) : Option String :=
  if 6 ≤ run.count then some "partial character in shift sequence"
  else if run.bits ≠ 0 then some "non-zero padding bits in shift sequence"
  else none

/-- Nothing is missing at the end of a run. -/
def isComplete (run : Run) : Bool :=
  run.half.isNone && run.count < 6 && run.bits == 0

end Run

/-- The text of bytes with runs. `steps` is at least twice the count of bytes: the byte behind a
run is looked at twice. -/
def decodeFrom (position : Nat) (run? : Option Run) :
    (steps : Nat) → List UInt8 → Except DecodeFault (List Char)
  | 0, _ => .ok []
  | _, [] =>
    match run? with
    | some run =>
      if run.isComplete then .ok []
      else .error (.refused codecName (List.replicate (position - run.start) 0x2B) run.start
        (position - 1) "unterminated shift sequence")
    | none => .ok []
  | steps + 1, byte :: bytes =>
    match run? with
    | some run =>
      match sixBits? byte with
      | some six =>
        let (complete, run) := run.add six
        (decodeFrom (position + 1) (some run) steps bytes).map (complete ++ ·)
      | none =>
        match run.fault? with
        | some reason =>
          .error (.refused codecName (List.replicate (position + 1 - run.start) 0x2B) run.start
            position reason)
        | none =>
          let lost := if run.half.isSome ∧ byte < 0x80 then ['\ufffd'] else []
          if byte = 0x2D then
            (decodeFrom (position + 1) none steps bytes).map (lost ++ ·)
          else (decodeFrom position none steps (byte :: bytes)).map (lost ++ ·)
    | none =>
      if byte = 0x2B then
        match bytes with
        | 0x2D :: rest => (decodeFrom (position + 2) none steps rest).map ('+' :: ·)
        | next :: rest =>
          if (sixBits? next).isSome then
            decodeFrom (position + 1) (some ⟨position, 0, 0, none⟩) steps (next :: rest)
          else .error (.ofBytes codecName position [byte, next] "ill-formed sequence")
        | [] => .ok []
      else
        match asciiChar? byte with
        | some c => (decodeFrom (position + 1) none steps bytes).map (c :: ·)
        | none => .error (.ofBytes codecName position [byte] "unexpected special character")

/-- The text of bytes. -/
def decode (bytes : List UInt8) : Except DecodeFault (List Char) :=
  decodeFrom 0 none (2 * bytes.length) bytes

end Swatch.Text.Utf7
