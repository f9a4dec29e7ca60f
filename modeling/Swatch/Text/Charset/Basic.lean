/-!
# Character sets

Sets of characters that are numbered by two bytes. A set is given by runs of successive numbers: the
first number of each run, and the characters of the run in order. U+FFFD marks a number inside a
run that stands for no character.
-/

namespace Swatch.Text

/-- The first numbers of runs, and the characters of the runs. -/
abbrev Charset := List (Nat × String)

namespace Charset

/-- The mark of a number without a character. -/
def unused : Char := '\ufffd'

/-- The bound of the length of a run. -/
def longest : Nat := 0x100

/-- The character of a number in a run. -/
def runChar? (code : Nat) (run : Nat × String) : Option Char :=
  if run.1 ≤ code ∧ code < run.1 + longest then
    run.2.toList[code - run.1]?.filter (· ≠ unused)
  else none

/-- The character of a number. -/
def char? (set : Charset) (code : Nat) : Option Char :=
  set.findSome? (runChar? code)

/-- The character of two bytes that both have the highest bit, which is no part of the number. -/
def highChar? (set : Charset) (code : Nat) : Option Char :=
  if 0x8080 ≤ code ∧ 0x80 ≤ code % 0x100 then set.char? (code - 0x8080) else none

end Charset

end Swatch.Text
