/-!
# Runs of names

The names of characters in a row, which mostly start with the same words. All names are in upper
case, and none holds a comma.
-/

namespace Swatch.Text.CharName

/-- The names of characters in a row. -/
structure Run where
  /-- The code of the first character. -/
  first : Nat
  /-- What the names start with. -/
  stem : String
  /-- What follows in each name, with commas between, in several texts; nothing for a character
  without a name. -/
  endings : List String

/-- The code of the character of a name in a run. -/
def Run.code? (run : Run) (name : List Char) : Option Nat :=
  match run.stem.toList.isPrefixOf? name with
  | none | some [] => none
  | some ending =>
    ((run.endings.flatMap fun text => text.toList.splitOnP (· == ',')).idxOf? ending).map
      (run.first + ·)

end Swatch.Text.CharName
