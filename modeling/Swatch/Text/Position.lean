/-!
# Positions

Where a text goes on: a line and a column, both counted from one. A position is found from the text
before it.
-/

namespace Swatch.Text

/-- A line and a column, counted from one. -/
structure Position where
  line : Nat := 1
  column : Nat := 1
  deriving DecidableEq, Repr

/-- The position after one more character. -/
def Position.next (position : Position) (c : Char) : Position :=
  if c = '\n' then ⟨position.line + 1, 1⟩ else ⟨position.line, position.column + 1⟩

/-- The position after a text. -/
def Position.after (before : List Char) : Position :=
  before.foldl Position.next {}

/-- The position in a text from which `rest` is still to come. -/
def Position.before (whole rest : List Char) : Position :=
  Position.after (whole.take (whole.length - rest.length))

/-- A position as messages show it. -/
def Position.shown (position : Position) : String :=
  toString position.line ++ ":" ++ toString position.column

end Swatch.Text
