/-!
# Blanks

The characters that separate words, and the removal of those around a text. Beside the space
characters of every script these are the control blanks, the four separator controls U+001C to
U+001F and the next-line control.
-/

namespace Swatch.Text

/-- A blank separates words and counts for nothing at either end of a text. -/
def isBlank (c : Char) : Bool :=
  let n := c.toNat
  (0x9 ≤ n && n ≤ 0xD) || (0x1C ≤ n && n ≤ 0x20) || n == 0x85 || n == 0xA0 || n == 0x1680 ||
    (0x2000 ≤ n && n ≤ 0x200A) || n == 0x2028 || n == 0x2029 || n == 0x202F || n == 0x205F ||
    n == 0x3000

/-- The text without the blanks at its end. -/
def trimEnd : List Char → List Char
  | [] => []
  | c :: cs =>
    match trimEnd cs with
    | [] => if isBlank c then [] else [c]
    | kept => c :: kept

/-- The text without the blanks at either end. -/
def trim (cs : List Char) : List Char :=
  trimEnd (cs.dropWhile isBlank)

/-- The string without the blanks at either end. -/
def trimmed (s : String) : String :=
  String.ofList (trim s.toList)

/-- The maximal runs of characters that are not separators, in order. -/
def fields (isSeparator : Char → Bool) (cs : List Char) : List (List Char) :=
  (cs.foldr
    (fun c (current, done) =>
      if isSeparator c then ([], if current.isEmpty then done else current :: done)
      else (c :: current, done))
    ([], [])
  ) |> fun (current, done) => if current.isEmpty then done else current :: done

end Swatch.Text
