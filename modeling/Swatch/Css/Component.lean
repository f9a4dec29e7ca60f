import Swatch.Css.Lexeme
import Swatch.ExtractionError

/-!
# Components

A style sheet as nested components: a token, or a group of components that an opener begins and a
bracket ends. A closing bracket ends the innermost group that is open, and only if it fits; any
other stays as a token of its own. The end of the text closes every group that is still open.
Comments are left out.

A component carries a mark, which tells where it stands. No reading or writing below looks at it,
so it may be any type.
-/

namespace Swatch.Css

/-- A token, or a group with its content. -/
inductive Component (α : Type) where
  | leaf (mark : α) (token : Token)
  | group (mark : α) (opener : Opener) (content : List (Component α))
  deriving Repr

namespace Component

variable {α : Type}

/-- Where a component stands. -/
def mark : Component α → α
  | leaf mark _ => mark
  | group mark _ _ => mark

/-- The token of a component without parts. -/
def token? : Component α → Option Token
  | leaf _ token => some token
  | group .. => none

/-- A run of spaces. -/
def isWhitespace (component : Component α) : Bool :=
  component.token?.any Token.isWhitespace

/-- A token that is just this text. -/
def isDelim (text : String) (component : Component α) : Bool :=
  component.token? == some (.delim text)

/-- A group in curly brackets. -/
def isBlock : Component α → Bool
  | group _ (.bracket .curly) _ => true
  | _ => false

/-! ## Closing groups -/

/-- A group that is not closed yet: its mark and opener, and the components before it at its level,
the last one first. -/
structure Unclosed (α : Type) where
  mark : α
  opener : Opener
  before : List (Component α)

/-- The level outside an open group once the group is closed. -/
def Unclosed.close (unclosed : Unclosed α) (done : List (Component α)) : List (Component α) :=
  .group unclosed.mark unclosed.opener done.reverse :: unclosed.before

/-- The outermost level once every open group is closed. -/
def closeAll (opened : List (Unclosed α)) (done : List (Component α)) : List (Component α) :=
  (opened.foldl (fun done unclosed => unclosed.close done) done).reverse

/-- The components of lexemes, inside the open groups, the innermost one first, and after the
components that are done at this level, the last one first. -/
def nest (opened : List (Unclosed α)) (done : List (Component α)) :
    List (α × Lexeme) → List (Component α)
  | [] => closeAll opened done
  | (mark, .token token) :: rest => nest opened (.leaf mark token :: done) rest
  | (mark, .opening opener) :: rest => nest (⟨mark, opener, done⟩ :: opened) [] rest
  | (_, .comment) :: rest => nest opened done rest
  | (mark, .closing bracket) :: rest =>
    match opened with
    | [] => nest [] (.leaf mark (.unmatched bracket) :: done) rest
    | innermost :: outer =>
      if innermost.opener.brackets = bracket then nest outer (innermost.close done) rest
      else nest (innermost :: outer) (.leaf mark (.unmatched bracket) :: done) rest

end Component

/-! ## Whole numbers -/

/-- The count of digits, for a numeral of a whole number that has too many. -/
def overlongNumeral? (numeral : String) : Option Nat :=
  let digits := numeral.toList.filter fun c => c != '+' && c != '-'
  if digits.all Text.isAsciiDigit && Json.digitLimit < digits.length then some digits.length
  else none

/-- The count of digits, for a lexeme with a whole number that has too many. -/
def Lexeme.overlong? : Lexeme → Option Nat
  | .token (.number numeral) => overlongNumeral? numeral
  | .token (.percentage numeral) => overlongNumeral? numeral
  | .token (.dimension numeral _) => overlongNumeral? numeral
  | _ => none

/-! ## Reading -/

/-- The components of a text, each marked with the text from it on. A whole number of too many
digits refuses the text, wherever it stands. -/
def readComponents (text : List Char) : Extracted (List (Component (List Char))) :=
  let found := lexemes (normalized text)
  match found.findSome? (·.2.overlong?) with
  | some count => .error (.tooManyDigits count)
  | none => .ok (Component.nest [] [] found)

end Swatch.Css
