import Swatch.Text.Case
import Swatch.Text.Digit

/-!
# Tokens of a style sheet

The smallest parts that a style sheet is made of, and the classes of characters that tell them
apart. A token holds what it means, not how it is spelled: the escapes of a name are resolved, and
the quotes of a string are gone. Only a number keeps its numeral, since that is what is written
back.
-/

namespace Swatch.Css

/-! ## Characters -/

/-- A space between tokens. Other line ends have become line feeds before this is asked. -/
def isSpace (c : Char) : Bool :=
  c == ' ' || c == '\n' || c == '\t'

/-- A character that a name may start with. -/
def isNameStart (c : Char) : Bool :=
  Text.isAsciiLetter c || c == '_' || 0x80 ≤ c.toNat

/-- A character that a name may go on with. -/
def isNameChar (c : Char) : Bool :=
  isNameStart c || Text.isAsciiDigit c || c == '-'

/-- The character that stands for one that cannot be written. -/
def replacement : Char := '\uFFFD'

/-! ## Tokens -/

/-- A pair of brackets. -/
inductive Bracket where
  | round
  | square
  | curly
  deriving DecidableEq, Repr

namespace Bracket

/-- The character that opens a pair. -/
def opening : Bracket → Char
  | round => '('
  | square => '['
  | curly => '\x7b'

/-- The character that closes a pair. -/
def closing : Bracket → Char
  | round => ')'
  | square => ']'
  | curly => '\x7d'

/-- All pairs. -/
def all : List Bracket := [round, square, curly]

/-- The pair that a character opens. -/
def ofOpening? (c : Char) : Option Bracket :=
  all.find? (·.opening == c)

/-- The pair that a character closes. -/
def ofClosing? (c : Char) : Option Bracket :=
  all.find? (·.closing == c)

end Bracket

/-- What opens a group: a bracket, or a name with a round bracket right after it. -/
inductive Opener where
  | bracket (bracket : Bracket)
  | function (name : String)
  deriving DecidableEq, Repr

/-- The brackets around a group. -/
def Opener.brackets : Opener → Bracket
  | bracket brackets => brackets
  | function _ => .round

/-- A part of a style sheet that has no parts of its own. -/
inductive Token where
  /-- A run of spaces. -/
  | whitespace (spaces : String)
  /-- A name. -/
  | ident (name : String)
  /-- A name after an at sign. -/
  | atKeyword (name : String)
  /-- A name after a number sign; it may start with a digit, and is then no name elsewhere. -/
  | hash (name : String) (isIdent : Bool)
  /-- A quoted text, without its quotes. The text may end before the closing quote. -/
  | string (value : String) (closed : Bool)
  /-- An address that is not quoted. The text may end before the closing bracket. -/
  | url (value : String) (closed : Bool)
  /-- A numeral. -/
  | number (numeral : String)
  /-- A numeral with a percent sign. -/
  | percentage (numeral : String)
  /-- A numeral with a unit. -/
  | dimension (numeral unit : String)
  /-- A range of code points. -/
  | unicodeRange (first last : Nat)
  /-- A character, or a few, without a meaning of its own. -/
  | delim (text : String)
  /-- A quoted text that a line end cuts off. -/
  | badString
  /-- An address with a character that has to be quoted. -/
  | badUrl
  /-- A closing bracket that closes nothing. -/
  | unmatched (bracket : Bracket)
  deriving DecidableEq, Repr

/-- A run of spaces. -/
def Token.isWhitespace : Token → Bool
  | whitespace _ => true
  | _ => false

end Swatch.Css
