import Swatch.Css.Component

/-!
# Components as text

Components are written so that they read as they are. What a name, a string or an address cannot
hold is escaped, and an empty comment keeps two components apart that would be read as something
else when they stand together. A string or an address that the end of the text closes is written
without its end, as it was read.
-/

namespace Swatch.Css

/-! ## Tokens -/

/-- The escapes of the characters that end a line. -/
def lineEscape? : Char → Option (List Char)
  | '\n' => some "\\A ".toList
  | '\r' => some "\\D ".toList
  | '\x0c' => some "\\C ".toList
  | _ => none

/-- A character with a backslash before it, or by its code where it ends a line. -/
def writeEscaped (c : Char) : List Char :=
  (lineEscape? c).getD ['\\', c]

/-- A character of a name after its start. -/
def writeNameChar (c : Char) : List Char :=
  if isNameChar c then [c] else writeEscaped c

/-- A name whose start is written already. -/
def writeName (name : List Char) : List Char :=
  name.flatMap writeNameChar

/-- The first character of a name. A digit is written by its code. -/
def writeNameStart (c : Char) : List Char :=
  if isNameStart c then [c]
  else if Text.isAsciiDigit c then '\\' :: '3' :: c :: [' ']
  else writeEscaped c

/-- A name that is to be read as a name wherever it stands. -/
def writeIdent : List Char → List Char
  | [] => []
  | ['-'] => ['\\', '-']
  | '-' :: '-' :: name => '-' :: '-' :: writeName name
  | '-' :: c :: name => '-' :: (writeNameStart c ++ writeName name)
  | c :: name => writeNameStart c ++ writeName name

/-- A character of a string between double quotes. -/
def writeStringChar (c : Char) : List Char :=
  if c == '"' || c == '\\' then ['\\', c] else (lineEscape? c).getD [c]

/-- A character of an address without quotes. -/
def writeUrlChar (c : Char) : List Char :=
  if c == '\t' then "\\9 ".toList
  else if "'\"\\ ()".toList.contains c then ['\\', c]
  else (lineEscape? c).getD [c]

/-- The unit of a number. One that would read as an exponent has its first letter written by its
code. -/
def writeUnit (unit : List Char) : List Char :=
  match unit with
  | 'e' :: rest | 'E' :: rest =>
    if rest.isEmpty || rest.head? == some '-' then "\\65 ".toList ++ writeName rest
    else writeIdent unit
  | _ => writeIdent unit

/-- A number in the sixteen-based notation, without leading zeros. -/
def writeHex (n : Nat) : List Char :=
  (Nat.toDigits 16 n).map Text.asciiUpper

namespace Token

/-- A token as text. -/
def write : Token → List Char
  | whitespace spaces => spaces.toList
  | ident name => writeIdent name.toList
  | atKeyword name => '@' :: writeIdent name.toList
  | hash name isIdent =>
    '#' :: if isIdent then writeIdent name.toList else writeName name.toList
  | string value closed =>
    '"' :: (value.toList.flatMap writeStringChar ++ if closed then ['"'] else [])
  | url value closed =>
    "url(".toList ++ value.toList.flatMap writeUrlChar ++ if closed then [')'] else []
  | number numeral => numeral.toList
  | percentage numeral => numeral.toList ++ ['%']
  | dimension numeral unit => numeral.toList ++ writeUnit unit.toList
  | unicodeRange first last =>
    "U+".toList ++ writeHex first ++ if first = last then [] else '-' :: writeHex last
  | delim text => text.toList
  | badString => "\"[bad string]\n".toList
  | badUrl => "url([bad url])".toList
  | unmatched bracket => [bracket.closing]

/-- A string that the end of the text closes. -/
def isUnclosedString : Token → Bool
  | string _ closed => !closed
  | _ => false

end Token

/-! ## What must not stand together -/

/-- What matters of a component for the one beside it. -/
inductive Kind where
  | ident
  | function
  | url
  | number
  | percentage
  | dimension
  | unicodeRange
  | atKeyword
  | hash
  | round
  | delim (text : String)
  | other
  deriving DecidableEq, Repr

namespace Kind

/-- The kind of a token. -/
def ofToken : Token → Kind
  | .ident _ => ident
  | .url _ _ => url
  | .number _ => number
  | .percentage _ => percentage
  | .dimension _ _ => dimension
  | .unicodeRange _ _ => unicodeRange
  | .atKeyword _ => atKeyword
  | .hash _ _ => hash
  | .delim text => delim text
  | _ => other

/-- The kinds that start with a name. -/
def names : List Kind := [ident, function, url]

/-- The kinds that start with a numeral. -/
def numerals : List Kind := [number, percentage, dimension]

/-- The kinds that must not follow a kind without something between. -/
def clashing : Kind → List Kind
  | ident =>
    names ++ numerals ++ [unicodeRange, delim "-", delim "-->", round]
  | atKeyword | hash | dimension =>
    names ++ numerals ++ [unicodeRange, delim "-", delim "-->"]
  | number | delim "#" | delim "-" => names ++ numerals ++ [unicodeRange]
  | delim "@" => names ++ [unicodeRange, delim "-"]
  | unicodeRange => ident :: function :: delim "?" :: numerals
  | delim "." | delim "+" => numerals
  | delim "|" => [delim "=", delim "|"]
  | delim "$" | delim "*" | delim "^" | delim "~" => [delim "="]
  | delim "/" => [delim "*"]
  | _ => []

end Kind

/-! ## Components -/

namespace Component

variable {α : Type}

/-- The kind of a component. -/
def kind : Component α → Kind
  | leaf _ token => .ofToken token
  | group _ (.function _) _ => .function
  | group _ (.bracket .round) _ => .round
  | group .. => .other

/-- A run of spaces that starts with a line end. -/
def startsLine (component : Component α) : Bool :=
  match component.token? with
  | some (.whitespace spaces) => spaces.toList.head? == some '\n'
  | _ => false

/-- What is written between a component and the one before it. -/
def gap (before : Option Kind) (component : Component α) : List Char :=
  match before with
  | none => []
  | some before =>
    if component.kind ∈ before.clashing then "/**/".toList
    else if before = .delim "\\" ∧ ¬component.startsLine then ['\n']
    else []

mutual

/-- A string that the end of the text closes stands at the end of this component, with nothing but
functions around it. -/
def endsUnclosed : Component α → Bool
  | leaf _ token => token.isUnclosedString
  | group _ opener content =>
    match opener with
    | .function _ => lastEndsUnclosed content
    | .bracket _ => false

/-- The same of the last of the components. -/
def lastEndsUnclosed : List (Component α) → Bool
  | [] => false
  | component :: rest => if rest.isEmpty then endsUnclosed component else lastEndsUnclosed rest

end

/-- The start of a group as text. -/
def writeOpener : Opener → List Char
  | .bracket bracket => [bracket.opening]
  | .function name => writeIdent name.toList ++ ['(']

mutual

/-- A component as text. -/
def write : Component α → List Char
  | leaf _ token => token.write
  | group _ opener content =>
    writeOpener opener ++ writeFrom none content ++
      match opener with
      | .bracket bracket => [bracket.closing]
      | .function _ => if lastEndsUnclosed content then [] else [')']

/-- Components as text, after one of the given kind. -/
def writeFrom (before : Option Kind) : List (Component α) → List Char
  | [] => []
  | component :: rest =>
    gap before component ++ write component ++ writeFrom (some component.kind) rest

end

end Component

/-- Components as text. -/
def writeComponents {α : Type} (components : List (Component α)) : String :=
  String.ofList (Component.writeFrom none components)

/-- Components as text, without the blanks around them. -/
def writeTrimmed {α : Type} (components : List (Component α)) : String :=
  Text.trimmed (writeComponents components)

end Swatch.Css
