import Swatch.Options
import Swatch.Text.Digit

/-!
# Switches and arguments

The arguments of a command line. A switch has one or two spellings; a long one may be cut short as
long as only one switch starts like that, and after an equals sign its value may follow. Switches of
one letter may share an argument, where the last of them may be followed by its value. After two
hyphens alone every argument is taken as it is.
-/

namespace Swatch.CommandLine

/-- A switch. -/
inductive Switch where
  | help
  | withoutGrey
  | withoutMonochrome
  | allColors
  | format
  | sort
  | config
  | debug
  deriving DecidableEq, Repr

namespace Switch

/-- The spellings of the switches, in the order in which they are listed. -/
def spellings : List (String × Switch) := [
  ("-h", help), ("--help", help),
  ("-g", withoutGrey), ("--without-grey", withoutGrey),
  ("-m", withoutMonochrome), ("--without-monochrome", withoutMonochrome),
  ("-a", allColors), ("--all-colors", allColors),
  ("-f", format), ("--format", format),
  ("-s", sort), ("--sort", sort),
  ("--config", config), ("--debug", debug)]

/-- All switches, in the order in which they are listed. -/
def all : List Switch :=
  [help, withoutGrey, withoutMonochrome, allColors, format, sort, config, debug]

/-- The switch of a spelling. -/
def ofSpelling? (spelling : String) : Option Switch :=
  spellings.lookup spelling

/-- A switch with all its spellings, as messages name it. -/
def shown (switch : Switch) : String :=
  "/".intercalate ((spellings.filter (·.2 == switch)).map (·.1))

/-- A switch that has a value. -/
def takesValue : Switch → Bool
  | format | sort | config => true
  | _ => false

/-- The values that a switch admits, if it does not admit all. -/
def choices? : Switch → Option (List String)
  | format => some (ColorFormat.nameTable.map (·.1))
  | sort => some (Options.orderNames.map (·.1))
  | _ => none

end Switch

/-- What is wrong with the arguments. -/
inductive ArgumentError where
  /-- A long spelling is cut too short. -/
  | ambiguous (argument : String) (spellings : List String)
  | valueMissing (switch : Switch)
  | valueUnwanted (switch : Switch) (value : String)
  | valueUnknown (switch : Switch) (value : String) (choices : List String)
  | inputMissing
  | unrecognized (arguments : List String)
  deriving DecidableEq, Repr

/-- What a message says about wrong arguments. -/
def ArgumentError.message : ArgumentError → String
  | .ambiguous argument spellings =>
    "ambiguous option: " ++ argument ++ " could match " ++ ", ".intercalate spellings
  | .valueMissing switch => "argument " ++ switch.shown ++ ": expected one argument"
  | .valueUnwanted switch value =>
    "argument " ++ switch.shown ++ ": ignored explicit argument " ++ Text.quoted value
  | .valueUnknown switch value choices =>
    "argument " ++ switch.shown ++ ": invalid choice: " ++ Text.quoted value ++ " (choose from " ++
      ", ".intercalate (choices.map Text.quoted) ++ ")"
  | .inputMissing => "the following arguments are required: input"
  | .unrecognized arguments => "unrecognized arguments: " ++ " ".intercalate arguments

/-! ## Kinds of arguments -/

/-- An argument by its kind. -/
inductive Argument where
  | plain (text : String)
  /-- Two hyphens alone. -/
  | divider
  /-- A switch, whether it is spelled with one hyphen, and the text after it. -/
  | switches (first : Switch) (short : Bool) (rest : Option (List Char))
  /-- It looks like a switch, but is none. -/
  | unknown (text : String)
  deriving DecidableEq, Repr

/-- A number with a minus sign before it, perhaps with a line end behind. -/
def isNegativeNumber (argument : List Char) : Bool :=
  match argument with
  | '-' :: rest =>
    let number := if rest.getLast? = some '\n' then rest.dropLast else rest
    let digits := number.dropWhile Text.isDecimalDigit
    (digits.isEmpty && !number.isEmpty) ||
      match digits with
      | '.' :: places => !places.isEmpty && places.all Text.isDecimalDigit
      | _ => false
  | _ => false

/-- The parts of a text before and after its first equals sign. -/
def splitAtEquals (text : List Char) : List Char × Option (List Char) :=
  (text.takeWhile (· != '='),
    match text.dropWhile (· != '=') with
    | [] => none
    | _ :: value => some value)

namespace Argument

/-- A spelling with one hyphen. -/
def isShort (spelling : List Char) : Bool :=
  spelling.tail.head? != some '-'

/-- The switches that an argument may spell although it is no spelling itself: one whose letter the
argument starts with, or those whose long spelling it cuts short. -/
def abbreviated (text : List Char) : List (String × Argument) :=
  if isShort text then
    (Switch.spellings.filter fun (spelling, _) => spelling.toList = text.take 2).map
      fun (spelling, switch) => (spelling, .switches switch true (some (text.drop 2)))
  else
    let (start, value) := splitAtEquals text
    (Switch.spellings.filter fun (spelling, _) => start.isPrefixOf spelling.toList).map
      fun (spelling, switch) => (spelling, .switches switch (isShort spelling.toList) value)

/-- The kind of an argument before any divider. -/
def ofText (text : String) : Except ArgumentError Argument :=
  let cs := text.toList
  if cs.head? != some '-' then .ok (.plain text)
  else
    match Switch.ofSpelling? text, splitAtEquals cs with
    | some switch, _ => .ok (.switches switch (isShort cs) none)
    | none, (start, value) =>
      if cs.length = 1 then .ok (.plain text)
      else
        match Switch.ofSpelling? (String.ofList start), value, abbreviated cs with
        | some switch, some value, _ => .ok (.switches switch (isShort cs) (some value))
        | _, _, [(_, argument)] => .ok argument
        | _, _, [] =>
          .ok (if isNegativeNumber cs || cs.contains ' ' then .plain text else .unknown text)
        | _, _, several => .error (.ambiguous text (several.map (·.1)))

/-- The kinds of arguments. -/
def ofTexts : List String → Except ArgumentError (List Argument)
  | [] => .ok []
  | text :: texts =>
    if text = "--" then .ok (divider :: texts.map plain)
    else do
      let argument ← ofText text
      return argument :: (← ofTexts texts)

end Argument

end Swatch.CommandLine
