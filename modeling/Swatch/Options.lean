import Swatch.Color.Format
import Swatch.Json.Basic

/-!
# Options

What a caller may ask of an extraction: two filters, whether repeats are kept, a format and an
order. Options are given as the members of an object, each under one of two spellings; of several
members for one option the last counts, and a member of another name is ignored with a warning.
The format and the order are kept as they were given, since any value is allowed there and only
some mean something.
-/

namespace Swatch

/-- What an extraction is asked for. -/
structure Options where
  /-- Leave out the greys, but neither black nor white. -/
  withoutGrey : Bool := false
  /-- Leave out black, white and the greys. -/
  withoutMonochrome : Bool := false
  /-- Keep repeats. -/
  allColors : Bool := false
  /-- The name of the format; without a known one colors stay as they are written. -/
  colorFormat : Json := .null
  /-- The name of the order; without a known one colors stay in theirs. -/
  sort : Json := .null
  deriving Repr, Inhabited

namespace Options

/-- An option. -/
inductive Field where
  | withoutGrey
  | withoutMonochrome
  | allColors
  | colorFormat
  | sort
  deriving DecidableEq, Repr

/-- The names of the options, in both spellings. -/
def fieldNames : List (String × Field) := [
  ("withoutGrey", .withoutGrey), ("withoutMonochrome", .withoutMonochrome),
  ("allColors", .allColors), ("colorFormat", .colorFormat), ("sort", .sort),
  ("without_grey", .withoutGrey), ("without_monochrome", .withoutMonochrome),
  ("all_colors", .allColors), ("color_format", .colorFormat)]

/-- The option of a name. -/
def field? (name : String) : Option Field :=
  fieldNames.lookup name

/-- The options with one of them set. The filters and the repeats ask only whether the value counts
as true. -/
def set (options : Options) (field : Field) (value : Json) : Options :=
  match field with
  | .withoutGrey => { options with withoutGrey := value.truthy }
  | .withoutMonochrome => { options with withoutMonochrome := value.truthy }
  | .allColors => { options with allColors := value.truthy }
  | .colorFormat => { options with colorFormat := value }
  | .sort => { options with sort := value }

/-- The options that members give, each in its turn. -/
def ofMembers (members : List (String × Json)) : Options :=
  members.foldl
    (fun options (name, value) =>
      match field? name with
      | some field => options.set field value
      | none => options)
    {}

/-- The names of members that are no options, in order. -/
def unknownNames (members : List (String × Json)) : List String :=
  (members.map (·.1)).filter fun name => (field? name).isNone

/-- The warning about a member that is no option. -/
def unknownNameWarning (name : String) : String :=
  "Ignoring unknown option " ++ Text.quoted name

/-- The message for a value that gives no options. -/
def kindMessage (kind : String) : String :=
  "options must be Options, a mapping or None, got " ++ kind

/-- The options that a value gives: an object its members, and null the defaults. Any other value
is refused, with its kind. -/
def ofJson : Json → Except String Options
  | .null => .ok {}
  | .object members => .ok (ofMembers members)
  | value => .error value.kindName

/-- The format that is asked for, if it is a known one. -/
def format? (options : Options) : Option ColorFormat :=
  options.colorFormat.string?.bind ColorFormat.ofName?

/-- An order of the colors found. -/
inductive Order where
  | asFound
  | byHue
  | byFrequency
  deriving DecidableEq, Repr

/-- The names of the orders, in the order in which they are listed. -/
def orderNames : List (String × Order) := [("hue", .byHue), ("frequency", .byFrequency)]

/-- The order that is asked for. -/
def order (options : Options) : Order :=
  (options.sort.string?.bind fun name => orderNames.lookup name).getD .asFound

end Options

end Swatch
