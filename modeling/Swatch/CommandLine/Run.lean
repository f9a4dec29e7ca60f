import Swatch.CommandLine.Command
import Swatch.Journal.Extraction
import Swatch.Settings.Store

/-!
# Running a command

What a command line brings about: the colors of its input, one on each line, or a message. Options
come from a file and from switches, where a switch counts more. The file is the one that a switch
names, or else the one that the environment names; an empty name is none.
-/

namespace Swatch.CommandLine

/-- What a command runs in. -/
structure Surroundings where
  world : Settings.World
  /-- The variables of the environment. -/
  environment : List (String × String) := []
  /-- What is read when the input is a hyphen. -/
  standardInput : String := ""
  /-- The time that notes are written with. -/
  time : String

/-- What a command brings about. -/
structure Outcome where
  status : Nat
  output : String := ""
  errors : String := ""
  deriving DecidableEq, Repr

/-- The name of the program. -/
def programName : String := "css-color-extractor"

/-- The variable that names the options file. -/
def configVariable : String := "CSS_COLOR_EXTRACTOR_CONFIG"

/-- The variable that turns topics on. -/
def topicsVariable : String := "CSS_COLOR_DEBUG_TOPICS"

/-- The input that stands for the standard input. -/
def standardInputName : String := "-"

/-- What the program says about its arguments. -/
def helpText : String :=
  "usage: " ++ programName ++ " [switches] input\n\n" ++
    "Extract the colors used in a CSS file, one per line.\n\n" ++
    "".intercalate (Switch.all.map fun switch =>
      "  " ++ switch.shown ++ (if switch.takesValue then " VALUE" else "") ++ "\n")

namespace Invocation

/-- To whom the events of an extraction are reported. -/
def audience (invocation : Invocation) (surroundings : Surroundings) : Journal.Audience :=
  let topics := (surroundings.environment.lookup topicsVariable).getD
    (if invocation.debug then Journal.allTopics else "")
  ⟨invocation.debug, .ofText topics⟩

/-- The options file, if there is one. -/
def configFile? (invocation : Invocation) (surroundings : Surroundings) : Option String :=
  if invocation.config != "" then some invocation.config
  else
    match surroundings.environment.lookup configVariable with
    | none | some "" => none
    | some setting => some (surroundings.world.place.locateSetting setting).shown

/-- The options with those that switches give. -/
def override (invocation : Invocation) (options : Options) : Options :=
  { withoutGrey := invocation.withoutGrey || options.withoutGrey
    withoutMonochrome := invocation.withoutMonochrome || options.withoutMonochrome
    allColors := invocation.allColors || options.allColors
    colorFormat := invocation.colorFormat.getD options.colorFormat
    sort := invocation.sort.getD options.sort }

/-- The options of an options file, with the events of reading it. -/
def fileOptions (surroundings : Surroundings) (file : String) :
    Except Settings.LoadError (Options × List Journal.Event) := do
  let (loaded, store) ← ({} : Settings.Store).load surroundings.world { file }
  let members := store.document loaded.handle
  let read := if loaded.fresh then .stored loaded.path.name else .recalled loaded.path.name
  return (.ofMembers members,
    read :: (Options.unknownNames members).map .unknownOption)

/-- The options of an invocation, with the events of finding them. -/
def options (invocation : Invocation) (surroundings : Surroundings) :
    Except Settings.LoadError (Options × List Journal.Event) := do
  match invocation.configFile? surroundings with
  | none => return (invocation.override {}, [])
  | some file =>
    let (options, events) ← fileOptions surroundings file
    return (invocation.override options, events)

/-- The style sheet that an input names, or the message if it cannot be read. -/
def readInput (surroundings : Surroundings) (input : String) : Except String String :=
  if input = standardInputName then .ok surroundings.standardInput
  else
    match surroundings.world.disk.content surroundings.world.place.here input with
    | .error fault => .error (fault.message input)
    | .ok bytes =>
      match (Text.Encoding.utf8 false).decode bytes with
      | .error fault => .error fault.message
      | .ok text => .ok (String.ofList text)

/-- The colors of an invocation, or the message if there are none; and the events on the way. -/
def colors (invocation : Invocation) (surroundings : Surroundings) :
    Except String (List String) × List Journal.Event :=
  match invocation.options surroundings with
  | .error error => (.error error.message, [])
  | .ok (options, events) =>
    match readInput surroundings invocation.input with
    | .error message => (.error message, events)
    | .ok text =>
      ((Extraction.ofStylesheet options text).mapError (·.message),
        events ++ Journal.ofStylesheet options text)

/-- What an invocation brings about. -/
def outcome (invocation : Invocation) (surroundings : Surroundings) : Outcome :=
  let (colors, events) := invocation.colors surroundings
  let report := Journal.report (invocation.audience surroundings) surroundings.time events
  match colors with
  | .ok colors => ⟨0, "".intercalate (colors.map (· ++ "\n")), report⟩
  | .error message => ⟨1, "", report ++ "❌ Error: " ++ message ++ "\n"⟩

end Invocation

/-- What a command line brings about. -/
def run (surroundings : Surroundings) (arguments : List String) : Outcome :=
  match Command.read arguments with
  | .error error => ⟨2, "", programName ++ ": error: " ++ error.message ++ "\n"⟩
  | .ok .help => ⟨0, helpText, ""⟩
  | .ok (.extract invocation) => invocation.outcome surroundings

end Swatch.CommandLine
