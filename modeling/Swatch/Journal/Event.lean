import Swatch.Candidate
import Swatch.Css.Finding
import Swatch.Journal.Topics

/-!
# Events

What may be reported while colors are extracted, and the line that reports it. An event is either a
note on a topic, or it has a source and a level: such an event is reported in full only to a reader
who wants details, and otherwise just its message if it is a warning.
-/

namespace Swatch.Journal

/-- Something that may be reported. -/
inductive Event where
  /-- The settings of a file were taken from the store. -/
  | recalled (file : String)
  /-- The settings of a file were read and put into the store. -/
  | stored (file : String)
  /-- A setting is no option. -/
  | unknownOption (name : String)
  /-- A run in a block is skipped. -/
  | skipped (position : Text.Position) (ending : Css.RunEnd)
  /-- A style sheet was read. -/
  | declared (declarations : Nat)
  /-- The variables were collected. -/
  | defined (selectors : Nat)
  /-- A reference is to no variable that has a value. -/
  | unresolved (reference : String)
  /-- The names of the colors were looked at for the first time. -/
  | namesLoaded
  /-- A color is taken out by a filter. -/
  | dropped (candidate : String) (verdict : Verdict)
  /-- The literals of a property value. -/
  | literals (value : String) (kept : List String)
  /-- The literals of all declarations. -/
  | collected (literals : Nat)
  /-- The declarations and literals of a style sheet. -/
  | extracted (declarations literals : Nat)
  /-- The colors that are given out. -/
  | arranged (colors : Nat) (order : Json)

/-- How a line that reports an event is addressed. -/
inductive Address where
  | topic (topic : String)
  | source (level source : String)
  deriving DecidableEq, Repr

/-- Who is told what. -/
structure Audience where
  /-- Every event that has a source is reported with it. -/
  detailed : Bool
  topics : Topics

namespace Event

/-- The topic of notes about property values. -/
def valueTopic : String := "tokenize"

/-- The level of a warning. -/
def warningLevel : String := "WARNING"

/-- Where every source starts. -/
def sourceRoot : String := "css_color_extractor.extraction."

/-- What a message says about the end of a run. -/
def endingMessage : Css.RunEnd → String
  | .semicolon => blockMissingMessage "Stop token"
  | .text => blockMissingMessage "EOF"

/-- What a message says about a color that is taken out. -/
def dropMessage (candidate : String) : Verdict → String
  | .monochrome => "drop monochrome " ++ Text.quoted candidate
  | .grey => "drop grey " ++ Text.quoted candidate
  | _ => "drop " ++ Text.quoted candidate ++ ": no exact keyword"

/-- What is reported. -/
def message : Event → String
  | recalled file => "Config cache HIT: " ++ file
  | stored file => "Config cache MISS → STORED: " ++ file
  | unknownOption name => Options.unknownNameWarning name
  | skipped position ending =>
    "Skipping invalid declaration at " ++ position.shown ++ " (" ++ endingMessage ending ++ ")"
  | declared count => "Parsed " ++ toString count ++ " declaration(s)"
  | defined count => "Collected variables for " ++ toString count ++ " selector(s)"
  | unresolved reference => "Unresolved variable reference " ++ reference
  | namesLoaded => "Loaded " ++ toString ColorName.names.length ++ " CSS3 color keywords"
  | dropped candidate verdict => dropMessage candidate verdict
  | literals value kept => Text.quoted value ++ " -> " ++ Text.quotedList kept
  | collected count => "Walker collected " ++ toString count ++ " token(s)"
  | extracted read found =>
    "Stylesheet: " ++ toString read ++ " declaration(s), " ++ toString found ++ " token(s)"
  | arranged count order =>
    "Aggregated " ++ toString count ++ " color(s) (sort=" ++ order.shown ++ ")"

/-- To whom an event is reported. -/
def address : Event → Address
  | recalled _ | stored _ => details "general.utils.load_config"
  | unknownOption _ => .source warningLevel (sourceRoot ++ "types")
  | skipped _ _ | declared _ => details "css.parser"
  | defined _ | unresolved _ => details "css.variables"
  | namesLoaded => details "color.vocab"
  | dropped _ _ | literals _ _ => .topic valueTopic
  | collected _ => details "css.walker"
  | extracted _ _ => details "orchestrator"
  | arranged _ _ => details "color.logic.aggregate"
where
  /-- A source whose events are details. -/
  details (source : String) : Address := .source defaultLevel (sourceRoot ++ source)

/-- The text that reports an event to an audience at a time. -/
def report (audience : Audience) (time : String) (event : Event) : String :=
  match event.address with
  | .topic topic => audience.topics.note time topic defaultLevel event.message
  | .source level source =>
    if audience.detailed then level ++ " " ++ source ++ ": " ++ event.message ++ "\n"
    else if level = warningLevel then event.message ++ "\n"
    else ""

end Event

/-- The text that reports events to an audience. -/
def report (audience : Audience) (time : String) (events : List Event) : String :=
  "".intercalate (events.map (·.report audience time))

end Swatch.Journal
