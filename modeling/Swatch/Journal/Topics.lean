import Swatch.Text.Blank
import Swatch.Text.Case

/-!
# Topics

Notes are written only for the topics that are turned on. Topics are compared without the blanks
around them and whatever the case of their letters; the topic `all` turns every topic on.
-/

namespace Swatch.Journal

/-- The topics that are turned on. -/
abbrev Topics := List String

/-- The topic that turns every topic on. -/
def allTopics : String := "all"

/-- A topic as it is compared. -/
def topicKey (topic : String) : String :=
  Text.trimmed (Text.lowered topic)

/-- The topics of a list with commas between them. -/
def Topics.ofText (text : String) : Topics :=
  (((text.toList.splitOnP (· == ',')).map fun topic => Text.trim topic).filter (!·.isEmpty)).map
    fun topic => Text.lowered (String.ofList topic)

/-- Notes on a topic are written. -/
def Topics.covers (topics : Topics) (topic : String) : Bool :=
  topics.contains allTopics || topics.contains (topicKey topic)

/-- The line of a note, with the time at which it is written. -/
def noteLine (time topic level message : String) : String :=
  "[" ++ time ++ "] [" ++ topicKey topic ++ "][" ++ Text.uppered level ++ "] " ++ message ++ "\n"

/-- What is written for a note: its line, or nothing if its topic is off. -/
def Topics.note (topics : Topics) (time topic level message : String) : String :=
  if topics.covers topic then noteLine time topic level message else ""

/-- The topic of a note that names none. -/
def defaultTopic : String := "extraction"

/-- The level of a note that names none. -/
def defaultLevel : String := "DEBUG"

end Swatch.Journal
