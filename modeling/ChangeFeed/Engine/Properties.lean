import ChangeFeed.SortedMap
import ChangeFeed.Text.Lowercase
import ChangeFeed.Text.Search

/-!
# Properties of the engine

The engine that reads the log is set up by properties, which are texts. Whoever shows them to people
shows them masked: the value of a property whose name tells that it is secret does not appear.
-/

namespace ChangeFeed

abbrev EngineProperties := SortedMap String

namespace EngineProperties

/-- What the name of a secret property contains, in any letter case. -/
def secretMarks : List String := ["password", "secret"]

/-- What stands for a secret value. -/
def mask : String := "******"

def isSecret (name : String) : Bool := secretMarks.any (Text.mentions (Text.lowercase name))

/-- The properties without the secret values. -/
def masked (p : EngineProperties) : EngineProperties :=
  p.mapValues fun name value => if isSecret name then mask else value

/-- The text of properties for people: one on a line, and masked. -/
def text (p : EngineProperties) : String :=
  "\x7b\n" ++ String.join (p.masked.entries.map fun e => "  " ++ e.1 ++ ": " ++ e.2 ++ "\n") ++
    "\x7d"

end EngineProperties

end ChangeFeed
