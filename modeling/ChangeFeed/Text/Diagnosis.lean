import ChangeFeed.SortedMap
import ChangeFeed.Text.Quoted

/-!
# Text: Composite values for diagnosis

How lists, maps, optional values and records are shown in messages.
-/

namespace ChangeFeed.Text

def listing (items : List String) : String := "[" ++ ", ".intercalate items ++ "]"

/-- A map, given by the texts of its values. -/
def mapping (m : SortedMap String) : String :=
  "\x7b" ++ ", ".intercalate (m.entries.map fun e => quoted e.1 ++ ": " ++ e.2) ++ "\x7d"

def labelled (name content : String) : String := name ++ "(" ++ content ++ ")"

/-- A value that may be missing, given by its text. -/
def optional : Option String → String
  | some text => labelled "Some" text
  | none => "None"

/-- A record, given by the texts of its fields in order. -/
def fields (name : String) (parts : List (String × String)) : String :=
  name ++ " \x7b " ++ ", ".intercalate (parts.map fun p => p.1 ++ ": " ++ p.2) ++ " \x7d"

def truth (b : Bool) : String := if b then "true" else "false"

end ChangeFeed.Text
