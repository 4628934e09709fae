import ChangeFeed.Json

/-!
# JSON: Printing

The compact text of a value, the text with one member or item on a line, and a text for diagnosis.
-/

namespace ChangeFeed.Json

/-! ## Scalars -/

/-- A floating-point number is written without exponent from `0.00001` up to 16 digits. -/
def floatLayout : Binary64.Layout := ⟨-4, 16, true⟩

/-- The text of a number in a message is written without exponent from `0.0001` up to 16 digits. -/
def diagnosisLayout : Binary64.Layout := ⟨-3, 16, false⟩

/-- The text of a floating-point number; one that is not finite has none. -/
def floatText (x : Binary64) : String := if x.isFinite then x.text floatLayout else "null"

/-- Two hexadecimal digits of a number below 256. -/
def hexByte (n : Nat) : List Char := [Nat.digitChar (n / 16), Nat.digitChar (n % 16)]

def escapeChar (c : Char) : List Char :=
  if c = '"' then ['\\', '"']
  else if c = '\\' then ['\\', '\\']
  else if c = '\n' then ['\\', 'n']
  else if c = '\r' then ['\\', 'r']
  else if c = '\t' then ['\\', 't']
  else if c.toNat = 8 then ['\\', 'b']
  else if c.toNat = 12 then ['\\', 'f']
  else if c.toNat < 32 then ['\\', 'u', '0', '0'] ++ hexByte c.toNat
  else [c]

def quote (s : String) : String := String.ofList ('"' :: s.toList.flatMap escapeChar ++ ['"'])

/-! ## Compact text -/

mutual

def render : Json → String
  | .null => "null"
  | .bool b => if b then "true" else "false"
  | .int n => toString n
  | .float x => floatText x
  | .string s => quote s
  | .array items => "[" ++ renderItems items ++ "]"
  | .object members => "\x7b" ++ renderMembers members ++ "\x7d"

/-- The compact texts of items, separated by commas. -/
def renderItems : List Json → String
  | [] => ""
  | [v] => v.render
  | v :: vs => v.render ++ "," ++ renderItems vs

/-- The compact texts of members, separated by commas. -/
def renderMembers : List (String × Json) → String
  | [] => ""
  | [m] => quote m.1 ++ ":" ++ m.2.render
  | m :: ms => quote m.1 ++ ":" ++ m.2.render ++ "," ++ renderMembers ms

end

/-! ## Text on several lines -/

def newLine (depth : Nat) : String := "\n" ++ String.ofList (List.replicate (2 * depth) ' ')

mutual

/-- The text of a value with one item or member on a line. -/
def renderLines (depth : Nat) : Json → String
  | .array [] => "[]"
  | .array items => "[" ++ itemLines (depth + 1) items ++ newLine depth ++ "]"
  | .object [] => "\x7b\x7d"
  | .object members => "\x7b" ++ memberLines (depth + 1) members ++ newLine depth ++ "\x7d"
  | .null => "null"
  | .bool b => if b then "true" else "false"
  | .int n => toString n
  | .float x => floatText x
  | .string s => quote s

def itemLines (depth : Nat) : List Json → String
  | [] => ""
  | [v] => newLine depth ++ v.renderLines depth
  | v :: vs => newLine depth ++ v.renderLines depth ++ "," ++ itemLines depth vs

def memberLines (depth : Nat) : List (String × Json) → String
  | [] => ""
  | [m] => newLine depth ++ quote m.1 ++ ": " ++ m.2.renderLines depth
  | m :: ms =>
    newLine depth ++ quote m.1 ++ ": " ++ m.2.renderLines depth ++ "," ++ memberLines depth ms

end

def pretty (v : Json) : String := v.renderLines 0

/-! ## Diagnosis -/

mutual

def describe : Json → String
  | .null => "Null"
  | .bool b => "Bool(" ++ (if b then "true" else "false") ++ ")"
  | .int n => "Number(" ++ toString n ++ ")"
  | .float x => "Number(" ++ floatText x ++ ")"
  | .string s => "String(" ++ Text.quoted s ++ ")"
  | .array items => "Array [" ++ describeItems items ++ "]"
  | .object members => "Object \x7b" ++ describeMembers members ++ "\x7d"

/-- The texts of items in a message. -/
def describeItems : List Json → String
  | [] => ""
  | [v] => v.describe
  | v :: vs => v.describe ++ ", " ++ describeItems vs

/-- The texts of members in a message. -/
def describeMembers : List (String × Json) → String
  | [] => ""
  | [m] => Text.quoted m.1 ++ ": " ++ m.2.describe
  | m :: ms => Text.quoted m.1 ++ ": " ++ m.2.describe ++ ", " ++ describeMembers ms

end

end ChangeFeed.Json
