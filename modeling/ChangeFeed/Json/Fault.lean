import ChangeFeed.Json.Print

/-!
# JSON: Faults

What can be wrong with a text or a value, and the wording of each fault. A fault in a text is
reported with its line and column.
-/

namespace ChangeFeed.Json

/-! ## Malformed texts -/

/-- A violation of the JSON grammar, or a limit of the reader. -/
inductive Malformed where
  | endInValue
  | endInString
  | endInList
  | endInObject
  | expectedColon
  | expectedListEnd
  | expectedObjectEnd
  | expectedWord
  | expectedValue
  | keyNotString
  | trailingComma
  | trailingCharacters
  | invalidNumber
  | numberOutOfRange
  | invalidEscape
  | escapeEndsEarly
  | loneSurrogate
  | controlCharacter
  | invalidCodePoint
  | nestedTooDeeply
  deriving DecidableEq, Repr

/-- The wording of a violation. -/
def Malformed.message : Malformed → String
  | .endInValue => "EOF while parsing a value"
  | .endInString => "EOF while parsing a string"
  | .endInList => "EOF while parsing a list"
  | .endInObject => "EOF while parsing an object"
  | .expectedColon => "expected \x60:\x60"
  | .expectedListEnd => "expected \x60,\x60 or \x60]\x60"
  | .expectedObjectEnd => "expected \x60,\x60 or \x60\x7d\x60"
  | .expectedWord => "expected ident"
  | .expectedValue => "expected value"
  | .keyNotString => "key must be a string"
  | .trailingComma => "trailing comma"
  | .trailingCharacters => "trailing characters"
  | .invalidNumber => "invalid number"
  | .numberOutOfRange => "number out of range"
  | .invalidEscape => "invalid escape"
  | .escapeEndsEarly => "unexpected end of hex escape"
  | .loneSurrogate => "lone leading surrogate in hex escape"
  | .controlCharacter => "control character (\\u0000-\\u001F) found while parsing a string"
  | .invalidCodePoint => "invalid unicode code point"
  | .nestedTooDeeply => "recursion limit exceeded"

/-! ## Unsuitable values -/

/-- What a value turned out to be. -/
inductive Found where
  | null
  | bool (value : Bool)
  | int (value : Int)
  | float (value : Binary64)
  | string (value : String)
  | sequence
  | map
  deriving DecidableEq, Repr

/-- What a value is, as far as messages tell. -/
def Found.ofJson : Json → Found
  | .null => .null
  | .bool b => .bool b
  | .int n => .int n
  | .float x => .float x
  | .string s => .string s
  | .array _ => .sequence
  | .object _ => .map

/-- A text between grave accents. -/
def accented (s : String) : String := "\x60" ++ s ++ "\x60"

def Found.message : Found → String
  | .null => "null"
  | .bool b => "boolean " ++ accented (if b then "true" else "false")
  | .int n => "integer " ++ accented (toString n)
  | .float x => "floating point " ++ accented (floatText x)
  | .string s => "string " ++ Text.quoted s
  | .sequence => "sequence"
  | .map => "map"

/-- Why a text or a value does not stand for what is wanted. -/
inductive Problem where
  | malformed (m : Malformed)
  | wrongType (found : Found) (expected : String)
  | wrongValue (found : Found) (expected : String)
  | wrongLength (length : Nat) (expected : String)
  | unknownVariant (name : String) (known : List String)
  | missingField (name : String)
  | duplicateField (name : String)
  /-- A condition of its own; `placed` when the text ends with the place of its cause. -/
  | other (text : String) (placed : Bool)
  deriving DecidableEq, Repr

/-- How a message lists the names that would have been known. -/
def knownNames : List String → String
  | [] => "there are no variants"
  | [a] => "expected " ++ accented a
  | [a, b] => "expected " ++ accented a ++ " or " ++ accented b
  | names => "expected one of " ++ ", ".intercalate (names.map accented)

def Problem.message : Problem → String
  | .malformed m => m.message
  | .wrongType found expected => "invalid type: " ++ found.message ++ ", expected " ++ expected
  | .wrongValue found expected => "invalid value: " ++ found.message ++ ", expected " ++ expected
  | .wrongLength length expected =>
    "invalid length " ++ toString length ++ ", expected " ++ expected
  | .unknownVariant name known => "unknown variant " ++ accented name ++ ", " ++ knownNames known
  | .missingField name => "missing field " ++ accented name
  | .duplicateField name => "duplicate field " ++ accented name
  | .other text _ => text

/-- The text of the problem tells its own place. -/
def Problem.isPlaced : Problem → Bool
  | .other _ placed => placed
  | _ => false

/-! ## Places -/

/-- A place in a text: the line, from one, and the number of bytes before it in the line. -/
structure LineColumn where
  line : Nat
  column : Nat
  deriving DecidableEq, Repr

/-- A problem, and where it was noticed. -/
structure Error where
  problem : Problem
  place : Option LineColumn
  deriving DecidableEq, Repr

/-- The wording of a problem with its place. -/
def Error.message (e : Error) : String :=
  match e.place with
  | some p =>
    if e.problem.isPlaced then e.problem.message
    else
      e.problem.message ++ " at line " ++ toString p.line ++ " column " ++ toString p.column
  | none => e.problem.message

end ChangeFeed.Json
