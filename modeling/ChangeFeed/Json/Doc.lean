import ChangeFeed.Json.Fault

/-!
# JSON: Documents

A text that has been read is a document: the tree of its values, in which every value carries the
places that a message about it needs. Where the text is malformed the tree ends in the fault, so
that a fault is reported when it is reached and not before. A place is a number of bytes from the
start of the text.
-/

namespace ChangeFeed.Json

/-! ## Symbols -/

/-- A character of a text, or a byte that belongs to none. -/
inductive Symbol where
  | char (c : Char)
  | stray (byte : UInt8)
  deriving DecidableEq, Repr

def Symbol.size : Symbol → Nat
  | .char c => c.utf8Size
  | .stray _ => 1

def symbolsOf (s : String) : List Symbol := s.toList.map .char

/-! ## Documents -/

/-- A violation of the grammar and its place. -/
structure Fault where
  kind : Malformed
  place : Nat
  deriving DecidableEq, Repr

/-- How an array or an object ends. -/
inductive Ending where
  /-- The closing bracket; the place behind it. -/
  | closed (behind : Nat)
  /-- A fault before the next part. The second fault is what a reader notices that passes over the
  value. -/
  | broken (fault ignored : Fault)
  deriving DecidableEq, Repr

/-- A value of a text. -/
inductive Doc where
  /-- A value without parts; the places before and behind it. -/
  | leaf (value : Json) (start behind : Nat)
  /-- A number or text that cannot be represented, but can be passed over; the place before it. -/
  | unfit (fault : Fault) (start : Nat)
  /-- The text is malformed here. -/
  | broken (fault ignored : Fault)
  /-- An array. `opening` is the place before its bracket and `first` the place reached on leaving
  it at once; every item carries the places before it and reached on leaving the array behind it. -/
  | array (tooDeep : Option Fault) (opening first : Nat) (items : List (Nat × Nat × Doc))
    (ending : Ending)
  /-- An object. Every member carries its key, the places reached on leaving the object behind the
  key and behind the value, and its value. -/
  | object (tooDeep : Option Fault) (opening first : Nat)
    (members : List (Except Fault String × Nat × Nat × Doc)) (ending : Ending)

mutual

def Doc.ofJson : Json → Doc
  | .array items => .array none 0 0 (Doc.ofItems items) (.closed 0)
  | .object members => .object none 0 0 (Doc.ofMembers members) (.closed 0)
  | .null => .leaf .null 0 0
  | .bool b => .leaf (.bool b) 0 0
  | .int n => .leaf (.int n) 0 0
  | .float x => .leaf (.float x) 0 0
  | .string s => .leaf (.string s) 0 0

def Doc.ofItems : List Json → List (Nat × Nat × Doc)
  | [] => []
  | v :: vs => (0, 0, Doc.ofJson v) :: Doc.ofItems vs

def Doc.ofMembers : List (String × Json) → List (Except Fault String × Nat × Nat × Doc)
  | [] => []
  | m :: ms => (.ok m.1, 0, 0, Doc.ofJson m.2) :: Doc.ofMembers ms

end

/-! ## Places in lines -/

/-- The line and column of the place `offset` bytes after the start of a text. -/
def lineColumn : List Symbol → (offset : Nat) → LineColumn → LineColumn
  | _, 0, p => p
  | [], _, p => p
  | s :: rest, offset + 1, p =>
    if s = .char '\n' then lineColumn rest offset ⟨p.line + 1, 0⟩
    else if s.size ≤ offset + 1 then
      lineColumn rest (offset + 1 - s.size) ⟨p.line, p.column + s.size⟩
    else ⟨p.line, p.column + offset + 1⟩

def placeIn (text : List Symbol) (offset : Nat) : LineColumn := lineColumn text offset ⟨1, 0⟩

end ChangeFeed.Json
