import ChangeFeed.Json.Doc
import ChangeFeed.Json.Number

/-!
# JSON: Reading texts

A text is read into a document in one pass. Faults of the grammar end the reading; numbers out of
range, broken surrogate pairs and values nested too deeply are noted and passed over, because it is
up to the reader of the document whether the value is looked at.
-/

namespace ChangeFeed.Json

/-- What is left of a text, and the place where it begins. -/
structure Cursor where
  place : Nat
  rest : List Symbol

namespace Cursor

/-- Behind the symbol ahead. -/
def skip (c : Cursor) : Cursor :=
  match c.rest with
  | [] => c
  | s :: rest => ⟨c.place + s.size, rest⟩

/-- Where a message about the symbol ahead points. -/
def ahead (c : Cursor) : Nat := if c.rest.isEmpty then c.place else c.place + 1

/-- A blank between the parts of a text. -/
def isBlank (s : Symbol) : Bool :=
  s = .char ' ' || s = .char '\n' || s = .char '\t' || s = .char '\r'

/-- Behind the blanks in front of `rest`. -/
def pastBlanks (place : Nat) : List Symbol → Cursor
  | [] => ⟨place, []⟩
  | s :: rest => if isBlank s then pastBlanks (place + s.size) rest else ⟨place, s :: rest⟩

def skipBlanks (c : Cursor) : Cursor := pastBlanks c.place c.rest

/-- The place reached on leaving an array here. -/
def leaveArray (c : Cursor) : Nat :=
  let c := c.skipBlanks
  match c.rest with
  | .char ']' :: _ => c.place + 1
  | .char ',' :: _ => c.skip.skipBlanks.place
  | _ => c.place

/-- The place reached on leaving an object here. -/
def leaveObject (c : Cursor) : Nat :=
  let c := c.skipBlanks
  match c.rest with
  | .char '\x7d' :: _ => c.place + 1
  | _ => c.place

end Cursor

/-! ## Words -/

/-- The rest of a fixed word. -/
def wordTail : List Char → Cursor → Except Fault Cursor
  | [], c => .ok c
  | w :: ws, c =>
    match c.rest with
    | [] => .error ⟨.endInValue, c.place⟩
    | s :: _ => if s = .char w then wordTail ws c.skip else .error ⟨.expectedWord, c.place + 1⟩

/-! ## Texts -/

/-- The value of a hexadecimal digit. -/
def hexValue? : Symbol → Option Nat
  | .char c =>
    if c.isDigit then some (c.toNat - '0'.toNat)
    else if 'a' ≤ c && c ≤ 'f' then some (c.toNat - 'a'.toNat + 10)
    else if 'A' ≤ c && c ≤ 'F' then some (c.toNat - 'A'.toNat + 10)
    else none
  | .stray _ => none

/-- The number that four hexadecimal digits stand for. -/
def hexNumber? (a b c d : Symbol) : Option Nat := do
  let a ← hexValue? a
  let b ← hexValue? b
  let c ← hexValue? c
  let d ← hexValue? d
  return ((a * 16 + b) * 16 + c) * 16 + d

/-- The fault of an escape that does not hold four hexadecimal digits. -/
def hexFault (place : Nat) (rest : List Symbol) : Fault :=
  let bytes := (rest.take 4).foldl (fun n s => n + s.size) 0
  if bytes < 4 then ⟨.endInString, place + bytes⟩ else ⟨.invalidEscape, place + 4⟩

/-- The four hexadecimal digits ahead. -/
def hexAhead (place : Nat) : List Symbol → Except Fault Nat
  | a :: b :: c :: d :: rest =>
    match hexNumber? a b c d with
    | some n => .ok n
    | none => .error (hexFault place (a :: b :: c :: d :: rest))
  | rest => .error (hexFault place rest)

/-- The character that a backslash and another character stand for. -/
def shortEscape? : Char → Option Char
  | '"' => some '"'
  | '\\' => some '\\'
  | '/' => some '/'
  | 'b' => some (Char.ofNat 8)
  | 'f' => some (Char.ofNat 12)
  | 'n' => some '\n'
  | 'r' => some '\r'
  | 't' => some '\t'
  | _ => none

/-- What a numeric escape stands for, given what follows it: a character alone, a character together
with the second escape, or a fault that a reader which looks at the text reports. -/
inductive Escaped where
  | single (c : Char)
  | pair (c : Char)
  | unfit (fault : Fault)

/-- The meaning of a numeric escape; `place` is the one behind it. -/
def escaped (n place : Nat) (rest : List Symbol) : Escaped :=
  -- The second half of a pair cannot come first.
  if 0xdc00 ≤ n && n ≤ 0xdfff then .unfit ⟨.loneSurrogate, place⟩
  else if n < 0xd800 || 0xdbff < n then .single (Char.ofNat n)
  else
    match rest with
    | .char '\\' :: .char 'u' :: more =>
      match hexAhead (place + 2) more with
      | .ok m =>
        if 0xdc00 ≤ m && m ≤ 0xdfff then
          -- Each half brings ten bits.
          .pair (Char.ofNat ((n - 0xd800) * 1024 + (m - 0xdc00) + 0x10000))
        else .unfit ⟨.loneSurrogate, place + 6⟩
      | .error fault => .unfit fault
    | [.char '\\'] => .unfit ⟨.endInString, place + 1⟩
    | .char '\\' :: _ => .unfit ⟨.escapeEndsEarly, place + 2⟩
    | [] => .unfit ⟨.endInString, place⟩
    | _ => .unfit ⟨.escapeEndsEarly, place + 1⟩

/-- A text that has been read. -/
structure TextRead where
  chars : List Char
  /-- The first fault that a reader which looks at the text reports. -/
  unfit : Option Fault
  /-- The text holds bytes that belong to no character. -/
  strays : Bool
  behind : Cursor

/-- A text whose end is missing, or that holds a fault no reader can pass over. -/
structure TextBroken where
  fault : Fault
  ignored : Fault

/-- Puts a character in front of what was read. -/
def withChar (c : Char) : Except TextBroken TextRead → Except TextBroken TextRead
  | .ok r => .ok { r with chars := c :: r.chars }
  | .error e => .error e

/-- Puts a fault in front of what was read. -/
def withFault (fault : Fault) : Except TextBroken TextRead → Except TextBroken TextRead
  | .ok r => .ok { r with unfit := some fault }
  | .error e => .error { e with fault := fault }

/-- Notes a byte that belongs to no character. -/
def withStray : Except TextBroken TextRead → Except TextBroken TextRead
  | .ok r => .ok { r with strays := true }
  | .error e => .error e

/-- The characters up to the closing quote. -/
def textBody (place : Nat) : List Symbol → Except TextBroken TextRead
  | [] => .error ⟨⟨.endInString, place⟩, ⟨.endInString, place⟩⟩
  | .char '"' :: rest => .ok ⟨[], none, false, ⟨place + 1, rest⟩⟩
  | [.char '\\'] => .error ⟨⟨.endInString, place + 1⟩, ⟨.endInString, place + 1⟩⟩
  | .char '\\' :: .char 'u' :: rest =>
    match rest with
    | a :: b :: c :: d :: more =>
      match hexNumber? a b c d with
      | some n =>
        match escaped n (place + 6) more with
        | .single ch => withChar ch (textBody (place + 6) more)
        | .pair ch =>
          match more with
          -- The second escape is six characters long.
          | _ :: _ :: _ :: _ :: _ :: _ :: more => withChar ch (textBody (place + 12) more)
          | _ => .error ⟨⟨.endInString, place⟩, ⟨.endInString, place⟩⟩
        | .unfit fault => withFault fault (textBody (place + 6) more)
      | none =>
        let fault := hexFault (place + 2) (a :: b :: c :: d :: more)
        .error ⟨fault, fault⟩
    | few =>
      let fault := hexFault (place + 2) few
      .error ⟨fault, fault⟩
  | .char '\\' :: s :: rest =>
    let fault : Fault := ⟨.invalidEscape, place + 2⟩
    match s with
    | .char c =>
      match shortEscape? c with
      | some ch => withChar ch (textBody (place + 2) rest)
      | none => .error ⟨fault, fault⟩
    | .stray _ => .error ⟨fault, fault⟩
  | .char c :: rest =>
    if c.toNat < 32 then
      .error ⟨⟨.controlCharacter, place + 1⟩, ⟨.controlCharacter, place + 1⟩⟩
    else withChar c (textBody (place + c.utf8Size) rest)
  | .stray _ :: rest => withStray (textBody (place + 1) rest)

/-- What was read as a text, if a reader may look at it. -/
def TextRead.text (r : TextRead) : Except Fault String :=
  match r.unfit with
  | some fault => .error fault
  | none =>
    if r.strays then .error ⟨.invalidCodePoint, r.behind.place⟩ else .ok (String.ofList r.chars)

/-! ## Numbers -/

def digit? : Symbol → Option Nat
  | .char c => if c.isDigit then some (c.toNat - '0'.toNat) else none
  | .stray _ => none

/-- The digits ahead and what follows them. -/
def digits (c : Cursor) : List Nat × Cursor :=
  let ds := (c.rest.takeWhile fun s => (digit? s).isSome).filterMap digit?
  (ds, ⟨c.place + ds.length, c.rest.drop ds.length⟩)

/-- The faults of a number that ends too early, or goes on with the wrong symbol. -/
def numberFault (c : Cursor) : Fault × Fault :=
  if c.rest.isEmpty then (⟨.endInValue, c.place⟩, ⟨.invalidNumber, c.place⟩)
  else (⟨.invalidNumber, c.place + 1⟩, ⟨.invalidNumber, c.place + 1⟩)

/-- The digits behind a point, if one is ahead. -/
def fractionPart (c : Cursor) : Except (Fault × Fault) (Option (List Nat) × Cursor) :=
  match c.rest with
  | .char '.' :: _ =>
    let (ds, after) := digits c.skip
    if ds.isEmpty then .error (numberFault after) else .ok (some ds, after)
  | _ => .ok (none, c)

/-- An exponent, if one is ahead, and the place of its first digit. -/
def exponentPart (c : Cursor) :
    Except (Fault × Fault) (Option (Bool × List Nat) × Nat × Cursor) :=
  let tail (c : Cursor) :=
    let (negative, c) :=
      match c.rest with
      | .char '+' :: _ => (false, c.skip)
      | .char '-' :: _ => (true, c.skip)
      | _ => (false, c)
    let (ds, after) := digits c
    if ds.isEmpty then .error (numberFault after)
    else .ok (some (negative, ds), c.place, after)
  match c.rest with
  | .char 'e' :: _ => tail c.skip
  | .char 'E' :: _ => tail c.skip
  | _ => .ok (none, c.place, c)

/-- A numeral behind its sign, with the place of the first digit of its exponent. -/
def numeral (negative : Bool) (c : Cursor) :
    Except (Fault × Fault) (Numeral × Nat × Cursor) := do
  let (whole, after) := digits c
  if whole.isEmpty then throw (numberFault after)
  if whole.head? = some 0 && 1 < whole.length then
    throw (⟨.invalidNumber, c.place + 2⟩, ⟨.invalidNumber, c.place + 2⟩)
  let (fraction, after) ← fractionPart after
  let (exponent, place, after) ← exponentPart after
  return (⟨negative, whole, fraction, exponent⟩, place, after)

/-- A number behind its sign; `start` is the place before it. -/
def number (negative : Bool) (start : Nat) (c : Cursor) : Doc × Option Cursor :=
  match numeral negative c with
  | .error (fault, ignored) => (.broken fault ignored, none)
  | .ok (n, place, after) =>
    match n.value? with
    | some v => (.leaf v start after.place, some after)
    | none =>
      match n.exponentOverflow? with
      | some count => (.unfit ⟨.numberOutOfRange, place + count⟩ start, some after)
      | none => (.unfit ⟨.numberOutOfRange, after.place⟩ start, some after)

/-! ## Values -/

/-- A word, given the letters behind the first, and its value. -/
def word (letters : List Char) (value : Json) (c : Cursor) : Doc × Option Cursor :=
  match wordTail letters c.skip with
  | .ok after => (.leaf value c.place after.place, some after)
  | .error fault => (.broken fault fault, none)

def textValue (c : Cursor) : Doc × Option Cursor :=
  match textBody (c.place + 1) (c.rest.drop 1) with
  | .error e => (.broken e.fault e.ignored, none)
  | .ok r =>
    match r.text with
    | .ok s => (.leaf (.string s) c.place r.behind.place, some r.behind)
    | .error fault => (.unfit fault c.place, some r.behind)

/-- The fault of a value inside too many others. -/
def depthFault (depth place : Nat) : Option Fault :=
  if depth ≤ 1 then some ⟨.nestedTooDeeply, place + 1⟩ else none

mutual

/-- The value ahead, and what follows it unless the text is broken inside. `depth` counts the levels
that may still be nested, and `fuel` bounds the number of steps. -/
def value (depth : Nat) : (fuel : Nat) → Cursor → Doc × Option Cursor
  | 0, c => (.broken ⟨.endInValue, c.place⟩ ⟨.endInValue, c.place⟩, none)
  | fuel + 1, c =>
    let c := c.skipBlanks
    match c.rest with
    | [] => (.broken ⟨.endInValue, c.place⟩ ⟨.endInValue, c.place⟩, none)
    | .char 'n' :: _ => word ['u', 'l', 'l'] .null c
    | .char 't' :: _ => word ['r', 'u', 'e'] (.bool true) c
    | .char 'f' :: _ => word ['a', 'l', 's', 'e'] (.bool false) c
    | .char '-' :: _ => number true c.place c.skip
    | .char '"' :: _ => textValue c
    | .char '[' :: _ =>
      let (parts, ending, after) := items (depth - 1) fuel true c.skip
      (.array (depthFault depth c.place) c.place c.skip.leaveArray parts ending, after)
    | .char '\x7b' :: _ =>
      let (parts, ending, after) := members (depth - 1) fuel true c.skip
      (.object (depthFault depth c.place) c.place c.skip.leaveObject parts ending, after)
    | s :: _ =>
      if (digit? s).isSome then number false c.place c
      else (.broken ⟨.expectedValue, c.ahead⟩ ⟨.expectedValue, c.ahead⟩, none)

/-- The items ahead, how the array ends, and what follows it. -/
def items (depth : Nat) : (fuel : Nat) → (first : Bool) → Cursor →
    List (Nat × Nat × Doc) × Ending × Option Cursor
  | 0, _, c => ([], .broken ⟨.endInList, c.place⟩ ⟨.endInList, c.place⟩, none)
  | fuel + 1, first, c =>
    let c := c.skipBlanks
    let item (c : Cursor) : List (Nat × Nat × Doc) × Ending × Option Cursor :=
      match value depth fuel c with
      -- The text is broken inside the item, so nothing is known of what follows.
      | (doc, none) => ([(c.place, c.place, doc)], .closed c.place, none)
      | (doc, some after) =>
        let (parts, ending, behind) := items depth fuel false after
        ((c.place, after.leaveArray, doc) :: parts, ending, behind)
    match c.rest with
    | [] => ([], .broken ⟨.endInList, c.place⟩ ⟨.endInList, c.place⟩, none)
    | .char ']' :: _ => ([], .closed (c.place + 1), some c.skip)
    -- A comma in front of the first item is left to the reader of values, which refuses it.
    | .char ',' :: _ =>
      if first then item c
      else
        let c := c.skip.skipBlanks
        match c.rest with
        | .char ']' :: _ => ([], .broken ⟨.trailingComma, c.ahead⟩ ⟨.expectedValue, c.ahead⟩, none)
        | [] => ([], .broken ⟨.endInValue, c.place⟩ ⟨.endInValue, c.place⟩, none)
        | _ => item c
    | _ =>
      if first then item c
      else ([], .broken ⟨.expectedListEnd, c.ahead⟩ ⟨.expectedListEnd, c.ahead⟩, none)

/-- The members ahead, how the object ends, and what follows it. -/
def members (depth : Nat) : (fuel : Nat) → (first : Bool) → Cursor →
    List (Except Fault String × Nat × Nat × Doc) × Ending × Option Cursor
  | 0, _, c => ([], .broken ⟨.endInObject, c.place⟩ ⟨.endInObject, c.place⟩, none)
  | fuel + 1, first, c =>
    let c := c.skipBlanks
    let member (c : Cursor) :
        List (Except Fault String × Nat × Nat × Doc) × Ending × Option Cursor :=
      match textBody (c.place + 1) (c.rest.drop 1) with
      | .error e => ([], .broken e.fault e.ignored, none)
      | .ok r =>
        let colon := r.behind.skipBlanks
        match colon.rest with
        | .char ':' :: _ =>
          match value depth fuel colon.skip with
          | (doc, none) =>
            ([(r.text, r.behind.leaveObject, c.place, doc)], .closed c.place, none)
          | (doc, some after) =>
            let (parts, ending, behind) := members depth fuel false after
            ((r.text, r.behind.leaveObject, after.leaveObject, doc) :: parts, ending, behind)
        -- The key stands without a value, which is where the text is broken.
        | [] =>
          let fault : Fault := ⟨.endInObject, colon.place⟩
          ([(r.text, r.behind.leaveObject, c.place, .broken fault fault)], .closed c.place, none)
        | _ =>
          let fault : Fault := ⟨.expectedColon, colon.ahead⟩
          ([(r.text, r.behind.leaveObject, c.place, .broken fault fault)], .closed c.place, none)
    match c.rest with
    | [] => ([], .broken ⟨.endInObject, c.place⟩ ⟨.endInObject, c.place⟩, none)
    | .char '\x7d' :: _ => ([], .closed (c.place + 1), some c.skip)
    | .char '"' :: _ =>
      if first then member c
      else ([], .broken ⟨.expectedObjectEnd, c.ahead⟩ ⟨.expectedObjectEnd, c.ahead⟩, none)
    | .char ',' :: _ =>
      if first then ([], .broken ⟨.keyNotString, c.ahead⟩ ⟨.keyNotString, c.ahead⟩, none)
      else
        let c := c.skip.skipBlanks
        match c.rest with
        | .char '"' :: _ => member c
        | .char '\x7d' :: _ =>
          ([], .broken ⟨.trailingComma, c.ahead⟩ ⟨.keyNotString, c.ahead⟩, none)
        | [] => ([], .broken ⟨.endInValue, c.place⟩ ⟨.endInObject, c.place⟩, none)
        | _ => ([], .broken ⟨.keyNotString, c.ahead⟩ ⟨.keyNotString, c.ahead⟩, none)
    | _ =>
      if first then ([], .broken ⟨.keyNotString, c.ahead⟩ ⟨.keyNotString, c.ahead⟩, none)
      else ([], .broken ⟨.expectedObjectEnd, c.ahead⟩ ⟨.expectedObjectEnd, c.ahead⟩, none)

end

/-! ## Whole texts -/

/-- How many values may be nested, counting the one that is refused. -/
def maxDepth : Nat := 128

/-- A text: its value, and the fault of what follows the value. -/
structure Document where
  doc : Doc
  trailing : Option Fault

def readDocument (text : List Symbol) : Document :=
  let (doc, after) := value maxDepth (2 * text.length + 2) ⟨0, text⟩
  match after with
  | none => ⟨doc, none⟩
  | some c =>
    let c := c.skipBlanks
    ⟨doc, if c.rest.isEmpty then none else some ⟨.trailingCharacters, c.ahead⟩⟩

end ChangeFeed.Json
