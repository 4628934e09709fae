import ChangeFeed.Instant
import ChangeFeed.Text.Blank

/-!
# Instants: Reading

A point in time is read from a date, a time of day and a distance from Greenwich. The strict form
fixes the number of digits of every part. The lenient form allows blanks before most parts, fewer
digits, and years with a sign.
-/

namespace ChangeFeed.Instant

open Text (isBlank)

/-! ## What can be wrong -/

/-- Why a text is no point in time. -/
inductive Unreadable where
  | outOfRange
  /-- The point in time lies outside the calendar once it is moved to Greenwich. -/
  | impossible
  | invalid
  | tooShort
  | tooLong
  deriving DecidableEq, Repr

/-- The wording of a fault. -/
def Unreadable.message : Unreadable → String
  | .outOfRange => "input is out of range"
  | .impossible => "no possible date and time matching input"
  | .invalid => "input contains invalid characters"
  | .tooShort => "premature end of input"
  | .tooLong => "trailing input"

/-- The result of reading. A reader of a part gives what follows the part too. -/
abbrev Reading := Except Unreadable

/-! ## Numbers and signs -/

def digitValue (c : Char) : Nat := c.toNat - '0'.toNat

def ofDigits (digits : List Char) : Nat := digits.foldl (fun n c => 10 * n + digitValue c) 0

/-- What is missing where something else is expected. -/
def unexpected : List Char → Unreadable
  | [] => .tooShort
  | _ => .invalid

/-- The digits at the start, at most `max`. -/
def leadingDigits (max : Nat) (cs : List Char) : List Char := (cs.take max).takeWhile Char.isDigit

/-- Reads a number of at least one digit and at most `max`. -/
def readNumber (max : Nat) (cs : List Char) : Reading (Nat × List Char) :=
  let digits := leadingDigits max cs
  if digits.isEmpty then .error (unexpected cs)
  else .ok (ofDigits digits, cs.drop digits.length)

def readFixed (width : Nat) (cs : List Char) : Reading (Nat × List Char) :=
  if (leadingDigits width cs).length = width then readNumber width cs else .error (unexpected cs)

/-- A number that must lie between two bounds. -/
def within (low high : Nat) (r : Reading (Nat × List Char)) : Reading (Nat × List Char) := do
  let (n, rest) ← r
  if low ≤ n ∧ n ≤ high then .ok (n, rest) else .error .outOfRange

def readChar (c : Char) (cs : List Char) : Reading (List Char) :=
  match cs with
  | d :: rest => if d = c then .ok rest else .error .invalid
  | [] => .error .tooShort

/-- Reads what separates the date from the time. -/
def readSeparator (cs : List Char) : Reading (List Char) :=
  match cs with
  | c :: rest => if c = 'T' ∨ c = 't' ∨ c = ' ' then .ok rest else .error .invalid
  | [] => .error .tooShort

/-- Reads the digits of a fraction; those behind the ninth are passed over. -/
def readFraction (cs : List Char) : Reading (Nat × List Char) := do
  let (n, rest) ← readNumber 9 cs
  .ok (n * Nat.pow 10 (9 - (cs.length - rest.length)), rest.dropWhile Char.isDigit)

def readOptionalFraction : List Char → Reading (Nat × List Char)
  | '.' :: rest => readFraction rest
  | cs => .ok (0, cs)

/-! ## The distance from Greenwich -/

/-- Reads two digits; a character of more than one byte counts as two. -/
def readPair (cs : List Char) : Reading ((Nat × Nat) × List Char) :=
  match cs with
  | [] => .error .tooShort
  | [c] => .error (if c.utf8Size = 1 then .tooShort else .invalid)
  | a :: b :: rest =>
    if a.isDigit && b.isDigit then .ok ((digitValue a, digitValue b), rest) else .error .invalid

/-- Reads the sign of a distance; `true` for a negative one. -/
def readSign (cs : List Char) : Reading (Bool × List Char) :=
  match cs with
  | '+' :: rest => .ok (false, rest)
  | '-' :: rest => .ok (true, rest)
  | '\u2212' :: rest => .ok (true, rest)
  | [] => .error .tooShort
  | _ => .error .invalid

/-- Reads the distance from Greenwich in minutes; `between` passes over what separates hours and
minutes. -/
def readOffset (between : List Char → Reading (List Char)) (cs : List Char) :
    Reading (Int × List Char) :=
  match cs with
  | 'Z' :: rest => .ok (0, rest)
  | 'z' :: rest => .ok (0, rest)
  | _ => do
    let (negative, rest) ← readSign cs
    let ((h₁, h₀), rest) ← readPair rest
    let rest ← between rest
    let ((m₁, m₀), rest) ← readPair rest
    if 5 < m₁ then .error .outOfRange
    else
      let minutes : Int := (10 * h₁ + h₀) * 60 + (10 * m₁ + m₀)
      .ok (if negative then -minutes else minutes, rest)

/-- The parts of a point in time as they are written. -/
structure Written where
  year : Int
  month : Nat
  day : Nat
  hour : Nat
  minute : Nat
  second : Nat
  nanos : Nat
  offset : Int

/-- The point in time with the given parts. -/
def Written.instant (w : Written) : Reading Instant :=
  match Date.ofParts? w.year w.month w.day with
  | none => .error .outOfRange
  | some date =>
    if w.offset.natAbs < minutesPerDay then
      match ofLocal? date (60 * w.hour + w.minute) w.second w.nanos w.offset with
      | some t => .ok t
      | none => .error .impossible
    else .error .outOfRange

/-! ## The strict form -/

/-- Reads the strict form, as in `2023-11-14T22:13:20.5+01:00`. -/
def readStrict (s : String) : Reading Instant := do
  let (year, cs) ← readFixed 4 s.toList
  let cs ← readChar '-' cs
  let (month, cs) ← within 1 12 (readFixed 2 cs)
  let cs ← readChar '-' cs
  let (day, cs) ← within 1 31 (readFixed 2 cs)
  let cs ← readSeparator cs
  let (hour, cs) ← within 0 23 (readFixed 2 cs)
  let cs ← readChar ':' cs
  let (minute, cs) ← within 0 59 (readFixed 2 cs)
  let cs ← readChar ':' cs
  let (second, cs) ← within 0 60 (readFixed 2 cs)
  let (nanos, cs) ← readOptionalFraction cs
  let (offset, cs) ← readOffset (readChar ':') cs
  if cs.isEmpty then Written.instant ⟨year, month, day, hour, minute, second, nanos, offset⟩
  else .error .tooLong

/-! ## The lenient form -/

/-- The text without blanks at its start. -/
def skipBlanks (cs : List Char) : List Char := cs.dropWhile isBlank

/-- The years that fit in 32 bits. -/
def maxYear : Int := Int32.maxValue.toInt

/-- Reads a year: up to four digits, or a sign and any number of digits. -/
def readYear (cs : List Char) : Reading (Int × List Char) := do
  let cs := skipBlanks cs
  let (year, rest) ←
    match cs with
    | '-' :: digits => do
      let (n, rest) ← readNumber digits.length digits
      pure (-(n : Int), rest)
    | '+' :: digits => do
      let (n, rest) ← readNumber digits.length digits
      pure ((n : Int), rest)
    | digits => do
      let (n, rest) ← readNumber 4 digits
      pure ((n : Int), rest)
  if -maxYear - 1 ≤ year ∧ year ≤ maxYear then .ok (year, rest) else .error .outOfRange

/-- Reads a number of one or two digits behind optional blanks. -/
def readPart (low high : Nat) (cs : List Char) : Reading (Nat × List Char) :=
  within low high (readNumber 2 (skipBlanks cs))

/-- Reads a character behind optional blanks. -/
def readMark (c : Char) (cs : List Char) : Reading (List Char) :=
  readChar c (skipBlanks cs)

/-- Passes over colons and blanks. -/
def skipColons (cs : List Char) : Reading (List Char) :=
  .ok (cs.dropWhile fun c => c = ':' || isBlank c)

/-- Reads the distance from Greenwich, which may be the word `UTC`. -/
def readZone (cs : List Char) : Reading (Int × List Char) :=
  if (cs.take 3).map Char.toUpper = ['U', 'T', 'C'] then .ok (0, cs.drop 3)
  else readOffset skipColons cs

def readLenient (s : String) : Reading Instant := do
  let (year, cs) ← readYear s.toList
  let cs ← readMark '-' cs
  let (month, cs) ← readPart 1 12 cs
  let cs ← readMark '-' cs
  let (day, cs) ← readPart 1 31 cs
  let cs ← readSeparator cs
  let (hour, cs) ← readPart 0 23 cs
  let cs ← readMark ':' cs
  let (minute, cs) ← readPart 0 59 cs
  let cs ← readMark ':' cs
  let (second, cs) ← readPart 0 60 cs
  let (nanos, cs) ← readOptionalFraction cs
  let (offset, cs) ← readZone (skipBlanks cs)
  if (skipBlanks cs).isEmpty then
    Written.instant ⟨year, month, day, hour, minute, second, nanos, offset⟩
  else .error .tooLong

end ChangeFeed.Instant
