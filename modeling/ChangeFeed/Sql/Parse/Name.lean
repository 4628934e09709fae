import ChangeFeed.Sql.Keyword
import ChangeFeed.Sql.Name
import ChangeFeed.Sql.Parse

/-!
# SQL: Reading names and plain literals

Identifiers, dotted names, lists of columns, texts and numbers.
-/

namespace ChangeFeed.Sql.Parse

/-- An identifier: a word, or a text between quotes. -/
def ident : Parse Ident := do
  match ← next with
  | .word text quoted => return ⟨text, if quoted then some '\x60' else none⟩
  | .single text => return ⟨text, some '\''⟩
  | .double text => return ⟨text, some '"'⟩
  | _ => fail

/-- A part of a dotted name behind its period. -/
def namePart? : Parse (Option Ident) := do
  if ← symbol? "." then
    let i ← ident
    return some i
  else return none

def name : Parse Name := do
  let first ← ident
  let rest ← many namePart?
  return .ofParts first rest

def names : Parse (List Name) := commaSeparated name

def ident? : Parse (Option Ident) := optional? ident

def columns : Parse (List Ident) := parenthesized (commaSeparated ident)

def columns? : Parse (List Ident) := do
  if ← symbolAhead? "(" then columns else return []

/-- A text between quotes, or a word that is not a keyword. -/
def literalText : Parse String := do
  match ← next with
  | .word text quoted => if quoted || !(isKeywordText text) then return text else fail
  | .single text => return text
  | .double text => return text
  | _ => fail

/-- The number written in plain decimal digits, if it is at most `bound`. -/
def decimal? (bound : Nat) (digits : String) : Option Nat :=
  let cs := digits.toList
  if cs.isEmpty || !(cs.all Char.isDigit) then none
  else
    let n := cs.foldl (fun n c => n * 10 + (c.toNat - '0'.toNat)) 0
    if n ≤ bound then some n else none

/-- A whole number that fits in 64 bits. -/
def whole : Parse Nat := do
  match ← next with
  | .number digits _ =>
    match decimal? (UInt64.size - 1) digits with
    | some n => return n
    | none => fail
  | _ => fail

/-- A whole number in parentheses, or nothing. -/
def size? : Parse (Option Nat) := do
  if ← symbolAhead? "(" then
    let n ← parenthesized whole
    return some n
  else return none

/-- One or two whole numbers in parentheses, or nothing. -/
def precision? : Parse (Option (Nat × Option Nat)) := do
  if ← symbol? "(" then
    let p ← whole
    let s ← if ← symbol? "," then some <$> whole else pure none
    symbol ")"
    return some (p, s)
  else return none

end ChangeFeed.Sql.Parse
