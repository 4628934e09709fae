import ChangeFeed.Sql.Token

/-!
# SQL: Reading tokens

A parser takes tokens from the front of a list and leaves the rest. It fails either because the
tokens do not fit, in which case an alternative may be tried on the same tokens, or because
expressions and queries are nested too deeply, which no alternative mends.
-/

namespace ChangeFeed.Sql

/-- Why reading stops. -/
inductive Failure where
  | mismatch
  | tooDeep
  deriving DecidableEq, Repr

abbrev Parse (α : Type) := StateT (List Token) (Except Failure) α

namespace Parse

/-! ## Single tokens -/

/-- The tokens do not fit. -/
def fail {α : Type} : Parse α := fun _ => .error .mismatch

def peek? : Parse (Option Token) := fun ts => .ok (ts.head?, ts)

/-- Takes the token ahead. -/
def next? : Parse (Option Token) := fun ts => .ok (ts.head?, ts.tail)

/-- Takes the token ahead, which must be there. -/
def next : Parse Token
  | t :: ts => .ok (t, ts)
  | [] => .error .mismatch

/-- The number of tokens ahead. -/
def remaining : Parse Nat := fun ts => .ok (ts.length, ts)

/-! ## Keywords and symbols -/

/-- The tokens begin with these keywords. -/
def startsWith : List String → List Token → Bool
  | [], _ => true
  | k :: ks, t :: ts => t.isKeyword k && startsWith ks ts
  | _ :: _, [] => false

/-- Takes the keywords if they are ahead, all or none. -/
def keywords? (ks : List String) : Parse Bool := fun ts =>
  if startsWith ks ts then .ok (true, ts.drop ks.length) else .ok (false, ts)

/-- Takes the keyword if it is ahead. -/
def keyword? (k : String) : Parse Bool := keywords? [k]

/-- The keyword is ahead; nothing is taken. -/
def ahead? (k : String) : Parse Bool := fun ts => .ok (startsWith [k] ts, ts)

/-- Takes whichever of the keywords is ahead. -/
def oneOf? (ks : List String) : Parse (Option String) := fun ts =>
  match ks.find? fun k => startsWith [k] ts with
  | some k => .ok (some k, ts.drop 1)
  | none => .ok (none, ts)

/-- Takes the keywords, which must be ahead. -/
def keywords (ks : List String) : Parse Unit := do
  if ← keywords? ks then return () else fail

/-- Takes the keyword, which must be ahead. -/
def keyword (k : String) : Parse Unit := keywords [k]

/-- Takes one of the keywords, which must be ahead. -/
def oneOf (ks : List String) : Parse String := do
  match ← oneOf? ks with
  | some k => return k
  | none => fail

/-- Takes the symbol if it is ahead. -/
def symbol? (s : String) : Parse Bool
  | .symbol text :: ts =>
    if text = s then .ok (true, ts) else .ok (false, .symbol text :: ts)
  | ts => .ok (false, ts)

/-- The symbol is ahead; nothing is taken. -/
def symbolAhead? (s : String) : Parse Bool := fun ts => .ok (ts.head? == some (.symbol s), ts)

/-- Takes the symbol, which must be ahead. -/
def symbol (s : String) : Parse Unit := do
  if ← symbol? s then return () else fail

/-! ## Combinators -/

/-- Tries a reader; where the tokens do not fit it, nothing is taken. -/
def optional? {α : Type} (p : Parse α) : Parse (Option α) := fun ts =>
  match p ts with
  | .ok (a, rest) => .ok (some a, rest)
  | .error .mismatch => .ok (none, ts)
  | .error .tooDeep => .error .tooDeep

/-- The items behind commas; `limit` bounds their number. -/
def commaItems {α : Type} (p : Parse α) : (limit : Nat) → Parse (List α)
  | 0 => return []
  | limit + 1 => do
    if ← symbol? "," then
      let a ← p
      let rest ← commaItems p limit
      return a :: rest
    else return []

def commaSeparated {α : Type} (p : Parse α) : Parse (List α) := do
  let first ← p
  let rest ← commaItems p (← remaining)
  return first :: rest

/-- Items as long as the reader finds one; `limit` bounds their number. -/
def manyUpTo {α : Type} (p : Parse (Option α)) : (limit : Nat) → Parse (List α)
  | 0 => return []
  | limit + 1 => do
    match ← p with
    | some a =>
      let rest ← manyUpTo p limit
      return a :: rest
    | none => return []

/-- Items as long as the reader finds one. -/
def many {α : Type} (p : Parse (Option α)) : Parse (List α) := do
  manyUpTo p (← remaining)

def parenthesized {α : Type} (p : Parse α) : Parse α := do
  symbol "("
  let a ← p
  symbol ")"
  return a

/-- Reads on behind the first of the phrases that is ahead. -/
def behindFirst {α : Type} : List (List String × Parse α) → Parse α
  | [] => fail
  | (ks, p) :: rest => do if ← keywords? ks then p else behindFirst rest

def semicolons : Parse (List Unit) :=
  many do if ← symbol? ";" then return some () else return none

/-- Items with semicolons between them; `limit` bounds their number. The keyword that closes a block
may stand behind an item, and ends them. -/
def seriesUpTo {α : Type} (item : Parse α) : (limit : Nat) → Parse (List α)
  | 0 => fail
  | limit + 1 => do
    let _ ← semicolons
    match ← peek? with
    | none => return []
    | some _ =>
      let first ← item
      match ← peek? with
      | none => return [first]
      | some t =>
        if t.isKeyword "END" then return [first]
        else if t = .symbol ";" then
          let rest ← seriesUpTo item limit
          return first :: rest
        else fail

/-- Items with semicolons between them, up to the end of the tokens or of a block. -/
def series {α : Type} (item : Parse α) : Parse (List α) := do
  seriesUpTo item ((← remaining) + 1)

/-- Reads on from a value as long as the reader finds a way; `limit` bounds the number of steps. -/
def extendUpTo {α : Type} (step : α → Parse (Option α)) : (limit : Nat) → α → Parse α
  | 0, a => return a
  | limit + 1, a => do
    match ← step a with
    | some b => extendUpTo step limit b
    | none => return a

/-- Reads on from a value as long as the reader finds a way. -/
def extend {α : Type} (step : α → Parse (Option α)) (a : α) : Parse α := do
  extendUpTo step (← remaining) a

end Parse

end ChangeFeed.Sql
