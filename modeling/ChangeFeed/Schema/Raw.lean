import ChangeFeed.Schema.Change
import ChangeFeed.Sql.Lexer

/-!
# Schema changes: Whole statements

A statement about a table can be passed on as it stands. Its kind and its table are told from its
tokens alone, without regard to its grammar.
-/

namespace ChangeFeed.Schema

open Sql (Token LexError)

/-! ## Why a statement is rejected -/

/-- Why nothing can be told about a statement. -/
inductive Rejection where
  /-- The text cannot be split into tokens. -/
  | untokenizable (cause : LexError)
  /-- A statement about a table that names none. -/
  | noTable (statement : String)
  deriving DecidableEq, Repr

def Rejection.message : Rejection → String
  | .untokenizable cause => "Cannot tokenize DDL: " ++ cause.message
  | .noTable statement => "Missing table name in: " ++ statement

def tokens (sql : String) : Except Rejection (List Token) :=
  (Sql.tokens sql).mapError .untokenizable

/-! ## Head and table -/

/-- The token is the given word, unquoted; only ASCII letters are compared without regard to
case. -/
def isBareWord (word : String) : Token → Bool
  | .word text false => text.map Char.toUpper = word
  | _ => false

/-- The unquoted words at the start of a statement, four at most. -/
def headWords (ts : List Token) : List String :=
  ((ts.take 4).map Token.keyword?).takeWhile Option.isSome |>.filterMap id

/-- The kind of a statement, told by its first words. -/
def kindOf (ts : List Token) : ChangeKind :=
  .ofText (" ".intercalate (headWords ts))

/-- The last part of the dotted name ahead; `found` is the part before. -/
def lastPart : (found : Option String) → List Token → Option String
  | _, .word text _ :: .symbol "." :: rest => lastPart (some text) rest
  | _, .word text _ :: _ => some text
  | found, _ => found

/-- The words that may stand between a statement's keyword and its table. -/
def fillers : List String := ["TABLE", "IF", "NOT", "EXISTS"]

/-- The table that a statement is about: the name behind the word `TABLE`, or behind the first word
of a statement that empties a table. -/
def tableNamed (kind : ChangeKind) (ts : List Token) : Option String :=
  let anchor := if kind = .truncate then "TRUNCATE" else "TABLE"
  match ts.dropWhile fun t => !isBareWord anchor t with
  | [] => none
  | _ :: rest => lastPart none (rest.dropWhile fun t => fillers.any (isBareWord · t))

/-- A statement about a table as one change; nothing for any other statement. -/
def unparsedChange (sql : String) (ts : List Token) : Except Rejection (List TableChange) :=
  let kind := kindOf ts
  if kind.isTableLevel then
    match tableNamed kind ts with
    | some table => .ok [⟨table, .raw kind (Text.trim sql)⟩]
    | none => .error (.noTable (Text.trim sql))
  else .ok []

end ChangeFeed.Schema
