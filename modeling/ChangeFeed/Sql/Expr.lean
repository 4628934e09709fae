import ChangeFeed.Sql.Name

/-!
# SQL: Column types, literals and expressions

The parts of a statement that are shown again: the type and the default value of a column. Each has
a canonical text, in which keywords and built-in type names are upper case and quotes are doubled.
-/

namespace ChangeFeed.Sql

/-! ## Literals -/

/-- A literal value. -/
inductive Literal where
  | number (digits : String) (long : Bool)
  | single (text : String)
  | double (text : String)
  | national (text : String)
  | hex (digits : String)
  | bits (text : String) (quote : Char)
  | boolean (value : Bool)
  | null
  | placeholder (text : String)
  deriving DecidableEq, Repr

def Literal.render : Literal → String
  | .number digits long => digits ++ if long then "L" else ""
  | .single text => enquote '\'' text
  | .double text => enquote '"' text
  | .national text => "N'" ++ text ++ "'"
  | .hex digits => "X'" ++ digits ++ "'"
  | .bits text quote => "B" ++ String.singleton quote ++ text ++ String.singleton quote
  | .boolean value => if value then "true" else "false"
  | .null => "NULL"
  | .placeholder text => text

/-! ## Column types -/

/-- The unit in which the length of a text type counts. -/
inductive LengthUnit where
  | characters
  | octets
  deriving DecidableEq, Repr

/-- The length of a text type. -/
inductive TextLength where
  | max
  | exact (length : Nat) (unit : Option LengthUnit)
  deriving DecidableEq, Repr

/-- What a time type says about its zone. -/
inductive ZoneClause where
  | unsaid
  | withZone
  | withoutZone
  deriving DecidableEq, Repr

/-- A column type, by the form of its arguments; `name` is its canonical name. -/
inductive DataType where
  /-- A built-in type with at most one size. -/
  | sized (name : String) (size : Option Nat)
  | integer (name : String) (width : Option Nat) (unsigned : Bool)
  | text (name : String) (length : Option TextLength)
  /-- A number type with precision and scale. -/
  | exact (name : String) (precision : Option (Nat × Option Nat))
  /-- A time type. -/
  | moment (name : String) (precision : Option Nat) (zone : ZoneClause)
  /-- A time type with a precision and the name of a zone. -/
  | zoned (name : String) (precision : Nat) (zone : Option String)
  /-- One of the listed members; a member may carry a number. -/
  | enumeration (name : String) (members : List (String × Option String))
  /-- Any subset of the listed members. -/
  | subset (members : List String)
  /-- A row of values written as `element[]`. -/
  | row (element : DataType)
  /-- A row of values written as `ARRAY<element>`. -/
  | array (element : DataType)
  /-- A type that is not built in, with its arguments as written. -/
  | custom (name : Name) (arguments : List String)
  deriving Repr

namespace DataType

def argument (arg : Option Nat) : String :=
  match arg with
  | some n => "(" ++ toString n ++ ")"
  | none => ""

def lengthText : TextLength → String
  | .max => "MAX"
  | .exact n none => toString n
  | .exact n (some .characters) => toString n ++ " CHARACTERS"
  | .exact n (some .octets) => toString n ++ " OCTETS"

/-- The canonical text of a precision and scale. -/
def precisionText : Option (Nat × Option Nat) → String
  | none => ""
  | some (p, none) => "(" ++ toString p ++ ")"
  | some (p, some s) => "(" ++ toString p ++ "," ++ toString s ++ ")"

/-- The canonical text of what a time type says about its zone. -/
def zoneText : ZoneClause → String
  | .unsaid => ""
  | .withZone => " WITH TIME ZONE"
  | .withoutZone => " WITHOUT TIME ZONE"

def memberText (m : String × Option String) : String :=
  enquote '\'' m.1 ++
    match m.2 with
    | some number => " = " ++ number
    | none => ""

/-- The canonical text of a column type. -/
def render : DataType → String
  | .sized name size => name ++ argument size
  | .integer name width unsigned =>
    name ++ argument width ++ if unsigned then " UNSIGNED" else ""
  | .text name none => name
  | .text name (some length) => name ++ "(" ++ lengthText length ++ ")"
  | .exact name precision => name ++ precisionText precision
  | .moment name precision zone => name ++ argument precision ++ zoneText zone
  | .zoned name precision none => name ++ "(" ++ toString precision ++ ")"
  | .zoned name precision (some zone) =>
    name ++ "(" ++ toString precision ++ ", '" ++ zone ++ "')"
  | .enumeration name members => name ++ "(" ++ ", ".intercalate (members.map memberText) ++ ")"
  | .subset members => "SET(" ++ ", ".intercalate (members.map (enquote '\'')) ++ ")"
  | .row element => element.render ++ "[]"
  | .array element => "ARRAY<" ++ element.render ++ ">"
  | .custom name [] => name.render
  | .custom name arguments => name.render ++ "(" ++ ", ".intercalate arguments ++ ")"

end DataType

/-! ## Expressions -/

mutual

/-- An expression. The special forms of the language (`CASE`, `CAST`, `BETWEEN`, subqueries and the
like) are kept as their fixed words and their operands. -/
inductive Expr where
  /-- A column, or one qualified by its table and schema. -/
  | column (parts : List Ident)
  | literal (value : Literal)
  /-- An operator before its operand. -/
  | unary (operator : String) (operand : Expr)
  | binary (left : Expr) (operator : String) (right : Expr)
  | nested (inner : Expr)
  | tuple (items : List Expr)
  /-- A function call; `behind` is everything behind its name. -/
  | call (function : List Ident) (behind : List Piece)
  | form (pieces : List Piece)

/-- A part of a special form; words carry their own blanks. -/
inductive Piece where
  | word (text : String)
  | operand (e : Expr)

end

mutual

def Expr.render : Expr → String
  | .column parts => ".".intercalate (parts.map Ident.render)
  | .literal value => value.render
  | .unary operator operand => operator ++ operand.render
  | .binary left operator right => left.render ++ " " ++ operator ++ " " ++ right.render
  | .nested inner => "(" ++ inner.render ++ ")"
  | .tuple items => "(" ++ Expr.renderList items ++ ")"
  | .call function behind => ".".intercalate (function.map Ident.render) ++ Piece.renderAll behind
  | .form pieces => Piece.renderAll pieces

/-- The canonical texts of several expressions, separated by commas. -/
def Expr.renderList : List Expr → String
  | [] => ""
  | [e] => e.render
  | e :: es => e.render ++ ", " ++ Expr.renderList es

/-- The canonical text of one part. -/
def Piece.render : Piece → String
  | .word text => text
  | .operand e => e.render

/-- The canonical texts of several parts in a row. -/
def Piece.renderAll : List Piece → String
  | [] => ""
  | p :: ps => p.render ++ Piece.renderAll ps

end

end ChangeFeed.Sql
