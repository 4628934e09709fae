import ChangeFeed.Sql.Expr
import ChangeFeed.Sql.Parse.Name

/-!
# SQL: Reading column types

A built-in type is told by its keyword and takes the arguments of its form. Any other name is a
custom type, whose arguments are kept as written.
-/

namespace ChangeFeed.Sql.Parse

/-! ## The built-in types -/

/-- Types without arguments: keyword and canonical name. -/
def plainTypes : List (String × String) :=
  [("BOOLEAN", "BOOLEAN"), ("BOOL", "BOOL"), ("REAL", "REAL"), ("FLOAT4", "FLOAT4"),
   ("FLOAT32", "Float32"), ("FLOAT64", "FLOAT64"), ("FLOAT8", "FLOAT8"), ("INT16", "Int16"),
   ("INT32", "Int32"), ("INT64", "INT64"), ("INT128", "Int128"), ("INT256", "Int256"),
   ("UINT8", "UInt8"), ("UINT16", "UInt16"), ("UINT32", "UInt32"), ("UINT64", "UInt64"),
   ("UINT128", "UInt128"), ("UINT256", "UInt256"), ("TINYBLOB", "TINYBLOB"),
   ("MEDIUMBLOB", "MEDIUMBLOB"), ("LONGBLOB", "LONGBLOB"), ("UUID", "UUID"), ("DATE", "DATE"),
   ("DATE32", "Date32"), ("INTERVAL", "INTERVAL"), ("JSON", "JSON"), ("JSONB", "JSONB"),
   ("REGCLASS", "REGCLASS"), ("TEXT", "TEXT"), ("TINYTEXT", "TINYTEXT"),
   ("MEDIUMTEXT", "MEDIUMTEXT"), ("LONGTEXT", "LONGTEXT"), ("BYTEA", "BYTEA"),
   ("TRIGGER", "TRIGGER")]

/-- Types with at most one size. -/
def sizedTypes : List String :=
  ["FLOAT", "CLOB", "BINARY", "VARBINARY", "BLOB", "BYTES", "DATETIME", "TIMESTAMPTZ", "TIMETZ",
   "STRING"]

/-- Integer types with a display width and a sign. -/
def integerTypes : List String :=
  ["TINYINT", "INT2", "SMALLINT", "MEDIUMINT", "INT", "INT4", "INT8", "INTEGER", "BIGINT"]

/-- Number types with a precision and a scale. -/
def exactTypes : List String := ["NUMERIC", "DECIMAL", "DEC", "BIGNUMERIC", "BIGDECIMAL"]

/-! ## Arguments -/

/-- The length of a text type in parentheses, or nothing. -/
def textLength? : Parse (Option TextLength) := do
  if ← symbol? "(" then
    let length ←
      if ← keyword? "MAX" then pure TextLength.max
      else do
        let n ← whole
        if ← keyword? "CHARACTERS" then pure (.exact n (some .characters))
        else if ← keyword? "OCTETS" then pure (.exact n (some .octets))
        else pure (.exact n none)
    symbol ")"
    return some length
  else return none

/-- What a time type says about its zone. -/
def zoneClause : Parse ZoneClause := do
  if ← keyword? "WITH" then
    keywords ["TIME", "ZONE"]
    return .withZone
  else if ← keyword? "WITHOUT" then
    keywords ["TIME", "ZONE"]
    return .withoutZone
  else return .unsaid

/-- A number, with its sign, in canonical form. -/
def signedNumber : Parse String := do
  let sign ← if ← symbol? "+" then pure "+" else if ← symbol? "-" then pure "-" else pure ""
  match ← next with
  | .number digits long => return sign ++ (Literal.number digits long).render
  | .placeholder text => return sign ++ text
  | _ => fail

/-- A member of an enumeration, which may carry a number. -/
def enumMember : Parse (String × Option String) := do
  let text ← literalText
  if ← symbol? "=" then
    let number ← signedNumber
    return (text, some number)
  else return (text, none)

def setMember : Parse String := do
  match ← next with
  | .single text => return text
  | _ => fail

/-- The text of a word or a literal among the arguments of a custom type. -/
def customArgument? : Parse (Option String) := do
  let _ ← many (do if ← symbol? "," then return some () else return none)
  if ← symbol? ")" then return none
  else
    match ← next with
    | .word text true => return some ("\x60" ++ text ++ "\x60")
    | .word text false => return some text
    | .number digits _ => return some digits
    | .single text => return some text
    | _ => fail

def customType : Parse DataType := do
  let n ← name
  if ← symbol? "(" then
    let arguments ← many customArgument?
    return .custom n arguments
  else return .custom n []

/-! ## Types -/

/-- The text types that begin with the word `first`. -/
def characterType (first : String) : Parse DataType := do
  if ← keyword? "VARYING" then
    return .text (first ++ " VARYING") (← textLength?)
  else if ← keywords? ["LARGE", "OBJECT"] then
    return .sized (first ++ " LARGE OBJECT") (← size?)
  else
    return .text first (← textLength?)

/-- The rest of a built-in type whose keyword has been read, or nothing if it is none. -/
def builtinType? (k : String) : Option (Parse DataType) :=
  match plainTypes.lookup k with
  | some canonical => some (return .sized canonical none)
  | none =>
    if sizedTypes.contains k then some (return .sized k (← size?))
    else if integerTypes.contains k then
      some do
        let width ← size?
        let unsigned ← keyword? "UNSIGNED"
        return .integer k width unsigned
    else if exactTypes.contains k then some (return .exact k (← precision?))
    else if k = "VARCHAR" || k = "NVARCHAR" then some (return .text k (← textLength?))
    else if k = "CHAR" || k = "CHARACTER" then some (characterType k)
    else if k = "TIME" || k = "TIMESTAMP" then
      some do
        let precision ← size?
        let zone ← zoneClause
        return .moment k precision zone
    else
      match k with
      | "DOUBLE" =>
        some do
          if ← keyword? "PRECISION" then return .sized "DOUBLE PRECISION" none
          else return .exact "DOUBLE" (← precision?)
      | "BIT" =>
        some do
          if ← keyword? "VARYING" then return .sized "BIT VARYING" (← size?)
          else return .sized "BIT" (← size?)
      | "DATETIME64" =>
        some do
          symbol "("
          let precision ← whole
          let zone ← if ← symbol? "," then some <$> literalText else pure none
          symbol ")"
          return .zoned "DateTime64" precision zone
      | "FIXEDSTRING" => some (return .sized "FixedString" (some (← parenthesized whole)))
      | "ENUM" =>
        some (return .enumeration "ENUM" (← parenthesized (commaSeparated enumMember)))
      | "ENUM8" =>
        some (return .enumeration "ENUM8" (← parenthesized (commaSeparated enumMember)))
      | "ENUM16" =>
        some (return .enumeration "ENUM16" (← parenthesized (commaSeparated enumMember)))
      | "SET" => some (return .subset (← parenthesized (commaSeparated setMember)))
      | _ => none

/-- The closing bracket of an element type. `>>` closes two at once: the answer tells whether the
enclosing type is closed as well. -/
def closeElement (closed : Bool) : Parse Bool := do
  if closed then return false
  else if ← symbol? ">" then return false
  else if ← symbol? ">>" then return true
  else fail

/-- Empty brackets behind a type. -/
def brackets? : Parse (Option Unit) := do
  if ← symbol? "[" then
    symbol "]"
    return some ()
  else return none

/-- A column type, and whether its last bracket closes an enclosing type as well; `limit` bounds the
depth of element types. -/
def dataTypeUpTo : (limit : Nat) → Parse (DataType × Bool)
  | 0 => fail
  | limit + 1 => do
    let t ← peek?
    let (base, closed) ←
      match t with
      | some (.word _ true) => do pure (← customType, false)
      | some (.word text false) =>
        let k := Text.uppercase text
        match builtinType? k with
        | some rest => do
          let _ ← next
          pure (← rest, false)
        | none => do
          if k = "ARRAY" then
            let _ ← next
            symbol "<"
            let (element, closed) ← dataTypeUpTo limit
            let closed ← closeElement closed
            pure (.array element, closed)
          else if ← keywords? ["ANY", "TYPE"] then pure (.sized "ANY TYPE" none, false)
          else if k = "TABLE" then fail
          else pure (← customType, false)
      | _ => fail
    let rows ← many brackets?
    return (rows.foldl (fun element _ => .row element) base, closed)

def dataType : Parse DataType := do
  let (t, closed) ← dataTypeUpTo ((← remaining) + 1)
  if closed then fail else return t

end ChangeFeed.Sql.Parse
