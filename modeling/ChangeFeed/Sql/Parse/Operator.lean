import ChangeFeed.Sql.Parse

/-!
# SQL: How tightly operators bind

Every operator has a level; an operator with a higher level binds more tightly. Reading an
expression goes on as long as the operator ahead has a higher level than the one before.
-/

namespace ChangeFeed.Sql.Parse

/-! ## Levels -/

namespace Level

/-- The level of what is no operator, and of a whole expression. -/
def loosest : Nat := 0
def disjunction : Nat := 5
def conjunction : Nat := 10
def negation : Nat := 15
def path : Nat := 16
def property : Nat := 17
def pattern : Nat := 19
def comparison : Nat := 20
def bitOr : Nat := 21
def bitXor : Nat := 22
def bitAnd : Nat := 23
def exclusiveOr : Nat := 24
def sum : Nat := 30
def product : Nat := 40
def timeZone : Nat := 41
def cast : Nat := 50
def period : Nat := 100

end Level

/-! ## Operators -/

/-- The level of an operator that is written as a symbol. -/
def symbolLevel (s : String) : Nat :=
  if s = "." then Level.period
  else if ["::", "!", "[", "&&", "^@"].contains s then Level.cast
  else if ["*", "/", "%", "||"].contains s then Level.product
  else if ["+", "-"].contains s then Level.sum
  else if s = "&" then Level.bitAnd
  else if ["^", "<<", ">>"].contains s then Level.bitXor
  else if s = "|" then Level.bitOr
  else if ["=", "<", "<=", "<>", ">", ">=", "==", "~", "~*", "!~", "!~*", "~~", "~~*", "!~~",
      "!~~*", "<=>"].contains s then Level.comparison
  else if ["->", "->>", "@>", "<@", "@?", "@@"].contains s then Level.path
  else Level.loosest

/-- The level of an operator that is written as a word. `NOT` has the level of the operator that it
negates. -/
def wordLevel (k : String) (following : Option String) (afterThat : Option String) : Nat :=
  match k with
  | "OR" => Level.disjunction
  | "AND" => Level.conjunction
  | "XOR" => Level.exclusiveOr
  | "AT" =>
    if following = some "TIME" && afterThat = some "ZONE" then Level.timeZone else Level.loosest
  | "NOT" =>
    match following with
    | some "IN" | some "BETWEEN" => Level.comparison
    | some "LIKE" | some "ILIKE" | some "RLIKE" | some "REGEXP" | some "SIMILAR" => Level.pattern
    | _ => Level.loosest
  | "IS" => Level.property
  | "IN" | "BETWEEN" | "OVERLAPS" | "OPERATOR" => Level.comparison
  | "LIKE" | "ILIKE" | "RLIKE" | "REGEXP" | "SIMILAR" => Level.pattern
  | "DIV" => Level.product
  | _ => Level.loosest

/-- The level of the operator ahead, the loosest if none is. -/
def levelAhead : Parse Nat := fun ts =>
  let level :=
    match ts with
    | .symbol s :: _ => symbolLevel s
    | t :: rest =>
      match t.keyword? with
      | some k => wordLevel k (rest[0]?.bind Token.keyword?) (rest[1]?.bind Token.keyword?)
      | none => Level.loosest
    | [] => Level.loosest
  .ok (level, ts)

/-- The operators that stand between two operands, and their canonical texts. -/
def binaryOperators : List (String × String) :=
  [("<=>", "<=>"), ("==", "="), ("=", "="), ("<>", "<>"), (">", ">"), (">=", ">="), ("<", "<"),
   ("<=", "<="), ("+", "+"), ("-", "-"), ("*", "*"), ("/", "/"), ("%", "%"), ("||", "||"),
   ("|", "|"), ("^", "^"), ("&", "&"), ("~", "~"), ("~*", "~*"), ("!~", "!~"), ("!~*", "!~*"),
   ("~~", "~~"), ("~~*", "~~*"), ("!~~", "!~~"), ("!~~*", "!~~*"), ("->", "->"), ("->>", "->>"),
   ("@>", "@>"), ("<@", "<@"), ("@?", "@?"), ("@@", "@@")]

/-- The words that stand between two operands. -/
def binaryWords : List String := ["AND", "OR", "XOR", "OVERLAPS"]

/-- The canonical text of the operator between two operands that a token stands for. -/
def binaryOperator? : Token → Option String
  | .symbol s => binaryOperators.lookup s
  | t =>
    match t.keyword? with
    | some k => if binaryWords.contains k then some k else none
    | none => none

/-- The comparisons that may range over a set of values. -/
def quantifiable : List String := [">", "<", ">=", "<=", "=", "<>"]

/-- The units of time that may follow the amount of an interval. -/
def intervalUnits : List String :=
  ["YEAR", "YEARS", "MONTH", "MONTHS", "WEEK", "WEEKS", "DAY", "DAYS", "HOUR", "HOURS", "MINUTE",
   "MINUTES", "SECOND", "SECONDS", "CENTURY", "DECADE", "DOW", "DOY", "EPOCH", "ISODOW", "ISOYEAR",
   "JULIAN", "MICROSECOND", "MICROSECONDS", "MILLENIUM", "MILLENNIUM", "MILLISECOND",
   "MILLISECONDS", "NANOSECOND", "NANOSECONDS", "QUARTER", "TIMEZONE", "TIMEZONE_HOUR",
   "TIMEZONE_MINUTE"]

def momentParts : List String :=
  intervalUnits ++
    ["DAYOFWEEK", "DAYOFYEAR", "DATE", "DATETIME", "ISOWEEK", "TIME", "TIMEZONE_ABBR",
     "TIMEZONE_REGION"]

end ChangeFeed.Sql.Parse
