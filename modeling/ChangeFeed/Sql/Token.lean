import ChangeFeed.Text.Uppercase

/-!
# SQL: Tokens

What the lexer hands on: words, literals, and the symbols between them. Blanks and comments are not
tokens. A keyword is an unquoted word, told apart by its upper-case form.
-/

namespace ChangeFeed.Sql

/-- A lexical unit of a statement. -/
inductive Token where
  /-- A word; `quoted` when it was written between backticks. -/
  | word (text : String) (quoted : Bool)
  /-- A number as written; `long` when an `L` follows it. -/
  | number (digits : String) (long : Bool)
  /-- A text between single quotes, escapes resolved. -/
  | single (text : String)
  /-- A text between double quotes, escapes resolved. -/
  | double (text : String)
  /-- A text marked as national characters. -/
  | national (text : String)
  | hex (digits : String)
  /-- A bit or byte string, with the quote it was written in. -/
  | bits (text : String) (quote : Char)
  /-- A parameter mark. -/
  | placeholder (text : String)
  /-- An operator or a punctuation mark. -/
  | symbol (text : String)
  /-- A character with no role in the grammar. -/
  | stray (c : Char)
  deriving DecidableEq, Repr

namespace Token

/-- The keyword that an unquoted word spells. -/
def keyword? : Token → Option String
  | .word text false => some (Text.uppercase text)
  | _ => none

/-- The token is the given keyword, in any letter case. -/
def isKeyword (keyword : String) (t : Token) : Bool :=
  t.keyword? == some keyword

end Token

end ChangeFeed.Sql
