import ChangeFeed.Sql.Token
import ChangeFeed.Text.Blank
import ChangeFeed.Text.Letters
import ChangeFeed.Text.Numeric

/-!
# SQL: Lexer

Splits the text of a statement into tokens. The only faults are texts that end inside a quoted piece
or a block comment; each is reported with the line and column where it was noticed.
-/

namespace ChangeFeed.Sql

/-- Why a text cannot be split into tokens. -/
inductive LexFault where
  | unterminatedText
  | unterminatedIdentifier
  | unterminatedComment
  deriving DecidableEq, Repr

/-- The wording of a fault, without its place. -/
def LexFault.message : LexFault → String
  | .unterminatedText => "Unterminated string literal"
  | .unterminatedIdentifier => "Expected close delimiter '\x60' before EOF."
  | .unterminatedComment => "Unexpected EOF while in a multi-line comment"

/-- A place in a text; both numbers start at one. -/
structure Place where
  line : Nat
  column : Nat
  deriving DecidableEq, Repr

/-- The place reached after reading `cs`. -/
def Place.after (cs : List Char) : Place :=
  cs.foldl (fun p c => if c = '\n' then ⟨p.line + 1, 1⟩ else ⟨p.line, p.column + 1⟩) ⟨1, 1⟩

/-- A fault and the place where it was noticed. -/
structure LexError where
  fault : LexFault
  place : Place
  deriving DecidableEq, Repr

/-- The wording of a fault with its place. -/
def LexError.message (e : LexError) : String :=
  e.fault.message ++ " at Line: " ++ toString e.place.line ++ ", Column: " ++
    toString e.place.column

namespace Lexer

/-! ## Character classes -/

/-- A character that may begin a word. -/
def startsWord (c : Char) : Bool :=
  c.isAlpha || c = '_' || c = '$' || c = '@' ||
    (0x80 ≤ c.toNat && c.toNat ≤ 0xffff) || (0xffff < c.toNat && Text.isHighLetter c)

def continuesWord (c : Char) : Bool :=
  startsWord c || c.isDigit

def isHexDigit (c : Char) : Bool :=
  c.isDigit || ('a' ≤ c && c ≤ 'f') || ('A' ≤ c && c ≤ 'F')

/-! ## Pieces of several characters

Each reader takes the characters from its piece on and returns what it read with the rest. A fault
carries the characters that were still ahead where it was noticed.
-/

/-- A reader's result: a token unless blanks were read, and the rest. -/
abbrev Read := Except (LexFault × List Char) (Option Token × List Char)

/-- The character that an escape after a backslash stands for. -/
def unescape : Char → Char
  | '0' => Char.ofNat 0
  | 'a' => Char.ofNat 7
  | 'b' => Char.ofNat 8
  | 'f' => Char.ofNat 12
  | 'n' => '\n'
  | 'r' => '\r'
  | 't' => '\t'
  | 'Z' => Char.ofNat 26
  | c => c

/-- The text up to the closing quote, in which a doubled quote stands for one. -/
def quotedText (quote : Char) (escapes : Bool) : List Char → Option (List Char × List Char)
  | [] => none
  | [c] => if c = quote then some ([], []) else none
  | c :: d :: cs =>
    if c = quote then
      if d = quote then (quotedText quote escapes cs).map fun (text, rest) => (quote :: text, rest)
      else some ([], d :: cs)
    -- A character behind a backslash never closes the text.
    else if escapes && c = '\\' then
      (quotedText quote escapes cs).map fun (text, rest) => (unescape d :: text, rest)
    else (quotedText quote escapes (d :: cs)).map fun (text, rest) => (c :: text, rest)

/-- A quoted text whose opening quote is the first of `cs`. -/
def text (make : String → Token) (quote : Char) (escapes : Bool) (cs : List Char) : Read :=
  match quotedText quote escapes (cs.drop 1) with
  | some (content, rest) => .ok (some (make (String.ofList content)), rest)
  | none => .error (.unterminatedText, cs)

/-- An identifier between backticks; the opening one is the first of `cs`. -/
def quotedIdentifier (cs : List Char) : Read :=
  match quotedText '\x60' false (cs.drop 1) with
  | some (content, rest) => .ok (some (.word (String.ofList content) true), rest)
  | none => .error (.unterminatedIdentifier, cs)

/-- A word whose first characters have been read. -/
def word (first cs : List Char) : Read :=
  .ok (some (.word (String.ofList (first ++ cs.takeWhile continuesWord)) false),
    cs.dropWhile continuesWord)

/-- The rest of a comment that ends with the line. -/
def lineComment (cs : List Char) : Read :=
  .ok (none, (cs.dropWhile (· ≠ '\n')).drop 1)

/-- What follows the next closing mark of a block comment. -/
def afterBlock : List Char → Option (List Char)
  | '*' :: '/' :: cs => some cs
  | _ :: cs => afterBlock cs
  | [] => none

def blockComment (cs : List Char) : Read :=
  match afterBlock cs with
  | some rest => .ok (none, rest)
  | none => .error (.unterminatedComment, [])

/-- The exponent of a number: its text, and whether it holds digits. -/
def exponent : List Char → List Char × Bool
  | e :: cs =>
    if e = 'e' || e = 'E' then
      let (sign, digits) :=
        match cs with
        | s :: ds => if s = '+' || s = '-' then ([s], ds) else ([], cs)
        | [] => ([], [])
      let read := digits.takeWhile Char.isDigit
      (e :: sign ++ read, !read.isEmpty)
    else ([], false)
  | [] => ([], false)

/-- A number without exponent, or a word that starts with digits. -/
def numberOrWord (mantissa cs : List Char) : Read :=
  let tail := cs.takeWhile continuesWord
  if tail.isEmpty then .ok (some (.number (String.ofList mantissa) false), cs)
  else .ok (some (.word (String.ofList (mantissa ++ tail)) false), cs.dropWhile continuesWord)

/-- A number, whose exponent may be followed by an `L`. -/
def longNumber (digits cs : List Char) : Read :=
  match cs with
  | 'L' :: rest => .ok (some (.number (String.ofList digits) true), rest)
  | _ => .ok (some (.number (String.ofList digits) false), cs)

/-- A number, a period, a string of hexadecimal digits, or a word that starts with digits. An
exponent mark without digits is left to the next token, but keeps the number from becoming a
word. -/
def number (cs : List Char) : Read :=
  let whole := cs.takeWhile Char.isDigit
  let rest := cs.dropWhile Char.isDigit
  match whole, rest with
  -- Only a single zero can begin a string of hexadecimal digits.
  | ['0'], 'x' :: more =>
    .ok (some (.hex (String.ofList (more.takeWhile isHexDigit))), more.dropWhile isHexDigit)
  | _, _ =>
    let (mantissa, rest) :=
      match rest with
      | '.' :: more => (whole ++ '.' :: more.takeWhile Char.isDigit, more.dropWhile Char.isDigit)
      | _ => (whole, rest)
    -- A period without digits on either side is no number.
    if mantissa = ['.'] then .ok (some (.symbol "."), rest)
    else
      match exponent rest with
      | ([], _) => numberOrWord mantissa rest
      | (mark, true) => longNumber (mantissa ++ mark) (rest.drop mark.length)
      -- The exponent mark has no digits, so it is read again as something else.
      | (_, false) => longNumber mantissa rest

/-- What starts with the sign `@`, which has been read. -/
def atSign (cs : List Char) : Read :=
  match cs with
  | [] => .ok (some (.symbol "@"), [])
  | '>' :: rest => .ok (some (.symbol "@>"), rest)
  | '?' :: rest => .ok (some (.symbol "@?"), rest)
  | '@' :: rest =>
    match rest with
    | [] => .ok (some (.symbol "@@"), [])
    -- Two signs belong to a word, unless a blank or the end follows.
    | ' ' :: _ => .ok (some (.symbol "@@"), rest)
    | c :: more => word ['@', '@', c] more
  | c :: rest =>
    if c = ' ' || c = '\'' || c = '"' || c = '\x60' then .ok (some (.symbol "@"), cs)
    else word ['@', c] rest

/-! ## Symbols -/

/-- Operators of more than one character, longest first for each start. -/
def operators : List String :=
  ["->>", "->", "|/", "||/", "||", "=>", "==", "!=", "!!", "!~~*", "!~~", "!~*", "!~", "<=>", "<=",
   "<>", "<<", "<@", ">=", ">>", "::", ":=", "&&", "^@", "~~*", "~~", "~*"]

/-- Operators and punctuation marks of one character. -/
def marks : List Char :=
  ['(', ')', ',', '-', '/', '+', '*', '%', '|', '=', '!', '<', '>', ':', ';', '\\', '[', ']', '&',
   '^', '{', '}', '~']

/-- The symbol under which an operator is known; two spellings of "not equal" are one. -/
def symbolName (spelling : String) : String :=
  if spelling = "!=" then "<>" else spelling

/-- An operator, a blank, or a character without a role. -/
def symbol (c : Char) (cs : List Char) : Read :=
  match operators.find? fun op => op.toList.isPrefixOf (c :: cs) with
  | some op => .ok (some (.symbol (symbolName op)), cs.drop (op.length - 1))
  | none =>
    if marks.contains c then .ok (some (.symbol (String.singleton c)), cs)
    else if startsWord c then word [c] cs
    else if Text.isBlank c then .ok (none, cs)
    else .ok (some (.stray c), cs)

/-! ## The lexer -/

/-- A number, a word or a symbol. -/
def plain (c : Char) (cs : List Char) : Read :=
  if c.isDigit || c = '.' then number (c :: cs) else symbol c cs

/-- What starts with a letter that may mark the kind of the quoted text behind it. -/
def marked (c quote : Char) (cs : List Char) : Read :=
  if (c = 'b' || c = 'B') && (quote = '\'' || quote = '"') then text (.bits · quote) quote false cs
  else if (c = 'n' || c = 'N') && quote = '\'' then text .national '\'' true cs
  else if (c = 'x' || c = 'X') && quote = '\'' then text .hex '\'' true cs
  else plain c cs

/-- Reads one token, or skips one blank or comment, from the text `c :: cs`. -/
def step (c : Char) (cs : List Char) : Read :=
  match c, cs with
  | '\'', _ => text .single '\'' true (c :: cs)
  | '"', _ => text .double '"' true (c :: cs)
  | '\x60', _ => quotedIdentifier (c :: cs)
  | '@', _ => atSign cs
  | '?', _ =>
    .ok (some (.placeholder (String.ofList ('?' :: cs.takeWhile Text.isNumeral))),
      cs.dropWhile Text.isNumeral)
  | '#', _ => lineComment cs
  | '-', '-' :: rest => lineComment rest
  | '/', '*' :: rest => blockComment rest
  | _, quote :: _ => marked c quote cs
  | _, [] => plain c []

/-- The tokens of `cs`; `fuel` bounds their number. -/
def run : (fuel : Nat) → List Char → Except (LexFault × List Char) (List Token)
  | _, [] => .ok []
  | 0, _ => .ok []
  | fuel + 1, c :: cs =>
    match step c cs with
    | .error e => .error e
    | .ok (none, rest) => run fuel rest
    | .ok (some t, rest) => (run fuel rest).map (t :: ·)

end Lexer

/-- The tokens of a text, in order, without blanks and comments. -/
def tokens (sql : String) : Except LexError (List Token) :=
  let cs := sql.toList
  match Lexer.run cs.length cs with
  | .ok ts => .ok ts
  | .error (fault, ahead) => .error ⟨fault, .after (cs.take (cs.length - ahead.length))⟩

end ChangeFeed.Sql
