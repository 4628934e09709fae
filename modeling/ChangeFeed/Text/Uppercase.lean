/-!
# Text: Upper case for keyword comparison

Keywords are written in ASCII letters. A text matches a keyword when its full Unicode upper-case
form does, and only a few characters outside ASCII have an upper-case form made of ASCII letters
alone; every other one keeps its distance from every keyword. So it is enough to map those.
-/

namespace ChangeFeed.Text

/-- The upper-case form of a character as far as it consists of ASCII letters. -/
def uppercaseOf (c : Char) : List Char :=
  match c.toNat with
  | 0xdf => ['S', 'S']
  | 0x131 => ['I']
  | 0x17f => ['S']
  | 0xfb00 => ['F', 'F']
  | 0xfb01 => ['F', 'I']
  | 0xfb02 => ['F', 'L']
  | 0xfb03 => ['F', 'F', 'I']
  | 0xfb04 => ['F', 'F', 'L']
  | 0xfb05 => ['S', 'T']
  | 0xfb06 => ['S', 'T']
  | _ => [c.toUpper]

/-- The form of a text that is compared with keywords. -/
def uppercase (s : String) : String :=
  String.ofList (s.toList.flatMap uppercaseOf)

end ChangeFeed.Text
