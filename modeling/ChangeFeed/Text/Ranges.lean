/-!
# Text: Character ranges

A property of characters is stored as the list of the code point ranges that have it.
-/

namespace ChangeFeed.Text

/-- Inclusive code point ranges, in increasing order. -/
abbrev Ranges := List (Nat × Nat)

def Ranges.has (ranges : Ranges) (c : Char) : Bool :=
  ranges.any fun range => range.1 ≤ c.toNat && c.toNat ≤ range.2

end ChangeFeed.Text
