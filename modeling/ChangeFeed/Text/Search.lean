/-!
# Text: Search

Whether a text contains another one.
-/

namespace ChangeFeed.Text

/-- The characters of `part` stand somewhere among those of the second list, one behind the
other. -/
def occursIn (part : List Char) : List Char → Bool
  | [] => part.isEmpty
  | c :: cs => part.isPrefixOf (c :: cs) || occursIn part cs

def mentions (text part : String) : Bool := occursIn part.toList text.toList

end ChangeFeed.Text
