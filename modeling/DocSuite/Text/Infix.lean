/-!
# Text containment

Whether one text occurs inside another, as a run of consecutive characters. The empty text
occurs in every text.
-/

namespace DocSuite.Text

/-- Whether `needle` is a prefix of some suffix of `hay`. -/
def occursIn (needle : List Char) : List Char → Bool
  | [] => needle.isEmpty
  | c :: rest => needle.isPrefixOf (c :: rest) || occursIn needle rest

/-- Whether `needle` occurs in `hay`. -/
def containsText (hay needle : String) : Bool := occursIn needle.toList hay.toList

end DocSuite.Text
