/-!
# Blank characters

The Unicode `White_Space` class, the blanks of trimming, of the tag-name split and of the
`\s` pattern class, and trimming by it.
-/

namespace DocSuite.Text

/-- The Unicode `White_Space` property: tab to carriage return, space, next line, no-break
space, ogham space, the general-punctuation spaces, the line and paragraph separators,
narrow no-break space, medium mathematical space and ideographic space. -/
def isBlank (c : Char) : Bool :=
  let n := c.toNat
  (0x9 ≤ n && n ≤ 0xD) || n == 0x20 || n == 0x85 || n == 0xA0 || n == 0x1680 ||
    (0x2000 ≤ n && n ≤ 0x200A) || n == 0x2028 || n == 0x2029 || n == 0x202F ||
    n == 0x205F || n == 0x3000

/-- Drops the blanks at the front of a list of characters. -/
def dropBlanks (cs : List Char) : List Char := cs.dropWhile isBlank

/-- Removes blanks at both ends of a text. -/
def trimBlanks (s : String) : String :=
  String.ofList ((dropBlanks (dropBlanks s.toList).reverse).reverse)

/-- Removes blanks at the front of a text. -/
def trimBlanksStart (s : String) : String := String.ofList (dropBlanks s.toList)

end DocSuite.Text
