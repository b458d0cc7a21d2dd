/-!
# Lines of a text

A text is cut into lines at its newline characters and nowhere else: a carriage return stays
part of its line. A text with `n` newlines has `n + 1` lines, so the empty text has one empty
line and a text that ends with a newline has an empty last line.
-/

namespace DocSuite

/-- The lines of a text: the pieces between its newline characters, so a text with `n`
newlines has `n + 1` lines, the last one empty when the text ends with a newline. -/
def splitLines (text : String) : List String := (text.toList.splitOn '\n').map String.ofList

/-- A line without the carriage return that ends it, if one does. -/
def dropReturn (line : String) : String :=
  if line.toList.getLast? = some '\r' then String.ofList line.toList.dropLast else line

end DocSuite
