/-!
# Paths

Paths have `/` between their components. Separators repeat freely, so the empty pieces
between them name nothing, and a `.` component stands for the directory it is in. The file
name of a path is its last component that names something, unless that is `..`; the
extension of a file name is the text after its last dot, unless the name has no dot, or its
only dot is its first character (a hidden file such as `.ts`), or it is `..`.
-/

namespace DocSuite

/-- The components of a path that name something: the pieces between its separators, less
the empty ones and `.`. -/
def pathComponents (path : String) : List String :=
  ((path.toList.splitOn '/').map String.ofList).filter fun c => c != "" && c != "."

/-- The last component of a path that names something, unless it is `..`. -/
def pathFileName? (path : String) : Option String :=
  match (pathComponents path).getLast? with
  | some ".." => none
  | some p => some p
  | none => none

/-- The extension of a file name: the text after its last dot, unless that dot is the
first character or there is no dot; `..` has none. -/
def fileExtension? (name : String) : Option String :=
  if name == ".." then none
  else
    match (name.toList.splitOn '.').reverse with
    | after :: before :: more =>
      if more.isEmpty && before.isEmpty then none else some (String.ofList after)
    | _ => none

/-- The extension of the last component of a path. -/
def pathExtension? (path : String) : Option String :=
  (pathFileName? path).bind fileExtension?

end DocSuite
