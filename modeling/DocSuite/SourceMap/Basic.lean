/-!
# Source maps

A version 3 source map: the version, an optional output file name and source root, the
source names, optionally their contents (each present or null), the symbol names and the
encoded mappings.
-/

namespace DocSuite

/-- A version 3 source map. -/
structure SourceMap where
  version : Nat
  file : Option String := none
  sourceRoot : Option String := none
  sources : List String := []
  sourcesContent : Option (List (Option String)) := none
  names : List String := []
  mappings : String := ""
  deriving DecidableEq, Repr, Inhabited

/-- What a compilation yields: the code and, when the mode returns one, its map. -/
structure Artifact where
  code : String
  sourceMap : Option SourceMap
  deriving DecidableEq, Repr, Inhabited

end DocSuite
