import DocSuite.Path
import DocSuite.Text.Lowercase
/-!
# Dialects

A source is read as JavaScript, TypeScript or TSX, chosen by the extension of its file
name, compared with each dialect's extensions after lower-casing it. Unknown or missing
extensions fall back to TSX, the widest of the three.
-/

namespace DocSuite

/-- The three languages a source can be read in. -/
inductive Dialect where
  | javaScript
  | typeScript
  | tsx
  deriving DecidableEq, Repr, Inhabited

namespace Dialect

/-- The display name of a dialect. -/
def name : Dialect → String
  | .javaScript => "JavaScript"
  | .typeScript => "TypeScript"
  | .tsx => "TSX"

/-- The file extensions of a dialect, in their usual order. -/
def extensions : Dialect → List String
  | .javaScript => ["js", "jsx", "mjs", "cjs"]
  | .typeScript => ["ts", "mts", "cts"]
  | .tsx => ["tsx"]

/-- Reads a dialect from its display name. -/
def ofName? : String → Option Dialect
  | "JavaScript" => some .javaScript
  | "TypeScript" => some .typeScript
  | "TSX" => some .tsx
  | _ => none

/-- The dialect one of whose extensions is the lower case of `ext`. -/
def ofExtension? (ext : String) : Option Dialect :=
  match Text.lowercase ext with
  | "js" | "jsx" | "mjs" | "cjs" => some .javaScript
  | "ts" | "mts" | "cts" => some .typeScript
  | "tsx" => some .tsx
  | _ => none

/-- The dialect of a file, by its extension, falling back to TSX. -/
def ofFilename (filename : String) : Dialect :=
  ((pathExtension? filename).bind ofExtension?).getD .tsx

end Dialect

end DocSuite
