/-!
# Comment records

What a comment scanner reports for each comment of a source: its kind, its text without
the delimiters (`/*` and a closing `*/`, or `//`), and where it stands. Lines and columns
are 1-based, columns count bytes, and byte offsets index the UTF-8 text.
-/

namespace DocSuite

/-- The two kinds of comment. -/
inductive CommentKind where
  | block
  | line
  deriving DecidableEq, Repr, Inhabited

/-- The name of a comment kind. -/
def CommentKind.name : CommentKind → String
  | .block => "Block"
  | .line => "Line"

/-- Where a piece of text stands: byte offsets, and 1-based lines and byte columns of both
ends. -/
structure SourceRange where
  startByte : Nat
  endByte : Nat
  startLine : Nat
  startColumn : Nat
  endLine : Nat
  endColumn : Nat
  deriving DecidableEq, Repr, Inhabited

/-- One comment of a source. -/
structure CommentRecord where
  rawValue : String
  kind : CommentKind
  range : SourceRange
  deriving DecidableEq, Repr, Inhabited

/-- A comment scanner: reads the comments of a source given its file name, or fails with
the reason the source could not be read. -/
abbrev Scanner (ε : Type) := String → String → Except ε (List CommentRecord)

/-- The texts of the block comments among the records, in order. -/
def blockTexts (records : List CommentRecord) : List String :=
  (records.filter (·.kind == .block)).map (·.rawValue)

end DocSuite
