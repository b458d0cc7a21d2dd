import DocSuite.Fence
import DocSuite.DocComment
/-!
# Examples

An example is one fenced block of a documentation comment, numbered in document order:
comments in source order, in each the description before the tags, tags in order, blocks in
order of appearance. The number is global, so it is also the example's position in the list
of all examples of a source.

An example's syntax decides how it is embedded: a script runs as written, while a module
(top-level `import` or `export`) or a text the grammar cannot read is compiled on its own.
-/

namespace DocSuite

/-- One fenced example and its number. -/
structure Example where
  text : String
  index : Nat
  deriving DecidableEq, Repr, Inhabited

/-- The fenced blocks of one block comment's text, over all its texts in order. -/
def commentBlocks (raw : String) : List String :=
  (DocComment.parse raw).texts.flatMap codeBlocks

/-- The examples of a list of block comment texts, numbered from 0 in order. -/
def examplesOf (raws : List String) : List Example :=
  ((raws.flatMap commentBlocks).zipIdx).map fun (text, index) => ⟨text, index⟩

/-- How an example reads under the grammar of its source. -/
inductive ExampleSyntax where
  /-- Plain statements: embedded as written. -/
  | script
  /-- A top-level `import` or `export`: compiled on its own. -/
  | module
  /-- Not readable by the grammar: compiled on its own, so the compiler reports it. -/
  | unparsed
  deriving DecidableEq, Repr, Inhabited

namespace ExampleSyntax

/-- The name of a syntax class. -/
def name : ExampleSyntax → String
  | .script => "Script"
  | .module => "Module"
  | .unparsed => "Unparsed"

/-- Whether an example of this syntax is compiled on its own. -/
def needsIsolation : ExampleSyntax → Bool
  | .script => false
  | _ => true

end ExampleSyntax

end DocSuite
