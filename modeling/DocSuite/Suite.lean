import DocSuite.Text.Quoted
import DocSuite.Settings.Basic
/-!
# Suites

The text appended to a source: one `describe` registration holding a `test` registration
per example, in example order, inside a function that runs at once, after pragmas that keep
coverage and lint tools away. Names are written as quoted strings. A source without
examples gets no suite at all.
-/

namespace DocSuite

open DocSuite.Text

/-- One synthesized test case: the index of its example and the code of its body. -/
structure TestCase where
  id : Nat
  body : String
  deriving DecidableEq, Repr, Inhabited

/-- The binding placed before an isolated example so that `module.exports` and compiled
`export` statements run inside a test body. -/
def exportPlaceholder : String := "const module = \x7b exports: \x7b\x7d \x7d;"

/-- The pragmas that keep coverage and lint tools out of the generated block. -/
def toolingPragmas : String := "/* istanbul ignore next */\n/* eslint-disable */"

/-- The text every suite named `name` starts with. -/
def suiteMarker (name : String) : String := "describe(" ++ quote name

/-- The name under which example `index` of `filename` is compiled on its own. -/
def exampleFilename (filename : String) (index : Nat) : String :=
  filename ++ "#comment-test-case-" ++ toString index

namespace SynthesisConfig

/-- The name of the test case of example `id`. -/
def caseName (c : SynthesisConfig) (id : Nat) : String := c.casePrefix ++ toString id

/-- The registration of one test case. -/
def renderCase (c : SynthesisConfig) (t : TestCase) : String :=
  "test(" ++ quote (c.caseName t.id) ++ ", async () => \x7b\n" ++ t.body ++ "\n\x7d);"

/-- The suite of a list of test cases, or none for an empty list. -/
def renderSuite (c : SynthesisConfig) : List TestCase → Option String
  | [] => none
  | cases =>
    some (";" ++ toolingPragmas ++ "\n(() => \x7b\n" ++ suiteMarker c.suiteName ++
      ", () => \x7b\n" ++ "\n".intercalate (cases.map c.renderCase) ++ "\n\x7d);\n\x7d)();\n")

end SynthesisConfig

/-- A source followed by its suite on a new line, or the source alone. -/
def attachSuite (source : String) : Option String → String
  | some suite => source ++ "\n" ++ suite
  | none => source

end DocSuite
