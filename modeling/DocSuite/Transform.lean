import DocSuite.Comment
import DocSuite.Example
import DocSuite.Dialect
import DocSuite.Suite
import DocSuite.Backend.Basic
/-!
# Transforming a source

A `Transformer` turns one source into a compiled unit in four steps: read the block
comments (`examples`), turn each example into a test case (`synthesize`), append the suite
of those cases to the source (`combine`) and compile the result (`process`).

Under the isolated strategy an example whose syntax needs isolation is compiled on its own
first, as CommonJS without a map, and its test body is the compiled code; other examples,
and all examples under the inline strategy, are embedded as written. The examples are
treated in order and the first failing request ends the run, so the log holds exactly the
requests up to and including the failing one.
-/

namespace DocSuite

/-- Everything a transformation needs: its settings, how comments are read, how examples
are classified, and the compiler backend.

Classifying an example always gives a syntax. Classification builds a parser for the dialect
and parses the example. Building the parser fails only when a grammar's version does not match
the parser's, which cannot happen with the grammars the program is built with. Parsing fails
only when it is cancelled or timed out, and neither is ever asked for. -/
structure Transformer where
  settings : Settings
  scanner : Scanner Error
  syntaxOf : Dialect → String → ExampleSyntax
  backend : Backend

namespace Transformer

/-- The examples of a source, numbered in document order. -/
def examples (t : Transformer) (source filename : String) : Except Error (List Example) := do
  let records ← t.scanner filename source
  pure (examplesOf (blockTexts records))

/-- The request that compiles example `e` of `filename` on its own. -/
def exampleRequest (t : Transformer) (filename : String) (e : Example) : CompileRequest :=
  ((CompileRequest.ofConfig t.settings.backend (exampleFilename filename e.index) e.text).withFormat
    .cjs).withSourceMap .none

/-- The test case of one example. -/
def caseOf (t : Transformer) (filename : String) (e : Example) : Session TestCase :=
  match t.settings.synthesis.strategy with
  | .inline => pure ⟨e.index, e.text⟩
  | .isolated => do
    let code ←
      if (t.syntaxOf (Dialect.ofFilename filename) e.text).needsIsolation then
        (·.code) <$> t.backend.request (t.exampleRequest filename e)
      else pure e.text
    let body :=
      if t.settings.synthesis.exportPlaceholder then exportPlaceholder ++ "\n" ++ code else code
    pure ⟨e.index, body⟩

/-- The test cases of a list of examples, in order; the first failure ends the run. -/
def synthesize (t : Transformer) (filename : String) (es : List Example) :
    Session (List TestCase) :=
  es.mapM (t.caseOf filename)

/-- The source with the suite of its examples appended, or the source alone when it has no
examples. -/
def combine (t : Transformer) (source filename : String) : Session String := do
  let es ← (match t.examples source filename with
    | .ok es => pure es
    | .error e => throw e : Session (List Example))
  if es.isEmpty then pure source
  else
    let cases ← t.synthesize filename es
    pure (attachSuite source (t.settings.synthesis.renderSuite cases))

/-- The compiled unit of a source: its combined text compiled as the settings say. -/
def process (t : Transformer) (source filename : String) : Session Artifact := do
  let combined ← t.combine source filename
  t.backend.request (CompileRequest.ofConfig t.settings.backend filename combined)

end Transformer

end DocSuite
