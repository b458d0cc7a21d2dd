import DocSuite.Backend.Request
/-!
# Settings

The settings of a transformation, in three tables: how the compiler is run (`backend`), how
examples become test cases (`synthesis`) and how much is logged (`logging`), beside a
schema version. Every field has a default, and `CompileRequest.ofConfig` builds the
request for a text from the backend table.
-/

namespace DocSuite

/-- How an example ends up in its test body. -/
inductive Strategy where
  /-- The example text is pasted as written. -/
  | inline
  /-- Examples with module syntax are compiled on their own first. -/
  | isolated
  deriving DecidableEq, Repr, Inhabited

namespace Strategy

/-- The lower-case name of a strategy. -/
def name : Strategy → String
  | .inline => "inline"
  | .isolated => "isolated"

/-- Reads a strategy from its lower-case name. -/
def ofName? : String → Option Strategy
  | "inline" => some .inline
  | "isolated" => some .isolated
  | _ => none

end Strategy

/-- How the compiler is run. -/
structure BackendConfig where
  program : String := "esbuild"
  target : String := "node20"
  platform : String := "node"
  format : OutputFormat := .cjs
  loader : String := "tsx"
  sourceMap : SourceMapMode := .both
  deriving DecidableEq, Repr, Inhabited

/-- How examples become test cases. -/
structure SynthesisConfig where
  strategy : Strategy := .isolated
  suiteName : String := "comment-test-cases"
  casePrefix : String := "comment-test-case #"
  exportPlaceholder : Bool := true
  deriving DecidableEq, Repr, Inhabited

/-- How much is logged. -/
structure LoggingConfig where
  level : String := "warn"
  deriving DecidableEq, Repr, Inhabited

/-- All settings of a transformation. -/
structure Settings where
  version : Nat := 1
  backend : BackendConfig := {}
  synthesis : SynthesisConfig := {}
  logging : LoggingConfig := {}
  deriving DecidableEq, Repr, Inhabited

namespace CompileRequest

/-- The request for compiling `entryText` under `filename` as the backend settings say:
bundled, every import external. -/
def ofConfig (c : BackendConfig) (filename entryText : String) : CompileRequest where
  filename := filename
  entryText := entryText
  loader := c.loader
  target := c.target
  platform := c.platform
  bundle := true
  format := c.format
  external := ["*"]
  sourceMap := c.sourceMap

end CompileRequest

end DocSuite
