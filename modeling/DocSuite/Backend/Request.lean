/-!
# Compile requests

What a compiler backend is asked to do: compile one entry text under a name, with a loader,
target, platform and module format, bundling with every import left external, and with a
choice of where the source map goes. Requests are built from the backend settings and then
adjusted per use (an example is always compiled to CommonJS without a map).
-/

namespace DocSuite

/-- The module format of a compiled unit. -/
inductive OutputFormat where
  | cjs
  | esm
  | iife
  deriving DecidableEq, Repr, Inhabited

namespace OutputFormat

/-- The lower-case name of a format. -/
def name : OutputFormat → String
  | .cjs => "cjs"
  | .esm => "esm"
  | .iife => "iife"

/-- All formats, in their usual order. -/
def all : List OutputFormat := [.cjs, .esm, .iife]

/-- Reads a format from its lower-case name. -/
def ofName? (s : String) : Option OutputFormat := all.find? (·.name == s)

end OutputFormat

/-- Where the source map of a compiled unit goes. -/
inductive SourceMapMode where
  /-- No map. -/
  | none
  /-- Embedded in the code as a data URL. -/
  | inline
  /-- Returned beside the code. -/
  | external
  /-- Embedded and returned. -/
  | both
  deriving DecidableEq, Repr, Inhabited

namespace SourceMapMode

/-- The lower-case name of a mode. -/
def name : SourceMapMode → String
  | .none => "none"
  | .inline => "inline"
  | .external => "external"
  | .both => "both"

/-- All modes, in their usual order. -/
def all : List SourceMapMode := [.none, .inline, .external, .both]

/-- Reads a mode from its lower-case name. -/
def ofName? (s : String) : Option SourceMapMode := all.find? (·.name == s)

/-- Whether the backend hands back a map as a value. -/
def returnsMap : SourceMapMode → Bool
  | .external | .both => true
  | _ => false

end SourceMapMode

/-- One request to a compiler backend. -/
structure CompileRequest where
  filename : String
  entryText : String
  loader : String
  target : String
  platform : String
  bundle : Bool
  format : OutputFormat
  external : List String
  sourceMap : SourceMapMode
  deriving DecidableEq, Repr, Inhabited

namespace CompileRequest

/-- The same request with another source map mode. -/
def withSourceMap (r : CompileRequest) (m : SourceMapMode) : CompileRequest :=
  { r with sourceMap := m }

/-- The same request with another module format. -/
def withFormat (r : CompileRequest) (f : OutputFormat) : CompileRequest :=
  { r with format := f }

end CompileRequest

end DocSuite
