import DocSuite.Error
import DocSuite.SourceMap.Basic
import DocSuite.Backend.Request
/-!
# Backends and sessions

A backend answers a compile request with an artifact or an error. A `Session` runs
requests against backends and keeps the log of every request made, in order, also when a
request fails: the log is the state, failure the exception above it.
-/

namespace DocSuite

/-- A compiler backend. -/
structure Backend where
  /-- A short name for logs. -/
  name : String
  /-- How the backend answers one request. -/
  compile : CompileRequest → Except Error Artifact

/-- A run of requests: fails with an `Error`, and keeps the requests made so far. -/
abbrev Session := ExceptT Error (StateM (List CompileRequest))

namespace Session

/-- Runs a session from an empty log: the outcome and the requests made. -/
def run {α : Type} (s : Session α) : Except Error α × List CompileRequest :=
  (ExceptT.run s).run []

/-- Runs a session after the requests `log`: the outcome and the whole log. -/
def runAfter {α : Type} (log : List CompileRequest) (s : Session α) :
    Except Error α × List CompileRequest :=
  (ExceptT.run s).run log

end Session

namespace Backend

/-- Sends one request: it joins the log first, then the backend answers it. -/
def request (b : Backend) (r : CompileRequest) : Session Artifact := do
  modify (· ++ [r])
  match b.compile r with
  | .ok a => pure a
  | .error e => throw e

end Backend

end DocSuite
