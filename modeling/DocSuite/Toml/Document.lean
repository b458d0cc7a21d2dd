import DocSuite.Toml.Inline
/-!
# Documents

A document is read line by line: blank lines, comments, table headers `[key]` and
`[[key]]`, and key-value pairs, each header and pair alone on its line apart from a
comment. Pairs go to the table of the last header, or to the root before the first. A byte
order mark may open the document.

`parse` yields the root table, or a `ParseError`: the character index and message of the
first failure. `ParseError.report` lays it out with the line it stands on.
-/

namespace DocSuite.Toml

open Reader

/-- Reads a key-value pair and the rest of its line. -/
def pair : Reader (List String × Value) := do
  let k ← boundedKey
  commit do
    keySeparator
    blanks
    let v ← value (nestingLimit - 1)
    lineRestExpected
    pure (k, v)

/-- Reads a pair line and places the pair. -/
def pairLine (a : Assembly) : Reader Assembly := do
  let start ← get
  let (k, v) ← pair
  match a.addPair k v with
  | .ok a => pure a
  | .error c => throw { pos := start, cause := some c.message }

/-- Reads a header's key, its closing bracket and the rest of its line. -/
def headerRest (close : String) : Reader (List String) := do
  let path ← commit boundedKey
  expecting (.literal close) (expecting (.char '.') (commit (literal close)))
  commit lineRestExpected
  pure path

/-- Reads a table header line and opens its table. -/
def headerLine (a : Assembly) : Reader Assembly := label "table header" do
  let start ← get
  let input ← read
  let opened ← if input[start + 1]? == some '[' then do
      literal "[["
      let path ← headerRest "]]"
      pure (a.openArrayTable path)
    else do
      char '['
      let path ← headerRest "]"
      pure (a.openTable path)
  match opened with
  | .ok a => pure a
  | .error c => throw { pos := start, cause := some c.message }

/-- Reads one line's item, told by its first character. -/
def lineItem (a : Assembly) : Reader Assembly := do
  match ← peek with
  | some '#' => commit (do comment; lineEnd; pure a)
  | some '[' => commit (headerLine a)
  | some '\n' => do lineBreak; pure a
  | some '\r' => do lineBreak; pure a
  | some _ => commit (pairLine a)
  | none => failHere

/-- Reads line items with the blanks after each, at most `fuel` of them. -/
def lineItems : Nat → Assembly → Reader Assembly
  | 0, a => pure a
  | fuel + 1, a => do
    match ← attempt (do let a ← lineItem a; blanks; pure a) with
    | some a => lineItems fuel a
    | none => pure a

/-- Reads a whole document into an assembly. -/
def document : Reader Assembly := do
  discard (attempt (char '\uFEFF'))
  blanks
  let a ← lineItems (← roundsLeft) {}
  eof
  pure a

/-- The first failure of a document: its character index and message. -/
structure ParseError where
  pos : Nat
  message : String
  deriving DecidableEq, Repr, Inhabited

/-- Reads a document to its root table. -/
def parse (text : String) : Except ParseError (List (String × Value)) :=
  match document.runOn text.toList.toArray with
  | .ok a =>
    match a.root.toValue with
    | .table es => .ok es
    | _ => .ok []
  | .error f => .error ⟨f.pos, f.message⟩

/-- The report of a document's failure, as `report` lays it out. -/
def ParseError.report (text : String) (e : ParseError) : String := Toml.report text e.pos e.message

end DocSuite.Toml
