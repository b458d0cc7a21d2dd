import DocSuite.Toml.Value
import DocSuite.Toml.Writer
/-!
# Assembling tables

Key-value pairs and table headers build a tree of tables. A table made only on the way to a
longer key is *implicit*; one made by a dotted key is *dotted*. A dotted key may pass
through implicit tables, and through the last table of an array of tables, but not through a
table a header defined, nor through a value; a header may define an implicit table that no
dotted key made, once. Each refusal is a `Conflict`.

`Node.reach` walks a path from a table, making the implicit tables that are missing, and
rewrites the table at its end; every assembly step is one such walk.
-/

namespace DocSuite.Toml

/-- A table tree under assembly. -/
inductive Node where
  /-- A value; an inline table is a value too. -/
  | leaf (v : Value)
  /-- A table with its entries, whether it is implicit, and whether it is dotted. -/
  | table (entries : List (String × Node)) (implicit dotted : Bool)
  /-- An array of tables, each a `table` node; keys below it go to the last one. -/
  | tables (items : List Node)
  deriving Repr, Inhabited

/-- Why a pair or a header cannot be placed. -/
inductive Conflict where
  /-- Key `key`, as the message shows it, is already taken, in the table at path `table`
  when it is known. -/
  | duplicateKey (key : String) (table : Option (List String))
  /-- The dotted key `path` runs into a value of type `typeName`. -/
  | extendsValue (path : List String) (typeName : String)
  deriving DecidableEq, Repr, Inhabited

/-- Keys joined by dots. -/
def dotted (path : List String) : String := ".".intercalate path

namespace Conflict

/-- The message of a conflict. -/
def message : Conflict → String
  | .duplicateKey k none => "duplicate key `" ++ k ++ "`"
  | .duplicateKey k (some []) => "duplicate key `" ++ k ++ "` in document root"
  | .duplicateKey k (some t) => "duplicate key `" ++ k ++ "` in table `" ++ dotted t ++ "`"
  | .extendsValue p t =>
    "dotted key `" ++ dotted p ++ "` attempted to extend non-table type (" ++ t ++ ")"

end Conflict

namespace Node

/-- The empty table a walk makes where a key is missing. -/
def implicitTable (dotted : Bool) : Node := .table [] true dotted

/-- Walks from table `n` along the keys `rest`, the part of `path` from index `i` on, and
rewrites the table at the end with `f`. Missing keys get implicit tables, dotted when the
walk is for a dotted key. A value on the way is refused, except that when `inlineTables`
holds an inline table counts as a table a header defined. -/
def reach (inlineTables dotted : Bool) (path : List String) (f : Node → Except Conflict Node) :
    List String → Nat → Node → Except Conflict Node
  | [], _, n => f n
  | k :: rest, i, .table es imp dot => do
    let child := (lookup k es).getD (implicitTable dotted)
    let child ← match child with
      | .leaf v =>
        match v, inlineTables with
        | .table _, true => throw (.duplicateKey k none)
        | _, _ => throw (.extendsValue (path.take (i + 1)) v.typeName)
      | .tables items =>
        match items.reverse with
        | last :: earlier => do
          let last ← reach inlineTables dotted path f rest (i + 1) last
          pure (.tables (earlier.reverse ++ [last]))
        | [] => pure (.tables [])
      | .table ces cimp cdot =>
        if dotted && !cimp then throw (.duplicateKey k none)
        else reach inlineTables dotted path f rest (i + 1) (.table ces cimp cdot)
    pure (.table (upsert k child es) imp dot)
  | _ :: _, _, n => f n

/-- Places value `v` under key `k` of a table reached by the dotted keys `pfx`: refused when
the key is taken (`taken` says how to report it) and when the table's kind does not match
the key, a dotted table for a plain key or a plain one for a dotted key. -/
def place (pfx : List String) (k : String) (v : Value) (taken : Conflict) :
    Node → Except Conflict Node
  | .table es imp dot =>
    if dot == pfx.isEmpty then throw (.duplicateKey k none)
    else if es.any (·.1 == k) then throw taken
    else pure (.table (es ++ [(k, .leaf v)]) imp dot)
  | n => pure n

mutual
/-- The value a finished tree stands for. -/
def toValue : Node → Value
  | .leaf v => v
  | .table es _ _ => .table (entriesToValue es)
  | .tables items => .array (itemsToValue items)

/-- The values of the entries of a finished table. -/
def entriesToValue : List (String × Node) → List (String × Value)
  | [] => []
  | (k, n) :: rest => (k, toValue n) :: entriesToValue rest

/-- The values of the tables of a finished array of tables. -/
def itemsToValue : List Node → List Value
  | [] => []
  | n :: rest => toValue n :: itemsToValue rest
end

end Node

/-- The keys before the last of a non-empty key path, and the last. -/
def splitLast (path : List String) : List String × String :=
  match path.reverse with
  | k :: earlier => (earlier.reverse, k)
  | [] => ([], "")

/-- The inline table that pairs written between braces make, in their order. -/
def inlineTableOf (pairs : List (List String × Value)) : Except Conflict (List (String × Value)) := do
  let root ← pairs.foldlM (fun root (path, v) =>
    let (pfx, k) := splitLast path
    root.reach true true pfx (Node.place pfx k v (.duplicateKey k none)) pfx 0)
    (Node.table [] false false)
  match root.toValue with
  | .table es => pure es
  | _ => pure []

/-- A document under assembly: the root table and the path of the table that pairs go to. -/
structure Assembly where
  root : Node := .table [] false false
  current : List String := []
  deriving Inhabited

namespace Assembly

/-- Rewrites the current table with `f`. -/
def atCurrent (a : Assembly) (f : Node → Except Conflict Node) : Except Conflict Assembly := do
  let root ← a.root.reach false false a.current f a.current 0
  pure { a with root }

/-- Places a pair with key path `path` in the current table. -/
def addPair (a : Assembly) (path : List String) (v : Value) : Except Conflict Assembly :=
  let (pfx, k) := splitLast path
  a.atCurrent fun t =>
    t.reach false true pfx (Node.place pfx k v (.duplicateKey k (some a.current))) pfx 0

/-- Opens the table of header `[path]`: new, or implicit and made by no dotted key. -/
def openTable (a : Assembly) (path : List String) : Except Conflict Assembly := do
  let (parent, k) := splitLast path
  let root ← a.root.reach false false parent (fun
    | .table es imp dot =>
      match lookup k es with
      | some (.table ces true false) => pure (.table (upsert k (.table ces false false) es) imp dot)
      | some _ => throw (.duplicateKey (keyRepr k) (some parent))
      | none => pure (.table (es ++ [(k, .table [] false false)]) imp dot)
    | n => pure n) parent 0
  pure { root, current := path }

/-- Opens a new last table of the array of tables of header `[[path]]`. -/
def openArrayTable (a : Assembly) (path : List String) : Except Conflict Assembly := do
  let (parent, k) := splitLast path
  let root ← a.root.reach false false parent (fun
    | .table es imp dot =>
      match lookup k es with
      | some (.tables items) => pure (.table (upsert k (.tables (items ++ [.table [] false false])) es) imp dot)
      | some _ => throw (.duplicateKey (keyRepr k) (some parent))
      | none => pure (.table (es ++ [(k, .tables [.table [] false false])]) imp dot)
    | n => pure n) parent 0
  pure { root, current := path }

end Assembly

end DocSuite.Toml
