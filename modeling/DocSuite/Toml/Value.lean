import DocSuite.Number.Shortest
/-!
# TOML values

The values a TOML document holds: strings, 64-bit integers, floats, booleans, date-times,
arrays and tables. A float is the binary value its text rounds to (`Binary`). A table keeps
its entries in the order they were read.
-/

namespace DocSuite.Toml

/-- A float: a finite binary value, an infinity or not a number, each with a sign. -/
inductive FloatValue where
  | finite (x : Binary)
  | infinite (negative : Bool)
  | nan (negative : Bool)
  deriving DecidableEq, Repr, Inhabited

namespace FloatValue

/-- How a float's text lays out its shortest decimal: positional always, a whole number
without a point. -/
def layout : Layout where
  plain := none
  pointZero := false
  expPlus := false
  expWidth := 1

/-- The text of a float: its shortest decimal, positional, with a minus sign for a negative
number, zero included (of two equally short decimals equally near, the one further from
zero); `inf` and `-inf`; `NaN` whatever its sign. -/
def text : FloatValue → String
  | .finite x => (x.shortest .up).render layout
  | .infinite negative => if negative then "-inf" else "inf"
  | .nan _ => "NaN"

end FloatValue

/-- A TOML value. Tables, inline or not, are lists of entries with distinct keys. -/
inductive Value where
  | string (s : String)
  | integer (i : Int)
  | float (f : FloatValue)
  | boolean (b : Bool)
  | datetime (text : String)
  | array (items : List Value)
  | table (entries : List (String × Value))
  deriving Repr, Inhabited

namespace Value

/-- The name of a value's type in assembly errors; a table that is a value was written
inline. -/
def typeName : Value → String
  | .string _ => "string"
  | .integer _ => "integer"
  | .float _ => "float"
  | .boolean _ => "boolean"
  | .datetime _ => "datetime"
  | .array _ => "array"
  | .table _ => "inline table"

end Value

/-- The value of key `k` among entries. -/
def lookup {α : Type} (k : String) (entries : List (String × α)) : Option α :=
  (entries.find? (·.1 == k)).map (·.2)

/-- The entries with key `k` set to `v`: in place when present, last otherwise. -/
def upsert {α : Type} (k : String) (v : α) (entries : List (String × α)) : List (String × α) :=
  if entries.any (·.1 == k) then entries.map fun e => if e.1 == k then (k, v) else e
  else entries ++ [(k, v)]

end DocSuite.Toml
