import DocSuite.Settings.Decode
import DocSuite.Toml.Document
import DocSuite.Toml.Writer
import DocSuite.Error
/-!
# Settings as TOML text

Settings are read from a TOML document in layers: the defaults, written as a table, then the
document's root table merged over them, and the settings are read from the merged table
(`Settings.readWith`). They are written as the table of all their fields
(`Settings.toTable`), laid out by the TOML library's writer (`Settings.writeWith`). A document
that does not parse, or a value of the wrong kind, is a configuration error whose message ends
by naming the source, `TOML source string`.

The TOML library and the merge of layers are parameters. `TomlLibrary` holds a writer and a
reader, and what reading settings back takes from them is stated beside it: the reader gives
back every two-level table the writer writes (`TomlLibrary.ReadsBack`). A `TableMerge` merges
an incoming table over a base, and `MergesKeyByKey` says it does so key by key.
`TomlLibrary.builtin` and `mergeTables` are the library and the merge settings run with
(`Settings.ofToml`, `Settings.toToml`).
-/

namespace DocSuite

open Toml

/-! ## The TOML library -/

/-- What settings take from a TOML library: a writer of a root table as a document, which may
refuse a table, and a reader of a document to its root table. -/
structure TomlLibrary where
  write : List (String × Value) → Except String String
  read : String → Except ParseError (List (String × Value))

namespace Toml

/-- A value a document writes on one line: a string, a truth value, or an integer from 0 to
2⁶³ − 1. -/
def Value.IsPlain : Value → Prop
  | .string _ => True
  | .boolean _ => True
  | .integer i => 0 ≤ i ∧ i < ((Nat.pow 2 63 : Nat) : Int)
  | _ => False

/-- A table of plain values under bare keys. -/
def IsPlainTable (es : List (String × Value)) : Prop :=
  ∀ e ∈ es, IsBareKey e.1 ∧ e.2.IsPlain

/-- A root table of two levels: plain values, then tables of plain values, under bare keys
that are distinct in each table. -/
def IsTwoLevel (root : List (String × Value)) : Prop :=
  ∃ plain : List (String × Value), ∃ tables : List (String × List (String × Value)),
    root = plain ++ tables.map (fun t => (t.1, .table t.2)) ∧ (root.map (·.1)).Nodup ∧
      IsPlainTable plain ∧
      ∀ t ∈ tables, IsBareKey t.1 ∧ (t.2.map (·.1)).Nodup ∧ IsPlainTable t.2

end Toml

namespace TomlLibrary

/-- A library reads back the two-level tables it writes: each is written, and the document it
is written as reads as the same table. -/
def ReadsBack (lib : TomlLibrary) : Prop :=
  ∀ root, IsTwoLevel root → ∃ text, lib.write root = .ok text ∧ lib.read text = .ok root

/-- The library settings run with: `Toml.write` and `Toml.parse`. -/
def builtin : TomlLibrary := ⟨Toml.write, Toml.parse⟩

end TomlLibrary

/-! ## Merging layers -/

/-- A merge of an incoming table over a base table. -/
abbrev TableMerge := List (String × Value) → List (String × Value) → List (String × Value)

/-- What a key finds in an incoming table merged over a base, from what it finds in each: the
incoming value, or the base's when the incoming table has none; where both are tables, the
merge of the two. -/
def mergedValue (merge : TableMerge) : Option Value → Option Value → Option Value
  | some (.table b), some (.table i) => some (.table (merge b i))
  | b, none => b
  | _, some v => some v

/-- A merge goes key by key: under each key of an incoming table of distinct keys merged over a
base, the merged table holds the merged value (`mergedValue`). -/
def MergesKeyByKey (merge : TableMerge) : Prop :=
  ∀ base incoming, (incoming.map (·.1)).Nodup → ∀ k,
    lookup k (merge base incoming) = mergedValue merge (lookup k base) (lookup k incoming)

namespace Toml

mutual
/-- The entries of `incoming` merged over `base` one by one. -/
def mergeTables (base : List (String × Value)) : List (String × Value) → List (String × Value)
  | [] => base
  | (k, v) :: rest => mergeTables (mergeEntry base k v) rest

/-- An entry merged over a table: a table over a table is merged into it, and any other value
takes the key's place, or goes last when the key is new. -/
def mergeEntry (base : List (String × Value)) (k : String) : Value → List (String × Value)
  | .table i =>
    match lookup k base with
    | some (.table b) => upsert k (.table (mergeTables b i)) base
    | _ => upsert k (.table i) base
  | v => upsert k v base
end

end Toml

/-! ## Settings as tables and documents -/

/-- The table of the backend settings, fields under their names in declared order. -/
def BackendConfig.toTable (b : BackendConfig) : List (String × Value) :=
  [("program", .string b.program), ("target", .string b.target),
    ("platform", .string b.platform), ("format", .string b.format.name),
    ("loader", .string b.loader), ("source_map", .string b.sourceMap.name)]

/-- The table of the synthesis settings. -/
def SynthesisConfig.toTable (c : SynthesisConfig) : List (String × Value) :=
  [("strategy", .string c.strategy.name), ("suite_name", .string c.suiteName),
    ("case_prefix", .string c.casePrefix), ("export_placeholder", .boolean c.exportPlaceholder)]

/-- The table of the logging settings. -/
def LoggingConfig.toTable (c : LoggingConfig) : List (String × Value) :=
  [("level", .string c.level)]

namespace Settings

/-- How configuration errors name a document given as text. -/
def textSource : String := "TOML source string"

/-- The table of all settings: the version, then the backend, synthesis and logging tables;
choices go by their names. -/
def toTable (s : Settings) : List (String × Value) :=
  [("version", .integer s.version), ("backend", .table s.backend.toTable),
    ("synthesis", .table s.synthesis.toTable), ("logging", .table s.logging.toTable)]

/-- Reads settings from a TOML document with `lib`: its root table merged over the table of
the defaults with `merge`, and the settings read from the result. -/
def readWith (lib : TomlLibrary) (merge : TableMerge) (text : String) :
    Except Error Settings :=
  match lib.read text with
  | .error e => .error (.config (e.report text ++ " in " ++ textSource))
  | .ok root =>
    match Settings.decode (merge ({} : Settings).toTable root) with
    | .ok s => .ok s
    | .error r => .error (.config (r.message textSource))

/-- Writes all settings as a TOML document with `lib`. -/
def writeWith (lib : TomlLibrary) (s : Settings) : Except String String :=
  lib.write s.toTable

/-- Reads settings from a TOML document over the defaults. -/
def ofToml (text : String) : Except Error Settings :=
  readWith .builtin mergeTables text

/-- All settings as a TOML document. -/
def toToml (s : Settings) : Except String String :=
  writeWith .builtin s

/-- Whether settings read back from their own document are the same settings. -/
def roundTrips (s : Settings) : Bool :=
  match s.toToml with
  | .ok text =>
    match ofToml text with
    | .ok t => t == s
    | .error _ => false
  | .error _ => false

end Settings

end DocSuite
