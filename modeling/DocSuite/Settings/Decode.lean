import DocSuite.Settings.Basic
import DocSuite.Toml.Assembly
import DocSuite.Text.Escaped
/-!
# Reading settings from a table

The settings a TOML document gives, read over the defaults. A table in the document is read
over the default table key by key, in the order of the keys' bytes, and any other value
replaces the default; so keys the document leaves out keep their defaults, unknown keys are
ignored, and the first refusal in key order is the one reported. A table may also be given
as an array of its fields in their declared order, the missing ones kept.

A refusal names the value found and what was expected, at the key path below the settings
root; `Refusal.message` writes it with the path under the `default` profile.
-/

namespace DocSuite

open Toml

/-- What a value was found to be, as a refusal names it. -/
inductive Found where
  | bool (b : Bool)
  | signed (i : Int)
  | float (f : FloatValue)
  | text (s : String)
  | sequence
  | map
  deriving DecidableEq, Repr, Inhabited

namespace Found

/-- How a refusal names a found value. -/
def describe : Found → String
  | .bool b => "bool " ++ toString b
  | .signed i => "signed int `" ++ toString i ++ "`"
  | .float f => "float `" ++ f.text ++ "`"
  | .text s => "string " ++ Text.quoteEscaped s
  | .sequence => "sequence"
  | .map => "map"

/-- What a TOML value is found to be: a date-time reaches the settings as a table. -/
def ofValue : Value → Found
  | .string s => .text s
  | .integer i => .signed i
  | .float f => .float f
  | .boolean b => .bool b
  | .datetime _ => .map
  | .array _ => .sequence
  | .table _ => .map

end Found

/-- The key under which a date-time's text reaches the settings when a table is read from
it. -/
def dateTimeKey : String := "$__toml_private_datetime"

/-- The entries of a value read as a table, sorted by key: a table's own, and for a
date-time its text under `dateTimeKey`. -/
def tableEntries? : Value → Option (List (String × Value))
  | .table es => some (es.mergeSort fun a b => decide (a.1 ≤ b.1))
  | .datetime t => some [(dateTimeKey, .string t)]
  | _ => none

/-- Why a value was refused. -/
inductive Mismatch where
  | invalidType (found : Found) (expected : String)
  | invalidValue (found : Found) (expected : String)
  | unknownVariant (name : String) (variants : List String)
  deriving DecidableEq, Repr, Inhabited

/-- The accepted names: one or two in backticks, or a list of them. -/
def oneOf : List String → String
  | [] => "none"
  | [a] => "`" ++ a ++ "`"
  | [a, b] => "`" ++ a ++ "` or `" ++ b ++ "`"
  | names => "one of " ++ ", ".intercalate (names.map fun n => "`" ++ n ++ "`")

/-- How a mismatch is described. -/
def Mismatch.describe : Mismatch → String
  | .invalidType f e => "invalid type: found " ++ f.describe ++ ", expected " ++ e
  | .invalidValue f e => "invalid value " ++ f.describe ++ ", expected " ++ e
  | .unknownVariant v vs => "unknown variant: found `" ++ v ++ "`, expected `" ++ oneOf vs ++ "`"

/-- A refused value: the key path where it stands, below the settings root, and why. -/
structure Refusal where
  path : List String
  mismatch : Mismatch
  deriving DecidableEq, Repr, Inhabited

/-- The message of a refusal in a document named `source`. -/
def Refusal.message (r : Refusal) (source : String) : String :=
  r.mismatch.describe ++ " for key " ++ Text.quoteEscaped (dotted ("default" :: r.path)) ++
    " in " ++ source

/-- Reads a setting of type `α` from a value. -/
abbrev Decoder (α : Type) := Value → Except Refusal α

namespace Decoder

/-- A refusal at the value itself. -/
def refuse {α : Type} (m : Mismatch) : Except Refusal α := .error ⟨[], m⟩

/-- The refusals of `r` placed under key `k`. -/
def under {α : Type} (k : String) (r : Except Refusal α) : Except Refusal α :=
  r.mapError fun e => { e with path := k :: e.path }

/-- A number from 0 to 2³² − 1. -/
def nat32 : Decoder Nat
  | .integer i =>
    if 0 ≤ i ∧ i < ((Nat.pow 2 32 : Nat) : Int) then .ok i.toNat else refuse (.invalidValue (.signed i) "u32")
  | v => refuse (.invalidType (.ofValue v) "u32")

/-- A text. -/
def text : Decoder String
  | .string s => .ok s
  | v => refuse (.invalidType (.ofValue v) "a string")

/-- A truth value. -/
def flag : Decoder Bool
  | .boolean b => .ok b
  | v => refuse (.invalidType (.ofValue v) "a boolean")

/-- One of the named choices of enumeration `name`. A table names a choice by its first key,
which must carry no value; nothing in a document does. A key that names no choice is refused
under itself. -/
def choice {α : Type} (name : String) (choices : List (String × α)) : Decoder α := fun v =>
  let names := choices.map (·.1)
  match v with
  | .string s =>
    match lookup s choices with
    | some a => .ok a
    | none => refuse (.unknownVariant s names)
  | v =>
    match tableEntries? v with
    | some ((k, inner) :: _) =>
      if names.contains k then under k (refuse (.invalidType (.ofValue inner) "unit"))
      else under k (refuse (.unknownVariant k names))
    | some [] => refuse (.invalidType .map "enum")
    | none => refuse (.invalidType (.ofValue v) ("enum " ++ name))

/-- Field `k` of sorted table entries read with `d`, or `default` when absent. -/
def field {α : Type} (es : List (String × Value)) (k : String) (default : α) (d : Decoder α) :
    Except Refusal α :=
  match lookup k es with
  | some v => under k (d v)
  | none => .ok default

/-- Item `i` of an array read with `d`, or `default` when the array is shorter. -/
def item {α : Type} (vs : List Value) (i : Nat) (default : α) (d : Decoder α) :
    Except Refusal α :=
  match vs[i]? with
  | some v => under (toString i) (d v)
  | none => .ok default

end Decoder

open Decoder

/-- The output formats by name. -/
def formatChoices : List (String × OutputFormat) := OutputFormat.all.map fun f => (f.name, f)

/-- The source map modes by name. -/
def sourceMapChoices : List (String × SourceMapMode) := SourceMapMode.all.map fun m => (m.name, m)

/-- The strategies by name. -/
def strategyChoices : List (String × Strategy) := [.inline, .isolated].map fun s => (s.name, s)

/-- Reads the backend settings over `d`. -/
def BackendConfig.decode (d : BackendConfig) : Decoder BackendConfig := fun v =>
  match tableEntries? v, v with
  | some es, _ => do
    let format ← field es "format" d.format (choice "OutputFormat" formatChoices)
    let loader ← field es "loader" d.loader text
    let platform ← field es "platform" d.platform text
    let program ← field es "program" d.program text
    let sourceMap ← field es "source_map" d.sourceMap (choice "SourceMapMode" sourceMapChoices)
    let target ← field es "target" d.target text
    pure { program, target, platform, format, loader, sourceMap }
  | none, .array vs => do
    let program ← item vs 0 d.program text
    let target ← item vs 1 d.target text
    let platform ← item vs 2 d.platform text
    let format ← item vs 3 d.format (choice "OutputFormat" formatChoices)
    let loader ← item vs 4 d.loader text
    let sourceMap ← item vs 5 d.sourceMap (choice "SourceMapMode" sourceMapChoices)
    pure { program, target, platform, format, loader, sourceMap }
  | none, v => refuse (.invalidType (.ofValue v) "struct BackendConfig")

/-- Reads the synthesis settings over `d`. -/
def SynthesisConfig.decode (d : SynthesisConfig) : Decoder SynthesisConfig := fun v =>
  match tableEntries? v, v with
  | some es, _ => do
    let casePrefix ← field es "case_prefix" d.casePrefix text
    let exportPlaceholder ← field es "export_placeholder" d.exportPlaceholder flag
    let strategy ← field es "strategy" d.strategy (choice "Strategy" strategyChoices)
    let suiteName ← field es "suite_name" d.suiteName text
    pure { strategy, suiteName, casePrefix, exportPlaceholder }
  | none, .array vs => do
    let strategy ← item vs 0 d.strategy (choice "Strategy" strategyChoices)
    let suiteName ← item vs 1 d.suiteName text
    let casePrefix ← item vs 2 d.casePrefix text
    let exportPlaceholder ← item vs 3 d.exportPlaceholder flag
    pure { strategy, suiteName, casePrefix, exportPlaceholder }
  | none, v => refuse (.invalidType (.ofValue v) "struct SynthesisConfig")

/-- Reads the logging settings over `d`. -/
def LoggingConfig.decode (d : LoggingConfig) : Decoder LoggingConfig := fun v =>
  match tableEntries? v, v with
  | some es, _ => do
    let level ← field es "level" d.level text
    pure { level }
  | none, .array vs => do
    let level ← item vs 0 d.level text
    pure { level }
  | none, v => refuse (.invalidType (.ofValue v) "struct LoggingConfig")

/-- Reads all settings from a document's root table over the defaults. -/
def Settings.decode (root : List (String × Value)) : Except Refusal Settings := do
  let d : Settings := {}
  let es := root.mergeSort fun a b => decide (a.1 ≤ b.1)
  let backend ← field es "backend" d.backend (BackendConfig.decode d.backend)
  let logging ← field es "logging" d.logging (LoggingConfig.decode d.logging)
  let synthesis ← field es "synthesis" d.synthesis (SynthesisConfig.decode d.synthesis)
  let version ← field es "version" d.version nat32
  pure { version, backend, synthesis, logging }

end DocSuite
