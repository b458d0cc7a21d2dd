import DocSuite.Text.Blank
/-!
# Log levels

The five levels of the log, from the most to the least severe. A level is named by its
word in any ASCII letter case, or by its rank `1` (error) to `5` (trace) written as an
unsigned decimal (an optional `+`, leading zeros allowed); blanks around the name are
ignored, and any other name means `warn`.
-/

namespace DocSuite

/-- The severity threshold of the log. -/
inductive Level where
  | error
  | warn
  | info
  | debug
  | trace
  deriving DecidableEq, Repr, Inhabited

namespace Level

/-- The upper-case name of a level. -/
def name : Level → String
  | .error => "ERROR"
  | .warn => "WARN"
  | .info => "INFO"
  | .debug => "DEBUG"
  | .trace => "TRACE"

/-- The level of a rank from 1 to 5. -/
def ofRank? : Nat → Option Level
  | 1 => some .error
  | 2 => some .warn
  | 3 => some .info
  | 4 => some .debug
  | 5 => some .trace
  | _ => none

/-- The value of an unsigned decimal: an optional `+` and at least one ASCII digit. -/
def unsignedDecimal? (s : String) : Option Nat :=
  let digits := match s.toList with
    | '+' :: ds => ds
    | ds => ds
  if !digits.isEmpty && digits.all Char.isDigit then
    some (digits.foldl (fun n d => 10 * n + (d.toNat - 48)) 0)
  else none

/-- Reads a level name: a rank from 1 to 5, or a word in any ASCII letter case. -/
def ofName? (s : String) : Option Level :=
  match (unsignedDecimal? s).bind ofRank? with
  | some l => some l
  | none =>
    match String.ofList (s.toList.map Char.toLower) with
    | "error" => some .error
    | "warn" => some .warn
    | "info" => some .info
    | "debug" => some .debug
    | "trace" => some .trace
    | _ => none

/-- The level a configured name stands for, `warn` when it names none. -/
def parse (s : String) : Level := (ofName? (Text.trimBlanks s)).getD .warn

end Level

end DocSuite
