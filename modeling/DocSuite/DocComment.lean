import DocSuite.Text.Blank
import DocSuite.Text.Alphabetic
import DocSuite.Text.Lines
/-!
# Documentation comments

The body of a block comment (its delimiters already removed) splits into a free-text
description and `@tag` sections. Each line first loses its gutter: leading blanks, then a
`*` that does not open `*/` together with one space or tab after it. A line that then
starts with `@` and a name whose first character is alphabetic opens a new tag; every other
line continues the open tag, or the description while no tag is open. Indentation past the
gutter is kept, so examples keep their layout.
-/

namespace DocSuite

open DocSuite.Text

/-- One `@tag` section: its name and the lines after the name, joined by newlines. -/
structure DocTag where
  name : String
  description : String
  deriving DecidableEq, Repr, Inhabited

/-- A parsed documentation comment. -/
structure DocComment where
  description : String
  tags : List DocTag
  deriving DecidableEq, Repr, Inhabited

namespace DocComment

/-- The texts that may hold examples: the description, then each tag's description in
order. -/
def texts (d : DocComment) : List String := d.description :: d.tags.map (·.description)

/-- Drops one space or tab at the front. -/
def dropSeparator : List Char → List Char
  | ' ' :: r => r
  | '\t' :: r => r
  | r => r

/-- Removes the gutter of one comment line: a trailing carriage return, the leading blanks,
and a `*` (not followed by `/`) with one space or tab after it. -/
def stripGutter (line : List Char) : List Char :=
  let line := if line.getLast? = some '\r' then line.dropLast else line
  let rest := dropBlanks line
  match rest with
  | '*' :: after => if after.head? = some '/' then rest else dropSeparator after
  | _ => rest

/-- A tag line: `@`, a name running to the first blank and starting with an alphabetic
character, then the rest of the line after one space or tab. -/
def tagStart? : List Char → Option (List Char × List Char)
  | '@' :: body =>
    let name := body.takeWhile (fun c => !isBlank c)
    let rest := body.dropWhile (fun c => !isBlank c)
    match name with
    | c :: _ => if isAlphabetic c then some (name, dropSeparator rest) else none
    | [] => none
  | _ => none

/-- What the parser holds between lines: the description lines, the finished tags and the
open tag with its lines, all latest first. -/
structure Reader where
  description : List String
  tags : List DocTag
  current : Option (String × List String)

/-- Closes the open tag, if any. -/
def Reader.flush (r : Reader) : Reader :=
  match r.current with
  | some (name, lines) =>
    { r with tags := ⟨name, "\n".intercalate lines.reverse⟩ :: r.tags, current := none }
  | none => r

/-- Feeds one raw line to the parser. -/
def Reader.feed (r : Reader) (line : String) : Reader :=
  let text := stripGutter line.toList
  match tagStart? text with
  | some (name, rest) =>
    { r.flush with current := some (String.ofList name, [String.ofList rest]) }
  | none =>
    match r.current with
    | some (name, lines) => { r with current := some (name, String.ofList text :: lines) }
    | none => { r with description := String.ofList text :: r.description }

/-- Parses the body of a block comment; this never fails. -/
def parse (raw : String) : DocComment :=
  let r := ((splitLines raw).foldl Reader.feed ⟨[], [], none⟩).flush
  ⟨"\n".intercalate r.description.reverse, r.tags.reverse⟩

end DocComment

end DocSuite
