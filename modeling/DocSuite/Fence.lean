import DocSuite.Text.Blank
import DocSuite.Text.Lines
/-!
# Fenced blocks

A text is read line by line (lines end at `'\n'` only). A *marker line* is one whose
blank-trimmed form starts with three backticks; markers open and close fenced blocks in
turn, and the lines strictly between an opening and a closing marker form one block. A
block still open when the text ends is dropped.

`Fences` is the scanner: a position in the lines plus the state of the last marker seen,
which persists from one call of `Fences.next` to the next. `Fences.blocks` runs it to the
end.
-/

namespace DocSuite

open DocSuite.Text

/-- The text that opens and closes a fenced block. -/
def fenceMarker : String := "```"

/-- Whether a line opens or closes a fenced block: after dropping its leading blanks it
starts with three backticks (trailing blanks cannot matter for a prefix test). -/
def isMarkerLine (line : String) : Bool :=
  match dropBlanks line.toList with
  | '`' :: '`' :: '`' :: _ => true
  | _ => false

/-- Where the scanner stands: between blocks, or inside an opened block. -/
inductive FenceState where
  | outside
  | insideFence
  deriving DecidableEq, Repr, Inhabited

/-- The scanner over the lines of one text: the lines not yet read and the current state. -/
structure Fences where
  lines : List String
  state : FenceState
  deriving Repr, Inhabited

namespace Fences

/-- A fresh scanner over a text, outside any block. -/
def ofText (text : String) : Fences := ⟨splitLines text, .outside⟩

/-- Reads lines in state `st`, collecting the lines of an open block in `buf` (latest
first), until a closing marker ends the block or the lines run out. Returns the block, the
state and the unread lines. -/
def scan : FenceState → List String → List String → Option String × FenceState × List String
  | st, _, [] => (none, st, [])
  | .outside, buf, l :: ls =>
    if isMarkerLine l then scan .insideFence buf ls else scan .outside buf ls
  | .insideFence, buf, l :: ls =>
    if isMarkerLine l then (some ("\n".intercalate buf.reverse), .outside, ls)
    else scan .insideFence (l :: buf) ls

/-- One step of the scanner: the next complete block, if any, and the scanner after it. -/
def next (f : Fences) : Option String × Fences :=
  let (block, st, rest) := scan f.state [] f.lines
  (block, ⟨rest, st⟩)

theorem scan_some_length_lt (st : FenceState) (buf ls : List String) (b : String)
    (h : (scan st buf ls).1 = some b) : (scan st buf ls).2.2.length < ls.length := by
  induction ls generalizing st buf with
  | nil => cases st <;> simp [scan] at h
  | cons l ls ih =>
    cases st with
    | outside =>
      by_cases hm : isMarkerLine l
      · simp only [scan, hm, if_true] at h ⊢
        exact Nat.lt_succ_of_lt (ih _ _ h)
      · simp only [scan, hm] at h ⊢
        exact Nat.lt_succ_of_lt (ih _ _ h)
    | insideFence =>
      by_cases hm : isMarkerLine l
      · simp [scan, hm]
      · simp only [scan, hm] at h ⊢
        exact Nat.lt_succ_of_lt (ih _ _ h)

/-- Every remaining complete block, in order: `next` until it finds none. -/
def blocks (f : Fences) : List String :=
  match h : (scan f.state [] f.lines) with
  | (some b, st, rest) =>
    have : rest.length < f.lines.length := by
      have := scan_some_length_lt f.state [] f.lines b (by rw [h])
      rw [h] at this
      exact this
    b :: blocks ⟨rest, st⟩
  | (none, _, _) => []
termination_by f.lines.length

end Fences

/-- Every complete fenced block of a text, in order of appearance. -/
def codeBlocks (text : String) : List String := (Fences.ofText text).blocks

end DocSuite
