import DocSuite.Toml.Failure
/-!
# Readers

A reader walks an array of characters from an index and either yields a value, having moved
the index, or fails with a `Failure`. A failure that has not *committed* lets an
alternative be tried from where the failed step began; a committed one ends the reading.
Notes are added to a failure as it leaves the step that adds them, so the innermost come
first. Loops take as fuel the number of characters left, plus one, and every loop body
reads at least one character when it succeeds.
-/

namespace DocSuite.Toml

/-- A reader of the characters of a document. -/
abbrev Reader := ReaderT (Array Char) (StateT Nat (Except Failure))

namespace Reader

/-- The next character, if any. -/
def peek : Reader (Option Char) := do
  let input ← read
  let i ← get
  return input[i]?

/-- The characters from index `start` to the current one. -/
def sliceFrom (start : Nat) : Reader String := do
  let input ← read
  let i ← get
  return String.ofList (input.extract start i).toList

/-- Fails, uncommitted, where the reader stands. -/
def failHere {α : Type} : Reader α := do
  throw { pos := ← get }

/-- Reads one character that satisfies `p`. -/
def satisfy (p : Char → Bool) : Reader Char := do
  match ← peek with
  | some c => if p c then do modify (· + 1); pure c else failHere
  | none => failHere

/-- Reads the character `c`. -/
def char (c : Char) : Reader Unit := discard (satisfy (· == c))

/-- Reads the text `s` whole, or fails where it began. -/
def literal (s : String) : Reader Unit := do
  let input ← read
  let i ← get
  if (input.extract i (i + s.length)).toList == s.toList then set (i + s.length) else failHere

/-- Reads the longest run, at most `limit` long, of characters that satisfy `p`. -/
def spanUpTo (limit : Nat) (p : Char → Bool) : Reader (List Char) := do
  let input ← read
  let i ← get
  let cs := ((input.extract i input.size).toList.takeWhile p).take limit
  set (i + cs.length)
  return cs

/-- Reads the longest run of characters that satisfy `p`. -/
def span (p : Char → Bool) : Reader (List Char) := do
  spanUpTo (← read).size p

/-- Reads a run of at least `least` and at most `most` characters that satisfy `p`, or fails
where it began. -/
def spanBetween (least most : Nat) (p : Char → Bool) : Reader (List Char) := do
  let start ← get
  let cs ← spanUpTo most p
  if cs.length < least then do set start; failHere else pure cs

/-- Reads a non-empty run of characters that satisfy `p`. -/
def span1 (p : Char → Bool) : Reader (List Char) := do
  spanBetween 1 (← read).size p

/-- Whether the input is exhausted; fails otherwise. -/
def eof : Reader Unit := do
  if (← peek).isSome then failHere

/-- Runs `p` and goes back to where it began. -/
def lookahead {α : Type} (p : Reader α) : Reader Unit := do
  let start ← get
  discard p
  set start

/-- Adds note `n` to a failure of `p`. -/
def note {α : Type} (n : Note) (p : Reader α) : Reader α :=
  tryCatch p fun f => throw { f with notes := f.notes ++ [n] }

/-- Names the construct `p` reads, for its failures. -/
def label {α : Type} (construct : String) (p : Reader α) : Reader α := note (.label construct) p

/-- Adds an accepted form to a failure of `p`. -/
def expecting {α : Type} (e : Expectation) (p : Reader α) : Reader α := note (.expected e) p

/-- Commits a failure of `p`. -/
def commit {α : Type} (p : Reader α) : Reader α :=
  tryCatch p fun f => throw { f with committed := true }

/-- Runs `p`; on an uncommitted failure goes back to where it began and yields nothing. -/
def attempt {α : Type} (p : Reader α) : Reader (Option α) :=
  tryCatch (some <$> p) fun f => if f.committed then throw f else pure none

/-- Runs `p`, or `q` from the same place when `p` fails uncommitted. -/
def orElse {α : Type} (p q : Reader α) : Reader α := do
  match ← attempt p with
  | some a => pure a
  | none => q

/-- The first of the readers that succeeds; the failure of the last when none does. -/
def firstOf {α : Type} : List (Reader α) → Reader α
  | [] => failHere
  | [p] => p
  | p :: ps => orElse p (firstOf ps)

/-- Runs `p` as often as it succeeds, at most `fuel` times. -/
def repeatUpTo {α : Type} (p : Reader α) : Nat → Reader (List α)
  | 0 => pure []
  | fuel + 1 => do
    match ← attempt p with
    | some a => return a :: (← repeatUpTo p fuel)
    | none => pure []

/-- The number of characters left, plus one: enough rounds for a loop whose body reads at
least one character. -/
def roundsLeft : Reader Nat := do
  return (← read).size - (← get) + 1

/-- Runs `p` as often as it succeeds. -/
def many {α : Type} (p : Reader α) : Reader (List α) := do
  repeatUpTo p (← roundsLeft)

/-- Runs `p` once, then as often as it succeeds. -/
def many1 {α : Type} (p : Reader α) : Reader (List α) := do
  let a ← p
  return a :: (← many p)

/-- One or more `p` with `sep` between them; a separator not followed by `p` is left
unread. -/
def separated1 {α : Type} (p : Reader α) (sep : Reader Unit) : Reader (List α) := do
  let a ← p
  return a :: (← many (do sep; p))

/-- Zero or more `p` with `sep` between them. -/
def separated0 {α : Type} (p : Reader α) (sep : Reader Unit) : Reader (List α) := do
  match ← attempt p with
  | some a => return a :: (← many (do sep; p))
  | none => pure []

/-- Runs a reader on a text from its start. -/
def runOn {α : Type} (p : Reader α) (input : Array Char) : Except Failure α :=
  ((p.run input).run 0).map (·.1)

end Reader

end DocSuite.Toml
