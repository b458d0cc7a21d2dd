import DocSuite.Script.Chart
/-!
# Recognising a source

`Recognizer.run` reads a source token by token against a chart. At each set the lexer is
told what the set expects; comments are kept aside and do not advance the chart. The run
ends when the end of the input is reached in a set that has recognised a program, or at
the first token no item can take: the parse is then *stuck* there, and the recovery
decides how to go on.
-/

namespace DocSuite.Script

/-- What a chart parse reads: a grammar, a source, and whether the lexer reads the typed
dialect. -/
structure Recognizer where
  grammar : Grammar
  source : Source
  typed : Bool

/-- How a run ended. -/
inductive Stop where
  /-- The whole input was recognised. -/
  | accepted
  /-- Set `set` could not take lexeme `bad`, read from `lexPos` on. -/
  | stuck (set : Nat) (lexPos : Nat) (bad : Lexeme)
  deriving Repr, Inhabited

/-- The chart after a run, the comments read (latest first), and how it ended. -/
structure Run where
  chart : Chart
  extras : List Lexeme
  stop : Stop
  deriving Inhabited

namespace Recognizer

/-- Enough rounds for a run from any point: every round reads a token, and only
zero-width tokens (inserted semicolons) read no character. -/
def fuelFor (r : Recognizer) : Nat := 4 * (r.source.size + 1) + 16

/-- The next lexeme at `i` for set `s`. Words are reserved (`Tok.reservedIn`) where the set
expects a name outside a property position. -/
def lexAt (r : Recognizer) (s : ItemSet) (i : Nat) : Lexeme :=
  lexNext r.source r.typed r.grammar.vocabulary s.expected
    (fun k => s.reservesWords && Tok.reservedIn r.typed k) i

/-- The other reading of the text at `i` where set `s` read `read` but could also have read
something else:

* JSX text, where the set also expects other tokens: the children of an element may begin
  there, and so may something else, such as the parameters of a generic arrow function
  after `<T>`. The text read as ordinary tokens gives that lexeme, when the set can take it.
* An operator that begins with `>` (`>>`, `>=`, ...), where the set also expects `>`: one
  reading of the text may be inside an expression (`a < b >> c`) while another closes a
  type argument list (`Set<Map<K>>`), and the second reads the `>` alone. -/
def lexAlternative? (r : Recognizer) (s : ItemSet) (i : Nat) (read : Lexeme) : Option Lexeme :=
  if read.tok == .jsxText then
    let l := lexNext r.source r.typed r.grammar.vocabulary (s.expected.erase .jsxText)
      (fun k => s.reservesWords && Tok.reservedIn r.typed k) i
    if !l.isExtra && l.tok != .endOfInput && s.expected.mem l.tok then some l else none
  else if read.tok.extendsGt && s.expected.mem .gt then some ⟨.gt, read.start, read.start + 1⟩
  else none

/-- The tokens lexeme `l`, read at set `s` numbered `k`, stands for. In untyped sources a
keyword that is not reserved there also stands for a name where the set takes a name at
once but the keyword only after completing what stands before it (`ItemSet.takesAtOnce`):
a table-driven parser then meets a shift of the name against a reduction for the keyword,
and follows both. So in `for (let of …` the `of` is the loop's, after `let` read as a name,
and also the name the `let` declares. Where the keyword itself is taken at once, it is only
the keyword. -/
def readings (r : Recognizer) (s : ItemSet) (k : Nat) (l : Lexeme) : List Tok :=
  if !r.typed && l.tok != .identifier &&
      Tok.ofWord? (r.source.slice l.start l.stop) == some l.tok &&
      !(s.reservesWords && Tok.reservedIn false l.tok) &&
      !s.takesAtOnce r.grammar k l.tok && s.takesAtOnce r.grammar k .identifier then
    [l.tok, .identifier]
  else [l.tok]

/-- Reads on from set `k` at character `lexPos`. Where the text can be read two ways
(`lexAlternative?`), the second reading is tried when the first does not recognise the
whole input. -/
def runFrom (r : Recognizer) : Nat → Chart → Nat → Nat → List Lexeme → Run
  | 0, chart, k, lexPos, extras =>
    ⟨chart, extras, .stuck k lexPos ⟨.endOfInput, lexPos, lexPos⟩⟩
  | fuel + 1, chart, k, lexPos, extras =>
    let s := chart.get k
    let l := r.lexAt s lexPos
    if l.isExtra then
      runFrom r fuel (chart.modify k fun s => { s with settled := l.stop }) k l.stop (l :: extras)
    else if l.tok == .endOfInput then
      if s.accepts r.grammar then ⟨chart, extras, .accepted⟩
      else ⟨chart, extras, .stuck k lexPos l⟩
    else if s.expected.mem l.tok then
      let first :=
        runFrom r fuel (chart.scanOver r.grammar k (r.readings s k l) l.stop) chart.size l.stop extras
      match first.stop, r.lexAlternative? s lexPos l with
      | .stuck .., some a =>
        let second :=
          runFrom r fuel (chart.scanOver r.grammar k [a.tok] a.stop) chart.size a.stop extras
        match second.stop with
        | .accepted => second
        | _ => first
      | _, _ => first
    else ⟨chart, extras, .stuck k lexPos l⟩

/-- Reads on from set `k` at character `lexPos`, with enough fuel. -/
def run (r : Recognizer) (chart : Chart) (k lexPos : Nat) (extras : List Lexeme) : Run :=
  r.runFrom r.fuelFor chart k lexPos extras

/-- Reads the whole source from the start. -/
def runAll (r : Recognizer) : Run := r.run (Chart.start r.grammar) 0 0 []

end Recognizer

end DocSuite.Script
