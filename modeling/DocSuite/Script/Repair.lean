import Std.Data.HashSet
import DocSuite.Script.Recognizer
/-!
# Repairs

The two ways a stuck parse can be repaired, and what each costs.

* *A missing token*: a token the stuck set expects is assumed, when after it the phrase it
  completes lets the stuck token through (`Recognizer.missingToken`). It costs
  `missingCost`.
* *An error region*: the parse goes back to an earlier set, a *frame*, and on from a later
  token that the frame takes; the phrases and tokens in between become one region. It
  costs `Region.cost`: a fixed part, a part per phrase it swallows whole, parts per byte and
  per line it spans, and the cost of the tokens it skipped one by one.

The frames of a stuck set are found by walking item links backwards: every step over a
recognised symbol is one more phrase to set aside. Only the nearest frames count
(`maxDepth`), nearest first. A frame stands for the parse as it was on the way to the stuck
set: the items the walk reached there, with those that stepped over the same symbol, and
what they expect; not everything the set allows.
-/

namespace DocSuite.Script

/-- The cost of one missing token. -/
def missingCost : Nat := 610

/-- The fixed cost of an error. -/
def recoveryCost : Nat := 500

/-- The cost of each phrase or token an error swallows. -/
def skippedTreeCost : Nat := 100

/-- The cost of each line an error spans. -/
def skippedLineCost : Nat := 30

/-- The cost of the text from `a` to `b` inside an error: a byte 1, a line break 30 more. -/
def Source.spanCost (src : Source) (a b : Nat) : Nat :=
  (src.byteOffset b - src.byteOffset a) + skippedLineCost * src.newlinesBetween a b

/-- The cost of an error region: `recoveryCost`, `skippedTreeCost` for each phrase it
swallows whole, the cost of its text, and that of its skipped runs. -/
def Region.cost (src : Source) (r : Region) : Nat :=
  recoveryCost + skippedTreeCost * r.units + src.spanCost r.start r.stop + r.skips

/-- Whether a region holds the characters from `a` to `b`. -/
def Region.holds (r : Region) (a b : Nat) : Bool := r.start ≤ a && b ≤ r.stop

/-- A set that an error recovery can go back to, as the parse stood there: the items
through which the stuck parse reached it, each with the sets its last symbol began at,
how many phrases lie between it and the stuck set, and what its items, closed, take next:
the tokens they expect, and whether they may end the input. -/
structure Frame where
  set : Nat
  depth : Nat
  kernel : Array (Item × List Nat)
  expected : TokSet
  accepts : Bool
  deriving Inhabited

/-- Whether a frame can take lexeme `l`: it expects the token, or, at the end of the input,
may end it. -/
def Frame.takes (f : Frame) (l : Lexeme) : Bool :=
  if l.tok == .endOfInput then f.accepts else f.expected.mem l.tok

/-- How many phrases a recovery may set aside. -/
def maxDepth : Nat := 16

/-- The items one level of the backward walk reached, set by set, in the order the sets were
first reached. -/
structure Level where
  order : Array Nat := #[]
  items : Std.HashMap Nat (Array Item) := {}
  deriving Inhabited

/-- Records an item reached at set `j`. -/
def Level.add (l : Level) (j : Nat) (it : Item) : Level :=
  match l.items.get? j with
  | some its => { l with items := l.items.insert j (its.push it) }
  | none => { order := l.order.push j, items := l.items.insert j #[it] }

namespace Recognizer

/-- One level of the backward walk: treats the entries of `work` at one depth, recording
each newly reached item at its set, and collects the entries one phrase further back. An
item with its dot past a symbol steps back over it to the sets where it began; an item at
its start moves up to the items waiting for it, on the same level. -/
def walkLevel (r : Recognizer) (chart : Chart) :
    Nat → List (Nat × Item) → Std.HashSet (Nat × Item) → Level → List (Nat × Item) →
      Std.HashSet (Nat × Item) × Level × List (Nat × Item)
  | 0, _, seen, level, next => (seen, level, next)
  | _ + 1, [], seen, level, next => (seen, level, next)
  | fuel + 1, (j, it) :: work, seen, level, next =>
    if seen.contains (j, it) then walkLevel r chart fuel work seen level next
    else
      let seen := seen.insert (j, it)
      let level := level.add j it
      let s := chart.get j
      if it.dot > 0 then
        let back := (s.linksOf it).map fun l => (l, { it with dot := it.dot - 1 })
        walkLevel r chart fuel work seen level (back ++ next)
      else
        let lhs := (r.grammar.production it.prod).lhs
        let up := (s.waitingFor lhs).toList.map (j, ·)
        walkLevel r chart fuel (up ++ work) seen level next

/-- The state of the parse at set `j` on a path that reached it with `items`: those items,
and every item of the set that stepped over the same symbol from the same set as one of
them did, each with its links. -/
def kernelAt (r : Recognizer) (chart : Chart) (j : Nat) (items : Array Item) :
    Array (Item × List Nat) :=
  let s := chart.get j
  let lastSym (it : Item) : Option Sym := (r.grammar.production it.prod).rhs[it.dot - 1]?
  let groups := items.filterMap fun it =>
    if it.dot > 0 then (lastSym it).map (·, s.linksOf it) else none
  let sameStep (it : Item) : Bool :=
    it.dot > 0 && groups.any fun (y, ls) =>
      lastSym it == some y && (s.linksOf it).any ls.contains
  let grouped := s.items.filter fun it => sameStep it && !items.contains it
  (items ++ grouped).map fun it => (it, s.linksOf it)

/-- The set of a frame's items, closed as set number `k`. -/
def frameSet (r : Recognizer) (chart : Chart) (k : Nat) (kernel : Array (Item × List Nat)) :
    ItemSet :=
  let s := kernel.foldl (fun (s : ItemSet) (it, ls) =>
    match ls with
    | [] => s.add it none
    | _ => ls.foldl (fun s l => s.add it (some l)) s) {}
  ItemSet.close r.grammar chart k s

/-- The frames of one level of the walk. -/
def levelFrames (r : Recognizer) (chart : Chart) (depth : Nat) (level : Level) : Array Frame :=
  level.order.map fun j =>
    let kernel := r.kernelAt chart j (level.items.getD j #[])
    let closed := r.frameSet chart chart.size kernel
    ⟨j, depth, kernel, closed.expected, closed.accepts r.grammar⟩

/-- The walk level by level, up to `maxDepth`. -/
def walk (r : Recognizer) (chart : Chart) (fuel : Nat) :
    Nat → Nat → List (Nat × Item) → Std.HashSet (Nat × Item) → Array Frame → Array Frame
  | 0, _, _, _, found => found
  | levels + 1, depth, work, seen, found =>
    if work.isEmpty then found
    else
      let (seen, level, next) := r.walkLevel chart fuel work seen {} []
      r.walk chart fuel levels (depth + 1) next seen (found ++ r.levelFrames chart depth level)

/-- Whether an item can shift a token at once: the symbol after its dot is a token, or a
nonterminal with a production that begins with one. -/
def shiftsAt (g : Grammar) (it : Item) : Bool :=
  match (g.production it.prod).rhs[it.dot]? with
  | some (.term _) => true
  | some (.nonterm a) => g.isLeading a
  | none => false

/-- The items of stuck set `e` that the walk back starts from. The items that stepped over
one symbol from one earlier set form one state of the parse. A state that can shift no
token but can finish a phrase has, before the error is handled, already given way to the
states that finishing the phrase leads to, which the set holds too; so its items are left
out, and with them the sets that only they lead back to. Items whose last symbol matched
nothing at `e` belong to no such state and stay. -/
def stuckItems (r : Recognizer) (chart : Chart) (e : Nat) : List Item :=
  let s := chart.get e
  let g := r.grammar
  let lastSym (it : Item) : Option Sym := (g.production it.prod).rhs[it.dot - 1]?
  let stepped := s.items.filter fun it => it.dot > 0 && (s.linksOf it).any (· != e)
  let sameState (a b : Item) : Bool :=
    lastSym a == lastSym b && (s.linksOf a).any (s.linksOf b).contains
  let givesWay (it : Item) : Bool :=
    it.dot > 0 && (s.linksOf it).any (· != e) &&
      let state := stepped.filter (sameState it)
      !state.any (shiftsAt g) && state.any fun j => j.dot == (g.production j.prod).rhs.size
  (s.items.filter fun it => !givesWay it).toList

/-- The frames of stuck set `e`, nearest first: by depth, and at one depth the earliest
position first, since the walk reaches it through the widest phrase finished at the error. -/
def frames (r : Recognizer) (chart : Chart) (e : Nat) : Array Frame :=
  let fuel := chart.foldl (fun n s => n + s.items.size) 1
  let start := (r.stuckItems chart e).map (e, ·)
  let found := r.walk chart fuel (maxDepth + 1) 0 start {} #[]
  (found.toList.mergeSort fun a b =>
    a.depth < b.depth ||
      (a.depth == b.depth && (chart.get a.set).settled ≤ (chart.get b.set).settled)).toArray

/-- The lexeme at `i` as error mode reads it: a word of the grammar is its keyword. -/
def errorToken (r : Recognizer) (i : Nat) : Lexeme :=
  readErrorToken r.source r.grammar.vocabulary r.grammar.vocabulary.mem i

/-- The lexemes from `i` on as error mode reads them, comments included, up to `count`
tokens or the end of the input. Every lexeme but the end reads at least one character, so
`fuel` beyond the length of the source suffices. -/
def errorTokensFrom (r : Recognizer) : Nat → Nat → Nat → List Lexeme
  | 0, _, _ => []
  | _ + 1, 0, _ => []
  | fuel + 1, count + 1, i =>
    let l := r.errorToken i
    if l.tok == .endOfInput then [l]
    else if l.isExtra then l :: r.errorTokensFrom fuel (count + 1) l.stop
    else l :: r.errorTokensFrom fuel count l.stop

/-- The lexemes from `i` on, up to `count` tokens or the end of the input. -/
def errorTokens (r : Recognizer) (count i : Nat) : List Lexeme :=
  r.errorTokensFrom (r.source.size + 2) count i

/-- Whether a symbol derives the empty sequence. -/
def nullableSym (g : Grammar) : Sym → Bool
  | .nonterm a => g.isNullable a
  | .term _ => false

/-- Whether assuming token `m` at stuck set `e` lets token `bad` through: some phrase is
finished by `m`, and once it is, `bad` is expected (or the input may end, when `bad` is
the end). -/
def missingFits (r : Recognizer) (chart : Chart) (e : Nat) (m bad : Tok) : Bool :=
  let g := r.grammar
  let finished := (chart.get e).items.foldl (fun (s : ItemSet) (it : Item) =>
    let p := g.production it.prod
    match p.rhs[it.dot]? with
    | some (.term u) =>
      if u == m && (p.rhs.extract (it.dot + 1) p.rhs.size).all (nullableSym g) then
        s.add ⟨it.prod, p.rhs.size, it.origin⟩ (some e)
      else s
    | _ => s) ({} : ItemSet)
  if finished.items.isEmpty then false
  else
    let closed := ItemSet.close g chart chart.size finished
    if bad == .endOfInput then closed.accepts g else closed.expected.mem bad

/-- The first token, in the grammar's order, that the stuck set expects and that fits as
missing. Nothing fits before characters that start no token. -/
def missingToken (r : Recognizer) (chart : Chart) (e : Nat) (bad : Tok) : Option Tok :=
  if bad == .errorChars then none
  else r.grammar.tokenOrder.find? fun m =>
    (chart.get e).expected.mem m && r.missingFits chart e m bad

/-- The start of the first token after a set: its settled position, blanks skipped. -/
def firstTokenAfter (r : Recognizer) (chart : Chart) (f : Nat) : Nat :=
  r.source.skipWhile isSeparator (chart.get f).settled

end Recognizer

end DocSuite.Script
