import DocSuite.Script.Repair
/-!
# Error recovery

A source that does not parse is repaired the way a parser with error recovery does it
on line: several *versions* of the parse run side by side, each reading its own lexemes,
and after every round the versions are compared and the clearly worse ones dropped. The
cheapest finished version is the parse.

* A version that meets a lexeme it cannot take *pauses*. When the best version is paused,
  it is resumed and its error handled (`handleError`): a copy that assumes a missing token
  is split off when that token lets the stuck one through, and the version itself enters
  the *error state*.
* A version in the error state reads lexemes in error mode (`recover`). For each token it
  first looks, among the frames of the set where it got stuck, for the nearest one that
  takes the token; if one does, a new version goes back to it and the phrases and tokens
  in between become an error region. Then it skips the token itself. The token after a
  comment that directly follows the stuck token is only skipped. Each step is given up
  when some other version is already clearly better (`betterExists`). At the end of the
  input it finishes with the whole input as one region.
* A version's cost is that of its repairs (`missingCost`, `Region.cost`); in the error
  state, that of the error it is building; paused, 600 more.
* Two versions are compared by `Status.compare`: one in the error state loses to a cheaper
  one that is not; otherwise the dearer loses once the difference, weighted by the nodes the
  cheaper has built since its last error, exceeds `maxCostDifference`.
-/

namespace DocSuite.Script

/-- How many versions of a parse are kept. -/
def maxVersions : Nat := 6

/-- How far apart the costs of two versions may be, times one more than the nodes the
cheaper one has built since its last error, before the dearer one is dropped. -/
def maxCostDifference : Nat := 16 * skippedTreeCost

/-- The error a version in the error state is building. The tokens it skips one by one form
a *run*, nested one level deeper with every token: a run of one token costs
`skippedTreeCost`, and each further token costs twice that more, plus `skippedTreeCost` for
every token and comment already in the run. -/
structure Pending where
  /-- The set where the version got stuck. -/
  stuck : Nat
  /-- The sets it may go back to, nearest first. -/
  frames : Array Frame
  /-- The version's cost before the error. -/
  base : Nat
  /-- How many tokens it has skipped. -/
  skipped : Nat := 0
  /-- Where the first skipped token starts. -/
  first : Nat := 0
  /-- Where the last skipped token ends. -/
  lastStop : Option Nat := none
  /-- The cost of the run. -/
  runCost : Nat := 0
  /-- The tokens and comments in the run. -/
  runWidth : Nat := 0
  /-- The nodes of the run: one for the run, one for each token and comment in it. -/
  runNodes : Nat := 0
  /-- The comments before the last skipped token, latest first: they lie in the error. -/
  inner : List Lexeme := []
  /-- The comments after the last skipped token, latest first. -/
  trailing : List Lexeme := []
  deriving Inhabited

namespace Pending

/-- The cost a region holding the run adds: the run, and `skippedTreeCost` for each of its
tokens and comments. -/
def runShare (p : Pending) : Nat :=
  if p.skipped == 0 then 0 else p.runCost + skippedTreeCost * p.runWidth

/-- The error after skipping one more token. -/
def skip (p : Pending) (t : Lexeme) : Pending :=
  if p.skipped == 0 then
    { p with skipped := 1, first := t.start, lastStop := some t.stop,
             runCost := skippedTreeCost, runWidth := 1, runNodes := 2,
             inner := p.trailing ++ p.inner, trailing := [] }
  else
    { p with skipped := p.skipped + 1, lastStop := some t.stop,
             runCost := p.runCost + skippedTreeCost * p.runWidth + 2 * skippedTreeCost,
             runWidth := p.runWidth + p.trailing.length + 1,
             runNodes := p.runNodes + p.trailing.length + 1,
             inner := p.trailing ++ p.inner, trailing := [] }

/-- Whether the error has skipped only the token it got stuck on and then read a comment:
the token after the comment is skipped as well, never taken by a frame (the end of the
input apart). -/
def waitsOutComment (p : Pending) : Bool := p.skipped == 1 && !p.trailing.isEmpty

end Pending

/-- What a version is doing. -/
inductive Phase where
  /-- Parsing on from a set. -/
  | parsing (set : Nat)
  /-- Stuck at a set before a lexeme it cannot take, waiting to be resumed. -/
  | paused (set : Nat) (bad : Lexeme)
  /-- In the error state. -/
  | erring (p : Pending)
  /-- Finished, or given up. -/
  | halted
  deriving Inhabited

/-- One version of a parse. -/
structure Version where
  phase : Phase
  /-- Where its next lexeme is read. -/
  pos : Nat
  /-- The cost of its repairs so far. -/
  cost : Nat
  /-- An estimate of the nodes it has built since its last error: two for a token, one for
  a comment or a missing token. -/
  nodes : Nat
  regions : List Region := []
  missing : Nat := 0
  /-- The comments read, latest first. -/
  extras : List Lexeme := []
  deriving Inhabited

/-- What versions are compared by: the cost, the nodes built since the last error, and
whether the version is in the error state or paused. -/
structure Status where
  cost : Nat
  nodes : Nat
  inError : Bool
  deriving DecidableEq, Repr

/-- The outcome of comparing two versions: drop the right one, prefer the left one, no
preference, prefer the right one, drop the left one. -/
inductive Verdict where
  | takeLeft
  | preferLeft
  | even
  | preferRight
  | takeRight
  deriving DecidableEq, Repr

/-- Compares two versions. A version out of the error state beats a dearer one in it;
between two of the same kind, the cheaper is preferred, and wins outright when the
difference times one more than its nodes exceeds `maxCostDifference`. -/
def Status.compare (a b : Status) : Verdict :=
  if !a.inError && b.inError then
    if a.cost < b.cost then .takeLeft else .preferLeft
  else if a.inError && !b.inError then
    if b.cost < a.cost then .takeRight else .preferRight
  else if a.cost < b.cost then
    if (b.cost - a.cost) * (1 + a.nodes) > maxCostDifference then .takeLeft else .preferLeft
  else if b.cost < a.cost then
    if (a.cost - b.cost) * (1 + b.nodes) > maxCostDifference then .takeRight else .preferRight
  else .even

namespace Version

/-- Whether the version reads on: parsing or in the error state. -/
def isActive (v : Version) : Bool :=
  match v.phase with
  | .parsing _ | .erring _ => true
  | _ => false

/-- Whether the version is paused. -/
def isPaused (v : Version) : Bool :=
  match v.phase with
  | .paused .. => true
  | _ => false

/-- Whether the version is halted. -/
def isHalted (v : Version) : Bool :=
  match v.phase with
  | .halted => true
  | _ => false

/-- What the version is compared by. -/
def status (v : Version) : Status :=
  match v.phase with
  | .parsing _ => ⟨v.cost, v.nodes, false⟩
  | .paused .. => ⟨v.cost + recoveryCost + skippedTreeCost, v.nodes, true⟩
  | _ => ⟨v.cost, v.nodes, true⟩

end Version

/-- Whether two sets hold the same items up to where they began: the same state of the
parse. -/
def ItemSet.sameCore (a b : ItemSet) : Bool :=
  a.items.map (fun it => (it.prod, it.dot)) == b.items.map (fun it => (it.prod, it.dot))

/-- Whether two versions can be joined into one: both read on, at the same place and cost,
in the same state. -/
def Version.canMerge (chart : Chart) (a b : Version) : Bool :=
  a.pos == b.pos && a.cost == b.cost &&
    match a.phase, b.phase with
    | .parsing j, .parsing k => (chart.get j).sameCore (chart.get k)
    | .erring _, .erring _ => true
    | _, _ => false

/-- A finished parse: its error regions, its missing tokens, its comments (latest first),
whether the whole input is one region, and its cost. -/
structure Finished where
  regions : List Region
  missing : Nat
  extras : List Lexeme
  whole : Bool
  cost : Nat
  deriving Inhabited

/-- The state of a parse: the shared chart, the versions in order of promise, the best
finished parse, and how many parses have finished. -/
structure Engine where
  chart : Chart
  versions : Array Version
  finished : Option Finished := none
  accepted : Nat := 0

namespace Engine

/-- The version at an index. -/
def version (i : Nat) : StateM Engine Version := do
  pure ((← get).versions.getD i default)

/-- Replaces the version at an index. -/
def setVersion (i : Nat) (v : Version) : StateM Engine Unit :=
  modify fun e => { e with versions := e.versions.setIfInBounds i v }

/-- Adds a version last. -/
def addVersion (v : Version) : StateM Engine Unit :=
  modify fun e => { e with versions := e.versions.push v }

/-- Removes the version at an index. -/
def removeVersion (i : Nat) : StateM Engine Unit :=
  modify fun e => { e with versions := e.versions.eraseIdxIfInBounds i }

/-- Adds a set to the chart and gives its number. -/
def addSet (s : ItemSet) : StateM Engine Nat := do
  let e ← get
  set { e with chart := e.chart.push s }
  pure e.chart.size

/-- Records a finished parse. It replaces the best one so far when cheaper, or when as
dear and not free of repairs. -/
def offer (f : Finished) : StateM Engine Unit :=
  modify fun e =>
    let better := match e.finished with
      | some old => f.cost < old.cost || (f.cost == old.cost && old.cost > 0)
      | none => true
    { e with finished := if better then some f else e.finished, accepted := e.accepted + 1 }

/-- Whether the version at `i`, were its cost `cost` and were it out of the error state,
would already lose: to a finished parse no dearer, or to another version reading on, not
behind it, that beats it or is preferred and could be joined with it. -/
def betterExists (i cost : Nat) : StateM Engine Bool := do
  let e ← get
  if e.finished.any (·.cost ≤ cost) then return true
  let v := e.versions.getD i default
  let me : Status := ⟨cost, v.nodes, false⟩
  return (List.range e.versions.size).any fun j =>
    let w := e.versions.getD j default
    j != i && w.isActive && w.pos ≥ v.pos &&
      match me.compare w.status with
      | .takeRight => true
      | .preferRight => Version.canMerge e.chart w v
      | _ => false

/-- Joins the version at `i` into the one at `j` when they can be joined. -/
def merge (j i : Nat) : StateM Engine Bool := do
  let e ← get
  if Version.canMerge e.chart (e.versions.getD j default) (e.versions.getD i default) then
    removeVersion i
    pure true
  else pure false

/-- Compares the version at `i`, of status `si`, with those before it from `j` on, dropping,
joining and reordering as the comparisons say; gives the index the next version is at,
less one. Every round moves `j` up or `i` down, so `fuel` above `i` suffices. -/
def compareEarlier (si : Status) : Nat → Nat → Nat → StateM Engine Nat
  | 0, i, _ => pure i
  | fuel + 1, i, j => do
    if j ≥ i then return i
    let sj := (← version j).status
    match sj.compare si with
    | .takeLeft =>
      removeVersion i
      pure (i - 1)
    | .preferLeft | .even =>
      if ← merge j i then pure (i - 1) else compareEarlier si fuel i (j + 1)
    | .preferRight =>
      if ← merge j i then pure (i - 1)
      else do
        modify fun e => { e with versions := e.versions.swapIfInBounds i j }
        compareEarlier si fuel i (j + 1)
    | .takeRight =>
      removeVersion j
      compareEarlier si fuel (i - 1) j

/-- Drops halted versions and compares every version with those before it, from index `i`
on; gives the least cost of a version out of the error state, from `least`. -/
def condenseFrom : Nat → Nat → Nat → StateM Engine Nat
  | 0, _, least => pure least
  | fuel + 1, i, least => do
    let e ← get
    if i ≥ e.versions.size then return least
    let v := e.versions.getD i default
    if v.isHalted then
      removeVersion i
      condenseFrom fuel i least
    else
      let s := v.status
      let least := if !s.inError && s.cost < least then s.cost else least
      let i ← compareEarlier s (i + 1) i 0
      condenseFrom fuel (i + 1) least

end Engine

namespace Recognizer

open Engine

/-- The lexeme at `i` as error mode reads it, for a version in the error state. -/
def errorLexeme (r : Recognizer) (i : Nat) : Lexeme := r.errorToken i

/-- Finishes the error-state version `v` at the end of the input: the whole input becomes
one region. -/
def finishWhole (r : Recognizer) (v : Version) (p : Pending) : StateM Engine Unit :=
  let start := r.source.skipWhile isSeparator 0
  let region : Region := ⟨start, max start v.pos, p.skipped + 1, p.runShare⟩
  offer { regions := v.regions, missing := v.missing, extras := p.trailing ++ p.inner ++ v.extras,
          whole := true, cost := v.cost + recoveryCost + region.cost r.source }

/-- Adds the version that takes the error-state version `v` back to frame `f`: everything
from the first token after the frame to the last skipped token (or to the stuck set,
when none was skipped) becomes an error region, which grows the region the frame itself
resumes after, when nothing lies between them. The new version reads on from the region's
end, in the state of the frame. -/
def goBackTo (r : Recognizer) (v : Version) (p : Pending) (f : Frame) : StateM Engine Unit := do
  let chart := (← get).chart
  let fs := chart.get f.set
  let stop := p.lastStop.getD (chart.get p.stuck).pos
  let region : Region := ⟨r.firstTokenAfter chart f.set, stop, f.depth, p.runShare⟩
  let (regions, cost, resumes) :=
    match fs.resumes with
    | some (a, old) =>
      if fs.settled == fs.pos then
        let merged : Region :=
          ⟨old.start, region.stop, old.units + region.units, old.skips + region.skips⟩
        (merged :: v.regions.erase old, p.base + merged.cost r.source - old.cost r.source,
          (a, merged))
      else (region :: v.regions, p.base + region.cost r.source, (f.set, region))
    | none => (region :: v.regions, p.base + region.cost r.source, (f.set, region))
  let resumed := r.frameSet chart chart.size f.kernel
  let k ← addSet { resumed with pos := region.stop, settled := region.stop, resumes := some resumes }
  addVersion
    { phase := .parsing k, pos := region.stop, cost, nodes := 1 + p.runNodes, regions,
      missing := v.missing, extras := p.inner ++ v.extras.filter (·.start < region.stop) }

/-- Looks through the frames of the error-state version at `i`, from the `k`-th on, for
the first that takes token `t`, and goes back to it. The search ends without a recovery
as soon as a better version exists than going back to the frame at hand would give. -/
def goBack (r : Recognizer) (i : Nat) (v : Version) (p : Pending) (t : Lexeme) :
    Nat → Nat → StateM Engine Bool
  | 0, _ => pure false
  | fuel + 1, k =>
    match p.frames[k]? with
    | none => pure false
    | some f => do
      let chart := (← get).chart
      let fs := chart.get f.set
      if fs.settled == v.pos then r.goBack i v p t fuel (k + 1)
      else
        let cost := v.cost + skippedTreeCost * (f.depth + 1) + r.source.spanCost fs.settled v.pos
        if ← betterExists i cost then pure false
        else if f.takes t then do
          r.goBackTo v p f
          pure true
        else r.goBack i v p t fuel (k + 1)

/-- The error-state version at `i` meets token `t`. It goes back to the first frame that
takes `t`, as a new version; at the end of the input it finishes as one region; otherwise
it skips `t` and stays in the error state, unless a better version exists than it would
then be, or going back made too many versions. -/
def recover (r : Recognizer) (i : Nat) (t : Lexeme) : StateM Engine Unit := do
  let v ← version i
  let .erring p := v.phase | return
  let recovered ← if t.tok == .errorChars || (p.waitsOutComment && t.tok != .endOfInput) then
      pure false
    else r.goBack i v p t p.frames.size 0
  if t.tok == .endOfInput then
    r.finishWhole v p
    setVersion i { v with phase := .halted }
  else if recovered && (← get).versions.size > maxVersions then
    setVersion i { v with phase := .halted }
  else if ← betterExists i (v.cost + skippedTreeCost + r.source.spanCost v.pos t.stop) then
    setVersion i { v with phase := .halted }
  else
    let p := p.skip t
    setVersion i { v with
      phase := .erring p, pos := t.stop, cost := p.base + p.runCost, nodes := p.runNodes }

/-- Handles the error of the paused version at `i`: splits off a copy that assumes the
first missing token that fits, then puts the version into the error state and lets it meet
the token it was stuck on. -/
def handleError (r : Recognizer) (i : Nat) : StateM Engine Unit := do
  let v ← version i
  let .paused e bad := v.phase | return
  let chart := (← get).chart
  match r.missingToken chart e bad.tok with
  | some m =>
    let s := chart.get e
    let k ← addSet { chart.scanned r.grammar e m s.settled with settled := s.settled }
    addVersion { v with
      phase := .parsing k, cost := v.cost + missingCost, missing := v.missing + 1, nodes := 1 }
  | none => pure ()
  let p : Pending := { stuck := e, frames := r.frames (← get).chart e, base := v.cost }
  setVersion i { v with phase := .erring p, cost := v.cost + recoveryCost, nodes := 0 }
  r.recover i bad

/-- Resumes the first paused version among the first `n`, from index `i` on, unless a
version reading on comes before it, and drops the other paused ones; gives the least
cost, from `least`, which a resumed version sets. -/
def resumePaused (r : Recognizer) : Nat → Nat → Nat → Bool → Nat → StateM Engine Nat
  | 0, _, _, _, least => pure least
  | fuel + 1, i, n, unpaused, least => do
    if i ≥ n then return least
    let e ← get
    let v := e.versions.getD i default
    if v.isPaused then
      if !unpaused && e.accepted < maxVersions then
        r.handleError i
        r.resumePaused fuel (i + 1) n true (v.cost + recoveryCost)
      else
        removeVersion i
        r.resumePaused fuel i (n - 1) unpaused least
    else r.resumePaused fuel (i + 1) n true least

/-- Compares the versions after a round, keeps at most `maxVersions`, and resumes the best
paused one when no version reading on is ahead of it; gives the least cost of a version
out of the error state. -/
def condense (r : Recognizer) : StateM Engine Nat := do
  let n := (← get).versions.size
  let least ← condenseFrom (2 * n + 2) 0 (Nat.pow 2 62)
  modify fun e => { e with versions := e.versions.extract 0 maxVersions }
  let n := (← get).versions.size
  r.resumePaused (n + 1) 0 n false least

/-- Moves the version at `i` one step: a parsing version reads its next lexeme and takes
it, finishes, or pauses; one in the error state reads a comment or meets a token. -/
def advance (r : Recognizer) (i : Nat) : StateM Engine Unit := do
  let v ← version i
  match v.phase with
  | .parsing k =>
    let chart := (← get).chart
    let s := chart.get k
    let l := r.lexAt s v.pos
    if l.isExtra then
      modify fun e => { e with chart := e.chart.modify k fun s => { s with settled := l.stop } }
      setVersion i { v with pos := l.stop, extras := l :: v.extras, nodes := v.nodes + 1 }
    else if l.tok == .endOfInput && s.accepts r.grammar then
      offer { regions := v.regions, missing := v.missing, extras := v.extras, whole := false,
              cost := v.cost }
      setVersion i { v with phase := .halted }
    else if l.tok != .endOfInput && s.expected.mem l.tok then
      let next ← addSet (chart.scannedOver r.grammar k (r.readings s k l) l.stop)
      setVersion i { v with phase := .parsing next, pos := l.stop, nodes := v.nodes + 2 }
      match r.lexAlternative? s v.pos l with
      | some a =>
        let other ← addSet ((← get).chart.scanned r.grammar k a.tok a.stop)
        addVersion { v with phase := .parsing other, pos := a.stop, nodes := v.nodes + 2 }
      | none => pure ()
    else setVersion i { v with phase := .paused k l, nodes := 0 }
  | .erring p =>
    let t := r.errorLexeme v.pos
    if t.isExtra then
      setVersion i { v with
        phase := .erring { p with trailing := t :: p.trailing }, pos := t.stop,
        nodes := v.nodes + 1 }
    else r.recover i t
  | _ => pure ()

/-- Moves the version at `i` until it has read past `last` (or up to it, for any version
but the first), pauses or halts; gives the new furthest position. -/
def stepVersion (r : Recognizer) (i last : Nat) : Nat → StateM Engine Nat
  | 0 => pure last
  | fuel + 1 => do
    if !(← version i).isActive then return last
    r.advance i
    let pos := (← version i).pos
    if pos > last || (i > 0 && pos == last) then return pos
    r.stepVersion i last fuel

/-- One round: moves every version from index `i` on, versions added on the way included;
gives the furthest position read. -/
def round (r : Recognizer) (last : Nat) : Nat → Nat → StateM Engine Nat
  | 0, _ => pure last
  | fuel + 1, i => do
    if i ≥ (← get).versions.size then return last
    let last ← r.stepVersion i last r.fuelFor
    r.round last fuel (i + 1)

/-- Runs rounds until no version is left, or a finished parse is cheaper than every
version out of the error state. -/
def drive (r : Recognizer) : Nat → Nat → StateM Engine Unit
  | 0, _ => pure ()
  | fuel + 1, last => do
    let n := (← get).versions.size
    if n == 0 then return
    let last ← r.round last (2 * n + 2 * maxVersions + 2) 0
    let least ← r.condense
    if (← get).finished.any (·.cost < least) then return
    r.drive fuel last

end Recognizer

/-- The outcome of parsing a source: the error regions, the missing tokens, the comments
in order, and whether the whole input is one region. -/
structure Parse where
  regions : List Region
  missing : Nat
  comments : List Lexeme
  whole : Bool
  /-- The region spanning the input, when `whole`. -/
  wholeSpan : Region
  deriving Inhabited

namespace Parse

/-- Whether the parse needed any repair. -/
def hasError (p : Parse) : Bool := p.whole || p.missing > 0 || !p.regions.isEmpty

end Parse

namespace Recognizer

/-- Parses the whole source, repairing errors as the versions settle it. When no version
finishes, the whole input is one region. -/
def parse (r : Recognizer) : Parse :=
  let start : Engine :=
    { chart := Chart.start r.grammar, versions := #[{ phase := .parsing 0, pos := 0, cost := 0, nodes := 0 }] }
  let (_, st) := (r.drive (4 * (r.source.size + 2) + 64) 0).run start
  let all := r.errorTokens (r.source.size + 1) 0
  let begin := r.source.skipWhile isSeparator 0
  let stop := ((all.filter (·.tok != .endOfInput)).getLast?.map (·.stop)).getD begin
  let best := st.finished.getD
    { regions := [], missing := 0, extras := (all.filter (·.isExtra)).reverse, whole := true,
      cost := 0 }
  let comments := (best.extras.reverse.foldl (fun acc l =>
    if acc.any (·.start == l.start) then acc else acc ++ [l]) []).mergeSort
      fun a b => a.start ≤ b.start
  { regions := best.regions
    missing := best.missing
    comments
    whole := best.whole
    wholeSpan := ⟨begin, max begin stop, 0, 0⟩ }

end Recognizer

end DocSuite.Script
