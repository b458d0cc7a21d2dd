import Std.Data.HashMap
import Std.Data.HashSet
import DocSuite.Script.Grammar.Productions
import DocSuite.Script.Lexer
/-!
# Charts

A chart parser keeps, after each token, the set of all *items* `A → α • β` that are
consistent with the input so far, each with the set at which `A` began. `ItemSet.close`
adds the consequences of an item: the productions of the nonterminal after its dot
(prediction), the item advanced over a nullable nonterminal, and, for a finished item, its
waiting parents advanced (completion). `Chart.scan` moves the items expecting a token over
it into a new set. Nullable nonterminals are handled at prediction, so one pass over a set
reaches all its items.

Every advanced item also records the sets at which its last recognised symbol began (its
*links*). Walking links backwards from a set retraces the stack of partial phrases that
an error recovery can pop.
-/

namespace DocSuite.Script

/-- A stretch of input that a parse could not place, from the start of its first token to
the end of its last. `units` counts the phrases it swallowed whole; `skips` is the cost of
the runs of tokens it skipped one by one. -/
structure Region where
  start : Nat
  stop : Nat
  units : Nat
  skips : Nat
  deriving DecidableEq, Repr, Inhabited

/-- An item: production `prod` with `dot` of its symbols recognised, begun at set
`origin`. -/
structure Item where
  prod : Nat
  dot : Nat
  origin : Nat
  deriving BEq, Hashable, Inhabited, Repr

/-- One set of a chart. -/
structure ItemSet where
  items : Array Item := #[]
  /-- For each item, the sets at which its last recognised symbol began. -/
  links : Array (List Nat) := #[]
  index : Std.HashMap Item Nat := {}
  /-- For each nonterminal, the items (by position) whose dot stands before it. -/
  waiting : Std.HashMap Nat (Array Nat) := {}
  /-- The tokens some item expects next. -/
  expected : TokSet := .empty
  /-- Whether some item expects a name in a property position next. -/
  propertyWord : Bool := false
  /-- The character index after the last token read before this set. -/
  pos : Nat := 0
  /-- The character index after the comments read at this set, where its next token
  starts to be read. -/
  settled : Nat := 0
  /-- For a set that takes up an earlier set again after an error region: that set, and
  the region. -/
  resumes : Option (Nat × Region) := none
  deriving Inhabited

/-- A chart: its sets, numbered in order of creation. -/
abbrev Chart := Array ItemSet

namespace ItemSet

/-- Adds an item reached through a symbol that began at set `link`, or records the new
link of an item already present. -/
def add (s : ItemSet) (it : Item) (link : Option Nat) : ItemSet :=
  match s.index.get? it with
  | some i =>
    match link with
    | some l =>
      if (s.links.getD i []).contains l then s
      else { s with links := s.links.modify i (l :: ·) }
    | none => s
  | none =>
    { s with
      items := s.items.push it
      links := s.links.push link.toList
      index := s.index.insert it s.items.size }

/-- The sets at which an item's last recognised symbol began. -/
def linksOf (s : ItemSet) (it : Item) : List Nat :=
  match s.index.get? it with
  | some i => s.links.getD i []
  | none => []

/-- Whether the set holds an item. -/
def has (s : ItemSet) (it : Item) : Bool := s.index.contains it

/-- The items waiting for nonterminal `a`. -/
def waitingFor (s : ItemSet) (a : Nat) : Array Item :=
  (s.waiting.getD a #[]).map (s.items.getD · default)

/-- The consequences of the items from position `i` on, for the set numbered `k` of a
chart whose earlier sets are `chart`. Each round treats one item and the items are
distinct, so `fuel` at least the number of possible items suffices. -/
def closeFrom (g : Grammar) (chart : Chart) (k : Nat) : Nat → Nat → ItemSet → ItemSet
  | 0, _, s => s
  | fuel + 1, i, s =>
    if h : i < s.items.size then
      let it := s.items[i]
      let p := g.production it.prod
      let s := match p.rhs[it.dot]? with
        | some (.nonterm a) =>
          let predicted := s.waiting.contains a
          let s := { s with waiting := s.waiting.insert a ((s.waiting.getD a #[]).push i) }
          let s := if predicted then s
            else (g.byLhs.getD a #[]).foldl (fun s q => s.add ⟨q, 0, k⟩ none) s
          if g.isNullable a then s.add ⟨it.prod, it.dot + 1, it.origin⟩ (some k) else s
        | some (.term t) =>
          { s with
            expected := s.expected.insert t
            propertyWord := s.propertyWord || g.isPropertyWord it.prod it.dot }
        | none =>
          let parents := if it.origin == k then s.waitingFor p.lhs
            else (chart.getD it.origin default).waitingFor p.lhs
          parents.foldl (fun s j => s.add ⟨j.prod, j.dot + 1, j.origin⟩ (some it.origin)) s
      closeFrom g chart k fuel (i + 1) s
    else s

/-- A bound on the number of items of set `k`: every production, dot and origin. -/
def itemBound (g : Grammar) (k : Nat) : Nat :=
  (g.productions.foldl (fun n p => n + p.rhs.size + 1) 0) * (k + 1) + 1

/-- Closes a set numbered `k`. -/
def close (g : Grammar) (chart : Chart) (k : Nat) (s : ItemSet) : ItemSet :=
  closeFrom g chart k (itemBound g k) 0 s

/-- Whether a reserved word read at this set is its keyword: the set expects a name, and
no item takes a name in a property position. -/
def reservesWords (s : ItemSet) : Bool := s.expected.mem .identifier && !s.propertyWord

/-- Whether the set has recognised a whole program. -/
def accepts (g : Grammar) (s : ItemSet) : Bool := s.has ⟨g.startProduction, 1, 0⟩

/-- The items begun before set `k` that an item of set `k` serves: the item itself when it
began before `k`; for an item begun at `k` (predicted there), those of the items waiting for
its nonterminal, followed up in turn. Each predicted item is followed once, so `fuel`
beyond the number of items times the queue it can add suffices. -/
def rootItems (g : Grammar) (s : ItemSet) (k : Nat) (it : Item) : List Item :=
  go ((s.items.size + 1) * (s.items.size + 1)) [it] {} []
where
  /-- Follows the queue, with the predicted items in `seen` already followed. -/
  go : Nat → List Item → Std.HashSet Item → List Item → List Item
    | 0, _, _, acc => acc
    | _, [], _, acc => acc
    | fuel + 1, x :: rest, seen, acc =>
      if x.origin != k then go fuel rest seen (if acc.contains x then acc else x :: acc)
      else if seen.contains x then go fuel rest seen acc
      else go fuel (rest ++ (s.waitingFor (g.production x.prod).lhs).toList) (seen.insert x) acc

/-- Whether an item of category `c` has just read keyword `kw` and waits for more: the
keyword opened that construct (a declaration's `let`, an export's `export`) rather than
being read as a name. -/
def justOpened (s : ItemSet) (g : Grammar) (c : NT) (kw : Tok) : Bool :=
  s.items.any fun it =>
    let p := g.production it.prod
    p.lhs == c.ctorIdx && it.dot > 0 && it.dot < p.rhs.size && p.rhs[it.dot - 1]? == some (.term kw)

/-- Whether some item of the set takes token `t` at once: it was predicted in this set or
last read a token of its own, so a table-driven parser would shift `t` there. An item that
last read a nonterminal, or a token standing for an inlined category, takes `t` only once
that category is complete, that is after a reduction. -/
def takesAtOnce (s : ItemSet) (g : Grammar) (k : Nat) (t : Tok) : Bool :=
  s.items.any fun it =>
    let p := g.production it.prod
    p.rhs[it.dot]? == some (.term t) &&
      ((it.dot == 0 && it.origin == k) || match p.rhs[it.dot - 1]? with
        | some (.term _) => it.dot > 0 && !p.inlined.getD (it.dot - 1) false
        | _ => false)



end ItemSet

namespace Chart

/-- The chart of a parse that has read nothing. -/
def start (g : Grammar) : Chart :=
  #[ItemSet.close g #[] 0 ((({} : ItemSet).add ⟨g.startProduction, 0, 0⟩ none))]

/-- The set numbered `k`. -/
def get (c : Chart) (k : Nat) : ItemSet := c.getD k default

/-- The items of set `k` that carry on the items `start` completed at `k`: those items, the
items their completion advanced, and so on upwards through the items those complete. Each
item is followed once, so `fuel` beyond the number of items times the queue it can add
suffices. -/
def carriers (c : Chart) (g : Grammar) (k : Nat) (start : List Item) : Std.HashSet Item :=
  let set := c.get k
  go set ((set.items.size + 1) * (set.items.size + 1)) start {}
where
  /-- Follows the queue from the items in `found`. -/
  go (set : ItemSet) : Nat → List Item → Std.HashSet Item → Std.HashSet Item
    | 0, _, found => found
    | _, [], found => found
    | fuel + 1, x :: rest, found =>
      if found.contains x then go set fuel rest found
      else
        let p := g.production x.prod
        let parents : List Item :=
          if x.dot == p.rhs.size then
            ((c.get x.origin).waitingFor p.lhs).toList.filterMap fun j =>
              let up : Item := ⟨j.prod, j.dot + 1, j.origin⟩
              if set.has up then some up else none
          else []
        go set fuel (rest ++ parents) (found.insert x)

/-- The completed items of set `k` whose production satisfies `p`. -/
def completed (c : Chart) (g : Grammar) (k : Nat) (p : Production → Bool) : List Item :=
  (c.get k).items.toList.filter fun it =>
    let q := g.production it.prod
    it.dot == q.rhs.size && p q

/-- The items of set `k` that take token `t`.

* A `[` right after the `let` of a statement's declaration opens the declaration's
  pattern, begun at `k`: it never indexes `let` read as a name. The head of a `for` keeps
  both readings (`for (let[0] of x)` indexes).
* A `*` right after the `export` of an export statement re-exports: the items that carry
  `export` read as a name (`carriers` of the completed one-word items) are dropped, so it
  never multiplies.
* Where the set has just completed a function or class declaration or a block, the same
  text read as an expression gives way when the parse after the statement can take `t` as
  well: the items that serve only the expression (`carriers`, `ItemSet.rootItems`) are
  dropped, so `function f() {} (x)` is a declaration and a parenthesised expression, never
  a call. -/
def takers (g : Grammar) (c : Chart) (k : Nat) (t : Tok) : Array Item :=
  let set := c.get k
  let patternOnly := t == .lBracket && set.justOpened g .lexicalDeclaration .kLet &&
    !set.justOpened g .forHeader .kLet
  let exportName : Std.HashSet Item :=
    if t == .star && set.justOpened g .exportStatement .kExport then
      c.carriers g k (c.completed g k (Grammar.isNameOf .kExport))
    else {}
  let takers := set.items.filter fun it =>
    (g.production it.prod).rhs[it.dot]? == some (.term t) && (!patternOnly || it.origin == k) &&
      !exportName.contains it
  let declarations := c.completed g k Grammar.isShadowingStatement
  if declarations.isEmpty then takers
  else
    let declared := c.carriers g k declarations
    let expressed := c.carriers g k (c.completed g k Grammar.isShadowedExpression)
    let onlyExpression := takers.map fun it =>
      (it, (ItemSet.rootItems g set k it).all fun r =>
        expressed.contains r && !declared.contains r)
    if onlyExpression.all (·.2) then takers
    else (onlyExpression.filter (!·.2)).map (·.1)

/-- The items of set `k` advanced over any of the tokens `ts` (one text read several ways),
closed as the next set; its position is `pos`. -/
def scannedOver (g : Grammar) (c : Chart) (k : Nat) (ts : List Tok) (pos : Nat) : ItemSet :=
  let kernel := ts.foldl (fun s t => (c.takers g k t).foldl
    (fun s it => s.add ⟨it.prod, it.dot + 1, it.origin⟩ (some k)) s) { pos, settled := pos }
  ItemSet.close g c c.size kernel

/-- The items of set `k` advanced over token `t` (`takers`), closed as the next set; its
position is `pos`. -/
def scanned (g : Grammar) (c : Chart) (k : Nat) (t : Tok) (pos : Nat) : ItemSet :=
  c.scannedOver g k [t] pos

/-- The chart with set `k` advanced over the tokens `ts` as a new set. -/
def scanOver (g : Grammar) (c : Chart) (k : Nat) (ts : List Tok) (pos : Nat) : Chart :=
  c.push (c.scannedOver g k ts pos)

end Chart

end DocSuite.Script
