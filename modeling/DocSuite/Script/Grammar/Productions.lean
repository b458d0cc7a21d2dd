import DocSuite.Script.Grammar.Rules
import DocSuite.Dialect
import DocSuite.Script.Lexer
/-!
# Productions

A grammar in the form a chart parser reads: numbered nonterminals, each with a list of
productions whose right-hand sides are plain symbol sequences. `Grammar.ofFlavor` compiles
the rules: a choice or an option inside a sequence is multiplied out into several
productions of the rule itself (up to `expansionLimit` of them; beyond that the choice gets
a nonterminal of its own), and a repetition gets a nonterminal `A → x | A x`. The named
categories keep their numbers (`NT.ctorIdx`); the start symbol and the helper nonterminals
come after them.
-/

namespace DocSuite.Script

/-- A symbol of a production: a token or a numbered nonterminal. -/
inductive Sym where
  | term (t : Tok)
  | nonterm (i : Nat)
  deriving DecidableEq, Repr, Inhabited

/-- One production `lhs → rhs`. `inlined` marks the positions of `rhs` that a transparent
category was replaced by (`Grammar.inlineStep`): to a table-driven parser the symbol there
completes that category, so what follows it is taken after a reduction. -/
structure Production where
  lhs : Nat
  rhs : Array Sym
  inlined : Array Bool := #[]
  deriving Repr, Inhabited

/-- A compiled grammar. -/
structure Grammar where
  productions : Array Production
  /-- The productions of each nonterminal, by number. -/
  byLhs : Array (Array Nat)
  /-- Which nonterminals derive the empty sequence. -/
  nullable : Array Bool
  /-- Which nonterminals have a production that begins with a token, directly or through
  the first symbols of further productions: a parse expecting one can shift at once. -/
  leading : Array Bool
  /-- The production `start → program`. -/
  startProduction : Nat
  /-- Tokens in the order they first occur in the grammar, names first: the order in which
  a missing token is looked for. -/
  tokenOrder : Array Tok
  /-- Every token the start symbol reaches: what error mode reads. -/
  vocabulary : TokSet
  deriving Inhabited

namespace Grammar

/-- How many productions multiplying out one sequence may give before its choices get
nonterminals of their own. -/
def expansionLimit : Nat := 48

/-- The state of compilation: productions so far, and the next free nonterminal. -/
structure Building where
  productions : Array Production
  next : Nat

/-- Every way of taking one alternative from each part, in order. -/
def product {α : Type} : List (List (List α)) → List (List α)
  | [] => [[]]
  | p :: ps => let rest := product ps; p.flatMap fun a => rest.map (a ++ ·)

/-- A fresh nonterminal with the given alternatives. -/
def fresh (alts : List (List Sym)) : StateM Building Sym := do
  let b ← get
  let a := b.next
  set { b with
    productions := b.productions ++ (alts.map fun (rhs : List Sym) => ({ lhs := a, rhs := rhs.toArray } : Production)).toArray
    next := a + 1 }
  pure (.nonterm a)

/-- A part of a sequence as one symbol: the symbol itself when the part has exactly one
one-symbol alternative, else a fresh nonterminal. -/
def asSymbol (alts : List (List Sym)) : StateM Building (List (List Sym)) :=
  match alts with
  | [[x]] => pure [[x]]
  | _ => do pure [[← fresh alts]]

mutual

/-- The alternatives a rule stands for, as symbol sequences. -/
def expand : Rule NT → StateM Building (List (List Sym))
  | .tok tk => pure [[.term tk]]
  | .sym x => pure [[.nonterm x.ctorIdx]]
  | .seq rs => do
    let parts ← expandAll rs
    if (parts.map List.length).foldl (· * ·) 1 ≤ expansionLimit then pure (product parts)
    else
      let parts ← parts.mapM fun p => if p.length ≤ 1 then pure p else asSymbol p
      pure (product parts)
  | .alt rs => do pure (← expandAll rs).flatten
  | .opt r => do pure ([] :: (← expand r))
  | .many r => do pure [[], [← repetition (← expand r)]]
  | .many1 r => do pure [[← repetition (← expand r)]]

/-- The alternatives of each rule of a list. -/
def expandAll : List (Rule NT) → StateM Building (List (List (List Sym)))
  | [] => pure []
  | r :: rs => do
    let first ← expand r
    pure (first :: (← expandAll rs))

/-- A nonterminal `A` for one or more of the alternatives: `A → α` and `A → A α` for each
nonempty alternative `α`. -/
def repetition (alts : List (List Sym)) : StateM Building Sym := do
  let b ← get
  let a := b.next
  let alts := alts.filter fun rhs => !rhs.isEmpty
  set { b with
    productions := b.productions ++
      (alts.map fun (rhs : List Sym) => ({ lhs := a, rhs := rhs.toArray } : Production)).toArray ++
      (alts.map fun (rhs : List Sym) =>
        ({ lhs := a, rhs := (Sym.nonterm a :: rhs).toArray } : Production)).toArray
    next := a + 1 }
  pure (.nonterm a)

end

/-- Adds the productions of every named category, then `start → program`. -/
def build (f : Flavor) : StateM Building Unit := do
  for c in NT.all do
    let alts ← expand (rule f c)
    modify fun b => { b with
      productions := b.productions ++
        (alts.map fun (rhs : List Sym) => ({ lhs := c.ctorIdx, rhs := rhs.toArray } : Production)).toArray }
  modify fun b => { b with
    productions := b.productions.push { lhs := NT.count, rhs := #[.nonterm NT.program.ctorIdx] } }

/-- One round of the nullable computation: a nonterminal is nullable when one of its
productions has only nullable symbols. -/
def nullableStep (ps : Array Production) (known : Array Bool) : Array Bool :=
  ps.foldl (fun acc p =>
    if p.rhs.all fun
      | .nonterm i => known.getD i false
      | .term _ => false
    then acc.set! p.lhs true else acc) known

/-- The nullable nonterminals: `nullableStep` repeated until nothing changes, at most once
per nonterminal. -/
def nullableOf (ps : Array Production) (count : Nat) : Array Bool :=
  go count (Array.replicate count false)
where
  go : Nat → Array Bool → Array Bool
    | 0, known => known
    | fuel + 1, known =>
      let next := nullableStep ps known
      if next == known then known else go fuel next

/-- The nonterminals with a production that begins with a token, directly or through the
first symbols of further productions. Each round marks the nonterminals with a production
whose first symbol is a token or marked, so `count` rounds suffice. -/
def leadingOf (ps : Array Production) (count : Nat) : Array Bool :=
  go count (Array.replicate count false)
where
  go : Nat → Array Bool → Array Bool
    | 0, known => known
    | fuel + 1, known =>
      let next := ps.foldl (fun acc p =>
        match (p.rhs[0]? : Option Sym) with
        | some (.term _) => acc.setIfInBounds p.lhs true
        | some (.nonterm i) => if known.getD i false then acc.setIfInBounds p.lhs true else acc
        | none => acc) known
      if next == known then known else go fuel next

/-- Which nonterminals the start symbol reaches. Each round marks the symbols of the
productions of the nonterminals marked so far, so `count` rounds suffice. -/
def reachableOf (ps : Array Production) (count : Nat) : Array Bool :=
  go count ((Array.replicate count false).setIfInBounds NT.count true)
where
  go : Nat → Array Bool → Array Bool
    | 0, known => known
    | fuel + 1, known =>
      let next := ps.foldl (fun acc p =>
        if known.getD p.lhs false then
          p.rhs.foldl (fun acc s =>
            match s with
            | .nonterm i => acc.setIfInBounds i true
            | .term _ => acc) acc
        else acc) known
      if next == known then known else go fuel next

/-- The tokens read by context scans, in the order the scanner declares them. -/
def scannedTokens : List Tok :=
  [.autoSemicolon, .templateChars, .ternaryQuestion, .htmlComment, .pipePipe, .escape,
    .regexPattern, .jsxText, .signatureSemicolon]

/-- The tokens of the productions: names first, then the others in order of first
occurrence, then those read by context scans. -/
def tokenOrderOf (ps : Array Production) : Array Tok :=
  let plain := ps.foldl (fun acc p =>
    p.rhs.foldl (fun acc s =>
      match s with
      | .term tk => if acc.contains tk || scannedTokens.contains tk then acc else acc.push tk
      | .nonterm _ => acc) acc) #[.identifier]
  let used (tk : Tok) : Bool := ps.any fun p => p.rhs.contains (.term tk)
  plain ++ (scannedTokens.filter used).toArray

/-- The categories that stand for their alternatives wherever they are used and make no
subtree of their own: token groups, and wrappers that only choose between other
categories. -/
def transparent (f : Flavor) : NT → Bool
  | .expressions | .semicolon | .identifierReference | .reservedIdentifier
  | .jsxAnyAttribute | .jsxElementName | .jsxChild | .jsxAnyElement | .jsxAttributeName
  | .jsxAttributeValue | .jsxName | .lhsExpression | .binaryOperator | .assignmentOperator
  | .unaryOperator => true
  | .callSignature | .formalParameter => !f.typed
  | .jsxStartOpeningElement => f.typed
  | _ => false

/-- The productions of each nonterminal of a production list. -/
def groupByLhs (ps : Array Production) (count : Nat) : Array (Array Nat) :=
  ps.zipIdx.foldl (fun acc (p, i) => acc.modify p.lhs (·.push i)) (Array.replicate count #[])

/-- Replaces every transparent symbol of every production by each of its alternatives,
marking the positions they fill as inlined. -/
def inlineStep (ps : Array Production) (count : Nat) (isTransparent : Nat → Bool) :
    Array Production :=
  let byLhs := groupByLhs ps count
  let alternatives (x : Sym) (mark : Bool) : List (List (Sym × Bool)) :=
    match x with
    | .nonterm a =>
      if isTransparent a then
        (byLhs.getD a #[]).toList.map fun i => (ps.getD i default).rhs.toList.map (·, true)
      else [[(x, mark)]]
    | .term _ => [[(x, mark)]]
  ps.foldl (fun acc p =>
    let parts := p.rhs.toList.zipIdx.map fun (x, i) => alternatives x (p.inlined.getD i false)
    acc ++ (product parts).toArray.map fun rhs =>
      { lhs := p.lhs, rhs := (rhs.map (·.1)).toArray, inlined := (rhs.map (·.2)).toArray }) #[]

/-- Compiles the grammar of a flavour. -/
def ofFlavor (f : Flavor) : Grammar :=
  let (_, b) := (build f).run ⟨#[], NT.count + 1⟩
  let count := b.next
  let isTransparent (a : Nat) : Bool := a < NT.count && transparent f (NT.ofNat a)
  let ps := (List.range 3).foldl (fun ps _ => inlineStep ps count isTransparent) b.productions
  { productions := ps
    byLhs := groupByLhs ps count
    nullable := nullableOf ps count
    leading := leadingOf ps count
    startProduction := ps.findIdx (·.lhs == NT.count)
    tokenOrder := tokenOrderOf b.productions
    vocabulary :=
      let reached := reachableOf ps count
      TokSet.ofList (tokenOrderOf (ps.filter fun p => reached.getD p.lhs false)).toList }

/-- The number of nonterminals. -/
def nonterminals (g : Grammar) : Nat := g.byLhs.size

/-- The production with a given number. -/
def production (g : Grammar) (i : Nat) : Production := g.productions.getD i default

/-- Whether a nonterminal derives the empty sequence. -/
def isNullable (g : Grammar) (a : Nat) : Bool := g.nullable.getD a false

/-- Whether a parse expecting nonterminal `a` can shift a token at once. -/
def isLeading (g : Grammar) (a : Nat) : Bool := g.leading.getD a false

/-- Whether the symbol at `dot` of production `prod` is a name in a property position: the
name of a property or a member, or the name after the dot of a member access. Every word may
stand there; the names of JSX elements and attributes and of decorators are not such
positions. -/
def isPropertyWord (g : Grammar) (prod dot : Nat) : Bool :=
  let p := g.production prod
  p.rhs[dot]? == some (.term .identifier) &&
    (p.lhs == NT.propertyName.ctorIdx ||
      (p.lhs == NT.memberExpression.ctorIdx && dot > 0 &&
        match p.rhs[dot - 1]? with
        | some (.term .dot) | some (.term .optionalChain) => true
        | _ => false))

/-- Whether a production completes a statement that an expression of the same text can
also be: a function, generator or class declaration (next to the function, generator or
class expression), or a block standing as a statement (next to an object). Where both
readings could go on with the next token, the statement is taken: its precedence is the
higher. -/
def isShadowingStatement (p : Production) : Bool :=
  p.lhs == NT.functionDeclaration.ctorIdx || p.lhs == NT.generatorFunctionDeclaration.ctorIdx ||
    p.lhs == NT.classDeclaration.ctorIdx ||
    (p.lhs == NT.statement.ctorIdx && p.rhs == #[.nonterm NT.statementBlock.ctorIdx])

/-- Whether a production reads keyword `kw` alone, as a name (`let`, `export`, ... where
a name may stand). -/
def isNameOf (kw : Tok) (p : Production) : Bool := p.rhs == #[.term kw]

/-- Whether a production completes the expression that a shadowing statement can also be
read as (`isShadowingStatement`). -/
def isShadowedExpression (p : Production) : Bool :=
  p.lhs == NT.functionExpression.ctorIdx || p.lhs == NT.generatorFunction.ctorIdx ||
    p.lhs == NT.classExpression.ctorIdx || p.lhs == NT.object.ctorIdx

end Grammar

end DocSuite.Script

namespace DocSuite.Dialect

open DocSuite.Script

/-- The flavour of each dialect: plain scripts have JSX and no types, the typed dialect has
types and reads `<T>e` as an assertion, its JSX variant has both. -/
def flavor : Dialect → Flavor
  | .javaScript => ⟨false, true⟩
  | .typeScript => ⟨true, false⟩
  | .tsx => ⟨true, true⟩

/-- The compiled grammar of plain scripts. -/
def plainGrammar : Grammar := Grammar.ofFlavor (flavor .javaScript)

/-- The compiled grammar of the typed dialect. -/
def typedGrammar : Grammar := Grammar.ofFlavor (flavor .typeScript)

/-- The compiled grammar of the typed dialect with JSX. -/
def typedJsxGrammar : Grammar := Grammar.ofFlavor (flavor .tsx)

/-- The compiled grammar of a dialect. -/
def grammar : Dialect → Grammar
  | .javaScript => plainGrammar
  | .typeScript => typedGrammar
  | .tsx => typedJsxGrammar

end DocSuite.Dialect
