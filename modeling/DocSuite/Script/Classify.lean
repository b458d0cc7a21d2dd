import DocSuite.Script.Comments
import DocSuite.Example
/-!
# Classifying an example

An example is *unparsed* when its dialect's grammar cannot read it without repair, a
*module* when one of its top-level statements is an import or an export, and a *script*
otherwise. Top-level statements are those of the program's statement list: a finished
statement that imports or exports counts when the list was waiting for a statement where
it begins.
-/

namespace DocSuite.Script

namespace Grammar

/-- The nonterminal of the program's statement list. -/
def statementList (g : Grammar) : Option Nat :=
  (g.byLhs.getD NT.program.ctorIdx #[]).toList.findSome? fun i =>
    (g.production i).rhs.toList.findSome? fun
      | .nonterm a => if a ≥ NT.count then some a else none
      | .term _ => none

/-- The productions `statement → importStatement` and `statement → exportStatement`. -/
def moduleStatements (g : Grammar) : List Nat :=
  (g.byLhs.getD NT.statement.ctorIdx #[]).toList.filter fun i =>
    let rhs := (g.production i).rhs
    rhs == #[.nonterm NT.importStatement.ctorIdx] || rhs == #[.nonterm NT.exportStatement.ctorIdx]

end Grammar

/-- Whether a recognised chart has an import or export statement at the top level. -/
def Recognizer.hasModuleStatement (r : Recognizer) (chart : Chart) : Bool :=
  let g := r.grammar
  match g.statementList with
  | none => false
  | some list =>
    let modules := g.moduleStatements
    chart.any fun s => s.items.any fun it =>
      modules.contains it.prod && it.dot == 1 &&
        (chart.get it.origin).items.any fun w =>
          let p := g.production w.prod
          p.lhs == list && p.rhs[w.dot]? == some (.nonterm NT.statement.ctorIdx)

end DocSuite.Script

namespace DocSuite.ExampleSyntax

open DocSuite.Script

/-- The syntax of an example in a dialect. -/
def ofText (d : Dialect) (text : String) : ExampleSyntax :=
  let r := Recognizer.ofText d text
  let run := r.runAll
  match run.stop with
  | .accepted => if r.hasModuleStatement run.chart then .module else .script
  | .stuck .. => .unparsed

end DocSuite.ExampleSyntax
