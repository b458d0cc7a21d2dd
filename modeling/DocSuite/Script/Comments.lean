import DocSuite.Script.Recovery
import DocSuite.Comment
import DocSuite.Error
/-!
# Reading the comments of a script

A comment scanner walks the syntax tree of a source in source order and lists its comments
as `CommentRecord`s, each with the nearest `ERROR` node above it. A block comment that the
parser had to set aside inside an error region cannot be trusted to be where the author
put it, so the first such comment fails the scan with `Error.sourceSyntax`, at the nearest
`ERROR` node holding it: its position and its first 40 characters. Syntax the grammar merely
does not know, away from block comments, is left alone.

`scanTree` is that walk over any tree a parser gives. `commentsOf` parses a source in the
dialect of its file name and walks `Parse.tree`, which keeps what the walk reads of the
parse: the comments in order, each under the innermost error region holding it.
-/

namespace DocSuite.Script

/-- What a node is besides its kind: an ordinary node, a region the parser could not read
(an `ERROR` node), or a token the parser put in where one was missing. No node is both. -/
inductive NodeStatus where
  | plain
  | error
  | missing
  deriving DecidableEq, Repr, Inhabited

/-- A node of a syntax tree: its kind, its status, the characters it spans (from `start` up
to `stop`, so that its byte range falls on character boundaries) and its children in source
order. -/
structure Node where
  kind : String
  status : NodeStatus
  start : Nat
  stop : Nat
  children : List Node
  deriving Inhabited

namespace Node

/-- Whether a node is an `ERROR` node. -/
def isError (n : Node) : Bool := n.status == .error

/-- The text a node spans. -/
def text (src : Source) (n : Node) : String := src.slice n.start n.stop

end Node

/-- The record of a comment node: a block comment without `/*` and a closing `*/`, or a
line comment without `//`. Other comment forms have none. -/
def commentRecord (src : Source) (n : Node) : Option CommentRecord :=
  let range : SourceRange :=
    let (startLine, startColumn) := src.point n.start
    let (endLine, endColumn) := src.point n.stop
    ⟨src.byteOffset n.start, src.byteOffset n.stop, startLine, startColumn, endLine,
      endColumn⟩
  match (n.text src).toList with
  | '/' :: '*' :: body =>
    let body := if body.length ≥ 2 && body.drop (body.length - 2) == ['*', '/'] then
      body.take (body.length - 2) else body
    some ⟨String.ofList body, .block, range⟩
  | '/' :: '/' :: body => some ⟨String.ofList body, .line, range⟩
  | _ => none

mutual

/-- The comments of a tree in source order, each with the nearest `ERROR` node above it;
`enclosing` is the nearest one above the tree. The walk does not enter a comment. -/
def Node.collect (src : Source) (enclosing : Option Node) :
    Node → List (CommentRecord × Option Node)
  | n@⟨kind, _, _, _, children⟩ =>
    if kind = "comment" then ((commentRecord src n).map (·, enclosing)).toList
    else Node.collectAll src (if n.isError then some n else enclosing) children

/-- `Node.collect` over sibling trees, in order. -/
def Node.collectAll (src : Source) (enclosing : Option Node) :
    List Node → List (CommentRecord × Option Node)
  | [] => []
  | c :: cs => c.collect src enclosing ++ Node.collectAll src enclosing cs

end

/-- The error of a scan at node `bad`: where it starts, and the kind of the missing token or
the first 40 characters of the node. -/
def syntaxError (file : String) (src : Source) (bad : Node) : Error :=
  let (line, column) := src.point bad.start
  let reason := if bad.status = .missing then "missing " ++ bad.kind
    else "unexpected `" ++ String.ofList ((bad.text src).toList.take 40) ++ "`"
  .sourceSyntax file line column reason

/-- The comments of the tree `root` of a source named `file`, or the error at the nearest
`ERROR` node above the first block comment that has one. -/
def scanTree (file : String) (src : Source) (root : Node) :
    Except Error (List CommentRecord) :=
  let found := root.collect src none
  match (found.filter (·.1.kind == .block)).findSome? (·.2) with
  | some bad => .error (syntaxError file src bad)
  | none => .ok (found.map (·.1))

/-- The recogniser of a text in a dialect. -/
def Recognizer.ofText (d : Dialect) (text : String) : Recognizer :=
  ⟨d.grammar, Source.ofString text, d.flavor.typed⟩

namespace Parse

/-- The innermost error region holding the characters from `a` to `b`: the one starting
last, and of those the one ending first. -/
def innermostRegion (p : Parse) (a b : Nat) : Option Region :=
  (p.regions.filter (·.holds a b)).foldl (fun best r =>
    match best with
    | some q =>
      if r.start > q.start || (r.start == q.start && r.stop < q.stop) then some r else best
    | none => some r) none

/-- The syntax tree of a parse as a comment scanner reads it: under a root that is an
`ERROR` node when the whole input is one region, each comment in order, inside a node for
the innermost error region holding it when there is one. -/
def tree (p : Parse) : Node :=
  let leaf (l : Lexeme) : Node :=
    ⟨if l.tok == .comment then "comment" else "html_comment", .plain, l.start, l.stop, []⟩
  ⟨if p.whole then "ERROR" else "program", if p.whole then .error else .plain,
    p.wholeSpan.start, p.wholeSpan.stop,
    p.comments.map fun l =>
      match p.innermostRegion l.start l.stop with
      | some r => ⟨"ERROR", .error, r.start, r.stop, [leaf l]⟩
      | none => leaf l⟩

end Parse

/-- The comments of a source read in the dialect of its file name, or the error at the
first block comment that lies inside an error region. -/
def commentsOf (filename text : String) : Except Error (List CommentRecord) :=
  let r := Recognizer.ofText (Dialect.ofFilename filename) text
  scanTree filename r.source r.parse.tree

end DocSuite.Script
