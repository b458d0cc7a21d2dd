import DocSuite.Script.Token
/-!
# Rules

The grammars are written as rules over tokens and named nonterminals, with sequence,
choice, option and repetition, the way grammar tables of parser generators are written.
`Rule` is that language; the combinators `seq`, `alt`, `opt`, `many`, `many1`,
`commaSep` and `sepBy1` build its terms.
-/

namespace DocSuite.Script

/-- A rule body over terminals `Tok` and nonterminals `ν`. -/
inductive Rule (ν : Type) where
  | tok (t : Tok)
  | sym (n : ν)
  | seq (rs : List (Rule ν))
  | alt (rs : List (Rule ν))
  | opt (r : Rule ν)
  | many (r : Rule ν)
  | many1 (r : Rule ν)
  deriving Inhabited

namespace Rule

variable {ν : Type}

/-- One token. -/
def t (tk : Tok) : Rule ν := .tok tk

/-- One nonterminal. -/
def n (x : ν) : Rule ν := .sym x

/-- One or more `r`, separated by `sep`. -/
def sepBy1 (sep r : Rule ν) : Rule ν := .seq [r, .many (.seq [sep, r])]

/-- One or more `r`, separated by commas. -/
def commaSep1 (r : Rule ν) : Rule ν := sepBy1 (.tok .comma) r

/-- Zero or more `r`, separated by commas. -/
def commaSep (r : Rule ν) : Rule ν := .opt (commaSep1 r)

end Rule

/-- What a dialect adds to the common grammar: type syntax, and JSX. -/
structure Flavor where
  typed : Bool
  jsx : Bool
  deriving DecidableEq, Repr, Inhabited

end DocSuite.Script
