import DocSuite.Toml.Numbers
import DocSuite.Toml.Assembly
/-!
# Keys and values

A key is one or more simple keys joined by dots, with blanks around each: a bare key of
ASCII letters, digits, `-` and `_`, or a quoted one. A value is told by its first character:
a quote starts a string, `[` an array, `{` an inline table, a sign or a digit a number or a
date-time, and `true`, `false`, `inf` and `nan` are the words. Anything else is reported as a
malformed string, the likeliest slip; so is a run of bare-key characters that starts like
`true` or `false` but is not that word, even inside an array.

Arrays may span lines and hold comments, and may end with a comma; inline tables stay on
one line and may not. Fewer than `nestingLimit` arrays and inline tables may be open at
once, and a dotted key joins fewer than `nestingLimit` simple keys.
-/

namespace DocSuite.Toml

open Reader

/-- Reads a simple key. -/
def simpleKey : Reader String := do
  match ← peek with
  | some '"' => basicString
  | some '\'' => literalString
  | _ => String.ofList <$> span1 isBareKeyChar

/-- Reads a dotted key, with the blanks around its parts. -/
def key : Reader (List String) :=
  label "key" (separated1 (do blanks; let k ← simpleKey; blanks; pure k) (char '.'))

/-- Reads the `=` between a key and its value. -/
def keySeparator : Reader Unit := expecting (.char '=') (expecting (.char '.') (char '='))

/-- The bound on nesting: a dotted key must join fewer simple keys, and fewer arrays and
inline tables may be open at once. -/
def nestingLimit : Nat := 80

/-- Reads a dotted key of fewer than `nestingLimit` simple keys. A longer one fails where it
starts, without a note and without committing, so that an enclosing reader may report what
it expected there instead. -/
def boundedKey : Reader (List String) := do
  blanks
  let start ← get
  let k ← key
  if k.length ≥ nestingLimit then
    throw { pos := start, cause := some "recursion limit exceeded" }
  pure k

/-- Marks a word that is not one as a malformed string. -/
def asString {α : Type} (p : Reader α) : Reader α :=
  expecting (.char '\'') (expecting (.char '"') (label "string" p))

/-- Reads the word `w`, yielding `v`: the run of bare-key characters there must be `w` whole,
or the reading fails, committed, where the run began. -/
def word {α : Type} (w : String) (v : α) : Reader α := do
  let start ← get
  let cs ← span isBareKeyChar
  if cs == w.toList then pure v else throw { pos := start, committed := true }

/-- The failure of an array or inline table nested too deep, where it opens. -/
def tooDeep {α : Type} : Reader α := do
  throw { pos := ← get, committed := true, cause := some "recursion limit exceeded" }

mutual
/-- Reads a value; `depth` is how many more arrays and inline tables may open. -/
def value (depth : Nat) : Reader Value := do
    match ← peek with
    | some '"' => Value.string <$> string
    | some '\'' => Value.string <$> string
    | some '[' => Value.array <$> array depth
    | some '{' => Value.table <$> inlineTable depth
    | some '_' => expecting (.description "leading digit") (Value.integer <$> integer)
    | some '.' => expecting (.description "leading digit") (Value.float <$> float)
    | some 't' => asString (word "true" (Value.boolean true))
    | some 'f' => asString (word "false" (Value.boolean false))
    | some 'i' => asString (do literal "inf"; pure (Value.float (.infinite false)))
    | some 'n' => asString (do literal "nan"; pure (Value.float (.nan false)))
    | some c =>
      if c == '+' || c == '-' || isDigit c then numberOrDate else asString failHere
    | none => failHere
termination_by (depth, 1)

/-- Reads an array. -/
def array (depth : Nat) : Reader (List Value) :=
  match depth with
  | 0 => tooDeep
  | depth + 1 => do
    char '['
    let items ← commit do
      let items ← attempt do
        let items ← separated1 (do gap; let v ← value depth; gap; pure v) (char ',')
        discard (attempt (char ','))
        pure items
      gap
      pure (items.getD [])
    expecting (.char ']') (label "array" (commit (char ']')))
    return items
termination_by (depth, 0)

/-- Reads an inline table. -/
def inlineTable (depth : Nat) : Reader (List (String × Value)) :=
  match depth with
  | 0 => tooDeep
  | depth + 1 => do
    char '{'
    let start ← get
    let pairs ← commit do
      let pairs ← separated0 (do
        let k ← boundedKey
        commit do
          keySeparator
          blanks
          let v ← value depth
          blanks
          pure (k, v)) (char ',')
      blanks
      pure pairs
    let entries ← match inlineTableOf pairs with
      | .ok es => pure es
      | .error c => throw { pos := start, committed := true, cause := some c.message }
    expecting (.char '}') (label "inline table" (commit (char '}')))
    return entries
termination_by (depth, 0)
end

end DocSuite.Toml
