/-!
# Quoted strings

Suite and case names are quoted for the generated script by writing them as JSON
(`writeJson`), and only should that fail, between double quotes as they are (`quote`).

A text is written as a JSON string literal (`jsonLiteral`): between double quotes, with the
quote and the backslash escaped, the control characters below U+0020 written as `\n`, `\t`,
`\r`, `\b`, `\f` or `\u00xx` (lower-case hex), and every other character, DEL and the line
and paragraph separators included, copied as it is. Every text has such a literal, so writing
a text as JSON does not fail.
-/

namespace DocSuite.Text

/-- The lower-case hexadecimal digit of a number below 16. -/
def hexDigit (n : Nat) : Char :=
  if n < 10 then Char.ofNat (48 + n) else Char.ofNat (87 + n)

/-- The written form of one character inside a quoted string. -/
def quoteChar (c : Char) : List Char :=
  match c with
  | '"' => ['\\', '"']
  | '\\' => ['\\', '\\']
  | '\n' => ['\\', 'n']
  | '\r' => ['\\', 'r']
  | '\t' => ['\\', 't']
  | '\x08' => ['\\', 'b']
  | '\x0c' => ['\\', 'f']
  | c =>
    if c.toNat < 0x20 then ['\\', 'u', '0', '0', hexDigit (c.toNat / 16), hexDigit (c.toNat % 16)]
    else [c]

/-- A text as a JSON string literal. -/
def jsonLiteral (s : String) : String :=
  String.ofList ('"' :: (s.toList.flatMap quoteChar ++ ['"']))

/-- A text written as JSON, or the writer's message when it cannot be. -/
def writeJson (s : String) : Except String String := .ok (jsonLiteral s)

/-- A text quoted for the generated script: written as JSON, or between double quotes as it
is when writing fails. -/
def quote (s : String) : String :=
  match writeJson s with
  | .ok t => t
  | .error _ => "\"" ++ s ++ "\""

end DocSuite.Text
