import DocSuite.SourceMap.Basic
import DocSuite.Text.Quoted
/-!
# Source maps as JSON

`SourceMap.toJson` writes a source map as compact JSON text: an object of its fields in their
declared order under their camel-case names, without `file`, `sourceRoot` and `sourcesContent`
when they are absent, every text as a JSON string literal (`Text.jsonLiteral`), the version in
decimal, and a missing source content as `null`.
-/

namespace DocSuite

namespace SourceMap

/-- A JSON array of written items. -/
def jsonArray (items : List String) : String := "[" ++ ",".intercalate items ++ "]"

/-- The members of a source map, each its key and its written value, in their declared order,
the absent optional ones left out. -/
def entries (m : SourceMap) : List (String × String) :=
  [("version", toString m.version)] ++
  (m.file.map fun f => ("file", Text.jsonLiteral f)).toList ++
  (m.sourceRoot.map fun r => ("sourceRoot", Text.jsonLiteral r)).toList ++
  [("sources", jsonArray (m.sources.map Text.jsonLiteral))] ++
  (m.sourcesContent.map fun cs =>
    ("sourcesContent", jsonArray (cs.map fun c => (c.map Text.jsonLiteral).getD "null"))).toList ++
  [("names", jsonArray (m.names.map Text.jsonLiteral)), ("mappings", Text.jsonLiteral m.mappings)]

/-- A JSON object member: the quoted key, a colon and the written value. -/
def member (e : String × String) : String := Text.jsonLiteral e.1 ++ ":" ++ e.2

/-- A source map as compact JSON text. -/
def toJson (m : SourceMap) : String := "\x7b" ++ ",".intercalate (m.entries.map member) ++ "\x7d"

end SourceMap

end DocSuite
