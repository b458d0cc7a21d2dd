/-!
# Tokens

The terminal symbols of the script grammars: the reserved and contextual words, the
punctuators, and the tokens whose text varies (names, numbers, the pieces of string,
template and regular expression literals, JSX text, comments). Three tokens are
zero-width: the inserted semicolons and the end of the input.
-/

namespace DocSuite.Script

/-- A terminal symbol of the script grammars. -/
inductive Tok where
  | kAs
  | kAsync
  | kAwait
  | kBreak
  | kCase
  | kCatch
  | kClass
  | kConst
  | kContinue
  | kDebugger
  | kDefault
  | kDelete
  | kDo
  | kElse
  | kExport
  | kExtends
  | kFalse
  | kFinally
  | kFor
  | kFrom
  | kFunction
  | kGet
  | kIf
  | kImport
  | kIn
  | kInstanceof
  | kLet
  | kMeta
  | kNew
  | kNull
  | kOf
  | kReturn
  | kSet
  | kStatic
  | kSuper
  | kSwitch
  | kTarget
  | kThis
  | kThrow
  | kTrue
  | kTry
  | kTypeof
  | kUndefined
  | kVar
  | kVoid
  | kWhile
  | kWith
  | kYield
  | kAssert
  | kAbstract
  | kAccessor
  | kAny
  | kAsserts
  | kBoolean
  | kDeclare
  | kEnum
  | kGlobal
  | kImplements
  | kInfer
  | kInterface
  | kIs
  | kKeyof
  | kModule
  | kNamespace
  | kNever
  | kNumber
  | kObject
  | kOverride
  | kPrivate
  | kProtected
  | kPublic
  | kReadonly
  | kRequire
  | kSatisfies
  | kString
  | kSymbol
  | kType
  | kUnique
  | kUnknown
  | kUsing
  | lBrace
  | rBrace
  | lParen
  | rParen
  | lBracket
  | rBracket
  | semi
  | comma
  | dot
  | ellipsis
  | optionalChain
  | question
  | colon
  | eq
  | arrow
  | plus
  | minus
  | star
  | slash
  | percent
  | starStar
  | plusPlus
  | minusMinus
  | shl
  | shr
  | ushr
  | amp
  | pipe
  | caret
  | bang
  | tilde
  | ampAmp
  | pipePipe
  | questionQuestion
  | lt
  | gt
  | le
  | ge
  | eqEq
  | bangEq
  | eqEqEq
  | bangEqEq
  | plusEq
  | minusEq
  | starEq
  | slashEq
  | percentEq
  | starStarEq
  | shlEq
  | shrEq
  | ushrEq
  | ampEq
  | pipeEq
  | caretEq
  | ampAmpEq
  | pipePipeEq
  | questionQuestionEq
  | at
  | dollarBrace
  | backtick
  | doubleQuote
  | singleQuote
  | minusQuestion
  | plusQuestion
  | questionColon
  | lBracePipe
  | pipeRBrace
  | ltSlash
  | slashGt
  | identifier
  | privateName
  | number
  | hashBang
  | jsxIdentifier
  | charReference
  | singleFragment
  | doubleFragment
  | jsxSingleFragment
  | jsxDoubleFragment
  | escape
  | regexPattern
  | regexClose
  | regexFlags
  | templateChars
  | autoSemicolon
  | ternaryQuestion
  | jsxText
  | htmlComment
  | signatureSemicolon
  | staticGet
  | comment
  | errorChars
  | endOfInput
  deriving DecidableEq, Repr, Hashable, Inhabited

namespace Tok

/-- The reserved and contextual words, each with its token. -/
def keywords : List (String × Tok) := [
  ("as", .kAs), ("async", .kAsync), ("await", .kAwait), ("break", .kBreak), ("case", .kCase),
  ("catch", .kCatch), ("class", .kClass), ("const", .kConst), ("continue", .kContinue), ("debugger", .kDebugger),
  ("default", .kDefault), ("delete", .kDelete), ("do", .kDo), ("else", .kElse), ("export", .kExport),
  ("extends", .kExtends), ("false", .kFalse), ("finally", .kFinally), ("for", .kFor), ("from", .kFrom),
  ("function", .kFunction), ("get", .kGet), ("if", .kIf), ("import", .kImport), ("in", .kIn),
  ("instanceof", .kInstanceof), ("let", .kLet), ("meta", .kMeta), ("new", .kNew), ("null", .kNull),
  ("of", .kOf), ("return", .kReturn), ("set", .kSet), ("static", .kStatic), ("super", .kSuper),
  ("switch", .kSwitch), ("target", .kTarget), ("this", .kThis), ("throw", .kThrow), ("true", .kTrue),
  ("try", .kTry), ("typeof", .kTypeof), ("undefined", .kUndefined), ("var", .kVar), ("void", .kVoid),
  ("while", .kWhile), ("with", .kWith), ("yield", .kYield), ("assert", .kAssert), ("abstract", .kAbstract),
  ("accessor", .kAccessor), ("any", .kAny), ("asserts", .kAsserts), ("boolean", .kBoolean), ("declare", .kDeclare),
  ("enum", .kEnum), ("global", .kGlobal), ("implements", .kImplements), ("infer", .kInfer), ("interface", .kInterface),
  ("is", .kIs), ("keyof", .kKeyof), ("module", .kModule), ("namespace", .kNamespace), ("never", .kNever),
  ("number", .kNumber), ("object", .kObject), ("override", .kOverride), ("private", .kPrivate), ("protected", .kProtected),
  ("public", .kPublic), ("readonly", .kReadonly), ("require", .kRequire), ("satisfies", .kSatisfies), ("string", .kString),
  ("symbol", .kSymbol), ("type", .kType), ("unique", .kUnique), ("unknown", .kUnknown), ("using", .kUsing)
]

/-- The punctuators, each with its token. -/
def punctuators : List (String × Tok) := [
  ("\x7b", .lBrace), ("\x7d", .rBrace), ("(", .lParen), (")", .rParen), ("[", .lBracket),
  ("]", .rBracket), (";", .semi), (",", .comma), (".", .dot), ("...", .ellipsis),
  ("?.", .optionalChain), ("?", .question), (":", .colon), ("=", .eq), ("=>", .arrow),
  ("+", .plus), ("-", .minus), ("*", .star), ("/", .slash), ("%", .percent),
  ("**", .starStar), ("++", .plusPlus), ("--", .minusMinus), ("<<", .shl), (">>", .shr),
  (">>>", .ushr), ("&", .amp), ("|", .pipe), ("^", .caret), ("!", .bang),
  ("~", .tilde), ("&&", .ampAmp), ("||", .pipePipe), ("??", .questionQuestion), ("<", .lt),
  (">", .gt), ("<=", .le), (">=", .ge), ("==", .eqEq), ("!=", .bangEq),
  ("===", .eqEqEq), ("!==", .bangEqEq), ("+=", .plusEq), ("-=", .minusEq), ("*=", .starEq),
  ("/=", .slashEq), ("%=", .percentEq), ("**=", .starStarEq), ("<<=", .shlEq), (">>=", .shrEq),
  (">>>=", .ushrEq), ("&=", .ampEq), ("|=", .pipeEq), ("^=", .caretEq), ("&&=", .ampAmpEq),
  ("||=", .pipePipeEq), ("??=", .questionQuestionEq), ("@", .at), ("$\x7b", .dollarBrace), ("`", .backtick),
  ("\"", .doubleQuote), ("'", .singleQuote), ("-?", .minusQuestion), ("+?", .plusQuestion), ("?:", .questionColon),
  ("\x7b|", .lBracePipe), ("|\x7d", .pipeRBrace), ("</", .ltSlash), ("/>", .slashGt)
]

/-- The words the untyped grammar never takes as a name outside a property position: a
word of these is its keyword wherever a name is expected there. -/
def reservedWords : List Tok := [
  .kBreak, .kCase, .kCatch, .kClass, .kConst, .kContinue, .kDebugger, .kDefault, .kDelete,
  .kDo, .kElse, .kExport, .kExtends, .kFalse, .kFinally, .kFor, .kFunction, .kIf, .kImport,
  .kIn, .kInstanceof, .kNew, .kNull, .kReturn, .kSuper, .kSwitch, .kThis, .kThrow, .kTrue,
  .kTry, .kTypeof, .kVar, .kVoid, .kWhile, .kWith]

/-- Whether a token is the keyword of a reserved word. -/
def isReserved (t : Tok) : Bool := reservedWords.contains t

/-- Whether a grammar never takes a word as a name outside a property position, so that the
word is its keyword wherever a name is expected: the reserved words in untyped sources; the
typed grammar reserves none. -/
def reservedIn (typed : Bool) (t : Tok) : Bool :=
  !typed && t.isReserved

/-- The token of a word, if the word is reserved or contextual. -/
def ofWord? (w : String) : Option Tok := (keywords.find? (·.1 == w)).map (·.2)

/-- How a token is named in messages and traces. -/
def describe (t : Tok) : String :=
  match keywords.find? (·.2 == t) with
  | some (w, _) => w
  | none =>
    match punctuators.find? (·.2 == t) with
    | some (p, _) => p
    | none =>
      match t with
      | .identifier => "an identifier"
      | .privateName => "a private name"
      | .number => "a number"
      | .hashBang => "a hash-bang line"
      | .jsxIdentifier => "a dashed JSX name"
      | .charReference => "a character reference"
      | .singleFragment => "single-quoted string text"
      | .doubleFragment => "double-quoted string text"
      | .jsxSingleFragment => "single-quoted JSX attribute text"
      | .jsxDoubleFragment => "double-quoted JSX attribute text"
      | .escape => "an escape sequence"
      | .regexPattern => "a regular expression pattern"
      | .regexClose => "the closing slash of a regular expression"
      | .regexFlags => "regular expression flags"
      | .templateChars => "template text"
      | .autoSemicolon => "an inserted semicolon"
      | .ternaryQuestion => "the question mark of a conditional"
      | .jsxText => "JSX text"
      | .htmlComment => "an HTML comment"
      | .signatureSemicolon => "an inserted semicolon after a signature"
      | .staticGet => "static get on its own line"
      | .comment => "a comment"
      | .errorChars => "unreadable characters"
      | .endOfInput => "the end of the input"
      | _ => "a token"

/-- The number of tokens. -/
def count : Nat := 173

/-- Whether a token is a word of the grammar (reserved or contextual). -/
def isWord (t : Tok) : Bool := t.ctorIdx < 80

/-- Whether a token is a longer operator that begins with ">": where a type argument list
can close, its first character alone may be the closing bracket. -/
def extendsGt : Tok → Bool
  | .shr | .ushr | .ge | .shrEq | .ushrEq => true
  | _ => false

end Tok

end DocSuite.Script
