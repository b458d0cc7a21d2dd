import DocSuite.Text.Ranges
import DocSuite.Text.Alphabetic
import DocSuite.Text.Digit
import DocSuite.Text.Blank
import DocSuite.Text.Quoted
import DocSuite.Text.Lines
import DocSuite.Text.Lowercase
import DocSuite.Path
import DocSuite.Fence
import DocSuite.DocComment
import DocSuite.Dialect
import DocSuite.Error
import DocSuite.Level
import DocSuite.Backend.Request
import DocSuite.Settings.Basic
import DocSuite.SourceMap.Basic
import DocSuite.Suite
import DocSuite.Text.Infix
import DocSuite.Diagnostics
import DocSuite.Comment
import DocSuite.Example
import DocSuite.Backend.Basic
import DocSuite.Backend.Recording
import DocSuite.Transform
import DocSuite.Toml.Value
import DocSuite.Toml.Failure
import DocSuite.Toml.Reader
import DocSuite.Toml.Trivia
import DocSuite.Toml.Strings
import DocSuite.Toml.Numbers
import DocSuite.Toml.Assembly
import DocSuite.Toml.Inline
import DocSuite.Toml.Document
import DocSuite.Toml.Writer
import DocSuite.Text.Escaped
import DocSuite.Settings.Decode
import DocSuite.Settings.Toml
import DocSuite.Settings.Store
import DocSuite.Number.Decimal
import DocSuite.SourceMap.Json
import DocSuite.SourceMap.Write
import DocSuite.Backend.Process
import DocSuite.Backend.StandIn
import DocSuite.Script.Token
import DocSuite.Script.Source
import DocSuite.Script.Lexer
import DocSuite.Script.Grammar.Rule
import DocSuite.Script.Grammar.Symbol
import DocSuite.Script.Grammar.Types
import DocSuite.Script.Grammar.Rules
import DocSuite.Script.Grammar.Productions
import DocSuite.Script.Chart
import DocSuite.Script.Recognizer
import DocSuite.Script.Repair
import DocSuite.Script.Recovery
import DocSuite.Script.Comments
import DocSuite.Script.Classify
import DocSuite.Proofs.Fence
import DocSuite.Proofs.Session
import DocSuite.Proofs.Transform
import DocSuite.Proofs.DocComment
import DocSuite.Proofs.FenceState
import DocSuite.Proofs.Suite
import DocSuite.Proofs.Comments
import DocSuite.Proofs.Diagnostics
import DocSuite.Proofs.Bytes
import DocSuite.Proofs.CommentRecords
import DocSuite.Proofs.Process
import DocSuite.Proofs.Dialect
import DocSuite.Proofs.TomlReading
import DocSuite.Proofs.TomlStrings
import DocSuite.Proofs.TomlDocument
import DocSuite.Proofs.TomlLayout
import DocSuite.Proofs.SettingsRoundTrip
