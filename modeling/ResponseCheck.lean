import ResponseCheck.Calendar.Basic
import ResponseCheck.Calendar.Timestamp
import ResponseCheck.Check
import ResponseCheck.Check.Error
import ResponseCheck.Check.Plan
import ResponseCheck.CommandLine.Command
import ResponseCheck.CommandLine.Invocation
import ResponseCheck.CommandLine.Refusal
import ResponseCheck.CommandLine.Similarity
import ResponseCheck.Document.Format
import ResponseCheck.Document.Read
import ResponseCheck.Exchange
import ResponseCheck.Expectation
import ResponseCheck.Failure
import ResponseCheck.Gzip.Inflate
import ResponseCheck.Gzip.Member
import ResponseCheck.Http.Headers
import ResponseCheck.Http.Method
import ResponseCheck.Http.Request
import ResponseCheck.Http.Response
import ResponseCheck.Http.Response.Parser
import ResponseCheck.Json.Basic
import ResponseCheck.Json.Printer
import ResponseCheck.Json.Reader
import ResponseCheck.Main
import ResponseCheck.Matching.Type
import ResponseCheck.Matching.Value
import ResponseCheck.Mismatch
import ResponseCheck.Navigation
import ResponseCheck.Number.Binary64
import ResponseCheck.Number.Extended
import ResponseCheck.Number.Shortest
import ResponseCheck.Path
import ResponseCheck.Pattern.Automaton
import ResponseCheck.Pattern.Classes
import ResponseCheck.Pattern.Compile
import ResponseCheck.Pattern.Error
import ResponseCheck.Pattern.Expr
import ResponseCheck.Pattern.Normal
import ResponseCheck.Pattern.Parser
import ResponseCheck.Pattern.Property
import ResponseCheck.Pattern.Syntax
import ResponseCheck.Program
import ResponseCheck.Proofs.Check.Account
import ResponseCheck.Proofs.Check.Arguments
import ResponseCheck.Proofs.Check.Inputs
import ResponseCheck.Proofs.Check.Reports
import ResponseCheck.Proofs.Check.Sending
import ResponseCheck.Proofs.Check.Strictness
import ResponseCheck.Proofs.Except
import ResponseCheck.Proofs.Exchange
import ResponseCheck.Proofs.Expectation
import ResponseCheck.Proofs.Expectation.Element
import ResponseCheck.Proofs.Failure
import ResponseCheck.Proofs.Http.EmptyLine
import ResponseCheck.Proofs.Http.Framing
import ResponseCheck.Proofs.Http.Grammar
import ResponseCheck.Proofs.Http.Headers
import ResponseCheck.Proofs.Http.Message
import ResponseCheck.Proofs.Http.Response
import ResponseCheck.Proofs.Json.Basic
import ResponseCheck.Proofs.Json.Entries
import ResponseCheck.Proofs.Json.Equality
import ResponseCheck.Proofs.Json.Layout
import ResponseCheck.Proofs.Json.Location
import ResponseCheck.Proofs.Json.Reading.Number
import ResponseCheck.Proofs.Json.Reading.String
import ResponseCheck.Proofs.Json.Reading.Value
import ResponseCheck.Proofs.Json.Reordering
import ResponseCheck.Proofs.Lookup
import ResponseCheck.Proofs.Matching.FirstMismatch
import ResponseCheck.Proofs.Matching.Growth
import ResponseCheck.Proofs.Matching.Malformed
import ResponseCheck.Proofs.Matching.Mutual
import ResponseCheck.Proofs.Matching.Number
import ResponseCheck.Proofs.Matching.Rejection
import ResponseCheck.Proofs.Matching.Reordering
import ResponseCheck.Proofs.Matching.Type
import ResponseCheck.Proofs.Matching.TypeNames
import ResponseCheck.Proofs.Matching.Value
import ResponseCheck.Proofs.Number.Rational
import ResponseCheck.Proofs.Number.Rounding
import ResponseCheck.Proofs.Path.Basic
import ResponseCheck.Proofs.Path.Encoding
import ResponseCheck.Proofs.Path.SubPath
import ResponseCheck.Proofs.Resolution.Account
import ResponseCheck.Proofs.Resolution.Basic
import ResponseCheck.Proofs.Resolution.Branches
import ResponseCheck.Proofs.Resolution.Collapse
import ResponseCheck.Proofs.Resolution.Composition
import ResponseCheck.Proofs.Resolution.Duality
import ResponseCheck.Proofs.Resolution.Keys
import ResponseCheck.Proofs.Resolution.Optional
import ResponseCheck.Proofs.Resolution.Reach
import ResponseCheck.Proofs.Resolution.Reordering
import ResponseCheck.Proofs.Resolution.Satisfaction
import ResponseCheck.Proofs.Resolution.SubPath
import ResponseCheck.Proofs.Rules
import ResponseCheck.Proofs.Schema.Record
import ResponseCheck.Proofs.Session.Arguments
import ResponseCheck.Proofs.Session.Basic
import ResponseCheck.Proofs.Session.Freshness
import ResponseCheck.Proofs.Session.Guard
import ResponseCheck.Proofs.Session.HeaderExpectation
import ResponseCheck.Proofs.Session.HeaderNames
import ResponseCheck.Proofs.Session.Memo
import ResponseCheck.Proofs.Session.Run
import ResponseCheck.Proofs.Session.Source
import ResponseCheck.Proofs.Settings.Headers
import ResponseCheck.Proofs.Settings.Precedence
import ResponseCheck.Proofs.Settings.Url
import ResponseCheck.Proofs.Text.Blank
import ResponseCheck.Proofs.Text.ByteOrder
import ResponseCheck.Proofs.Text.LetterCase
import ResponseCheck.Proofs.Text.Lines
import ResponseCheck.Proofs.Text.Numeral
import ResponseCheck.Proofs.Text.Parts
import ResponseCheck.Proofs.Text.Unsigned
import ResponseCheck.Proofs.Text.Utf8
import ResponseCheck.Proofs.TypeSpec
import ResponseCheck.Proofs.TypeSpec.Grammar
import ResponseCheck.Proofs.TypeSpec.Reading
import ResponseCheck.Proofs.Xh.Arguments
import ResponseCheck.Proofs.Xh.Reading
import ResponseCheck.Report
import ResponseCheck.Resolution
import ResponseCheck.Rules
import ResponseCheck.Schema.Decode
import ResponseCheck.Schema.Error
import ResponseCheck.Session
import ResponseCheck.Settings
import ResponseCheck.Settings.Decode
import ResponseCheck.Settings.File
import ResponseCheck.Text.Blank
import ResponseCheck.Text.Order
import ResponseCheck.Text.Quoted
import ResponseCheck.Text.Unsigned
import ResponseCheck.Text.Utf8
import ResponseCheck.Toml.Basic
import ResponseCheck.Toml.Document
import ResponseCheck.Toml.Excerpt
import ResponseCheck.Toml.Scalar
import ResponseCheck.TypeSpec
import ResponseCheck.Unicode.Age
import ResponseCheck.Unicode.CaseFold
import ResponseCheck.Unicode.Category
import ResponseCheck.Unicode.CharSet
import ResponseCheck.Unicode.Property
import ResponseCheck.Unicode.Runs
import ResponseCheck.Unicode.Script
import ResponseCheck.Unicode.Segmentation
import ResponseCheck.Xh
import ResponseCheck.Yaml.CoreSchema
import ResponseCheck.Yaml.Cursor
import ResponseCheck.Yaml.Error
import ResponseCheck.Yaml.Node
import ResponseCheck.Yaml.Node.Link
import ResponseCheck.Yaml.Node.Parser
import ResponseCheck.Yaml.Read
import ResponseCheck.Yaml.Token
import ResponseCheck.Yaml.Token.Property
import ResponseCheck.Yaml.Token.Scalar
import ResponseCheck.Yaml.Token.Scan
import ResponseCheck.Yaml.Value
import ResponseCheck.Yaml.Value.OfNode
