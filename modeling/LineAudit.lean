import LineAudit.Analyzer.Finding
import LineAudit.Analyzer.Payload
import LineAudit.Analyzer.Run
import LineAudit.BundledPack
import LineAudit.Calendar
import LineAudit.CommandLine.Arguments
import LineAudit.CommandLine.Help
import LineAudit.CommandLine.Parameter
import LineAudit.CommandLine.Run
import LineAudit.CommandLine.Word
import LineAudit.Config
import LineAudit.File.Corpus
import LineAudit.File.Path
import LineAudit.File.Source
import LineAudit.File.Tree
import LineAudit.File.Write
import LineAudit.Json.Reader
import LineAudit.Json.Writer
import LineAudit.Log
import LineAudit.Main
import LineAudit.Matcher.Basic
import LineAudit.Matcher.Complaint
import LineAudit.Matcher.Edit
import LineAudit.Matcher.Regex
import LineAudit.Matcher.Spec
import LineAudit.Number.Arithmetic
import LineAudit.Number.Binary64
import LineAudit.Number.Literal
import LineAudit.Number.Radix
import LineAudit.Number.Shortest
import LineAudit.Pack
import LineAudit.Pattern.Bracket
import LineAudit.Pattern.Compiled
import LineAudit.Pattern.Count
import LineAudit.Pattern.Cursor
import LineAudit.Pattern.Escape
import LineAudit.Pattern.Fault
import LineAudit.Pattern.Flag
import LineAudit.Pattern.Inline
import LineAudit.Pattern.Letter
import LineAudit.Pattern.Node
import LineAudit.Pattern.Reader
import LineAudit.Pattern.Search
import LineAudit.Proofs.Analyzer.Payload
import LineAudit.Proofs.Analyzer.Run
import LineAudit.Proofs.Analyzer.Translation
import LineAudit.Proofs.CommandLine.ExitCode
import LineAudit.Proofs.CommandLine.RuleFile
import LineAudit.Proofs.Config
import LineAudit.Proofs.Config.Blank
import LineAudit.Proofs.Config.Range
import LineAudit.Proofs.Config.Setting
import LineAudit.Proofs.File.Corpus
import LineAudit.Proofs.File.Tree
import LineAudit.Proofs.Lists
import LineAudit.Proofs.Log
import LineAudit.Proofs.Matcher.Agreement
import LineAudit.Proofs.Matcher.Blame
import LineAudit.Proofs.Matcher.Breaks
import LineAudit.Proofs.Matcher.Build
import LineAudit.Proofs.Matcher.Decision
import LineAudit.Proofs.Matcher.Formula
import LineAudit.Proofs.Matcher.Grammar
import LineAudit.Proofs.Matcher.Occurrence
import LineAudit.Proofs.Matcher.Path
import LineAudit.Proofs.Matcher.Usable
import LineAudit.Proofs.Outcome
import LineAudit.Proofs.Pack.Accept
import LineAudit.Proofs.Pack.Breaks
import LineAudit.Proofs.Pack.Bundled
import LineAudit.Proofs.Pack.BundledScan
import LineAudit.Proofs.Pack.CommentLine
import LineAudit.Proofs.Pack.Form
import LineAudit.Proofs.Pack.Quiet
import LineAudit.Proofs.Pattern.Search
import LineAudit.Proofs.Quality.Checked
import LineAudit.Proofs.Quality.Constraint
import LineAudit.Proofs.Quality.Facts
import LineAudit.Proofs.Quality.Versions
import LineAudit.Proofs.Registry
import LineAudit.Proofs.Registry.Load
import LineAudit.Proofs.Registry.Messages
import LineAudit.Proofs.Report.Figures
import LineAudit.Proofs.Report.Patterns
import LineAudit.Proofs.Rule.Heap
import LineAudit.Proofs.Scan.Abort
import LineAudit.Proofs.Scan.Engine
import LineAudit.Proofs.Scan.Exact
import LineAudit.Proofs.Scan.Independence
import LineAudit.Proofs.Scan.Locality
import LineAudit.Proofs.Scan.OrderFree
import LineAudit.Proofs.Scan.Sites
import LineAudit.Proofs.Scan.Visits
import LineAudit.Proofs.Session.Isolation
import LineAudit.Proofs.Session.Severities
import LineAudit.Proofs.Severity
import LineAudit.Proofs.Severity.Name
import LineAudit.Proofs.Text.Blank
import LineAudit.Proofs.Text.Lines
import LineAudit.Proofs.Text.Lowercase
import LineAudit.Proofs.Text.Words
import LineAudit.Proofs.Value.Order
import LineAudit.Proofs.Value.Same
import LineAudit.Quality.Facts
import LineAudit.Quality.Pragma
import LineAudit.Registry
import LineAudit.Report.Basic
import LineAudit.Report.Files
import LineAudit.Report.Markdown
import LineAudit.Report.Patterns
import LineAudit.Report.Payload
import LineAudit.Rule
import LineAudit.Rule.Edit
import LineAudit.Rule.Heap
import LineAudit.Scan.Engine
import LineAudit.Scan.File
import LineAudit.Scan.Finding
import LineAudit.Scan.Pool
import LineAudit.Scan.Tally
import LineAudit.Session
import LineAudit.Severity
import LineAudit.Text.Alphabetic
import LineAudit.Text.Base64
import LineAudit.Text.Blank
import LineAudit.Text.CharacterName
import LineAudit.Text.Digit
import LineAudit.Text.Fold
import LineAudit.Text.Identifier
import LineAudit.Text.LetterCase
import LineAudit.Text.Lines
import LineAudit.Text.Lowercase
import LineAudit.Text.Printable
import LineAudit.Text.Quoted
import LineAudit.Text.Ranges
import LineAudit.Text.Utf8
import LineAudit.Text.Word
import LineAudit.Value.Basic
import LineAudit.Value.Display
import LineAudit.Value.Order
import LineAudit.Yaml.BlockScalar
import LineAudit.Yaml.Directive
import LineAudit.Yaml.Fault
import LineAudit.Yaml.Mark
import LineAudit.Yaml.Nesting
import LineAudit.Yaml.Node
import LineAudit.Yaml.PlainScalar
import LineAudit.Yaml.QuotedScalar
import LineAudit.Yaml.Reader
import LineAudit.Yaml.ScalarForm
import LineAudit.Yaml.ScalarValue
import LineAudit.Yaml.Scan
import LineAudit.Yaml.Timestamp
import LineAudit.Yaml.Token
import LineAudit.Yaml.Tokens
